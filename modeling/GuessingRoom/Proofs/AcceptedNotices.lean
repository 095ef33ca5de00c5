import GuessingRoom.Proofs.NoticeCodec
import GuessingRoom.Proofs.TextRecords

/-!
# Which notices are accepted

A tag that stands for no kind is refused for itself, and the end of a turn comes without a payload. The
payload of any other kind is accepted if it is a document that gives values to the fields of the kind, in
whatever way it is written, and the notice is that of these values (`Notice.decode_accepts`).
-/

namespace GuessingRoom

open Json (Document Space textFields textMembers)

namespace Notice

variable {kind : NoticeKind} {payload : String} {n : Notice}

theorem ofValues?_eq_some_iff {values : List String} :
    ofValues? kind values = some n ↔ n.kind = kind ∧ n.values = values := by
  constructor
  · intro h
    unfold ofValues? at h
    split at h <;> cases h <;> exact ⟨rfl, rfl⟩
  · rintro ⟨rfl, rfl⟩
    exact ofValues?_values n

theorem textValues?_textMembers {names values : List String} (same : names.length = values.length) :
    textValues? (.object (textMembers names values)) = some values := by
  show (textMembers names values).mapM _ = some values
  induction values generalizing names with
  | nil =>
    rw [textMembers, List.map_nil, List.zip_nil_right]
    rfl
  | cons value values ih =>
    cases names with
    | nil => cases same
    | cons name names =>
      rw [textMembers, List.map_cons, List.zip_cons_cons, List.mapM_cons]
      have later := ih (Nat.succ.inj same)
      exact Option.bind_eq_some_iff.2 ⟨value, rfl, Option.bind_eq_some_iff.2 ⟨values, later, rfl⟩⟩

/-! ## Payloads -/

theorem decodeKind_eq_ok_iff (other : kind ≠ .turnEnded) : decodeKind kind payload = .ok n ↔
    n.kind = kind ∧ ∃ v, kind.shape.read payload.toList = .ok v ∧ textValues? v = some n.values := by
  have found : decodeKind kind payload = .ok n ↔
      ((kind.shape.read payload.toList).toOption.bind textValues?).bind (ofValues? kind) = some n := by
    rw [decodeKind_of_ne other]
    split
    · rename_i n' same
      rw [same, Except.ok.injEq, Option.some.injEq]
    · rename_i none
      rw [none]
      exact ⟨nofun, nofun⟩
  rw [found]
  simp only [Option.bind_eq_some_iff, toOption_eq_some_iff, ofValues?_eq_some_iff]
  constructor
  · rintro ⟨_, ⟨v, read, values⟩, same, rfl⟩
    exact ⟨same, v, read, values⟩
  · rintro ⟨same, v, read, values⟩
    exact ⟨n.values, ⟨v, read, values⟩, same, rfl⟩

theorem decodeKind_malformed (other : kind ≠ .turnEnded) (h : ∀ n, decodeKind kind payload ≠ .ok n) :
    decodeKind kind payload = .error (.malformed kind) := by
  rw [decodeKind_of_ne other] at h ⊢
  split
  · rename_i n found
    exact absurd (by rw [found]) (h n)
  · rfl

/-- A payload that goes on after a document is accepted if only space follows, and if the document gives the
values of the notice to the fields. -/
theorem decode_append (other : kind ≠ .turnEnded) {doc : Document} {cs : List Char} (h : doc.Text cs)
    (more : List Char) : decode kind.tag (String.ofList (cs ++ more)) = .ok n ↔
      Space more ∧ n.kind = kind ∧ doc.Gives kind.fields n.values := by
  rw [decode_tag, decodeKind_eq_ok_iff other, String.toList_ofList]
  constructor
  · rintro ⟨same, v, read, found⟩
    obtain ⟨space, values, gives, rfl⟩ := (Json.read_append h more).1 read
    rw [textValues?_textMembers gives.length] at found
    exact ⟨space, same, Option.some.inj found ▸ gives⟩
  · rintro ⟨space, same, gives⟩
    refine ⟨same, _, (Json.read_append h more).2 ⟨space, n.values, gives, rfl⟩, ?_⟩
    exact textValues?_textMembers gives.length

theorem decode_document (other : kind ≠ .turnEnded) {doc : Document} (h : doc.Text payload.toList) :
    decode kind.tag payload = .ok n ↔ n.kind = kind ∧ doc.Gives kind.fields n.values := by
  have whole := @decode_append kind n other doc _ h []
  rw [List.append_nil, String.ofList_toList] at whole
  exact whole.trans (and_iff_right Space.nil)

theorem exists_document (other : kind ≠ .turnEnded) (h : decode kind.tag payload = .ok n) :
    ∃ doc : Document, doc.Text payload.toList := by
  rw [decode_tag, decodeKind_eq_ok_iff other] at h
  obtain ⟨-, v, read, -⟩ := h
  exact Json.exists_document read

end Notice

/-- How the payloads of a kind are read that has fields. They are accepted as documents that give values to
the fields, and count for these values only: nothing may be missing, repeated or no string, and nothing but
space may follow. -/
structure NoticeKind.ReadsDocuments (kind : NoticeKind) : Prop where
  accepts {payload : String} {n : Notice} : Notice.decode kind.tag payload = .ok n ↔
    n.kind = kind ∧ ∃ doc : Document, doc.Text payload.toList ∧ doc.Gives kind.fields n.values
  refuses {payload : String} : (∀ n, Notice.decode kind.tag payload ≠ .ok n) ↔
    Notice.decode kind.tag payload = .error (.malformed kind)
  by_values {payload payload' : String} {doc doc' : Document} : doc.Text payload.toList →
    doc'.Text payload'.toList →
      (∀ values, doc.Gives kind.fields values ↔ doc'.Gives kind.fields values) →
        Notice.decode kind.tag payload = Notice.decode kind.tag payload'
  needs_values {payload : String} {doc : Document} : doc.Text payload.toList →
    (∀ values, ¬ doc.Gives kind.fields values) → Notice.decode kind.tag payload = .error (.malformed kind)
  needs_each_once {payload : String} {members : List (String × Option String)} {field : String} :
    (Document.object members).Text payload.toList → field ∈ kind.fields →
      (∀ value, members.filter (·.1 == field) ≠ [(field, some value)]) →
        Notice.decode kind.tag payload = .error (.malformed kind)
  needs_end {cs more : List Char} {doc : Document} : doc.Text cs → ¬ Space more →
    Notice.decode kind.tag (String.ofList (cs ++ more)) = .error (.malformed kind)

namespace Notice

variable {kind : NoticeKind} {payload : String} {n : Notice}

theorem decode_malformed_iff (other : kind ≠ .turnEnded) : (∀ n, decode kind.tag payload ≠ .ok n) ↔
    decode kind.tag payload = .error (.malformed kind) := by
  constructor
  · intro h
    rw [decode_tag] at h ⊢
    exact decodeKind_malformed other h
  · intro h n accepted
    rw [h] at accepted
    cases accepted

theorem readsDocuments (other : kind ≠ .turnEnded) : kind.ReadsDocuments where
  accepts {payload n} := by
    constructor
    · intro accepted
      obtain ⟨doc, text⟩ := exists_document other accepted
      obtain ⟨same, gives⟩ := (decode_document other text).1 accepted
      exact ⟨same, doc, text, gives⟩
    · rintro ⟨same, doc, text, gives⟩
      exact (decode_document other text).2 ⟨same, gives⟩
  refuses := decode_malformed_iff other
  by_values {payload payload' doc doc'} text text' same := by
    have accepts (n : Notice) : decode kind.tag payload = .ok n ↔ decode kind.tag payload' = .ok n := by
      rw [decode_document other text, decode_document other text', same]
    by_cases accepted : ∃ n, decode kind.tag payload = .ok n
    · obtain ⟨n, accepted⟩ := accepted
      rw [accepted, (accepts n).1 accepted]
    · have refused := not_exists.1 accepted
      rw [(decode_malformed_iff other).1 refused,
        (decode_malformed_iff other).1 fun n accepted' => refused n ((accepts n).2 accepted')]
  needs_values {payload doc} text nothing := by
    refine (decode_malformed_iff other).1 fun n accepted => nothing n.values ?_
    exact ((decode_document other text).1 accepted).2
  needs_each_once {payload members field} text known fault := by
    refine (decode_malformed_iff other).1 fun n accepted => ?_
    obtain ⟨value, once⟩ := Json.exists_of_forall₂ ((decode_document other text).1 accepted).2 known
    exact fault value once
  needs_end {cs more doc} text follows := by
    refine (decode_malformed_iff other).1 fun n accepted => follows ?_
    exact ((decode_append other text more).1 accepted).1

/-! ## Tags -/

/-- A tag is refused for itself exactly if it is that of no kind. -/
theorem decode_eq_unknownKind_iff {tag unknown : String} :
    decode tag payload = .error (.unknownKind unknown) ↔
      unknown = tag ∧ ∀ kind : NoticeKind, kind.tag ≠ tag := by
  by_cases known : ∃ kind : NoticeKind, kind.tag = tag
  · obtain ⟨kind, rfl⟩ := known
    refine ⟨fun h => ?_, fun h => absurd rfl (h.2 kind)⟩
    rw [decode_tag] at h
    unfold decodeKind at h
    split at h
    · split at h <;> cases h
    · split at h <;> cases h
  · have none : NoticeKind.ofTag? tag = none := Option.eq_none_iff_forall_not_mem.2 fun kind found =>
      known ⟨kind, NoticeKind.tag_of_ofTag? found⟩
    have refused : decode tag payload = .error (.unknownKind tag) := by
      unfold decode NoticeKind.parse
      rw [none]
      rfl
    rw [refused]
    constructor
    · intro same
      cases same
      exact ⟨rfl, not_exists.1 known⟩
    · rintro ⟨rfl, -⟩
      rfl

theorem decode_turnEnded : decode "turn_ended" payload =
    if payload = "" then .ok turnEnded else .error (.unexpectedPayload .turnEnded) := by
  rw [show "turn_ended" = NoticeKind.turnEnded.tag from rfl, decode_tag]
  show (if payload.isEmpty then _ else _) = _
  simp only [String.isEmpty_iff]

/-- What is accepted from the wire: tags of the five kinds, the end of a turn with an empty payload, and the
other kinds with documents that give values to their fields. -/
theorem decode_accepts :
    (∀ tag payload unknown, decode tag payload = .error (.unknownKind unknown) ↔
      unknown = tag ∧ ∀ kind : NoticeKind, kind.tag ≠ tag) ∧
    (∀ payload, decode "turn_ended" payload =
      if payload = "" then .ok turnEnded else .error (.unexpectedPayload .turnEnded)) ∧
    ∀ kind : NoticeKind, kind ≠ .turnEnded → kind.ReadsDocuments :=
  ⟨fun _ _ _ => decode_eq_unknownKind_iff, fun _ => decode_turnEnded, fun _ other => readsDocuments other⟩

/-- A chat in an object with space, escapes and other members, among them one with a string that spells no
text; the same as a list; and both followed by what may not follow. -/
theorem decode_accepts_chat_in_two_ways :
    let object := "\t\x7b\"nickname\":\"\\uD83D\\uDE00\" , " ++
      "\"x\":[\x7b\"player_id\":\"\\udc00\"\x7d,-0.5e+9],\"\\u0063ontent\":\"\\/\" ,\"player_id\":\"p\"\x7d\n"
    let list := "[\"p\",\"😀\" ,\"/\"]"
    let accepted : Except CodecError Notice := .ok (.chat "p" "😀" "/")
    NoticeKind.chat ≠ .turnEnded ∧ decode "chat" object = accepted ∧ decode "chat" list = accepted ∧
      (∃ doc : Document, doc.Text object.toList ∧
        doc.Gives ["player_id", "nickname", "content"] ["p", "😀", "/"]) ∧
      decode "chat" (String.ofList (list.toList ++ [','])) = .error (.malformed .chat) := by
  intro object list accepted
  have other : NoticeKind.chat ≠ .turnEnded := by decide
  have object_accepted : decode "chat" object = accepted := by decide +kernel
  have list_accepted : decode "chat" list = accepted := by decide +kernel
  have reads := decode_accepts.2.2 .chat other
  obtain ⟨-, doc, text, gives⟩ := reads.accepts.1 object_accepted
  obtain ⟨-, doc', text', -⟩ := reads.accepts.1 list_accepted
  have comma : ¬ Space [','] := fun space => absurd (space ',' List.mem_cons_self) (by decide)
  exact ⟨other, object_accepted, list_accepted, ⟨doc, text, gives⟩, reads.needs_end text' comma⟩

end Notice

end GuessingRoom
