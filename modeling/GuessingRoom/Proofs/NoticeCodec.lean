import GuessingRoom.Notice.Wire
import GuessingRoom.Proofs.ReadingBack

/-!
# Notices there and back

Whatever the texts in a notice are, the notice is found again in what was sent of it. What is accepted
from the wire can be written in many ways; sent again, it takes the one form in which notices are sent,
and is the same notice still (`Notice.codec_round_trip`).
-/

namespace GuessingRoom

open Json (ReadsBack)

namespace NoticeKind

theorem tag_of_ofTag? {tag : String} {kind : NoticeKind} (h : ofTag? tag = some kind) :
    kind.tag = tag := by
  unfold ofTag? at h
  split at h <;> cases h <;> rfl

theorem parse_tag (kind : NoticeKind) : parse kind.tag = .ok kind := by
  unfold parse
  rw [ofTag?_tag]

theorem tag_of_parse {tag : String} {kind : NoticeKind} (h : parse tag = .ok kind) : kind.tag = tag := by
  unfold parse at h
  split at h
  · rename_i found
    cases h
    exact tag_of_ofTag? found
  · cases h

theorem nodup_fields (kind : NoticeKind) : kind.fields.Nodup := by
  cases kind <;> decide

end NoticeKind

namespace Notice

/-! ## From the notice to the wire and back -/

theorem length_values (n : Notice) : n.values.length = n.kind.fields.length := by
  cases n <;> rfl

theorem lookup_shape {names : List String} {name : String} (mem : name ∈ names) :
    (names.map fun name => (name, Json.Shape.text)).lookup name = some .text := by
  induction names with
  | nil => cases mem
  | cons first names ih =>
    rw [List.map_cons, List.lookup_cons]
    split
    · rfl
    · rename_i differs
      exact ih ((List.mem_cons.1 mem).resolve_left (ne_of_beq_false differs))

theorem readsBack_toJson (n : Notice) : ReadsBack n.kind.shape n.toJson := by
  have names : (n.kind.fields.zip (n.values.map Json.text)).map Prod.fst = n.kind.fields :=
    List.map_fst_zip (by simp [length_values])
  refine Json.readsBack_record false ?_ ?_ fun m mem => ?_
  · rw [names, List.map_map]
    exact List.map_id _
  · rw [names]
    exact n.kind.nodup_fields
  · obtain ⟨field, value⟩ := List.of_mem_zip mem
    obtain ⟨s, -, text⟩ := List.mem_map.1 value
    exact ⟨.text, lookup_shape field, text ▸ Json.readsBack_text s⟩

theorem textValues?_toJson (n : Notice) : textValues? n.toJson = some n.values := by
  cases n <;> rfl

theorem payload_eq {n : Notice} (h : n ≠ turnEnded) : n.payload = n.toJson.render := by
  cases n <;> first | rfl | exact absurd rfl h

theorem decodeKind_of_ne {kind : NoticeKind} (h : kind ≠ .turnEnded) (payload : String) :
    decodeKind kind payload =
      match (kind.shape.read payload.toList).toOption.bind textValues? |>.bind (ofValues? kind) with
      | some n => .ok n
      | none => .error (.malformed kind) := by
  cases kind <;> first | rfl | exact absurd rfl h

/-- A notice is found again in what is sent of it. -/
theorem decodeKind_payload (n : Notice) : decodeKind n.kind n.payload = .ok n := by
  by_cases ended : n = turnEnded
  · rw [ended]
    rfl
  · have other : n.kind ≠ .turnEnded := by
      cases n <;> first | exact absurd rfl ended | nofun
    have read := Json.Shape.read_write n.readsBack_toJson
    rw [decodeKind_of_ne other, payload_eq ended, Json.render, String.toList_ofList, read]
    simp only [Except.toOption, Option.bind_some, textValues?_toJson, ofValues?_values]

theorem decode_tag (kind : NoticeKind) (payload : String) :
    decode kind.tag payload = decodeKind kind payload := by
  unfold decode
  rw [kind.parse_tag]
  rfl

theorem decode_encode (n : Notice) : decode n.encode.1.tag n.encode.2 = .ok n := by
  rw [decode_tag]
  exact n.decodeKind_payload

/-! ## From the wire to the notice -/

theorem kind_of_ofValues? {kind : NoticeKind} {values : List String} {n : Notice}
    (h : ofValues? kind values = some n) : n.kind = kind := by
  unfold ofValues? at h
  split at h <;> cases h <;> rfl

theorem kind_of_decodeKind {kind : NoticeKind} {payload : String} {n : Notice}
    (h : decodeKind kind payload = .ok n) : n.kind = kind := by
  by_cases ended : kind = .turnEnded
  · subst ended
    unfold decodeKind at h
    dsimp only at h
    split at h <;> cases h
    rfl
  · rw [decodeKind_of_ne ended] at h
    split at h
    · rename_i found
      cases h
      obtain ⟨values, -, named⟩ := Option.bind_eq_some_iff.1 found
      exact kind_of_ofValues? named
    · cases h

/-- A notice that was accepted is of the kind that its tag names. -/
theorem tag_of_decode {tag payload : String} {n : Notice} (h : decode tag payload = .ok n) :
    n.kind.tag = tag := by
  unfold decode at h
  cases parsed : NoticeKind.parse tag with
  | error e =>
    rw [parsed] at h
    cases h
  | ok kind =>
    rw [parsed] at h
    rw [kind_of_decodeKind h]
    exact NoticeKind.tag_of_parse parsed

/-- Every notice is found again in what is sent of it, so that no two are sent alike. Whatever was
accepted is sent again under its tag, as a text in which the same notice is found and which is sent
again as it stands. -/
theorem codec_round_trip :
    (∀ n : Notice, decode n.encode.1.tag n.encode.2 = .ok n) ∧ Function.Injective encode ∧
      ∀ tag payload n, decode tag payload = .ok n →
        n.encode.1.tag = tag ∧ decode tag n.encode.2 = .ok n ∧
          (decode tag n.encode.2).map encode = .ok n.encode := by
  refine ⟨decode_encode, fun m n same => ?_, fun tag payload n accepted => ?_⟩
  · have found := decode_encode m
    rw [same, decode_encode n] at found
    exact (Except.ok.inj found).symm
  · have tag_eq : n.encode.1.tag = tag := tag_of_decode accepted
    have found := decode_encode n
    rw [tag_eq] at found
    exact ⟨tag_eq, found, by rw [found]; rfl⟩

/-- Fields in another order, escapes that were not needed, and a member of another name. -/
theorem decode_join_loosely :
    let loose := " \x7b\"nickname\" : \"Si\\u006cly\\ud83d\\ude00\", \"x\": [1e9, \"\\udc00\"], " ++
      "\"player_id\":\"\"\x7d "
    let sent := "\x7b\"player_id\":\"\",\"nickname\":\"Silly😀\"\x7d"
    decode "join" loose = .ok (.join "" "Silly😀") ∧ (join "" "Silly😀").encode = (.join, sent) ∧
      decode "join" sent = .ok (.join "" "Silly😀") := by
  intro loose sent
  have accepted : decode "join" loose = .ok (.join "" "Silly😀") := by decide +kernel
  have encoded : (join "" "Silly😀").encode = (.join, sent) := by decide +kernel
  have again := (codec_round_trip.2.2 "join" loose _ accepted).2.1
  rw [encoded] at again
  exact ⟨accepted, encoded, again⟩

end Notice

end GuessingRoom
