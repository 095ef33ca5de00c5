import GuessingRoom.Model.Record
import GuessingRoom.Proofs.ClockTexts
import GuessingRoom.Proofs.ShapeValues

/-!
# Records have one form

A record can be told in many texts, but is written in one (`models_canonical`). For each kind of record
this needs three things (`Record.Lawful`): its fields have different names, the record is found again in
the value it is written as, and that value is of the shape by which the record is read. The last of them is
a matter of numbers only, which have to be of 64 bits; a text may stand for any instant.
-/

namespace GuessingRoom

open Json (OfShape)
open Time (Instant)

/-! ## What reading and writing have in common -/

namespace Record

/-- A record is written as a value in which it is found again. If it was found in a value of its shape, it
is written as one. -/
class Lawful (α : Type) [Record α] : Prop where
  distinct : (shape α).Distinct
  back (a : α) : ofJson? (toJson a) = some a
  keeps {v : Json} {a : α} : OfShape (shape α) v → ofJson? v = some a → OfShape (shape α) (toJson a)

variable {α : Type} [Record α]

theorem read_eq_ok_iff {cs : List Char} {a : α} :
    read cs = .ok a ↔ ∃ v, (shape α).read cs = .ok v ∧ ofJson? v = some a := by
  unfold read
  rw [bind_eq_ok_iff]
  refine exists_congr fun v => and_congr_right fun _ => ?_
  cases (ofJson? v : Option α) <;> simp

theorem toList_write (a : α) : (write a).toList = (toJson a).write := String.toList_ofList

theorem canonical_eq_some_iff {raw text : String} :
    canonical α raw = some text ↔ ∃ a : α, read raw.toList = .ok a ∧ write a = text := by
  unfold canonical
  cases (read raw.toList : Except Json.Fault α) <;> simp [Except.toOption]

variable [Lawful α]

/-- A value of the shape is read as the record that is found in it. -/
theorem read_of_ofShape {v : Json} {a : α} (of_shape : OfShape (shape α) v) (found : ofJson? v = some a) :
    read v.write = .ok a :=
  read_eq_ok_iff.2 ⟨v, Json.Shape.read_write (of_shape.readsBack Lawful.distinct), found⟩

/-- A record that was read is written as a value of its shape. -/
theorem ofShape_of_read {cs : List Char} {a : α} (h : read cs = .ok a) : OfShape (shape α) (toJson a) := by
  obtain ⟨v, of_shape, found⟩ := read_eq_ok_iff.1 h
  exact Lawful.keeps (Json.ofShape_read Lawful.distinct of_shape) found

theorem read_write {cs : List Char} {a : α} (h : read cs = .ok a) : read (write a).toList = .ok a := by
  rw [toList_write]
  exact read_of_ofShape (ofShape_of_read h) (Lawful.back a)

end Record

/-- Of all the texts of a record one is its own: it is read as the record, and no other record is written
so. A record may be read from the text of any value of its shape, whatever the texts of times and the
numbers of 64 bits in it. -/
structure Canonical (α : Type) [Record α] : Prop where
  read_write {cs : List Char} {a : α} : Record.read cs = .ok a → Record.read (Record.write a).toList = .ok a
  settles {raw text : String} : canonical α raw = some text → canonical α text = some text
  distinguishes {cs cs' : List Char} {a b : α} : Record.read cs = .ok a → Record.read cs' = .ok b →
    Record.write a = Record.write b → a = b
  accepts {v : Json} {a : α} : OfShape (Record.shape α) v → Record.ofJson? v = some a →
    Record.read v.write = .ok a

theorem Record.Lawful.canonical {α : Type} [Record α] [Record.Lawful α] : Canonical α where
  read_write := Record.read_write
  settles {raw text} h := by
    obtain ⟨a, read, rfl⟩ := Record.canonical_eq_some_iff.1 h
    exact Record.canonical_eq_some_iff.2 ⟨a, Record.read_write read, rfl⟩
  distinguishes {cs cs' a b} read read' same := by
    have again := Record.read_write read
    rw [same, Record.read_write read'] at again
    exact (Except.ok.inj again).symm
  accepts := Record.read_of_ofShape

/-! ## Kinds of fields -/

namespace Json

attribute [simp] OfShape.text OfShape.flag Shape.Distinct.text Shape.Distinct.flag Shape.Distinct.integer
  Shape.Distinct.choice

@[simp] theorem toInstant?_ofInstant (t : Instant) : (ofInstant t).toInstant? = some t :=
  Time.readLenient?_write t

@[simp] theorem ofShape_ofInstant (t : Instant) : OfShape .text (ofInstant t) := .text _

@[simp] theorem toState?_ofState (s : PlayerState) : (ofState s).toState? = some s :=
  PlayerState.ofName?_name s

theorem ofShape_ofState (s : PlayerState) : OfShape (.choice ["active", "inactive"]) (ofState s) := by
  refine .choice ?_
  cases s <;> decide

theorem distinct_textShape {names : List String} (nodup : names.Nodup) : (textShape names).Distinct := by
  refine .record ?_ fun f mem => ?_
  · rw [List.map_map]
    exact (List.map_id names).symm ▸ nodup
  · obtain ⟨name, -, rfl⟩ := List.mem_map.1 mem
    exact .text

/-- Texts under the names of the fields, in their order. -/
theorem ofShape_textShape {names : List String} {members : List (String × Json)}
    (same : members.map Prod.fst = names) (texts : ∀ m ∈ members, OfShape .text m.2) :
    OfShape (textShape names) (.object members) := by
  refine .record ?_ fun p mem => ?_
  · rw [List.map_map, same]
    exact List.map_id names
  · obtain ⟨field, member⟩ := List.of_mem_zip mem
    obtain ⟨name, -, here⟩ := List.mem_map.1 field
    rw [← here]
    exact texts _ member

/-! ### Lists of records -/

theorem exists_of_mapM_eq_some {α β : Type} {f : α → Option β} {l : List α} {l' : List β}
    (h : l.mapM f = some l') {b : β} (mem : b ∈ l') : ∃ a ∈ l, f a = some b := by
  induction l generalizing l' with
  | nil =>
    cases h
    cases mem
  | cons a l ih =>
    rw [List.mapM_cons] at h
    obtain ⟨b', first, h⟩ := Option.bind_eq_some_iff.1 h
    obtain ⟨more, later, same⟩ := Option.bind_eq_some_iff.1 h
    cases same
    rcases List.mem_cons.1 mem with rfl | mem
    · exact ⟨a, List.mem_cons_self, first⟩
    · obtain ⟨a', there, same⟩ := ih later mem
      exact ⟨a', List.mem_cons_of_mem a there, same⟩

section

variable {α : Type} [Record α] [Record.Lawful α]

@[simp] theorem toRecords?_map_toJson (l : List α) : (list (l.map Record.toJson)).toRecords? = some l := by
  show (l.map Record.toJson).mapM Record.ofJson? = some l
  induction l with
  | nil => rfl
  | cons a l ih =>
    rw [List.map_cons, List.mapM_cons, Record.Lawful.back, ih]
    rfl

/-- Records that are found in values of their shape are written as such values. -/
theorem ofShape_of_toRecords? {j : Json} {l : List α} (of_shape : OfShape (.list (Record.shape α)) j)
    (found : j.toRecords? = some l) : OfShape (.list (Record.shape α)) (.list (l.map Record.toJson)) := by
  cases of_shape with
  | list each =>
    refine .list fun j mem => ?_
    obtain ⟨a, here, rfl⟩ := List.mem_map.1 mem
    obtain ⟨item, there, same⟩ := exists_of_mapM_eq_some found here
    exact Record.Lawful.keeps (each item there) same

end

end Json

/-! ## The kinds of records -/

open Record

instance : Lawful User where
  distinct := Json.distinct_textShape (by decide)
  back u := by simp [toJson, ofJson?]
  keeps _ _ := Json.ofShape_textShape rfl (by simp)

instance : Lawful Game where
  distinct := Json.distinct_textShape (by decide)
  back g := by simp [toJson, ofJson?]
  keeps _ _ := Json.ofShape_textShape rfl (by simp)

instance : Lawful Player where
  distinct := .record (by decide) (by simp)
  back p := by simp [toJson, ofJson?]
  keeps _ _ := .record rfl (by simp [Json.ofShape_ofState])

instance : Lawful Word where
  distinct := Json.distinct_textShape (by decide)
  back w := by simp [toJson, ofJson?]
  keeps _ _ := Json.ofShape_textShape rfl (by simp)

instance : Lawful Turn where
  distinct := Json.distinct_textShape (by decide)
  back t := by simp [toJson, ofJson?]
  keeps _ _ := Json.ofShape_textShape rfl (by simp)

instance : Lawful Message where
  distinct := Json.distinct_textShape (by decide)
  back m := by simp [toJson, ofJson?]
  keeps _ _ := Json.ofShape_textShape rfl (by simp)

instance : Lawful Score where
  distinct := .record (by decide) (by simp)
  back s := by simp [toJson, ofJson?]
  keeps {v s} of_shape found := by
    simp only [ofJson?] at found
    split at found
    · obtain ⟨t, -, same⟩ := Option.bind_eq_some_iff.1 found
      cases same
      cases of_shape with
      | record _ values =>
        simp only [List.zip_cons_cons, List.forall_mem_cons] at values
        obtain ⟨-, -, -, -, points, -⟩ := values
        exact .record rfl (by simp [points])
    · cases found

instance : Lawful Standing where
  distinct := .record (by decide) (by simp)
  back s := by simp [toJson, ofJson?]
  keeps {v s} of_shape found := by
    simp only [ofJson?] at found
    split at found
    · cases found
      cases of_shape with
      | record _ values =>
        simp only [List.zip_cons_cons, List.forall_mem_cons] at values
        obtain ⟨-, -, -, score, -⟩ := values
        exact .record rfl (by simp [score])
    · cases found

instance : Lawful Post where
  distinct := .record (by decide) (by simp)
  back p := by simp [toJson, ofJson?]
  keeps _ _ := .record rfl (by simp)

instance : Lawful View where
  distinct := .record (by decide) (by
    have posts : (Record.shape Post).Distinct := Lawful.distinct
    have standings : (Record.shape Standing).Distinct := Lawful.distinct
    simp [Json.Shape.Distinct.list, posts, standings])
  back v := by
    show (do
      let posts ← (Json.list (v.messages.map toJson)).toRecords?
      let standings ← (Json.list (v.leaderboard.map toJson)).toRecords?
      some { v with messages := posts, leaderboard := standings }) = some v
    rw [Json.toRecords?_map_toJson, Json.toRecords?_map_toJson]
    rfl
  keeps {v view} of_shape found := by
    simp only [ofJson?] at found
    split at found
    · obtain ⟨posts, messages, found⟩ := Option.bind_eq_some_iff.1 found
      obtain ⟨standings, leaderboard, same⟩ := Option.bind_eq_some_iff.1 found
      cases same
      cases of_shape with
      | record _ values =>
        simp only [List.zip_cons_cons, List.forall_mem_cons] at values
        obtain ⟨-, -, -, -, -, -, posts_of, standings_of, -⟩ := values
        have posts_of' := Json.ofShape_of_toRecords? posts_of messages
        have standings_of' := Json.ofShape_of_toRecords? standings_of leaderboard
        exact .record rfl (by simp [posts_of', standings_of'])
    · cases found

instance : Lawful SessionAnswer where
  distinct := Json.distinct_textShape (by decide)
  back _ := rfl
  keeps _ _ := Json.ofShape_textShape rfl (by simp)

instance : Lawful GameAnswer where
  distinct := Json.distinct_textShape (by decide)
  back _ := rfl
  keeps _ _ := Json.ofShape_textShape rfl (by simp)

instance : Lawful ContentRequest where
  distinct := .record (by decide) (by simp)
  back _ := rfl
  keeps _ _ := .record rfl (by simp)

instance : Lawful WordAnswer where
  distinct := Json.distinct_textShape (by decide)
  back _ := rfl
  keeps _ _ := Json.ofShape_textShape rfl (by simp)

instance : Lawful ErrorAnswer where
  distinct := Json.distinct_textShape (by decide)
  back _ := rfl
  keeps _ _ := Json.ofShape_textShape rfl (by simp)

/-! ## All records -/

/-- Whatever can be read as a record of the program is written in one form. -/
theorem models_canonical :
    (Canonical User ∧ Canonical Game ∧ Canonical Player ∧ Canonical Word ∧ Canonical Turn ∧
      Canonical Message ∧ Canonical Score) ∧
    (Canonical View ∧ Canonical Standing ∧ Canonical Post) ∧
    Canonical SessionAnswer ∧ Canonical GameAnswer ∧ Canonical ContentRequest ∧ Canonical WordAnswer ∧
      Canonical ErrorAnswer :=
  ⟨⟨Lawful.canonical, Lawful.canonical, Lawful.canonical, Lawful.canonical, Lawful.canonical,
      Lawful.canonical, Lawful.canonical⟩,
    ⟨Lawful.canonical, Lawful.canonical, Lawful.canonical⟩,
    Lawful.canonical, Lawful.canonical, Lawful.canonical, Lawful.canonical, Lawful.canonical⟩

/-- A score with the least of points, given as a list in a leap second that an offset carries beyond the
year 9999, and a player given as an object whose members stand in another order. -/
theorem models_canonical_of_loose_texts :
    let score := "[\"\",\"t\",\"p\",\"\\u006d\", -9223372036854775808,\"9999-12-31 23:59:60.5 -01:00\"] "
    let sent := "\x7b\"game_id\":\"\",\"turn_id\":\"t\",\"player_id\":\"p\",\"message_id\":\"m\"," ++
      "\"points\":-9223372036854775808,\"created_at\":\"+10000-01-01T00:59:60.500Z\"\x7d"
    let player := "\x7b\"joined_at\":\"2024-02-29T23:30:00.1234567891+05:45\",\"x\":[\x7b\x7d,1e9]," ++
      "\"state\":\x7b\"inactive\":null\x7d,\"nickname\":\"\\ud83d\\ude00\",\"id\":\"u\"\x7d"
    let sent' := "\x7b\"id\":\"u\",\"nickname\":\"😀\",\"state\":\"inactive\"," ++
      "\"joined_at\":\"2024-02-29T17:45:00.123456789Z\"\x7d"
    (canonical Score score = some sent ∧ canonical Score sent = some sent) ∧
      canonical Player player = some sent' ∧ canonical Player sent' = some sent' := by
  intro score sent player sent'
  have read : canonical Score score = some sent := by decide +kernel
  have read' : canonical Player player = some sent' := by decide +kernel
  obtain ⟨⟨-, -, players, -, -, -, scores⟩, -⟩ := models_canonical
  exact ⟨⟨read, scores.settles read⟩, read', players.settles read'⟩

end GuessingRoom
