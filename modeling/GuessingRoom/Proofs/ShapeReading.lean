import GuessingRoom.Json.Shape
import GuessingRoom.Proofs.Outcomes

/-!
# What reading by a shape takes

A value that is read by a shape was there, part after part: what each reader has found when it succeeds,
and what the readers of the parts have found for it (`Json.readValue_record`, `Json.readMembers_succ`, …).
-/

namespace GuessingRoom.Json

variable {fuel : Nat} {cs rest : List Char}

/-! ## Scalars -/

theorem readText_eq_ok {s : String} (h : readText cs = .ok (s, rest)) :
    ∃ inner content, cs = '"' :: inner ∧ readQuoted inner = some (content, rest) ∧
      s = String.ofList content := by
  unfold readText at h
  split at h
  · rename_i inner
    split at h
    · rename_i content left read
      cases h
      exact ⟨inner, content, rfl, read, rfl⟩
    · cases h
  · cases h

theorem readFlag_eq_ok {v : Json} (h : readFlag cs = .ok (v, rest)) : ∃ b, v = .flag b := by
  unfold readFlag at h
  split at h
  · split at h <;> cases h
    exact ⟨true, rfl⟩
  · split at h <;> cases h
    exact ⟨false, rfl⟩
  · cases h

theorem readInteger_eq_ok {v : Json} (h : readInteger cs = .ok (v, rest)) :
    ∃ n, inRange n = true ∧ v = .integer n := by
  unfold readInteger at h
  split at h
  · split at h
    · cases h
    · split at h
      · rename_i n _
        split at h
        · rename_i within
          cases h
          exact ⟨n, within, rfl⟩
        · cases h
      · cases h
  · cases h

theorem readChoice_eq_ok {names : List String} {v : Json} (h : readChoice names cs = .ok (v, rest)) :
    ∃ name ∈ names, v = .text name := by
  unfold readChoice at h
  split at h
  · obtain ⟨⟨name, left⟩, -, h⟩ := bind_eq_ok_iff.1 h
    dsimp only at h
    split at h
    · rename_i mem
      cases h
      exact ⟨name, List.contains_iff_mem.1 mem, rfl⟩
    · cases h
  · obtain ⟨⟨name, left⟩, -, h⟩ := bind_eq_ok_iff.1 h
    dsimp only at h
    obtain ⟨mem, h⟩ := ite_throw_eq_ok_iff.1 h
    refine ⟨name, by simpa using mem, ?_⟩
    split at h
    · split at h
      · split at h
        · split at h
          · cases h
            rfl
          · cases h
        · cases h
      · cases h
    · cases h
  · cases h

/-! ## Lists and records -/

theorem readEnding_eq_ok {close : Char} {ending : Ending} (h : readEnding close cs = .ok ending) :
    (∃ left, skipSpace cs = ',' :: left ∧ ending = .more left) ∨
      ∃ left, skipSpace cs = close :: left ∧ ending = .closed left := by
  unfold readEnding at h
  split at h
  · rename_i left eq
    cases h
    exact .inl ⟨left, eq, rfl⟩
  · rename_i c left _ eq
    split at h
    · rename_i same
      cases h
      exact .inr ⟨left, same ▸ eq, rfl⟩
    · cases h
  · cases h

/-- What is read by a shape from a text without leading space: the value, and what follows it. -/
inductive Reads (fuel : Nat) : Shape → List Char → Json → List Char → Prop
  | text {cs rest s} : readText cs = .ok (s, rest) → Reads fuel .text cs (.text s) rest
  | flag {cs rest v} : readFlag cs = .ok (v, rest) → Reads fuel .flag cs v rest
  | integer {cs rest v} : readInteger cs = .ok (v, rest) → Reads fuel .integer cs v rest
  | choice {names cs rest v} : readChoice names cs = .ok (v, rest) → Reads fuel (.choice names) cs v rest
  | noItems {item inner rest} : skipSpace inner = ']' :: rest →
      Reads fuel (.list item) ('[' :: inner) (.list []) rest
  | list {item inner items rest} : readItems fuel item inner = .ok (items, rest) →
      Reads fuel (.list item) ('[' :: inner) (.list items) rest
  | noFields {fields strict inner members rest} : skipSpace inner = ']' :: rest →
      arrange fields [] = .ok members →
      Reads fuel (.record fields strict) ('[' :: inner) (.object members) rest
  | fields {fields strict inner members rest} : readFields fuel fields inner = .ok (members, rest) →
      Reads fuel (.record fields strict) ('[' :: inner) (.object members) rest
  | noMembers {fields strict inner members rest} : skipSpace inner = '}' :: rest →
      arrange fields [] = .ok members →
      Reads fuel (.record fields strict) ('{' :: inner) (.object members) rest
  | members {fields strict inner found members rest} :
      readMembers fuel fields strict [] inner = .ok (found, rest) → arrange fields found = .ok members →
      Reads fuel (.record fields strict) ('{' :: inner) (.object members) rest

theorem reads_of_readValue {shape : Shape} {v : Json} (h : readValue (fuel + 1) shape cs = .ok (v, rest)) :
    Reads fuel shape (skipSpace cs) v rest := by
  unfold readValue at h
  split at h
  · obtain ⟨⟨s, left⟩, read, same⟩ := map_eq_ok_iff.1 h
    cases same
    exact .text read
  · exact .flag h
  · exact .integer h
  · exact .choice h
  · rename_i bracket
    rw [bracket]
    split at h
    · rename_i closed
      cases h
      exact .noItems closed
    · obtain ⟨⟨items, left⟩, read, same⟩ := map_eq_ok_iff.1 h
      cases same
      exact .list read
  · cases h
  · rename_i bracket
    rw [bracket]
    split at h
    · rename_i closed
      obtain ⟨members, arranged, same⟩ := map_eq_ok_iff.1 h
      cases same
      exact .noFields closed arranged
    · obtain ⟨⟨members, left⟩, read, same⟩ := map_eq_ok_iff.1 h
      cases same
      exact .fields read
  · rename_i brace
    rw [brace]
    split at h
    · rename_i closed
      obtain ⟨members, arranged, same⟩ := map_eq_ok_iff.1 h
      cases same
      exact .noMembers closed arranged
    · obtain ⟨⟨found, left⟩, read, h⟩ := bind_eq_ok_iff.1 h
      obtain ⟨members, arranged, same⟩ := map_eq_ok_iff.1 h
      cases same
      exact .members read arranged
  · cases h

theorem readItems_succ {shape : Shape} {items : List Json}
    (h : readItems (fuel + 1) shape cs = .ok (items, rest)) :
    ∃ item left, readValue fuel shape cs = .ok (item, left) ∧
      ((readEnding ']' left = .ok (.closed rest) ∧ items = [item]) ∨
        ∃ next more, readEnding ']' left = .ok (.more next) ∧
          readItems fuel shape next = .ok (more, rest) ∧ items = item :: more) := by
  unfold readItems at h
  obtain ⟨⟨item, left⟩, read, h⟩ := bind_eq_ok_iff.1 h
  obtain ⟨ending, ends, h⟩ := bind_eq_ok_iff.1 h
  refine ⟨item, left, read, ?_⟩
  cases ending with
  | closed next =>
    cases h
    exact .inl ⟨ends, rfl⟩
  | more next =>
    obtain ⟨⟨more, last⟩, later, same⟩ := map_eq_ok_iff.1 h
    cases same
    exact .inr ⟨next, more, ends, later, rfl⟩

theorem readFields_succ {fields : List (String × Shape)} {members : List (String × Json)}
    (h : readFields (fuel + 1) fields cs = .ok (members, rest)) :
    ∃ name shape others value left, fields = (name, shape) :: others ∧
      readValue fuel shape cs = .ok (value, left) ∧
      ((readEnding ']' left = .ok (.closed rest) ∧ others = [] ∧ members = [(name, value)]) ∨
        ∃ next more, readEnding ']' left = .ok (.more next) ∧
          readFields fuel others next = .ok (more, rest) ∧ members = (name, value) :: more) := by
  cases fields with
  | nil =>
    unfold readFields at h
    cases h
  | cons field others =>
    obtain ⟨name, shape⟩ := field
    unfold readFields at h
    obtain ⟨⟨value, left⟩, read, h⟩ := bind_eq_ok_iff.1 h
    obtain ⟨ending, ends, h⟩ := bind_eq_ok_iff.1 h
    refine ⟨name, shape, others, value, left, rfl, read, ?_⟩
    split at h
    · cases h
      exact .inl ⟨ends, rfl, rfl⟩
    · cases h
    · cases h
    · obtain ⟨⟨more, last⟩, later, same⟩ := map_eq_ok_iff.1 h
      cases same
      exact .inr ⟨_, more, ends, later, rfl⟩

/-- What is read of one member from a text without leading space: a field that was not found before, or a
member of another name, which is passed over. -/
inductive ReadsMember (fuel : Nat) (fields : List (String × Shape)) (strict : Bool)
    (found : List (String × Json)) : List Char → List (String × Json) → List Char → Prop
  | field {inner name after colon shape value left} : readText ('"' :: inner) = .ok (name, after) →
      skipSpace after = ':' :: colon → fields.lookup name = some shape → found.lookup name = none →
      readValue fuel shape colon = .ok (value, left) →
      ReadsMember fuel fields strict found ('"' :: inner) (found ++ [(name, value)]) left
  | other {inner name after colon left} : readText ('"' :: inner) = .ok (name, after) →
      skipSpace after = ':' :: colon → fields.lookup name = none → strict = false →
      skip colon = some left → ReadsMember fuel fields strict found ('"' :: inner) found left

theorem readMembers_succ {fields : List (String × Shape)} {strict : Bool}
    {found members : List (String × Json)}
    (h : readMembers (fuel + 1) fields strict found cs = .ok (members, rest)) :
    ∃ found' left, ReadsMember fuel fields strict found (skipSpace cs) found' left ∧
      ((readEnding '}' left = .ok (.closed rest) ∧ members = found') ∨
        ∃ next, readEnding '}' left = .ok (.more next) ∧
          readMembers fuel fields strict found' next = .ok (members, rest)) := by
  unfold readMembers at h
  split at h
  · rename_i inner quoted
    rw [quoted]
    obtain ⟨⟨name, after⟩, named, h⟩ := bind_eq_ok_iff.1 h
    dsimp only at h
    split at h
    · rename_i shape known
      obtain ⟨fresh, h⟩ := ite_throw_eq_ok_iff.1 h
      split at h
      · rename_i colon separated
        obtain ⟨⟨value, left⟩, read, h⟩ := bind_eq_ok_iff.1 h
        obtain ⟨ending, ends, h⟩ := bind_eq_ok_iff.1 h
        refine ⟨_, left, .field named separated known (Option.not_isSome_iff_eq_none.1 fresh) read, ?_⟩
        cases ending with
        | closed next =>
          cases h
          exact .inl ⟨ends, rfl⟩
        | more next => exact .inr ⟨next, ends, h⟩
      · cases h
    · rename_i unknown
      obtain ⟨lax, h⟩ := ite_throw_eq_ok_iff.1 h
      split at h
      · rename_i colon separated
        split at h
        · rename_i left skipped
          obtain ⟨ending, ends, h⟩ := bind_eq_ok_iff.1 h
          refine ⟨_, left, .other named separated unknown (Bool.of_not_eq_true lax) skipped, ?_⟩
          cases ending with
          | closed next =>
            cases h
            exact .inl ⟨ends, rfl⟩
          | more next => exact .inr ⟨next, ends, h⟩
        · cases h
      · cases h
  · cases h

/-! ## Whole texts -/

theorem Shape.read_eq_ok {shape : Shape} {v : Json} (h : shape.read cs = .ok v) :
    ∃ left, Reads (2 * cs.length + 1) shape (skipSpace cs) v left ∧ skipSpace left = [] := by
  unfold Shape.read at h
  obtain ⟨⟨value, left⟩, read, h⟩ := bind_eq_ok_iff.1 h
  dsimp only at h
  split at h
  · rename_i ends
    cases h
    exact ⟨left, reads_of_readValue read, List.isEmpty_iff.1 ends⟩
  · cases h

end GuessingRoom.Json
