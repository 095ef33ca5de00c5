import Mathlib.Data.List.TakeWhile
import GuessingRoom.Proofs.NumberLiterals
import GuessingRoom.Proofs.ReadingBack

/-!
# The grammar of values

A value is a word, a number, a string, a list or an object, the last two to any depth and with space around
everything in them (`Json.Derives`). What is passed over is a value of this grammar (`Json.skip_eq_some`),
and every value is passed over (`Json.skip_append`).
-/

namespace GuessingRoom.Json

/-! ## Space -/

def Space (s : List Char) : Prop := ∀ c ∈ s, isSpace c = true

theorem Space.nil : Space [] := fun _ mem => by cases mem

theorem skipSpace_cons {c : Char} (h : isSpace c = false) (cs : List Char) :
    skipSpace (c :: cs) = c :: cs := by
  rw [skipSpace, List.dropWhile_cons, if_neg (by rw [h]; exact Bool.false_ne_true)]

theorem skipSpace_append {s : List Char} (h : Space s) (cs : List Char) :
    skipSpace (s ++ cs) = skipSpace cs := List.dropWhile_append_of_pos h

theorem exists_skipSpace (cs : List Char) : ∃ s, Space s ∧ cs = s ++ skipSpace cs :=
  ⟨cs.takeWhile isSpace, List.all_eq_true.1 List.all_takeWhile, List.takeWhile_append_dropWhile.symm⟩

theorem skipSpace_eq_nil_iff {cs : List Char} : skipSpace cs = [] ↔ Space cs :=
  List.dropWhile_eq_nil_iff

theorem exists_of_skipSpace {c : Char} {cs left : List Char} (h : skipSpace cs = c :: left) :
    ∃ s, Space s ∧ cs = s ++ c :: left := by
  obtain ⟨s, space, text⟩ := exists_skipSpace cs
  exact ⟨s, space, h ▸ text⟩

theorem MayFollow.ends {rest : List Char} (h : MayFollow rest) : Numeral.Ends rest := by
  intro c mem
  rcases h c mem with rfl | rfl | rfl <;> decide

/-- A number ends before space. -/
theorem Space.ends {s rest : List Char} (h : Space s) (ends : Numeral.Ends rest) :
    Numeral.Ends (s ++ rest) := by
  cases s with
  | nil => exact ends
  | cons c s =>
    intro d mem
    obtain rfl : c = d := Option.some.inj mem
    have space := h c List.mem_cons_self
    simp only [isSpace, Bool.or_eq_true, decide_eq_true_eq] at space
    rcases space with ((rfl | rfl) | rfl) | rfl <;> decide

/-! ## The grammar -/

/-- The parts of a text: values, the same with space around them, and what stands in lists and objects. -/
inductive Part where
  | value
  | item
  | items
  | member
  | members

/-- The words that are values. -/
def words : List (List Char) := [['n', 'u', 'l', 'l'], ['t', 'r', 'u', 'e'], ['f', 'a', 'l', 's', 'e']]

inductive Derives : Part → List Char → Prop
  | word {w} : w ∈ words → Derives .value w
  | number {n t} : Numeral.Literal n t → Derives .value t
  | string {ps k} : Glyphs ps k → Derives .value ('"' :: (k ++ ['"']))
  | noItems {s} : Space s → Derives .value ('[' :: (s ++ [']']))
  | list {t} : Derives .items t → Derives .value ('[' :: (t ++ [']']))
  | noMembers {s} : Space s → Derives .value ('{' :: (s ++ ['}']))
  | object {t} : Derives .members t → Derives .value ('{' :: (t ++ ['}']))
  | item {s v s'} : Space s → Derives .value v → Space s' → Derives .item (s ++ (v ++ s'))
  | lastItem {t} : Derives .item t → Derives .items t
  | moreItems {t t'} : Derives .item t → Derives .items t' → Derives .items (t ++ ',' :: t')
  | member {s ps k s' t} : Space s → Glyphs ps k → Space s' → Derives .item t →
      Derives .member (s ++ '"' :: (k ++ '"' :: (s' ++ ':' :: t)))
  | lastMember {t} : Derives .member t → Derives .members t
  | moreMembers {t t'} : Derives .member t → Derives .members t' → Derives .members (t ++ ',' :: t')

/-! ## Values are passed over -/

/-- The mark with which a number begins is none of those with which other values begin or end. -/
theorem number_mark {c : Char} (h : c = '-' ∨ Text.Decimal.isDigit c = true) :
    isSpace c = false ∧ c ∉ [']', '"', '[', '{', 'n', 't', 'f'] := by
  rcases h with rfl | digit
  · decide
  · refine ⟨Bool.eq_false_iff.2 fun space => ?_, fun mem => ?_⟩
    · simp only [isSpace, Bool.or_eq_true, decide_eq_true_eq] at space
      rcases space with ((rfl | rfl) | rfl) | rfl <;> exact absurd digit (by decide)
    · simp only [List.mem_cons, List.not_mem_nil, or_false] at mem
      rcases mem with rfl | rfl | rfl | rfl | rfl | rfl | rfl <;> exact absurd digit (by decide)

/-- A value begins with a mark of its own, which is neither space nor the end of a list. -/
theorem Derives.exists_cons {t : List Char} (h : Derives .value t) :
    ∃ c cs, t = c :: cs ∧ isSpace c = false ∧ c ≠ ']' := by
  cases h with
  | word mem =>
    simp only [words, List.mem_cons, List.not_mem_nil, or_false] at mem
    rcases mem with rfl | rfl | rfl <;> exact ⟨_, _, rfl, by decide, by decide⟩
  | number literal =>
    obtain ⟨c, cs, rfl, mark⟩ := literal.exists_cons
    have other := number_mark mark
    exact ⟨c, cs, rfl, other.1, fun same => other.2 (same ▸ List.mem_cons_self)⟩
  | string _ => exact ⟨_, _, rfl, by decide, by decide⟩
  | noItems _ => exact ⟨_, _, rfl, by decide, by decide⟩
  | list _ => exact ⟨_, _, rfl, by decide, by decide⟩
  | noMembers _ => exact ⟨_, _, rfl, by decide, by decide⟩
  | object _ => exact ⟨_, _, rfl, by decide, by decide⟩

/-- Items do not begin with the end of a list, nor members with that of an object. -/
theorem skipSpace_items {t : List Char} (h : Derives .items t) (rest : List Char) :
    ∃ c cs, skipSpace (t ++ rest) = c :: cs ∧ c ≠ ']' := by
  have item {t : List Char} (h : Derives .item t) (rest : List Char) :
      ∃ c cs, skipSpace (t ++ rest) = c :: cs ∧ c ≠ ']' := by
    cases h with
    | item before value _ =>
      obtain ⟨c, cs, rfl, space, other⟩ := value.exists_cons
      rw [List.append_assoc, skipSpace_append before, List.cons_append, List.cons_append,
        skipSpace_cons space]
      exact ⟨c, _, rfl, other⟩
  cases h with
  | lastItem h => exact item h rest
  | moreItems h _ =>
    rw [List.append_assoc]
    exact item h _

theorem skipSpace_members {t : List Char} (h : Derives .members t) (rest : List Char) :
    ∃ cs, skipSpace (t ++ rest) = '"' :: cs := by
  have member {t : List Char} (h : Derives .member t) (rest : List Char) :
      ∃ cs, skipSpace (t ++ rest) = '"' :: cs := by
    cases h with
    | member before _ _ _ =>
      rw [List.append_assoc, skipSpace_append before, List.cons_append]
      exact ⟨_, rfl⟩
  cases h with
  | lastMember h => exact member h rest
  | moreMembers h _ =>
    rw [List.append_assoc]
    exact member h _

/-- How a part is passed over that is followed by the rest. -/
def PassedOver : Part → List Char → Prop
  | .value, t => ∀ fuel s rest, Space s → Numeral.Ends rest → t.length < fuel →
      skipValue fuel (s ++ (t ++ rest)) = some rest
  | .item, t => ∀ fuel rest, MayFollow rest → t.length < fuel →
      ∃ s, Space s ∧ skipValue fuel (t ++ rest) = some (s ++ rest)
  | .items, t => ∀ fuel rest, t.length + 1 < fuel → skipItems fuel (t ++ ']' :: rest) = some rest
  | .member, t => ∀ fuel rest, t.length < fuel →
      skipMembers (fuel + 1) (t ++ ',' :: rest) = skipMembers fuel rest ∧
        skipMembers (fuel + 1) (t ++ '}' :: rest) = some rest
  | .members, t => ∀ fuel rest, t.length + 1 < fuel → skipMembers fuel (t ++ '}' :: rest) = some rest

theorem mayFollow_cons {c : Char} (h : c = ',' ∨ c = ']' ∨ c = '}') (rest : List Char) :
    MayFollow (c :: rest) := by
  simpa [MayFollow] using h

theorem passedOver_list {t : List Char} (items : Derives .items t) (ih : PassedOver .items t) :
    PassedOver .value ('[' :: (t ++ [']'])) := by
  intro fuel s rest space _ enough
  obtain ⟨fuel, rfl⟩ := exists_fuel enough
  simp only [List.length_cons, List.length_append, List.length_nil] at enough
  have text : '[' :: (t ++ [']']) ++ rest = '[' :: (t ++ ']' :: rest) := by simp
  obtain ⟨c, cs, first, other⟩ := skipSpace_items items (']' :: rest)
  simp only [skipValue, skipSpace_append space, text, skipSpace_mark, first]
  split
  · rename_i same
    exact absurd (List.cons.inj same).1 other
  · exact ih fuel rest (by omega)

theorem passedOver_object {t : List Char} (members : Derives .members t) (ih : PassedOver .members t) :
    PassedOver .value ('{' :: (t ++ ['}'])) := by
  intro fuel s rest space _ enough
  obtain ⟨fuel, rfl⟩ := exists_fuel enough
  simp only [List.length_cons, List.length_append, List.length_nil] at enough
  have text : '{' :: (t ++ ['}']) ++ rest = '{' :: (t ++ '}' :: rest) := by simp
  obtain ⟨cs, first⟩ := skipSpace_members members ('}' :: rest)
  simp only [skipValue, skipSpace_append space, text, skipSpace_mark, first]
  exact ih fuel rest (by omega)

theorem passedOver_number {n : Numeral} {t : List Char} (h : Numeral.Literal n t) : PassedOver .value t := by
  intro fuel s rest space ends enough
  obtain ⟨fuel, rfl⟩ := exists_fuel enough
  have scanned := Numeral.scan_append h ends
  obtain ⟨c, cs, rfl, mark⟩ := h.exists_cons
  obtain ⟨mark, other⟩ := number_mark mark
  simp only [List.mem_cons, List.not_mem_nil, or_false, not_or] at other
  rw [skipValue, skipSpace_append space, List.cons_append, skipSpace_cons mark]
  rw [List.cons_append] at scanned
  -- A literal begins with a digit or a minus sign, which is the mark of no other value.
  split <;> simp_all

theorem passedOver_word {w : List Char} (mem : w ∈ words) : PassedOver .value w := by
  intro fuel s rest space _ enough
  obtain ⟨fuel, rfl⟩ := exists_fuel enough
  rw [skipValue, skipSpace_append space]
  simp only [words, List.mem_cons, List.not_mem_nil, or_false] at mem
  rcases mem with rfl | rfl | rfl <;> rfl

theorem passedOver_string {ps : List Piece} {k : List Char} (glyphs : Glyphs ps k) :
    PassedOver .value ('"' :: (k ++ ['"'])) := by
  intro fuel s rest space _ enough
  obtain ⟨fuel, rfl⟩ := exists_fuel enough
  have text : '"' :: (k ++ ['"']) ++ rest = '"' :: (k ++ '"' :: rest) := by simp
  simp only [skipValue, skipSpace_append space, text, skipSpace_mark, scanQuoted_of_glyphs glyphs]
  rfl

theorem passedOver_nothing {inner : List Char} (h : Space inner) :
    PassedOver .value ('[' :: (inner ++ [']'])) ∧ PassedOver .value ('{' :: (inner ++ ['}'])) := by
  have closed (c : Char) (rest : List Char) (other : isSpace c = false) :
      skipSpace (inner ++ c :: rest) = c :: rest := by
    rw [skipSpace_append h, skipSpace_cons other]
  constructor <;> intro fuel s rest space _ enough <;>
    obtain ⟨fuel, rfl⟩ := exists_fuel enough
  · have text : '[' :: (inner ++ [']']) ++ rest = '[' :: (inner ++ ']' :: rest) := by simp
    simp only [skipValue, skipSpace_append space, text, skipSpace_mark, closed ']' rest (by decide)]
  · have text : '{' :: (inner ++ ['}']) ++ rest = '{' :: (inner ++ '}' :: rest) := by simp
    simp only [skipValue, skipSpace_append space, text, skipSpace_mark, closed '}' rest (by decide)]

theorem passedOver_member {s k s' t : List Char} {ps : List Piece} (before : Space s)
    (glyphs : Glyphs ps k) (between : Space s') (ih : PassedOver .item t) :
    PassedOver .member (s ++ '"' :: (k ++ '"' :: (s' ++ ':' :: t))) := by
  intro fuel rest enough
  simp only [List.length_append, List.length_cons] at enough
  have text (rest : List Char) : s ++ '"' :: (k ++ '"' :: (s' ++ ':' :: t)) ++ rest =
      s ++ '"' :: (k ++ '"' :: (s' ++ ':' :: (t ++ rest))) := by simp
  constructor
  · obtain ⟨after, space, value⟩ := ih fuel (',' :: rest) (mayFollow_cons (by simp) _) (by omega)
    simp only [text, skipMembers, skipSpace_append before, scanQuoted_of_glyphs glyphs,
      Option.bind_eq_bind, Option.bind_some, skipSpace_append between, value, skipSpace_append space,
      skipSpace_mark]
  · obtain ⟨after, space, value⟩ := ih fuel ('}' :: rest) (mayFollow_cons (by simp) _) (by omega)
    simp only [text, skipMembers, skipSpace_append before, scanQuoted_of_glyphs glyphs,
      Option.bind_eq_bind, Option.bind_some, skipSpace_append between, value, skipSpace_append space,
      skipSpace_mark]

theorem Derives.passedOver {part : Part} {t : List Char} (h : Derives part t) : PassedOver part t := by
  -- Fuel is spent where a mark is passed, and once on the last item or member: hence one more for these.
  induction h with
  | word mem => exact passedOver_word mem
  | number literal => exact passedOver_number literal
  | string glyphs => exact passedOver_string glyphs
  | noItems space => exact (passedOver_nothing space).1
  | list items ih => exact passedOver_list items ih
  | noMembers space => exact (passedOver_nothing space).2
  | object members ih => exact passedOver_object members ih
  | @item s v s' before _ after ih =>
    intro fuel rest follow enough
    simp only [List.length_append] at enough
    refine ⟨s', after, ?_⟩
    rw [List.append_assoc, List.append_assoc]
    exact ih fuel s _ before (after.ends follow.ends) (by omega)
  | @lastItem t _ ih =>
    intro fuel rest enough
    obtain ⟨fuel, rfl⟩ := exists_fuel enough
    obtain ⟨s, space, value⟩ := ih fuel (']' :: rest) (mayFollow_cons (by simp) _) (by omega)
    simp only [skipItems, value, Option.bind_eq_bind, Option.bind_some, skipSpace_append space,
      skipSpace_mark]
  | @moreItems t t' _ _ ih ih' =>
    intro fuel rest enough
    obtain ⟨fuel, rfl⟩ := exists_fuel enough
    simp only [List.length_append, List.length_cons] at enough
    obtain ⟨s, space, value⟩ :=
      ih fuel (',' :: (t' ++ ']' :: rest)) (mayFollow_cons (by simp) _) (by omega)
    rw [List.append_assoc, List.cons_append]
    simp only [skipItems, value, Option.bind_eq_bind, Option.bind_some, skipSpace_append space,
      skipSpace_mark]
    exact ih' fuel rest (by omega)
  | member before glyphs between _ ih => exact passedOver_member before glyphs between ih
  | @lastMember t _ ih =>
    intro fuel rest enough
    obtain ⟨fuel, rfl⟩ := exists_fuel enough
    exact (ih fuel rest (by omega)).2
  | @moreMembers t t' _ _ ih ih' =>
    intro fuel rest enough
    obtain ⟨fuel, rfl⟩ := exists_fuel enough
    simp only [List.length_append, List.length_cons] at enough
    rw [List.append_assoc, List.cons_append]
    exact (ih fuel (t' ++ '}' :: rest) (by omega)).1.trans (ih' fuel rest (by omega))

/-- A value with space before it is passed over, whatever its size and depth. -/
theorem skip_append {s t rest : List Char} (space : Space s) (h : Derives .value t)
    (ends : Numeral.Ends rest) : skip (s ++ (t ++ rest)) = some rest := by
  refine h.passedOver _ s rest space ends ?_
  simp only [List.length_append]
  omega

/-! ## What is passed over is a value -/

/-- With this much fuel, what is passed over are values, items and members. -/
structure PassesOver (fuel : Nat) : Prop where
  value {cs rest : List Char} : skipValue fuel cs = some rest →
    ∃ s t, Space s ∧ Derives .value t ∧ cs = s ++ (t ++ rest)
  items {cs rest : List Char} : skipItems fuel cs = some rest →
    ∃ t, Derives .items t ∧ cs = t ++ ']' :: rest
  members {cs rest : List Char} : skipMembers fuel cs = some rest →
    ∃ t, Derives .members t ∧ cs = t ++ '}' :: rest

section

variable {fuel : Nat} {cs rest : List Char}

theorem derives_word {c : Char} {w left : List Char} (mem : c :: w ∈ words)
    (h : skipWord w left = some rest) : ∃ t, Derives .value t ∧ c :: left = t ++ rest :=
  ⟨c :: w, .word mem, by rw [skipWord_eq_some_iff.1 h, List.cons_append]⟩

theorem derives_of_skipValue (ih : PassesOver fuel) (h : skipValue (fuel + 1) cs = some rest) :
    ∃ s t, Space s ∧ Derives .value t ∧ cs = s ++ (t ++ rest) := by
  obtain ⟨s, space, text⟩ := exists_skipSpace cs
  suffices value : ∃ t, Derives .value t ∧ skipSpace cs = t ++ rest by
    obtain ⟨t, derives, value⟩ := value
    exact ⟨s, t, space, derives, value ▸ text⟩
  unfold skipValue at h
  split at h
  · rename_i inner quoted
    obtain ⟨⟨ps, left⟩, scanned, rfl⟩ := Option.map_eq_some_iff.1 h
    obtain ⟨k, glyphs, rfl⟩ := scanQuoted_iff.1 scanned
    exact ⟨_, .string glyphs, by simp [quoted]⟩
  · rename_i inner bracket
    split at h
    · rename_i left closed
      cases h
      obtain ⟨s, nothing, rfl⟩ := exists_of_skipSpace closed
      exact ⟨_, .noItems nothing, by simp [bracket]⟩
    · obtain ⟨t, items, rfl⟩ := ih.items h
      exact ⟨_, .list items, by simp [bracket]⟩
  · rename_i inner brace
    split at h
    · rename_i left closed
      cases h
      obtain ⟨s, nothing, rfl⟩ := exists_of_skipSpace closed
      exact ⟨_, .noMembers nothing, by simp [brace]⟩
    · obtain ⟨t, members, rfl⟩ := ih.members h
      exact ⟨_, .object members, by simp [brace]⟩
  · rename_i left first
    rw [first]
    exact derives_word (by simp [words]) h
  · rename_i left first
    rw [first]
    exact derives_word (by simp [words]) h
  · rename_i left first
    rw [first]
    exact derives_word (by simp [words]) h
  · obtain ⟨⟨n, left⟩, scanned, rfl⟩ := Option.map_eq_some_iff.1 h
    obtain ⟨t, literal, text⟩ := Numeral.literal_of_scan scanned
    exact ⟨t, .number literal, text⟩

/-- A value that was passed over, with the space around it. -/
theorem derives_item (ih : PassesOver fuel) {left : List Char} {c : Char}
    (h : skipValue fuel cs = some left) (ends : skipSpace left = c :: rest) :
    ∃ t, Derives .item t ∧ cs = t ++ c :: rest := by
  obtain ⟨s, t, before, value, rfl⟩ := ih.value h
  obtain ⟨s', after, rfl⟩ := exists_of_skipSpace ends
  exact ⟨_, .item before value after, by simp⟩

theorem derives_of_skipItems (ih : PassesOver fuel) (h : skipItems (fuel + 1) cs = some rest) :
    ∃ t, Derives .items t ∧ cs = t ++ ']' :: rest := by
  unfold skipItems at h
  obtain ⟨left, value, next⟩ := Option.bind_eq_some_iff.1 h
  split at next
  · rename_i comma
    obtain ⟨t, item, rfl⟩ := derives_item ih value comma
    obtain ⟨t', items, rfl⟩ := ih.items next
    exact ⟨_, .moreItems item items, by simp⟩
  · rename_i closed
    cases next
    obtain ⟨t, item, rfl⟩ := derives_item ih value closed
    exact ⟨t, .lastItem item, rfl⟩
  · cases next

theorem derives_of_skipMembers (ih : PassesOver fuel) (h : skipMembers (fuel + 1) cs = some rest) :
    ∃ t, Derives .members t ∧ cs = t ++ '}' :: rest := by
  unfold skipMembers at h
  split at h
  · rename_i inner quoted
    obtain ⟨s, before, rfl⟩ := exists_of_skipSpace quoted
    obtain ⟨⟨ps, after⟩, scanned, named⟩ := Option.bind_eq_some_iff.1 h
    obtain ⟨k, glyphs, rfl⟩ := scanQuoted_iff.1 scanned
    dsimp only at named
    split at named
    · rename_i left colon
      obtain ⟨s', between, rfl⟩ := exists_of_skipSpace colon
      obtain ⟨left', value, next⟩ := Option.bind_eq_some_iff.1 named
      split at next
      · rename_i comma
        obtain ⟨t, item, rfl⟩ := derives_item ih value comma
        obtain ⟨t', members, rfl⟩ := ih.members next
        exact ⟨_, .moreMembers (.member before glyphs between item) members, by simp⟩
      · rename_i closed
        cases next
        obtain ⟨t, item, rfl⟩ := derives_item ih value closed
        exact ⟨_, .lastMember (.member before glyphs between item), by simp⟩
      · cases next
    · cases named
  · cases h

end

theorem passesOver (fuel : Nat) : PassesOver fuel := by
  induction fuel with
  | zero =>
    constructor <;> intro cs rest h
    · rw [skipValue] at h
      cases h
    · rw [skipItems] at h
      cases h
    · rw [skipMembers] at h
      cases h
  | succ fuel ih => exact ⟨derives_of_skipValue ih, derives_of_skipItems ih, derives_of_skipMembers ih⟩

theorem skip_eq_some {cs rest : List Char} (h : skip cs = some rest) :
    ∃ s t, Space s ∧ Derives .value t ∧ cs = s ++ (t ++ rest) := (passesOver _).value h

end GuessingRoom.Json
