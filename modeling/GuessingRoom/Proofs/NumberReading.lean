import Mathlib.Data.List.TakeWhile
import GuessingRoom.Proofs.Digits
import GuessingRoom.Text.Blank

/-!
# How numbers are read

What is left of a text without the white space around it (`Text.trim_eq_iff`), which texts are numerals and
of which number (`Text.Decimal.readAtMost_eq_ok_iff`), and what is wrong with the others
(`Text.Decimal.readAtMost_eq_error_iff`).
-/

namespace GuessingRoom.Text

/-! ## White space around a text -/

/-- The text is what stands between white space in the raw one, and there is none at its ends. -/
structure Trims (raw text : List Char) : Prop where
  around : ∃ before after, raw = before ++ (text ++ after) ∧ (∀ c ∈ before, isBlank c = true) ∧
    ∀ c ∈ after, isBlank c = true
  first : ∀ c ∈ text.head?, isBlank c = false
  last : ∀ c ∈ text.getLast?, isBlank c = false

theorem trimStart_append {before text : List Char} (blank : ∀ c ∈ before, isBlank c = true)
    (first : ∀ c ∈ text.head?, isBlank c = false) : trimStart (before ++ text) = text := by
  rw [trimStart, List.dropWhile_append_of_pos blank]
  cases text with
  | nil => rfl
  | cons c text => rw [List.dropWhile_cons_of_neg (by simp [first c rfl])]

theorem exists_of_trimStart (cs : List Char) :
    (∃ before, cs = before ++ trimStart cs ∧ ∀ c ∈ before, isBlank c = true) ∧
      ∀ c ∈ (trimStart cs).head?, isBlank c = false := by
  refine ⟨⟨cs.takeWhile isBlank, List.takeWhile_append_dropWhile.symm, ?_⟩, fun c mem => ?_⟩
  · exact List.all_eq_true.1 List.all_takeWhile
  · have := List.head?_dropWhile_not isBlank cs
    rw [show (cs.dropWhile isBlank).head? = some c from mem] at this
    simpa using this

theorem trim_eq_iff {raw text : List Char} : trim raw = text ↔ Trims raw text := by
  constructor
  · rintro rfl
    obtain ⟨⟨before, front, blank⟩, first⟩ := exists_of_trimStart raw
    obtain ⟨⟨after, back, blank'⟩, last⟩ := exists_of_trimStart (trimStart raw).reverse
    have back : trimStart raw = trim raw ++ after.reverse := by
      rw [← List.reverse_reverse (trimStart raw), back, List.reverse_append]
      rfl
    refine ⟨⟨before, after.reverse, ?_, blank, fun c mem => blank' c (List.mem_reverse.1 mem)⟩,
      fun c mem => first c ?_, fun c mem => last c ?_⟩
    · rw [← back]
      exact front
    · rw [back, List.head?_append, mem]
      rfl
    · rw [trim, trimEnd, List.getLast?_reverse] at mem
      exact mem
  · rintro ⟨⟨before, after, rfl, blank, blank'⟩, first, last⟩
    obtain rfl | ne := eq_or_ne text []
    · -- All of the raw text is blank, and it goes from the front.
      have all : ∀ c ∈ before ++ after, isBlank c = true := by
        simpa [or_imp, forall_and] using ⟨blank, blank'⟩
      have none : trimStart (before ++ after ++ []) = [] := trimStart_append all (by simp)
      rw [List.append_nil] at none
      rw [List.nil_append, trim, none]
      rfl
    · have front : ∀ c ∈ (text ++ after).head?, isBlank c = false := by
        rwa [List.head?_append_of_ne_nil _ ne]
      rw [trim, trimStart_append blank front, trimEnd, List.reverse_append,
        trimStart_append (fun c mem => blank' c (List.mem_reverse.1 mem)) ?_, List.reverse_reverse]
      rwa [List.head?_reverse]

end GuessingRoom.Text

namespace GuessingRoom.Text.Decimal

/-! ## Runs of digits -/

/-- The text without the plus sign that it may begin with. -/
def unsigned : List Char → List Char
  | '+' :: ds => ds
  | ds => ds

/-- A numeral of the number: one or more digits, after a plus sign or without one. -/
structure IsNumeral (n : Nat) (text : List Char) : Prop where
  nonempty : unsigned text ≠ []
  digits : ∀ c ∈ unsigned text, isDigit c = true
  value_eq : value (unsigned text) = n

/-- What is wrong with a text that is no numeral of a number up to `max`: there is nothing, or no digit after
the sign; or its first character that is no digit, or takes the number past `max`. -/
def Misspells (max : Nat) (text : List Char) : NumeralFault → Prop
  | .empty => text = []
  | .invalidDigit => text = ['+'] ∨ ∃ ds c rest, unsigned text = ds ++ c :: rest ∧
      (∀ d ∈ ds, isDigit d = true) ∧ value ds ≤ max ∧ isDigit c = false
  | .tooLarge => ∃ ds rest, unsigned text = ds ++ rest ∧ (∀ d ∈ ds, isDigit d = true) ∧ max < value ds

theorem valueFrom_cons (acc : Nat) (d : Char) (ds : List Char) :
    valueFrom acc (d :: ds) = valueFrom (10 * acc + digitValue d) ds := by
  unfold valueFrom
  rw [List.foldl_cons]

theorem le_valueFrom (acc : Nat) (ds : List Char) : acc ≤ valueFrom acc ds := by
  induction ds generalizing acc with
  | nil => exact le_rfl
  | cons d ds ih =>
    have := ih (10 * acc + digitValue d)
    rw [valueFrom_cons]
    omega

section

variable {max acc n : Nat} {d : Char} {ds : List Char}

theorem readDigits_cons_of_digit (digit : isDigit d = true) : readDigits max acc (d :: ds) =
    if 10 * acc + digitValue d ≤ max then readDigits max (10 * acc + digitValue d) ds
    else .error .tooLarge := by
  rw [readDigits, if_pos digit]

theorem readDigits_cons_of_not_digit (other : isDigit d = false) :
    readDigits max acc (d :: ds) = .error .invalidDigit := by
  rw [readDigits, if_neg (by simp [other])]

/-- The bound is kept on the way if it is kept at the end. -/
theorem readDigits_eq_ok_iff (within : acc ≤ max) :
    readDigits max acc ds = .ok n ↔
      (∀ c ∈ ds, isDigit c = true) ∧ valueFrom acc ds = n ∧ n ≤ max := by
  induction ds generalizing acc with
  | nil =>
    simp only [readDigits, Except.ok.injEq, List.not_mem_nil, false_imp_iff, implies_true, true_and,
      valueFrom, List.foldl_nil]
    exact ⟨fun same => ⟨same, same ▸ within⟩, And.left⟩
  | cons d ds ih =>
    rw [List.forall_mem_cons, valueFrom_cons]
    cases digit : isDigit d with
    | false => simp [readDigits_cons_of_not_digit digit]
    | true =>
      rw [readDigits_cons_of_digit digit]
      split
      · rename_i small
        rw [ih small]
        simp only [true_and]
      · rename_i large
        have le := le_valueFrom (10 * acc + digitValue d) ds
        simp only [reduceCtorEq, false_iff]
        rintro ⟨-, rfl, bound⟩
        exact large (le.trans bound)

theorem readDigits_ne_empty : readDigits max acc ds ≠ .error .empty := by
  induction ds generalizing acc with
  | nil => simp [readDigits]
  | cons d ds ih =>
    rw [readDigits]
    split
    · dsimp only
      split
      · exact ih
      · simp
    · simp

/-- The first digits take the number past the bound, whatever comes after them. -/
theorem readDigits_eq_tooLarge_iff (within : acc ≤ max) :
    readDigits max acc ds = .error .tooLarge ↔
      ∃ front rest, ds = front ++ rest ∧ (∀ c ∈ front, isDigit c = true) ∧ max < valueFrom acc front := by
  induction ds generalizing acc with
  | nil =>
    simp only [readDigits, reduceCtorEq, false_iff]
    rintro ⟨front, rest, eq, -, past⟩
    rw [(List.append_eq_nil_iff.1 eq.symm).1] at past
    exact absurd past (not_lt.2 within)
  | cons d ds ih =>
    constructor
    · intro h
      cases digit : isDigit d with
      | false => simp [readDigits_cons_of_not_digit digit] at h
      | true =>
        rw [readDigits_cons_of_digit digit] at h
        split at h
        · rename_i small
          obtain ⟨front, rest, rfl, digits, past⟩ := (ih small).1 h
          exact ⟨d :: front, rest, rfl, List.forall_mem_cons.2 ⟨digit, digits⟩, past⟩
        · rename_i large
          exact ⟨[d], ds, rfl, by simp [digit], not_le.1 large⟩
    · rintro ⟨_ | ⟨d', front⟩, rest, eq, digits, past⟩
      · exact absurd past (not_lt.2 within)
      · obtain ⟨rfl, rfl⟩ := List.cons.inj eq
        rw [List.forall_mem_cons] at digits
        rw [readDigits_cons_of_digit digits.1]
        split
        · rename_i small
          exact (ih small).2 ⟨front, rest, rfl, digits.2, past⟩
        · rfl

/-- Digits within the bound come first, and then something else. -/
theorem readDigits_eq_invalidDigit_iff (within : acc ≤ max) :
    readDigits max acc ds = .error .invalidDigit ↔
      ∃ front c rest, ds = front ++ c :: rest ∧ (∀ c ∈ front, isDigit c = true) ∧
        valueFrom acc front ≤ max ∧ isDigit c = false := by
  induction ds generalizing acc with
  | nil => simp [readDigits]
  | cons d ds ih =>
    constructor
    · intro h
      cases digit : isDigit d with
      | false => exact ⟨[], d, ds, rfl, by simp, within, digit⟩
      | true =>
        rw [readDigits_cons_of_digit digit] at h
        split at h
        · rename_i small
          obtain ⟨front, c, rest, rfl, digits, bound, other⟩ := (ih small).1 h
          exact ⟨d :: front, c, rest, rfl, List.forall_mem_cons.2 ⟨digit, digits⟩, bound, other⟩
        · simp at h
    · rintro ⟨_ | ⟨d', front⟩, c, rest, eq, digits, bound, other⟩
      · obtain ⟨rfl, rfl⟩ := List.cons.inj eq
        exact readDigits_cons_of_not_digit other
      · obtain ⟨rfl, rfl⟩ := List.cons.inj eq
        rw [List.forall_mem_cons] at digits
        have small : 10 * acc + digitValue d ≤ max := (le_valueFrom _ front).trans bound
        rw [readDigits_cons_of_digit digits.1, if_pos small]
        exact (ih small).2 ⟨front, c, rest, rfl, digits.2, bound, other⟩

end

/-! ## Whole texts -/

theorem unsigned_eq_nil_iff {text : List Char} : unsigned text = [] ↔ text = [] ∨ text = ['+'] := by
  unfold unsigned
  split <;> simp_all

theorem readAtMost_of_unsigned {max : Nat} {text : List Char} (ne : unsigned text ≠ []) :
    readAtMost max text = readDigits max 0 (unsigned text) := by
  unfold unsigned at ne ⊢
  unfold readAtMost
  split <;> simp_all

theorem readAtMost_eq_ok_iff {max n : Nat} {text : List Char} :
    readAtMost max text = .ok n ↔ IsNumeral n text ∧ n ≤ max := by
  by_cases ne : unsigned text = []
  · have refused : ¬ IsNumeral n text := fun numeral => numeral.nonempty ne
    rcases unsigned_eq_nil_iff.1 ne with rfl | rfl <;> simp [readAtMost, refused]
  · rw [readAtMost_of_unsigned ne, readDigits_eq_ok_iff max.zero_le]
    exact ⟨fun ⟨digits, val, bound⟩ => ⟨⟨ne, digits, val⟩, bound⟩,
      fun ⟨numeral, bound⟩ => ⟨numeral.digits, numeral.value_eq, bound⟩⟩

theorem readAtMost_eq_error_iff {max : Nat} {text : List Char} {fault : NumeralFault} :
    readAtMost max text = .error fault ↔ Misspells max text fault := by
  by_cases ne : unsigned text = []
  · rcases unsigned_eq_nil_iff.1 ne with rfl | rfl <;> cases fault <;>
      simp [readAtMost, Misspells, unsigned, value, valueFrom]
  · obtain ⟨text_ne, plus_ne⟩ := not_or.1 (mt unsigned_eq_nil_iff.2 ne)
    rw [readAtMost_of_unsigned ne]
    cases fault with
    | empty => exact iff_of_false readDigits_ne_empty text_ne
    | invalidDigit =>
      rw [readDigits_eq_invalidDigit_iff max.zero_le]
      exact ⟨.inr, fun h => h.resolve_left plus_ne⟩
    | tooLarge => exact readDigits_eq_tooLarge_iff max.zero_le

end GuessingRoom.Text.Decimal
