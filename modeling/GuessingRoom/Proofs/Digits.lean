import Mathlib.Data.String.Basic
import GuessingRoom.Text.Decimal

/-!
# Digits

What is written of a number has its value (`Text.Decimal.value_write`), and to a fixed width that of its
last digits (`Text.Decimal.value_writeFixed`). Numerals of one width come in the order of their numbers.
-/

namespace GuessingRoom

/-- Texts whose beginnings are of one length are compared by these first. -/
theorem append_lt_append_iff {a b c d : List Char} (h : a.length = b.length) :
    a ++ c < b ++ d ↔ a < b ∨ a = b ∧ c < d := by
  induction a generalizing b with
  | nil =>
    rw [List.length_nil, eq_comm, List.length_eq_zero_iff] at h
    subst h
    simp
  | cons x a ih =>
    cases b with
    | nil => cases h
    | cons y b =>
      simp only [List.cons_append, List.cons_lt_cons_iff, ih (Nat.succ.inj h), List.cons.injEq]
      tauto

namespace Text.Decimal

theorem isDigit_digitChar (d : Nat) : isDigit (digitChar d) = true := by
  have all : ∀ k < 10, isDigit (Char.ofNat (48 + k)) = true := by decide
  exact all _ (Nat.mod_lt _ (by decide))

theorem digitValue_digitChar (d : Nat) : digitValue (digitChar d) = d % 10 := by
  have all : ∀ k < 10, digitValue (Char.ofNat (48 + k)) = k := by decide
  exact all _ (Nat.mod_lt _ (by decide))

theorem digitChar_lt_digitChar {d e : Nat} : digitChar d < digitChar e ↔ d % 10 < e % 10 := by
  have all : ∀ j < 10, ∀ k < 10, Char.ofNat (48 + j) < Char.ofNat (48 + k) ↔ j < k := by decide
  exact all _ (Nat.mod_lt _ (by decide)) _ (Nat.mod_lt _ (by decide))

theorem digitChar_eq_zero_iff {d : Nat} : digitChar d = '0' ↔ d % 10 = 0 := by
  have all : ∀ k < 10, Char.ofNat (48 + k) = '0' ↔ k = 0 := by decide
  exact all _ (Nat.mod_lt _ (by decide))

/-- A digit is in a range of characters, so that a character outside of it is none. -/
theorem isDigit_iff {c : Char} : isDigit c = true ↔ 48 ≤ c.toNat ∧ c.toNat ≤ 57 := by
  simp only [isDigit, Bool.and_eq_true, decide_eq_true_eq, Char.le_def, UInt32.le_iff_toNat_le]
  rfl

theorem value_append_digit (ds : List Char) (d : Nat) :
    value (ds ++ [digitChar d]) = 10 * value ds + d % 10 := by
  rw [← digitValue_digitChar]
  simp only [value, valueFrom, List.foldl_append, List.foldl_cons, List.foldl_nil]

/-! ## Runs of digits -/

/-- The text does not go on with a digit. -/
def NoDigit (rest : List Char) : Prop := ∀ c ∈ rest.head?, isDigit c = false

theorem noDigit_nil : NoDigit [] := by simp [NoDigit]

theorem noDigit_cons {c : Char} {rest : List Char} (h : isDigit c = false) : NoDigit (c :: rest) := by
  simpa [NoDigit] using h

variable {ds rest : List Char}

theorem takeWhile_isDigit (digits : ∀ c ∈ ds, isDigit c = true) (stop : NoDigit rest) :
    (ds ++ rest).takeWhile isDigit = ds := by
  rw [List.takeWhile_append_of_pos digits]
  cases rest with
  | nil => simp
  | cons c rest => simp [show isDigit c = false by simpa [NoDigit] using stop]

theorem dropWhile_isDigit (digits : ∀ c ∈ ds, isDigit c = true) (stop : NoDigit rest) :
    (ds ++ rest).dropWhile isDigit = rest := by
  rw [List.dropWhile_append_of_pos digits]
  cases rest with
  | nil => simp
  | cons c rest => simp [show isDigit c = false by simpa [NoDigit] using stop]

/-! ## Numerals without leading zeros -/

theorem isDigit_of_mem_write {n : Nat} {c : Char} (h : c ∈ write n) : isDigit c = true := by
  fun_induction write n with
  | case1 n => rw [List.mem_singleton.1 h, isDigit_digitChar]
  | case2 n _ ih =>
    rcases List.mem_append.1 h with h | h
    · exact ih h
    · rw [List.mem_singleton.1 h, isDigit_digitChar]

theorem value_write (n : Nat) : value (write n) = n := by
  fun_induction write n with
  | case1 n small =>
    have := value_append_digit [] n
    rw [List.nil_append] at this
    rw [this]
    simp only [value, valueFrom, List.foldl_nil]
    omega
  | case2 n _ ih =>
    rw [value_append_digit, ih]
    omega

theorem write_ne_nil (n : Nat) : write n ≠ [] := by
  rw [write]
  split <;> simp

/-- Only the numeral of zero begins with a zero. -/
theorem head?_write_ne_zero {n : Nat} (pos : 0 < n) : (write n).head? ≠ some '0' := by
  fun_induction write n with
  | case1 n small =>
    rw [List.head?_cons, ne_eq, Option.some.injEq, digitChar_eq_zero_iff]
    omega
  | case2 n large ih =>
    rw [List.head?_append_of_ne_nil _ (write_ne_nil _)]
    exact ih (by omega)

/-! ## Numerals of a fixed width -/

theorem isDigit_of_mem_writeFixed {width n : Nat} {c : Char} (h : c ∈ writeFixed width n) :
    isDigit c = true := by
  induction width generalizing n with
  | zero => exact absurd h List.not_mem_nil
  | succ width ih =>
    rw [writeFixed, List.mem_append, List.mem_singleton] at h
    rcases h with h | rfl
    · exact ih h
    · exact isDigit_digitChar n

theorem value_writeFixed (width n : Nat) : value (writeFixed width n) = n % 10 ^ width := by
  induction width generalizing n with
  | zero => simp [writeFixed, value, valueFrom, Nat.mod_one]
  | succ width ih =>
    rw [writeFixed, value_append_digit, ih, Nat.pow_succ', Nat.mod_mul]
    omega

theorem writeFixed_append (v w n : Nat) :
    writeFixed (v + w) n = writeFixed v (n / 10 ^ w) ++ writeFixed w n := by
  induction w generalizing n with
  | zero => simp [writeFixed]
  | succ w ih =>
    rw [← Nat.add_assoc, writeFixed, writeFixed, ih, List.append_assoc, Nat.div_div_eq_div_mul,
      ← Nat.pow_succ']

theorem writeFixed_inj {width m n : Nat} (hm : m < 10 ^ width) (hn : n < 10 ^ width) :
    writeFixed width m = writeFixed width n ↔ m = n := by
  refine ⟨fun h => ?_, fun h => by rw [h]⟩
  have := congrArg value h
  rwa [value_writeFixed, value_writeFixed, Nat.mod_eq_of_lt hm, Nat.mod_eq_of_lt hn] at this

/-- Numerals of one length come in the order of their numbers. -/
theorem writeFixed_lt_writeFixed {width m n : Nat} (hm : m < 10 ^ width) (hn : n < 10 ^ width) :
    writeFixed width m < writeFixed width n ↔ m < n := by
  induction width generalizing m n with
  | zero =>
    rw [Nat.pow_zero, Nat.lt_one_iff] at hm hn
    simp [writeFixed, hm, hn]
  | succ width ih =>
    rw [Nat.pow_succ] at hm hn
    have hm' : m / 10 < 10 ^ width := by omega
    have hn' : n / 10 < 10 ^ width := by omega
    rw [writeFixed, writeFixed, append_lt_append_iff (by simp only [length_writeFixed]), ih hm' hn',
      writeFixed_inj hm' hn', List.cons_lt_cons_iff, digitChar_lt_digitChar]
    simp only [List.not_lt_nil, and_false, or_false]
    omega

end Text.Decimal

end GuessingRoom
