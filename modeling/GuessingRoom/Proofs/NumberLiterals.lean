import GuessingRoom.Json.Numeral
import GuessingRoom.Proofs.Digits

/-!
# The grammar of number literals

A number literal has a whole part without leading zeros, a fraction of one digit or more, and an exponent
with or without a sign, the last two optional. Scanning finds the literals of this grammar and no others
(`Json.Numeral.scan_append`, `Json.Numeral.literal_of_scan`).
-/

namespace GuessingRoom.Json.Numeral

open Text.Decimal

/-! ## The grammar -/

/-- One or more digits. -/
def Digits (ds : List Char) : Prop := ds ≠ [] ∧ ∀ c ∈ ds, isDigit c = true

/-- Digits of which a zero is the first only if it is the only one. -/
def Whole (ds : List Char) : Prop := Digits ds ∧ (ds.head? = some '0' → ds = ['0'])

inductive Fraction : Option (List Char) → List Char → Prop
  | none : Fraction none []
  | some {ds : List Char} : Digits ds → Fraction (some ds) ('.' :: ds)

/-- The sign of an exponent, of which a plus may be left out. -/
inductive Sign : Bool → List Char → Prop
  | absent : Sign false []
  | plus : Sign false ['+']
  | minus : Sign true ['-']

inductive Exponent : Option (Bool × List Char) → List Char → Prop
  | none : Exponent none []
  | some {e : Char} {negative : Bool} {sign ds : List Char} : e = 'e' ∨ e = 'E' → Sign negative sign →
      Digits ds → Exponent (some (negative, ds)) (e :: (sign ++ ds))

/-- The texts of a number literal. -/
inductive Literal : Numeral → List Char → Prop
  | positive {whole fraction exponent f e} : Whole whole → Fraction fraction f → Exponent exponent e →
      Literal ⟨false, whole, fraction, exponent⟩ (whole ++ (f ++ e))
  | negative {whole fraction exponent f e} : Whole whole → Fraction fraction f → Exponent exponent e →
      Literal ⟨true, whole, fraction, exponent⟩ ('-' :: (whole ++ (f ++ e)))

/-- A literal does not go on with the text: what comes next is not part of one. -/
def Ends (rest : List Char) : Prop :=
  ∀ c ∈ rest.head?, isDigit c = false ∧ c ≠ '.' ∧ c ≠ 'e' ∧ c ≠ 'E'

theorem Ends.noDigit {rest : List Char} (h : Ends rest) : NoDigit rest := fun c mem => (h c mem).1

theorem Digits.exists_cons {ds : List Char} (h : Digits ds) :
    ∃ d ds', ds = d :: ds' ∧ isDigit d = true := by
  cases ds with
  | nil => exact absurd rfl h.1
  | cons d ds => exact ⟨d, ds, rfl, h.2 d List.mem_cons_self⟩

theorem Literal.exists_cons {n : Numeral} {text : List Char} (h : Literal n text) :
    ∃ c cs, text = c :: cs ∧ (c = '-' ∨ isDigit c = true) := by
  cases h with
  | positive whole _ _ =>
    obtain ⟨d, ds, rfl, digit⟩ := whole.1.exists_cons
    exact ⟨d, _, rfl, .inr digit⟩
  | negative _ _ _ => exact ⟨'-', _, rfl, .inl rfl⟩

/-! ## Literals are found -/

section

variable {ds rest : List Char}

theorem scanDigits_append (digits : Digits ds) (stop : NoDigit rest) :
    scanDigits (ds ++ rest) = (ds, rest) := by
  unfold scanDigits
  rw [takeWhile_isDigit digits.2 stop, dropWhile_isDigit digits.2 stop]

theorem scanDigits?_append (digits : Digits ds) (stop : NoDigit rest) :
    scanDigits? (ds ++ rest) = some (ds, rest) := by
  unfold scanDigits?
  rw [scanDigits_append digits stop]
  obtain ⟨d, ds, rfl, -⟩ := digits.exists_cons
  rfl

theorem scanWhole_append (whole : Whole ds) (stop : NoDigit rest) :
    scanWhole (ds ++ rest) = some (ds, rest) := by
  unfold scanWhole
  rw [scanDigits_append whole.1 stop]
  split
  · rename_i none
    exact absurd (Prod.mk.inj none).1 whole.1.1
  · rename_i zero
    have leading := whole.2 (by rw [(Prod.mk.inj zero).1]; rfl)
    rw [(Prod.mk.inj zero).1] at leading
    cases leading
  · rename_i same
    cases same
    rfl

end

theorem scanFraction_append {fraction : Option (List Char)} {f rest : List Char}
    (h : Fraction fraction f) (stop : NoDigit rest) (point : rest.head? ≠ some '.') :
    scanFraction (f ++ rest) = some (fraction, rest) := by
  cases h with
  | none =>
    rw [List.nil_append]
    cases rest with
    | nil => rfl
    | cons c rest =>
      have : c ≠ '.' := fun same => point (by rw [same]; rfl)
      simp [scanFraction, this]
  | some digits =>
    rw [List.cons_append, scanFraction, scanDigits?_append digits stop]
    rfl

theorem scanSign_append {negative : Bool} {sign ds rest : List Char} (h : Sign negative sign)
    (digits : Digits ds) : scanSign (sign ++ (ds ++ rest)) = (negative, ds ++ rest) := by
  cases h with
  | absent =>
    obtain ⟨d, ds, rfl, digit⟩ := digits.exists_cons
    have plus : d ≠ '+' := fun same => by
      rw [same] at digit
      exact absurd digit (by decide)
    have minus : d ≠ '-' := fun same => by
      rw [same] at digit
      exact absurd digit (by decide)
    simp [scanSign, plus, minus]
  | plus => rfl
  | minus => rfl

theorem scanExponent_append {exponent : Option (Bool × List Char)} {e rest : List Char}
    (h : Exponent exponent e) (ends : Ends rest) : scanExponent (e ++ rest) = some (exponent, rest) := by
  cases h with
  | none =>
    rw [List.nil_append]
    cases rest with
    | nil => rfl
    | cons c rest =>
      have other := ends c rfl
      simp [scanExponent, other.2.2]
  | some mark sign digits =>
    rw [List.cons_append, scanExponent, if_pos mark, List.append_assoc, scanSign_append sign digits,
      scanDigits?_append digits ends.noDigit]
    rfl

/-- What begins with an exponent, if there is one, belongs neither to digits nor to a fraction. -/
theorem head?_exponent {exponent : Option (Bool × List Char)} {e rest : List Char}
    (h : Exponent exponent e) (ends : Ends rest) :
    NoDigit (e ++ rest) ∧ (e ++ rest).head? ≠ some '.' := by
  cases h with
  | none =>
    refine ⟨ends.noDigit, fun point => ?_⟩
    exact (ends '.' point).2.1 rfl
  | some mark _ _ =>
    rcases mark with rfl | rfl <;> exact ⟨noDigit_cons (by decide), by simp⟩

theorem noDigit_fraction {fraction : Option (List Char)} {f rest : List Char} (h : Fraction fraction f)
    (stop : NoDigit rest) : NoDigit (f ++ rest) := by
  cases h with
  | none => exact stop
  | some _ => exact noDigit_cons (by decide)

theorem scanMagnitude_append (negative : Bool) {whole : List Char} {fraction : Option (List Char)}
    {exponent : Option (Bool × List Char)} {f e rest : List Char} (hw : Whole whole)
    (hf : Fraction fraction f) (he : Exponent exponent e) (ends : Ends rest) :
    scanMagnitude negative (whole ++ (f ++ e) ++ rest) =
      some (⟨negative, whole, fraction, exponent⟩, rest) := by
  obtain ⟨stop, point⟩ := head?_exponent he ends
  rw [List.append_assoc, List.append_assoc]
  simp only [scanMagnitude, scanWhole_append hw (noDigit_fraction hf stop),
    scanFraction_append hf stop point, scanExponent_append he ends, Option.bind_eq_bind, Option.bind_some]

theorem scan_append {n : Numeral} {text rest : List Char} (h : Literal n text) (ends : Ends rest) :
    scan (text ++ rest) = some (n, rest) := by
  cases h with
  | @positive whole _ _ f e hw hf he =>
    have magnitude := scanMagnitude_append false hw hf he ends
    obtain ⟨d, ds, rfl, digit⟩ := hw.1.exists_cons
    have minus : d ≠ '-' := fun same => by
      rw [same] at digit
      exact absurd digit (by decide)
    rw [List.cons_append, List.cons_append] at magnitude ⊢
    rw [scan, magnitude]
    exact fun _ same => minus (List.cons.inj same).1
  | negative hw hf he =>
    rw [List.cons_append, scan]
    exact scanMagnitude_append true hw hf he ends

/-! ## What is found is a literal -/

section

variable {cs rest : List Char}

theorem of_scanDigits {ds : List Char} (h : scanDigits cs = (ds, rest)) :
    (∀ c ∈ ds, isDigit c = true) ∧ cs = ds ++ rest := by
  obtain ⟨rfl, rfl⟩ := Prod.mk.inj h
  exact ⟨fun c mem => List.all_eq_true.1 List.all_takeWhile c mem, List.takeWhile_append_dropWhile.symm⟩

theorem digits_of_scanDigits? {ds : List Char} (h : scanDigits? cs = some (ds, rest)) :
    Digits ds ∧ cs = ds ++ rest := by
  unfold scanDigits? at h
  split at h
  · cases h
  · rename_i nonempty scanned
    cases h
    obtain ⟨digits, text⟩ := of_scanDigits scanned
    exact ⟨⟨nonempty, digits⟩, text⟩

theorem whole_of_scanWhole {ds : List Char} (h : scanWhole cs = some (ds, rest)) :
    Whole ds ∧ cs = ds ++ rest := by
  unfold scanWhole at h
  split at h
  · cases h
  · cases h
  · rename_i nonempty leading scanned
    cases h
    obtain ⟨digits, text⟩ := of_scanDigits scanned
    refine ⟨⟨⟨nonempty, digits⟩, fun zero => ?_⟩, text⟩
    obtain _ | ⟨d, _ | ⟨d', ds⟩⟩ := ds
    · cases zero
    · rw [Option.some.inj zero]
    · exact (leading d' ds (by rw [Option.some.inj zero])).elim

theorem fraction_of_scanFraction {fraction : Option (List Char)}
    (h : scanFraction cs = some (fraction, rest)) : ∃ f, Fraction fraction f ∧ cs = f ++ rest := by
  unfold scanFraction at h
  split at h
  · obtain ⟨⟨ds, left⟩, scanned, same⟩ := Option.map_eq_some_iff.1 h
    cases same
    obtain ⟨digits, rfl⟩ := digits_of_scanDigits? scanned
    exact ⟨_, .some digits, rfl⟩
  · cases h
    exact ⟨[], .none, rfl⟩

theorem sign_scanSign (cs : List Char) :
    ∃ sign, Sign (scanSign cs).1 sign ∧ cs = sign ++ (scanSign cs).2 := by
  unfold scanSign
  split
  · exact ⟨_, .plus, rfl⟩
  · exact ⟨_, .minus, rfl⟩
  · exact ⟨_, .absent, rfl⟩

theorem exponent_of_scanExponent {exponent : Option (Bool × List Char)}
    (h : scanExponent cs = some (exponent, rest)) : ∃ e, Exponent exponent e ∧ cs = e ++ rest := by
  unfold scanExponent at h
  split at h
  · rename_i c cs
    split at h
    · rename_i mark
      obtain ⟨⟨ds, left⟩, scanned, same⟩ := Option.map_eq_some_iff.1 h
      cases same
      obtain ⟨sign, signed, text⟩ := sign_scanSign cs
      obtain ⟨digits, after⟩ := digits_of_scanDigits? scanned
      exact ⟨_, .some mark signed digits, by rw [text, after, List.cons_append, List.append_assoc]⟩
    · cases h
      exact ⟨[], .none, rfl⟩
  · cases h
    exact ⟨[], .none, rfl⟩

theorem of_scanMagnitude {negative : Bool} {n : Numeral}
    (h : scanMagnitude negative cs = some (n, rest)) :
    ∃ f e, Whole n.whole ∧ Fraction n.fraction f ∧ Exponent n.exponent e ∧ n.negative = negative ∧
      cs = n.whole ++ (f ++ e) ++ rest := by
  unfold scanMagnitude at h
  obtain ⟨⟨whole, after⟩, hw, h⟩ := Option.bind_eq_some_iff.1 h
  obtain ⟨⟨fraction, after'⟩, hf, h⟩ := Option.bind_eq_some_iff.1 h
  obtain ⟨⟨exponent, left⟩, he, h⟩ := Option.bind_eq_some_iff.1 h
  cases h
  obtain ⟨whole, rfl⟩ := whole_of_scanWhole hw
  obtain ⟨f, fraction, rfl⟩ := fraction_of_scanFraction hf
  obtain ⟨e, exponent, rfl⟩ := exponent_of_scanExponent he
  exact ⟨f, e, whole, fraction, exponent, rfl, by simp only [List.append_assoc]⟩

theorem literal_of_scan {n : Numeral} (h : scan cs = some (n, rest)) :
    ∃ text, Literal n text ∧ cs = text ++ rest := by
  unfold scan at h
  split at h <;> obtain ⟨f, e, whole, fraction, exponent, negative, text⟩ := of_scanMagnitude h <;>
    obtain ⟨_, _, _, _⟩ := n <;> cases negative
  · exact ⟨_, .negative whole fraction exponent, by rw [text, List.cons_append]⟩
  · exact ⟨_, .positive whole fraction exponent, text⟩

end

/-! ## Whole numbers -/

theorem whole_write (n : Nat) : Whole (write n) := by
  refine ⟨⟨write_ne_nil n, fun c mem => isDigit_of_mem_write mem⟩, fun zero => ?_⟩
  rcases Nat.eq_zero_or_pos n with rfl | pos
  · rw [write]
    rfl
  · exact absurd zero (head?_write_ne_zero pos)

/-- The literal that is written of a whole number. -/
def ofInt (n : Int) : Numeral := ⟨decide (n < 0), write n.natAbs, none, none⟩

theorem literal_writeInt (n : Int) : Literal (ofInt n) (writeInt n) := by
  have plain : write n.natAbs = write n.natAbs ++ ([] ++ []) := by simp
  unfold ofInt writeInt
  by_cases negative : n < 0
  · rw [if_pos negative, decide_eq_true negative]
    nth_rewrite 2 [plain]
    exact .negative (whole_write _) .none .none
  · rw [if_neg negative, decide_eq_false negative]
    nth_rewrite 2 [plain]
    exact .positive (whole_write _) .none .none

theorem toInt?_ofInt (n : Int) : (ofInt n).toInt? = some n := by
  simp only [toInt?, ofInt, value_write, decide_eq_true_eq]
  split
  · rw [if_neg (by omega)]
    congr 1
    omega
  · congr 1
    omega

/-- A number of 64 bits is far from being too large. -/
theorem isHuge_ofInt {n : Int} (small : n.natAbs ≤ 9223372036854775808) :
    (ofInt n).isHuge = false := by
  have bound : ¬ hugeBound ≤ n.natAbs := by
    have : 9223372036854775808 < hugeBound := by decide +kernel
    omega
  simp [isHuge, scale, significand, ofInt, value_write, bound]

end GuessingRoom.Json.Numeral
