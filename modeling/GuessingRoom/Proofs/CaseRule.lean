import Mathlib
import GuessingRoom.Secret

/-!
# The case rule

What lower case makes of a text is not changed by it again (`Text.lower_lower`). The case of the letters A
to Z makes no difference to it, whatever stands around them (`Text.lower_map_toLower`), and nothing else of
an ASCII text is lost (`Text.lower_of_ascii`). So two texts are the same word by a sound rule
(`Secret.sameWord_is_case_rule`).
-/

namespace GuessingRoom

namespace Text

/-! ## Small letters -/

namespace CaseRun

/-- The small forms of the letters of the run. -/
def small (r : CaseRun) : CaseRun :=
  ⟨(r.first + r.shift).toNat, (r.last + r.shift).toNat, r.stride, 0⟩

/-- The run moves its letters to other code points of characters. -/
def movesWithin (r : CaseRun) : Bool :=
  0 ≤ r.first + r.shift && (r.last + r.shift < 0xD800 ||
    0xDFFF < r.first + r.shift && r.last + r.shift < 0x110000)

/-- A test that two runs have no letter in common: one ends before the other begins, or one has the even
code points and the other the odd ones. -/
def apart (r q : CaseRun) : Bool :=
  Nat.blt r.last q.first || Nat.blt q.last r.first ||
    Nat.beq ((r.first + q.first) % 2) 1 && Nat.beq q.stride 2 &&
      (Nat.beq r.stride 2 || Nat.beq r.first r.last)

variable {r q : CaseRun} {n : Nat}

theorem holds_iff : r.holds n = true ↔ r.first ≤ n ∧ n ≤ r.last ∧ (n - r.first) % r.stride = 0 := by
  simp [holds, and_assoc]

theorem not_holds_of_apart (h : r.apart q = true) (held : r.holds n = true) : q.holds n = false := by
  rw [← Bool.not_eq_true, holds_iff]
  rw [holds_iff] at held
  simp only [apart, Bool.or_eq_true, Bool.and_eq_true, Nat.blt_eq, Nat.beq_eq] at h
  rintro ⟨first, last, even⟩
  obtain (before | after) | ⟨⟨odd, stride⟩, stride' | single⟩ := h
  · omega
  · omega
  · -- Every letter of a run is as even or odd as its first one.
    rw [stride] at even
    rw [stride'] at held
    omega
  · rw [stride] at even
    omega

theorem small_holds (within : r.movesWithin = true) (held : r.holds n = true) :
    r.small.holds (n + r.shift).toNat = true ∧ (n + r.shift).toNat.isValidChar := by
  simp only [movesWithin, Bool.and_eq_true, Bool.or_eq_true, decide_eq_true_eq] at within
  rw [holds_iff] at held ⊢
  have same : (n + r.shift).toNat - (r.first + r.shift).toNat = n - r.first := by omega
  refine ⟨⟨by simp only [small]; omega, by simp only [small]; omega, ?_⟩, ?_⟩
  · simp only [small, same, held.2.2]
  · unfold Nat.isValidChar
    omega

end CaseRun

/-- The dotted capital I, which no run holds, as a run of its own. -/
def dottedRun : CaseRun := ⟨0x130, 0x130, 1, 0⟩

theorem movesWithin_of_mem {r : CaseRun} (mem : r ∈ caseRuns) : r.movesWithin = true := by
  have all : caseRuns.all CaseRun.movesWithin = true := by decide +kernel
  exact List.all_eq_true.1 all r mem

/-- No letter moves to a place where there is a letter that moves. -/
theorem apart_of_mem {r q : CaseRun} (mem : r ∈ caseRuns) (mem' : q ∈ dottedRun :: caseRuns) :
    r.small.apart q = true := by
  have all : (caseRuns.all fun r => (dottedRun :: caseRuns).all r.small.apart) = true := by
    decide +kernel
  exact List.all_eq_true.1 (List.all_eq_true.1 all r mem) q mem'

theorem lowerChar_eq_self {c : Char} (h : ∀ q ∈ dottedRun :: caseRuns, q.holds c.toNat = false) :
    lowerChar c = [c] := by
  have plain : c ≠ '\u0130' := by
    rintro rfl
    exact absurd (h dottedRun List.mem_cons_self) (by decide)
  have none : caseRuns.find? (·.holds c.toNat) = none :=
    List.find?_eq_none.2 fun q mem => by simp [h q (List.mem_cons_of_mem _ mem)]
  rw [lowerChar, if_neg plain, none]

/-- A small form is its own small form. -/
theorem lowerChar_of_mem {c d : Char} (h : d ∈ lowerChar c) : lowerChar d = [d] := by
  unfold lowerChar at h
  split at h
  · obtain rfl | rfl : d = 'i' ∨ d = '\u0307' := by simpa using h
    · rfl
    · rfl
  · rename_i plain
    split at h
    · rename_i r found
      have run := List.mem_of_find?_eq_some found
      have held := List.find?_some found
      obtain ⟨moved, valid⟩ := CaseRun.small_holds (movesWithin_of_mem run) held
      refine lowerChar_eq_self fun q mem => ?_
      rw [List.mem_singleton.1 h, Char.toNat_ofNat, if_pos valid]
      exact CaseRun.not_holds_of_apart (apart_of_mem run mem) moved
    · rename_i none
      rw [List.mem_singleton.1 h, lowerChar, if_neg plain, none]

/-! ## Texts in lower case -/

/-- A text of small letters stays as it is: it has no capital sigma, whose form would depend on where it
stands. -/
theorem lowerAfter_eq_self {cs : List Char} (small : ∀ c ∈ cs, lowerChar c = [c]) (before : List Char) :
    lowerAfter before cs = cs := by
  induction cs generalizing before with
  | nil => rfl
  | cons c cs ih =>
    rw [List.forall_mem_cons] at small
    have other : c ≠ 'Σ' := by
      rintro rfl
      exact absurd small.1 (by decide +kernel)
    rw [lowerAfter, if_neg other, small.1, ih small.2]
    rfl

theorem lowerChar_of_mem_lowerAfter {before cs : List Char} {c : Char} (mem : c ∈ lowerAfter before cs) :
    lowerChar c = [c] := by
  induction cs generalizing before with
  | nil => cases mem
  | cons d cs ih =>
    rw [lowerAfter, List.mem_append] at mem
    rcases mem with mem | mem
    · split at mem
      · rw [List.mem_singleton.1 mem, lowerSigma]
        split <;> rfl
      · exact lowerChar_of_mem mem
    · exact ih mem

theorem lower_lower (cs : List Char) : lower (lower cs) = lower cs :=
  lowerAfter_eq_self (fun _ mem => lowerChar_of_mem_lowerAfter mem) []

/-! ## The letters A to Z -/

theorem isUpper_iff {c : Char} : c.isUpper ↔ 65 ≤ c.toNat ∧ c.toNat ≤ 90 := by
  simp [Char.isUpper, UInt32.le_iff_toNat_le]

theorem toNat_toLower {c : Char} (upper : c.isUpper) : c.toLower.toNat = c.toNat + 32 := by
  have bounds := isUpper_iff.1 upper
  rw [Char.toLower_eq_of_isUpper upper, Char.toNat_ofNat, if_pos (.inl (by omega))]

/-- The run of the letters A to Z, before which there is none. -/
def latinRun : CaseRun := ⟨0x41, 0x5A, 1, 32⟩

theorem eq_latinRun_or {r : CaseRun} (mem : r ∈ caseRuns) : r = latinRun ∨ 128 ≤ r.first := by
  have all : ∀ r ∈ caseRuns, r = latinRun ∨ 128 ≤ r.first := by decide +kernel
  exact all r mem

theorem lowerChar_of_ascii {c : Char} (ascii : c.toNat < 128) : lowerChar c = [c.toLower] := by
  by_cases upper : c.isUpper
  · obtain ⟨low, high⟩ := isUpper_iff.1 upper
    have plain : c ≠ '\u0130' := by
      rintro rfl
      exact absurd ascii (by decide)
    have held : latinRun.holds c.toNat = true :=
      CaseRun.holds_iff.2 ⟨low, high, Nat.mod_one _⟩
    rw [lowerChar, if_neg plain, Char.toLower_eq_of_isUpper upper]
    cases found : caseRuns.find? (·.holds c.toNat) with
    | none => exact absurd held (List.find?_eq_none.1 found latinRun List.mem_cons_self)
    | some r =>
      obtain rfl | beyond := eq_latinRun_or (List.mem_of_find?_eq_some found)
      · rfl
      · have holds := List.find?_some found
        have first := (CaseRun.holds_iff.1 holds).1
        omega
  · rw [Char.toLower_eq_of_not_isUpper upper]
    refine lowerChar_eq_self fun q mem => ?_
    rw [← Bool.not_eq_true, CaseRun.holds_iff]
    rintro ⟨first, last, -⟩
    rcases List.mem_cons.1 mem with rfl | mem
    · exact absurd (first.trans_lt ascii) (by decide)
    · obtain rfl | beyond := eq_latinRun_or mem
      · exact upper (isUpper_iff.2 ⟨first, last⟩)
      · omega

theorem isCaseIgnorable_of_letter {c : Char}
    (letter : 65 ≤ c.toNat ∧ c.toNat ≤ 90 ∨ 97 ≤ c.toNat ∧ c.toNat ≤ 122) : isCaseIgnorable c = false := by
  have clear : ∀ s ∈ caseIgnorableSpans,
      s.last < 65 ∨ 90 < s.first ∧ s.last < 97 ∨ 122 < s.first := by decide +kernel
  rw [← Bool.not_eq_true, isCaseIgnorable, inSpans_iff]
  rintro ⟨s, mem, first, last⟩
  have := clear s mem
  omega

theorem isCased_of_letter {c : Char}
    (letter : 65 ≤ c.toNat ∧ c.toNat ≤ 90 ∨ 97 ≤ c.toNat ∧ c.toNat ≤ 122) : isCased c = true := by
  rw [isCased, inSpans_iff]
  rcases letter with capital | small
  · exact ⟨⟨0x41, 0x5A⟩, List.mem_cons_self, capital⟩
  · exact ⟨⟨0x61, 0x7A⟩, List.mem_cons_of_mem _ List.mem_cons_self, small⟩

/-- Whether a letter is one of A to Z or its small form, nothing that decides on lower case depends on it. -/
theorem toLower_alike (c : Char) :
    lowerChar c.toLower = lowerChar c ∧ isCased c.toLower = isCased c ∧
      isCaseIgnorable c.toLower = isCaseIgnorable c ∧ (c.toLower = 'Σ' ↔ c = 'Σ') := by
  by_cases upper : c.isUpper
  · obtain ⟨low, high⟩ := isUpper_iff.1 upper
    have number := toNat_toLower upper
    have small : 97 ≤ c.toLower.toNat ∧ c.toLower.toNat ≤ 122 := by omega
    refine ⟨?_, ?_, ?_, ?_⟩
    · rw [lowerChar_of_ascii (by omega), lowerChar_of_ascii (by omega), Char.toLower_toLower_eq_toLower]
    · rw [isCased_of_letter (.inr small), isCased_of_letter (.inl ⟨low, high⟩)]
    · rw [isCaseIgnorable_of_letter (.inr small), isCaseIgnorable_of_letter (.inl ⟨low, high⟩)]
    · have sigma : 'Σ'.toNat = 931 := rfl
      refine iff_of_false (fun same => ?_) (fun same => ?_)
      · rw [same] at small
        omega
      · rw [same] at high
        omega
  · rw [Char.toLower_eq_of_not_isUpper upper]
    exact ⟨rfl, rfl, rfl, Iff.rfl⟩

theorem meetsCased_map_toLower (cs : List Char) : meetsCased (cs.map Char.toLower) = meetsCased cs := by
  have ignored : isCaseIgnorable ∘ Char.toLower = isCaseIgnorable := funext fun c => (toLower_alike c).2.2.1
  unfold meetsCased
  rw [List.dropWhile_map, ignored]
  cases cs.dropWhile isCaseIgnorable with
  | nil => rfl
  | cons c _ => exact (toLower_alike c).2.1

/-- The letters A to Z count alike in either case, also for the form of a sigma next to them. -/
theorem lowerAfter_map_toLower (before cs : List Char) :
    lowerAfter (before.map Char.toLower) (cs.map Char.toLower) = lowerAfter before cs := by
  induction cs generalizing before with
  | nil => rfl
  | cons c cs ih =>
    -- What comes before a sigma is lowered too, so the induction is over any text before.
    obtain ⟨letter, -, -, sigma⟩ := toLower_alike c
    have rest := ih (c :: before)
    rw [List.map_cons] at rest
    simp only [List.map_cons, lowerAfter, rest, sigma, letter, lowerSigma, meetsCased_map_toLower]

theorem lower_map_toLower (cs : List Char) : lower (cs.map Char.toLower) = lower cs :=
  lowerAfter_map_toLower [] cs

theorem lowerAfter_of_ascii {cs : List Char} (ascii : ∀ c ∈ cs, c.toNat < 128) (before : List Char) :
    lowerAfter before cs = cs.map Char.toLower := by
  induction cs generalizing before with
  | nil => rfl
  | cons c cs ih =>
    rw [List.forall_mem_cons] at ascii
    have other : c ≠ 'Σ' := by
      rintro rfl
      exact absurd ascii.1 (by decide)
    rw [lowerAfter, if_neg other, lowerChar_of_ascii ascii.1, ih ascii.2]
    rfl

theorem lower_of_ascii {cs : List Char} (ascii : ∀ c ∈ cs, c.toNat < 128) :
    lower cs = cs.map Char.toLower :=
  lowerAfter_of_ascii ascii []

end Text

namespace Secret

/-- Two texts that differ in nothing but the case of the letters A to Z, which are the letters that
`Char.toLower` knows. -/
def OnlyRecased (s t : String) : Prop := s.toList.map Char.toLower = t.toList.map Char.toLower

def IsAscii (s : String) : Prop := ∀ c ∈ s.toList, c.toNat < 128

theorem sameWord_iff {s t : String} : sameWord s t = true ↔ Text.lower s.toList = Text.lower t.toList := by
  simp only [sameWord, Bool.or_eq_true, beq_iff_eq]
  exact ⟨fun h => h.elim (fun same => by rw [same]) id, .inr⟩

theorem lower_eq_of_onlyRecased {s t : String} (h : OnlyRecased s t) :
    Text.lower s.toList = Text.lower t.toList := by
  rw [← Text.lower_map_toLower s.toList, h, Text.lower_map_toLower]

/-- To be the same word is an equivalence. A text in lower case is the same word as before, and texts that
differ in the case of the letters A to Z are the same word whatever else is in them; of ASCII texts no others
are. -/
theorem sameWord_is_case_rule :
    (Equivalence fun s t : String => sameWord s t = true) ∧
    (∀ s : String, sameWord (String.ofList (Text.lower s.toList)) s = true) ∧
    (∀ s t : String, OnlyRecased s t → sameWord s t = true) ∧
    ∀ s t : String, IsAscii s → IsAscii t → (sameWord s t = true ↔ OnlyRecased s t) := by
  simp only [sameWord_iff]
  refine ⟨⟨fun _ => rfl, Eq.symm, Eq.trans⟩, fun s => ?_, fun s t => lower_eq_of_onlyRecased,
    fun s t ascii ascii' => ?_⟩
  · rw [String.toList_ofList, Text.lower_lower]
  · rw [Text.lower_of_ascii ascii, Text.lower_of_ascii ascii', OnlyRecased]

/-- A sigma at the end of a word and one inside of a word, next to letters in either case; and ASCII texts
that differ in more than case. -/
theorem sameWord_around_sigmas :
    OnlyRecased "aΣ, xΣb" "AΣ, XΣB" ∧ sameWord "aΣ, xΣb" "AΣ, XΣB" = true ∧
    Text.lower "AΣ, XΣB".toList = "aς, xσb".toList ∧ sameWord "aς, xσb" "AΣ, XΣB" = true ∧
    IsAscii "ice-cream" ∧ IsAscii "Ice cream" ∧ sameWord "ice-cream" "Ice cream" = false := by
  obtain ⟨-, lowered, recased, ascii⟩ := sameWord_is_case_rule
  have only : OnlyRecased "aΣ, xΣb" "AΣ, XΣB" := by unfold OnlyRecased; decide +kernel
  have lower : Text.lower "AΣ, XΣB".toList = "aς, xσb".toList := by decide +kernel
  have hyphen : IsAscii "ice-cream" := by simp [IsAscii]
  have space : IsAscii "Ice cream" := by simp [IsAscii]
  refine ⟨only, recased _ _ only, lower, ?_, hyphen, space, ?_⟩
  · have := lowered "AΣ, XΣB"
    rwa [lower, String.ofList_toList] at this
  · rw [← Bool.not_eq_true, ascii _ _ hyphen space]
    unfold OnlyRecased
    decide +kernel

end Secret

end GuessingRoom
