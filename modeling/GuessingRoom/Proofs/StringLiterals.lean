import GuessingRoom.Proofs.ShapeReading

/-!
# The grammar of string literals

Between its marks a string literal has characters that stand for themselves, backslashes with one more
character, and UTF-16 units as four hexadecimal digits. A character is spelled by itself, by its unit, or,
beyond U+FFFF, by its two units. Scanning finds the literals of this grammar (`Json.scanQuoted_iff`), and
decoding gives what they spell (`Json.decode_eq_some_iff`).
-/

namespace GuessingRoom.Json

open Text (Hexadecimal.digitValue?)

/-! ## The grammar -/

/-- The characters that stand after a backslash, and what they stand for. -/
def shortEscapes : List (Char × Char) :=
  [('"', '"'), ('\\', '\\'), ('/', '/'), ('b', '\x08'), ('f', '\x0c'), ('n', '\n'), ('r', '\r'), ('t', '\t')]

/-- Four hexadecimal digits. -/
inductive UnitDigits : Nat → List Char → Prop
  | mk {a b c d : Char} {i j k l : Nat} : Hexadecimal.digitValue? a = some i →
      Hexadecimal.digitValue? b = some j → Hexadecimal.digitValue? c = some k →
      Hexadecimal.digitValue? d = some l → UnitDigits (((i * 16 + j) * 16 + k) * 16 + l) [a, b, c, d]

/-- A character or an escape, and what it stands for. -/
inductive Glyph : Piece → List Char → Prop
  | plain {c : Char} : 32 ≤ c.toNat → c ≠ '"' → c ≠ '\\' → Glyph (.plain c) [c]
  | short {c d : Char} : (c, d) ∈ shortEscapes → Glyph (.plain d) ['\\', c]
  | unit {n : Nat} {ds : List Char} : UnitDigits n ds → Glyph (.unit n) ('\\' :: 'u' :: ds)

/-- What stands between the marks of a literal. -/
inductive Glyphs : List Piece → List Char → Prop
  | nil : Glyphs [] []
  | cons {p : Piece} {ps : List Piece} {g t : List Char} : Glyph p g → Glyphs ps t →
      Glyphs (p :: ps) (g ++ t)

/-- The pieces spell the characters, in UTF-16 where they are units. -/
inductive Spelling : List Piece → List Char → Prop
  | nil : Spelling [] []
  | plain {ps : List Piece} {cs : List Char} (c : Char) : Spelling ps cs →
      Spelling (.plain c :: ps) (c :: cs)
  | unit {ps : List Piece} {cs : List Char} {c : Char} : c.toNat < 0x10000 → Spelling ps cs →
      Spelling (.unit c.toNat :: ps) (c :: cs)
  | pair {ps : List Piece} {cs : List Char} {c : Char} : 0x10000 ≤ c.toNat → Spelling ps cs →
      Spelling (.unit (0xD800 + (c.toNat - 0x10000) / 0x400) ::
        .unit (0xDC00 + (c.toNat - 0x10000) % 0x400) :: ps) (c :: cs)

/-- A literal that spells the string. -/
inductive Literal (s : String) : List Char → Prop
  | mk {ps : List Piece} {k : List Char} : Glyphs ps k → Spelling ps s.toList →
      Literal s ('"' :: (k ++ ['"']))

/-! ## Scanning -/

section

variable {cs rest : List Char} {p : Piece}

theorem shortEscape?_eq_some_iff {c d : Char} : shortEscape? c = some d ↔ (c, d) ∈ shortEscapes := by
  simp only [shortEscapes, List.mem_cons, Prod.mk.injEq, List.not_mem_nil, or_false]
  constructor
  · intro h
    unfold shortEscape? at h
    split_ifs at h with itself <;> cases h
    · rcases itself with rfl | rfl | rfl <;> simp
    all_goals simp_all
  · rintro (⟨rfl, rfl⟩ | ⟨rfl, rfl⟩ | ⟨rfl, rfl⟩ | ⟨rfl, rfl⟩ | ⟨rfl, rfl⟩ | ⟨rfl, rfl⟩ | ⟨rfl, rfl⟩ |
      ⟨rfl, rfl⟩) <;> rfl

theorem scanUnit_iff {n : Nat} :
    scanUnit cs = some (n, rest) ↔ ∃ ds, UnitDigits n ds ∧ cs = ds ++ rest := by
  constructor
  · intro h
    unfold scanUnit at h
    split at h
    · obtain ⟨i, hi, h⟩ := Option.bind_eq_some_iff.1 h
      obtain ⟨j, hj, h⟩ := Option.bind_eq_some_iff.1 h
      obtain ⟨k, hk, h⟩ := Option.bind_eq_some_iff.1 h
      obtain ⟨l, hl, h⟩ := Option.bind_eq_some_iff.1 h
      cases h
      exact ⟨_, .mk hi hj hk hl, rfl⟩
    · cases h
  · rintro ⟨ds, ⟨hi, hj, hk, hl⟩, rfl⟩
    simp [scanUnit, hi, hj, hk, hl]

theorem scanEscape_iff : scanEscape cs = some (p, rest) ↔ ∃ g, Glyph p ('\\' :: g) ∧ cs = g ++ rest := by
  constructor
  · intro h
    unfold scanEscape at h
    split at h
    · cases h
    · rename_i c cs
      split at h
      · rename_i d short
        cases h
        exact ⟨[c], .short (shortEscape?_eq_some_iff.1 short), rfl⟩
      · split at h
        · rename_i u
          obtain ⟨⟨n, left⟩, scanned, same⟩ := Option.map_eq_some_iff.1 h
          cases same
          obtain ⟨ds, digits, rfl⟩ := scanUnit_iff.1 scanned
          exact ⟨'u' :: ds, .unit digits, by rw [u, List.cons_append]⟩
        · cases h
  · rintro ⟨g, glyph, rfl⟩
    cases glyph with
    | plain _ _ backslash => exact absurd rfl backslash
    | short mem => simp [scanEscape, shortEscape?_eq_some_iff.2 mem]
    | unit digits =>
      have long : shortEscape? 'u' = none := by decide
      simp [scanEscape, long, scanUnit_iff.2 ⟨_, digits, rfl⟩]

theorem scanPiece_of_glyph {g : List Char} (h : Glyph p g) (rest : List Char) :
    scanPiece (g ++ rest) = some (p, rest) := by
  cases h with
  | plain printable _ backslash => simp [scanPiece, backslash, printable]
  | short mem => exact scanEscape_iff.2 ⟨_, .short mem, rfl⟩
  | unit digits => exact scanEscape_iff.2 ⟨_, .unit digits, rfl⟩

theorem glyph_of_scanPiece {c : Char} (ne : c ≠ '"') (h : scanPiece (c :: cs) = some (p, rest)) :
    ∃ g, Glyph p g ∧ c :: cs = g ++ rest := by
  unfold scanPiece at h
  dsimp only at h
  split at h
  · rename_i backslash
    obtain ⟨g, glyph, rfl⟩ := scanEscape_iff.1 h
    exact ⟨'\\' :: g, glyph, by rw [backslash, List.cons_append]⟩
  · rename_i backslash
    split at h
    · cases h
    · rename_i control
      cases h
      exact ⟨[c], .plain (Nat.le_of_not_lt control) ne backslash, rfl⟩

theorem Glyph.exists_cons {g : List Char} (h : Glyph p g) : ∃ c cs, g = c :: cs ∧ c ≠ '"' := by
  cases h with
  | plain _ ne _ => exact ⟨_, _, rfl, ne⟩
  | short _ => exact ⟨_, _, rfl, by decide⟩
  | unit _ => exact ⟨_, _, rfl, by decide⟩

theorem scanQuoted_of_scanPiece {c : Char} {cs rest : List Char} {p : Piece} (ne : c ≠ '"')
    (scanned : scanPiece (c :: cs) = some (p, rest)) :
    scanQuoted (c :: cs) = (scanQuoted rest).map fun (ps, rest) => (p :: ps, rest) := by
  rw [scanQuoted, if_neg ne]
  split
  · rename_i none
    rw [scanned] at none
    cases none
  · rename_i some
    rw [scanned] at some
    cases some
    rfl

theorem scanQuoted_of_glyphs {ps : List Piece} {k : List Char} (h : Glyphs ps k) (rest : List Char) :
    scanQuoted (k ++ '"' :: rest) = some (ps, rest) := by
  induction h with
  | nil => rw [List.nil_append, scanQuoted, if_pos rfl]
  | cons glyph _ ih =>
    rename_i t _
    have scanned := scanPiece_of_glyph glyph (t ++ '"' :: rest)
    obtain ⟨c, cs, rfl, ne⟩ := glyph.exists_cons
    rw [List.cons_append] at scanned
    rw [List.append_assoc, List.cons_append, scanQuoted_of_scanPiece ne scanned, ih]
    rfl

theorem glyphs_of_scanQuoted {ps : List Piece} (h : scanQuoted cs = some (ps, rest)) :
    ∃ k, Glyphs ps k ∧ cs = k ++ '"' :: rest := by
  fun_induction scanQuoted cs generalizing ps with
  | case1 => cases h
  | case2 cs =>
    cases h
    exact ⟨[], .nil, rfl⟩
  | case3 => cases h
  | case4 c cs ne p left scanned ih =>
    obtain ⟨⟨ps, last⟩, later, same⟩ := Option.map_eq_some_iff.1 h
    cases same
    obtain ⟨g, glyph, text⟩ := glyph_of_scanPiece ne scanned
    obtain ⟨k, glyphs, rfl⟩ := ih later
    exact ⟨g ++ k, .cons glyph glyphs, by rw [text, List.append_assoc]⟩

/-- What is scanned up to the closing mark are the glyphs before it. -/
theorem scanQuoted_iff {ps : List Piece} :
    scanQuoted cs = some (ps, rest) ↔ ∃ k, Glyphs ps k ∧ cs = k ++ '"' :: rest :=
  ⟨glyphs_of_scanQuoted, by rintro ⟨k, glyphs, rfl⟩; exact scanQuoted_of_glyphs glyphs rest⟩

end

/-! ## Decoding -/

theorem digitValue?_lt {c : Char} {n : Nat} (h : Hexadecimal.digitValue? c = some n) : n < 16 := by
  have marks : '9'.toNat = 57 ∧ 'f'.toNat = 102 ∧ 'F'.toNat = 70 := ⟨rfl, rfl, rfl⟩
  unfold Hexadecimal.digitValue? at h
  simp only [Char.le_def, UInt32.le_iff_toNat_le, Char.toNat_val] at h
  split_ifs at h <;> cases h <;> omega

theorem UnitDigits.lt {n : Nat} {ds : List Char} (h : UnitDigits n ds) : n < 0x10000 := by
  cases h with
  | mk a b c d =>
    have := digitValue?_lt a
    have := digitValue?_lt b
    have := digitValue?_lt c
    have := digitValue?_lt d
    omega

theorem Glyphs.unit_lt {ps : List Piece} {k : List Char} (h : Glyphs ps k) {n : Nat}
    (mem : .unit n ∈ ps) : n < 0x10000 := by
  induction h with
  | nil => cases mem
  | cons glyph _ ih =>
    rcases List.mem_cons.1 mem with rfl | mem
    · cases glyph with
      | unit digits => exact digits.lt
    · exact ih mem

/-- The numbers of characters, among which are those of no surrogates. -/
theorem toNat_bounds (c : Char) : c.toNat < 0xD800 ∨ 0xDFFF < c.toNat ∧ c.toNat < 0x110000 := c.valid

theorem toNat_ofNat {n : Nat} (h : n < 0xD800 ∨ 0xDFFF < n ∧ n < 0x110000) : (Char.ofNat n).toNat = n := by
  have valid : n.isValidChar := h
  unfold Char.ofNat
  rw [dif_pos valid]
  rfl

theorem isHighSurrogate_iff {n : Nat} : isHighSurrogate n = true ↔ 0xD800 ≤ n ∧ n ≤ 0xDBFF := by
  simp [isHighSurrogate]

theorem isLowSurrogate_iff {n : Nat} : isLowSurrogate n = true ↔ 0xDC00 ≤ n ∧ n ≤ 0xDFFF := by
  simp [isLowSurrogate]

/-- The piece stands for the character, whatever comes next. -/
def Piece.Spells (p : Piece) (c : Char) : Prop :=
  ∀ ps, decode (p :: ps) = (decode ps).map (c :: ·)

theorem Piece.Spells.plain (c : Char) : (Piece.plain c).Spells c := fun ps => by rw [decode]

/-- A unit that is no surrogate stands for a character by itself. -/
theorem Piece.Spells.unit {n : Nat} (high : isHighSurrogate n = false) (low : isLowSurrogate n = false) :
    (Piece.unit n).Spells (Char.ofNat n) := by
  intro ps
  cases ps with
  | nil => simp [decode, high, low]
  | cons p ps => cases p <;> simp [decode, high, low]

theorem decode_of_spelling {ps : List Piece} {cs : List Char} (h : Spelling ps cs) :
    decode ps = some cs := by
  induction h with
  | nil => rw [decode]
  | plain c _ ih =>
    rw [Piece.Spells.plain c, ih]
    rfl
  | @unit ps cs c _ _ ih =>
    have bounds := toNat_bounds c
    have high : isHighSurrogate c.toNat = false := Bool.eq_false_iff.2 fun high => by
      rw [isHighSurrogate_iff] at high
      omega
    have low : isLowSurrogate c.toNat = false := Bool.eq_false_iff.2 fun low => by
      rw [isLowSurrogate_iff] at low
      omega
    rw [Piece.Spells.unit high low, ih, Char.ofNat_toNat]
    rfl
  | @pair ps cs c beyond _ ih =>
    have bounds := toNat_bounds c
    have high : isHighSurrogate (0xD800 + (c.toNat - 0x10000) / 0x400) = true := by
      rw [isHighSurrogate_iff]
      omega
    have low : isLowSurrogate (0xDC00 + (c.toNat - 0x10000) % 0x400) = true := by
      rw [isLowSurrogate_iff]
      omega
    have joined : joinSurrogates (0xD800 + (c.toNat - 0x10000) / 0x400)
        (0xDC00 + (c.toNat - 0x10000) % 0x400) = c := by
      refine Eq.trans (congrArg Char.ofNat ?_) (Char.ofNat_toNat c)
      omega
    rw [decode, if_pos high, if_pos low, ih, joined]
    rfl

/-- A unit that is no surrogate is the number of a character. -/
theorem spelling_unit {n : Nat} {ps : List Piece} {cs : List Char} (bound : n < 0x10000)
    (high : ¬ isHighSurrogate n = true) (low : ¬ isLowSurrogate n = true) (h : Spelling ps cs) :
    Spelling (.unit n :: ps) (Char.ofNat n :: cs) := by
  rw [isHighSurrogate_iff] at high
  rw [isLowSurrogate_iff] at low
  have number : (Char.ofNat n).toNat = n := toNat_ofNat (by omega)
  have spelled := Spelling.unit (c := Char.ofNat n) (by omega) h
  rwa [number] at spelled

/-- A high and a low surrogate are the units of a character beyond U+FFFF. -/
theorem spelling_pair {n m : Nat} {ps : List Piece} {cs : List Char} (high : isHighSurrogate n = true)
    (low : isLowSurrogate m = true) (h : Spelling ps cs) :
    Spelling (.unit n :: .unit m :: ps) (joinSurrogates n m :: cs) := by
  rw [isHighSurrogate_iff] at high
  rw [isLowSurrogate_iff] at low
  have number : (joinSurrogates n m).toNat = 0x10000 + (n - 0xD800) * 0x400 + (m - 0xDC00) :=
    toNat_ofNat (by omega)
  have spelled := Spelling.pair (c := joinSurrogates n m) (by omega) h
  have first : 0xD800 + ((joinSurrogates n m).toNat - 0x10000) / 0x400 = n := by omega
  have second : 0xDC00 + ((joinSurrogates n m).toNat - 0x10000) % 0x400 = m := by omega
  rwa [first, second] at spelled

theorem spelling_of_decode {ps : List Piece} {cs : List Char} (bound : ∀ n, .unit n ∈ ps → n < 0x10000)
    (h : decode ps = some cs) : Spelling ps cs := by
  induction ps using decode.induct generalizing cs with
  | case1 =>
    rw [decode] at h
    cases h
    exact .nil
  | case2 c ps ih =>
    rw [decode] at h
    obtain ⟨cs, later, rfl⟩ := Option.map_eq_some_iff.1 h
    exact .plain c (ih (fun n mem => bound n (List.mem_cons_of_mem _ mem)) later)
  | case3 n m ps high low ih =>
    rw [decode, if_pos high, if_pos low] at h
    obtain ⟨cs, later, rfl⟩ := Option.map_eq_some_iff.1 h
    refine spelling_pair high low (ih (fun n mem => bound n ?_) later)
    exact List.mem_cons_of_mem _ (List.mem_cons_of_mem _ mem)
  | case4 n m ps high low =>
    rw [decode, if_pos high, if_neg low] at h
    cases h
  | case5 n m ps high low =>
    rw [decode, if_neg high, if_pos low] at h
    cases h
  | case6 n m ps high low ih =>
    rw [decode, if_neg high, if_neg low] at h
    obtain ⟨cs, later, rfl⟩ := Option.map_eq_some_iff.1 h
    refine spelling_unit (bound n List.mem_cons_self) high low (ih (fun n mem => bound n ?_) later)
    exact List.mem_cons_of_mem _ mem
  | case7 n ps single surrogate =>
    rw [decode, if_pos surrogate] at h
    · cases h
    · exact single
  | case8 n ps single plain ih =>
    rw [decode, if_neg plain] at h
    · obtain ⟨cs, later, rfl⟩ := Option.map_eq_some_iff.1 h
      rw [Bool.or_eq_true, not_or] at plain
      refine spelling_unit (bound n List.mem_cons_self) plain.1 plain.2 (ih (fun n mem => bound n ?_) later)
      exact List.mem_cons_of_mem _ mem
    · exact single

theorem decode_eq_some_iff {ps : List Piece} {k cs : List Char} (h : Glyphs ps k) :
    decode ps = some cs ↔ Spelling ps cs :=
  ⟨spelling_of_decode fun _ mem => h.unit_lt mem, decode_of_spelling⟩

/-! ## Literals -/

/-- What is read as a string is a literal that spells it. -/
theorem readText_eq_ok_iff {s : String} {cs rest : List Char} :
    readText cs = .ok (s, rest) ↔ ∃ t, Literal s t ∧ cs = t ++ rest := by
  constructor
  · intro h
    obtain ⟨inner, content, rfl, read, rfl⟩ := readText_eq_ok h
    obtain ⟨⟨ps, left⟩, scanned, read⟩ := Option.bind_eq_some_iff.1 read
    obtain ⟨text, decoded, same⟩ := Option.bind_eq_some_iff.1 read
    cases same
    obtain ⟨k, glyphs, rfl⟩ := scanQuoted_iff.1 scanned
    refine ⟨_, .mk glyphs ?_, by simp⟩
    rw [String.toList_ofList]
    exact (decode_eq_some_iff glyphs).1 decoded
  · rintro ⟨_, ⟨glyphs, spelled⟩, rfl⟩
    have scanned := scanQuoted_of_glyphs glyphs rest
    have decoded := decode_of_spelling spelled
    simp [readText, readQuoted, scanned, decoded]

end GuessingRoom.Json
