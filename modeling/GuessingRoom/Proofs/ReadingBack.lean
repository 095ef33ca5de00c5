import Mathlib.Data.List.Nodup
import GuessingRoom.Proofs.StringLiterals

/-!
# Reading back what was written

A value that was written is read back by its shape, whatever follows it in the text
(`Json.ReadsBack`). A string is written as a literal that spells it (`Json.literal_quote`). A record is
read back if its fields are, since the members of an object are found by names that do not repeat.
-/

namespace GuessingRoom.Json

/-! ## Strings -/

theorem unitDigits_writeFixed {n : Nat} (bound : n < 65536) :
    UnitDigits n (Text.Hexadecimal.writeFixed 4 n) := by
  have digit (k : Nat) : Text.Hexadecimal.digitValue? (Text.Hexadecimal.digitChar (k % 16)) =
      some (k % 16) := Text.Hexadecimal.digitValue?_digitChar (Nat.mod_lt _ (by decide))
  have value : ((n / 16 / 16 / 16 % 16 * 16 + n / 16 / 16 % 16) * 16 + n / 16 % 16) * 16 + n % 16 =
      n := by
    omega
  have digits := UnitDigits.mk (digit (n / 16 / 16 / 16)) (digit (n / 16 / 16)) (digit (n / 16)) (digit n)
  rw [value] at digits
  exact digits

/-- A character is written as one glyph, which spells it. -/
theorem exists_glyph_escape (c : Char) :
    ∃ p, Glyph p (escape c) ∧ ∀ {ps cs}, Spelling ps cs → Spelling (p :: ps) (c :: cs) := by
  by_cases short : c ∈ ['"', '\\', '\n', '\r', '\t', '\x08', '\x0c']
  · refine ⟨.plain c, ?_, .plain c⟩
    simp only [List.mem_cons, List.not_mem_nil, or_false] at short
    rcases short with rfl | rfl | rfl | rfl | rfl | rfl | rfl <;> exact .short (by decide)
  · simp only [List.mem_cons, List.not_mem_nil, or_false, not_or] at short
    obtain ⟨quote, backslash, line, return_, tab, back, form⟩ := short
    by_cases control : c.toNat < 32
    · have escaped : escape c = '\\' :: 'u' :: Text.Hexadecimal.writeFixed 4 c.toNat := by
        simp [escape, quote, backslash, line, return_, tab, back, form, control]
      rw [escaped]
      exact ⟨.unit c.toNat, .unit (unitDigits_writeFixed (by omega)), .unit (by omega)⟩
    · have escaped : escape c = [c] := by
        simp [escape, quote, backslash, line, return_, tab, back, form, control]
      rw [escaped]
      exact ⟨.plain c, .plain (Nat.le_of_not_lt control) quote backslash, .plain c⟩

theorem exists_glyphs (cs : List Char) : ∃ ps, Glyphs ps (cs.flatMap escape) ∧ Spelling ps cs := by
  induction cs with
  | nil => exact ⟨[], .nil, .nil⟩
  | cons c cs ih =>
    obtain ⟨ps, glyphs, spelled⟩ := ih
    obtain ⟨p, glyph, spells⟩ := exists_glyph_escape c
    exact ⟨p :: ps, .cons glyph glyphs, spells spelled⟩

/-- A string as it is written is a literal that spells it. -/
theorem literal_quote (s : String) : Literal s (quote s.toList) := by
  obtain ⟨ps, glyphs, spelled⟩ := exists_glyphs s.toList
  exact .mk glyphs spelled

theorem quote_append (cs rest : List Char) :
    quote cs ++ rest = '"' :: (cs.flatMap escape ++ '"' :: rest) := by
  simp [quote]

theorem readText_quote (s : String) (rest : List Char) :
    readText (quote s.toList ++ rest) = .ok (s, rest) :=
  readText_eq_ok_iff.2 ⟨_, literal_quote s, rfl⟩

/-! ## Values -/

/-- What may stand after a value. A number would go on with anything else that could belong to it. -/
def MayFollow (rest : List Char) : Prop := ∀ c ∈ rest.head?, c = ',' ∨ c = ']' ∨ c = '}'

theorem exists_fuel {n fuel : Nat} (h : n < fuel) : ∃ k, fuel = k + 1 := ⟨fuel - 1, by omega⟩

/-- The value as it is written is read back by the shape, and nothing of what follows is read. -/
def ReadsBack (shape : Shape) (v : Json) : Prop :=
  ∀ fuel rest, v.write.length < fuel → MayFollow rest →
    readValue fuel shape (v.write ++ rest) = .ok (v, rest)

/-- The marks of the format are no space. -/
theorem skipSpace_mark (cs : List Char) :
    skipSpace ('"' :: cs) = '"' :: cs ∧ skipSpace (':' :: cs) = ':' :: cs ∧
      skipSpace (',' :: cs) = ',' :: cs ∧ skipSpace ('[' :: cs) = '[' :: cs ∧
      skipSpace (']' :: cs) = ']' :: cs ∧ skipSpace ('{' :: cs) = '{' :: cs ∧
      skipSpace ('}' :: cs) = '}' :: cs := ⟨rfl, rfl, rfl, rfl, rfl, rfl, rfl⟩

theorem skipSpace_quote (cs rest : List Char) : skipSpace (quote cs ++ rest) = quote cs ++ rest := by
  rw [quote_append]
  rfl

theorem readsBack_text (s : String) : ReadsBack .text (.text s) := by
  intro fuel rest enough _
  obtain ⟨fuel, rfl⟩ := exists_fuel enough
  rw [write, readValue, skipSpace_quote, readText_quote]
  rfl

theorem readsBack_flag (b : Bool) : ReadsBack .flag (.flag b) := by
  intro fuel rest enough _
  obtain ⟨fuel, rfl⟩ := exists_fuel enough
  cases b <;> rfl

/-! ## Records -/

theorem lookup_of_mem {α : Type} {l : List (String × α)} (distinct : (l.map Prod.fst).Nodup)
    {name : String} {a : α} (mem : (name, a) ∈ l) : l.lookup name = some a := by
  induction l with
  | nil => cases mem
  | cons e l ih =>
    obtain ⟨fresh, distinct⟩ := List.nodup_cons.1 distinct
    rcases List.mem_cons.1 mem with rfl | later
    · rw [List.lookup_cons, beq_self_eq_true]
    · have other : (name == e.1) = false := by
        refine beq_false_of_ne fun same => fresh ?_
        exact List.mem_map.2 ⟨_, later, same⟩
      rw [List.lookup_cons, other, ih distinct later]

theorem lookup_fresh {α : Type} {found more : List (String × α)} {m : String × α}
    (distinct : ((found ++ m :: more).map Prod.fst).Nodup) : found.lookup m.1 = none := by
  rw [List.map_append, List.nodup_append] at distinct
  refine List.lookup_eq_none_iff.2 fun x mem => bne_iff_ne.2 fun same => ?_
  exact distinct.2.2 _ (List.mem_map_of_mem mem) _ (List.mem_map_of_mem List.mem_cons_self) same.symm

/-- Each field is given the member of its name, and they come out in their order. -/
theorem mapM_members {find : String × Shape → Except Fault (String × Json)}
    {fields : List (String × Shape)} {members : List (String × Json)}
    (names : fields.map Prod.fst = members.map Prod.fst)
    (finds : ∀ m ∈ members, ∀ shape, find (m.1, shape) = .ok m) : fields.mapM find = .ok members := by
  induction members generalizing fields with
  | nil =>
    rw [List.map_eq_nil_iff.1 names]
    rfl
  | cons m members ih =>
    obtain ⟨first, later⟩ := List.forall_mem_cons.1 finds
    cases fields with
    | nil => cases names
    | cons field fields =>
      obtain ⟨name, shape⟩ := field
      rw [List.map_cons, List.map_cons, List.cons.injEq] at names
      obtain ⟨rfl, names⟩ := names
      rw [List.mapM_cons, ih names later, first shape]
      rfl

/-- Values that were found for all fields, and in their order, are left as they are. -/
theorem arrange_self {fields : List (String × Shape)} {members : List (String × Json)}
    (names : fields.map Prod.fst = members.map Prod.fst)
    (distinct : (members.map Prod.fst).Nodup) : arrange fields members = .ok members := by
  refine mapM_members names fun m mem shape => ?_
  dsimp only
  rw [lookup_of_mem distinct mem]

/-- A field that has not been found before is read, and with what follows it the members go on. -/
theorem readMembers_member {fields : List (String × Shape)} (strict : Bool)
    {found : List (String × Json)} {name : String} {shape : Shape} {v : Json} {fuel : Nat}
    {after : List Char} (known : fields.lookup name = some shape) (reads : ReadsBack shape v)
    (fresh : found.lookup name = none) (enough : v.write.length < fuel) (follow : MayFollow after) :
    readMembers (fuel + 1) fields strict found (quote name.toList ++ ':' :: (v.write ++ after)) =
      readEnding '}' after >>= fun
        | .closed rest => .ok (found ++ [(name, v)], rest)
        | .more rest => readMembers fuel fields strict (found ++ [(name, v)]) rest := by
  have named := readText_quote name (':' :: (v.write ++ after))
  rw [quote_append] at named ⊢
  rcases ending : readEnding '}' after with e | (rest | rest) <;>
    simp only [readMembers, skipSpace_mark, named, bind, Except.bind, known, fresh, Option.isSome_none,
      Bool.false_eq_true, if_false, reads fuel after enough follow, ending]

/-- The members that are left are read one after another, each as the field of its name. -/
theorem readMembers_write {fields : List (String × Shape)} (strict : Bool) (rest : List Char)
    (m : String × Json) (more found : List (String × Json)) (fuel : Nat)
    (known : ∀ x ∈ m :: more, ∃ shape, fields.lookup x.1 = some shape ∧ ReadsBack shape x.2)
    (distinct : ((found ++ m :: more).map Prod.fst).Nodup)
    (enough : (join (writeMembers (m :: more))).length < fuel) :
    readMembers fuel fields strict found (join (writeMembers (m :: more)) ++ '}' :: rest) =
      .ok (found ++ m :: more, rest) := by
  induction more generalizing m found fuel with
  | nil =>
    obtain ⟨shape, here, reads⟩ := known m List.mem_cons_self
    have text : join (writeMembers [m]) ++ '}' :: rest =
        quote m.1.toList ++ ':' :: (m.2.write ++ '}' :: rest) := by
      simp [writeMembers, join]
    simp only [writeMembers, join, List.length_append, List.length_cons] at enough
    obtain ⟨fuel, rfl⟩ := exists_fuel enough
    rw [text, readMembers_member strict here reads (lookup_fresh distinct) (by omega)
      (by simp [MayFollow])]
    rfl
  | cons m' more ih =>
    obtain ⟨shape, here, reads⟩ := known m List.mem_cons_self
    have text : join (writeMembers (m :: m' :: more)) ++ '}' :: rest =
        quote m.1.toList ++ ':' :: (m.2.write ++ ',' :: (join (writeMembers (m' :: more)) ++
          '}' :: rest)) := by
      simp [writeMembers, join]
    have long : (join (writeMembers (m :: m' :: more))).length = (quote m.1.toList).length +
        (m.2.write.length + (join (writeMembers (m' :: more))).length + 2) := by
      simp only [writeMembers, join, List.length_append, List.length_cons]
      omega
    obtain ⟨fuel, rfl⟩ := exists_fuel enough
    have later := ih m' (found ++ [m]) fuel (fun x mem => known x (List.mem_cons_of_mem m mem))
      (by rw [List.append_assoc]; exact distinct) (by omega)
    rw [List.append_assoc] at later
    rw [text, readMembers_member strict here reads (lookup_fresh distinct) (by omega)
      (by simp [MayFollow])]
    exact later

/-- An object is read back by a record whose fields are those of its members. -/
theorem readsBack_record {fields : List (String × Shape)} (strict : Bool)
    {members : List (String × Json)} (names : fields.map Prod.fst = members.map Prod.fst)
    (distinct : (members.map Prod.fst).Nodup)
    (known : ∀ m ∈ members, ∃ shape, fields.lookup m.1 = some shape ∧ ReadsBack shape m.2) :
    ReadsBack (.record fields strict) (.object members) := by
  intro fuel rest enough _
  have arranged := arrange_self names distinct
  obtain ⟨fuel, rfl⟩ := exists_fuel enough
  have text : (Json.object members).write ++ rest =
      '{' :: (join (writeMembers members) ++ '}' :: rest) := by
    simp [write]
  cases members with
  | nil =>
    rw [text]
    simp only [writeMembers, join, List.nil_append, readValue, skipSpace_mark, arranged]
    rfl
  | cons m more =>
    have short : (join (writeMembers (m :: more))).length < fuel := by
      simp only [write, List.length_cons, List.length_append] at enough
      omega
    have read := readMembers_write strict rest m more [] fuel known distinct short
    obtain ⟨cs, quoted⟩ : ∃ cs, join (writeMembers (m :: more)) ++ '}' :: rest = '"' :: cs := by
      cases more <;> exact ⟨_, rfl⟩
    rw [quoted] at text read
    rw [text]
    simp only [readValue, skipSpace_mark, read, bind, Except.bind, List.nil_append, arranged]
    rfl

/-- What is written of a value that is read back can be read as a whole text. -/
theorem Shape.read_write {shape : Shape} {v : Json} (h : ReadsBack shape v) :
    shape.read v.write = .ok v := by
  have read := h (2 * v.write.length + 2) [] (by omega) (by simp [MayFollow])
  rw [List.append_nil] at read
  simp only [Shape.read, read, bind, Except.bind]
  rfl

end GuessingRoom.Json
