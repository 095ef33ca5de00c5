import GuessingRoom.Proofs.ShapeReading
import GuessingRoom.Proofs.SkippedValues

/-!
# Values of a shape

What reading by a shape gives is a value of the shape (`Json.ofShape_read`): its whole numbers have 64 bits,
its names are among those of the shape, and its members are the fields of the record. Written, such a value
is read back as it was (`Json.OfShape.readsBack`), if no record of the shape has two fields of one name.
-/

namespace GuessingRoom.Json

inductive OfShape : Shape → Json → Prop
  | text (s : String) : OfShape .text (.text s)
  | flag (b : Bool) : OfShape .flag (.flag b)
  | integer {n : Int} (h : inRange n = true) : OfShape .integer (.integer n)
  | choice {names : List String} {name : String} (h : name ∈ names) : OfShape (.choice names) (.text name)
  | list {item : Shape} {items : List Json} (h : ∀ j ∈ items, OfShape item j) :
      OfShape (.list item) (.list items)
  | record {fields : List (String × Shape)} {strict : Bool} {members : List (String × Json)}
      (names : fields.map Prod.fst = members.map Prod.fst)
      (h : ∀ p ∈ fields.zip members, OfShape p.1.2 p.2.2) :
      OfShape (.record fields strict) (.object members)

/-- The fields of every record in the shape have different names. -/
inductive Shape.Distinct : Shape → Prop
  | text : Distinct .text
  | flag : Distinct .flag
  | integer : Distinct .integer
  | choice (names : List String) : Distinct (.choice names)
  | list {item : Shape} (h : Distinct item) : Distinct (.list item)
  | record {fields : List (String × Shape)} {strict : Bool} (names : (fields.map Prod.fst).Nodup)
      (h : ∀ f ∈ fields, Distinct f.2) : Distinct (.record fields strict)

/-- The members are the fields one after another, each with a value of its shape. -/
theorem OfShape.of_fields {fields : List (String × Shape)} {strict : Bool} {members : List (String × Json)}
    (h : List.Forall₂ (fun f m => f.1 = m.1 ∧ OfShape f.2 m.2) fields members) :
    OfShape (.record fields strict) (.object members) := by
  refine .record ?_ fun p mem => ((List.forall₂_iff_zip.1 h).2 mem).2
  induction h with
  | nil => rfl
  | cons same _ ih => rw [List.map_cons, List.map_cons, same.1, ih]

/-! ## What is read is of the shape -/

/-- What was found so far: values of the shapes that their names have. -/
def Known (fields : List (String × Shape)) (found : List (String × Json)) : Prop :=
  ∀ m ∈ found, ∀ shape, fields.lookup m.1 = some shape → OfShape shape m.2

theorem lookup_mem {α : Type} {l : List (String × α)} {name : String} {a : α}
    (h : l.lookup name = some a) : (name, a) ∈ l := by
  induction l with
  | nil => cases h
  | cons e l ih =>
    rw [List.lookup_cons] at h
    split at h
    · rename_i same
      cases h
      rw [eq_of_beq same]
      exact List.mem_cons_self
    · exact List.mem_cons_of_mem e (ih h)

/-- The members that are put in order have the names of the fields, and were found. -/
theorem arrange_eq_ok {fields : List (String × Shape)} {found members : List (String × Json)}
    (h : arrange fields found = .ok members) :
    List.Forall₂ (fun f m => f.1 = m.1 ∧ m ∈ found) fields members := by
  induction fields generalizing members with
  | nil =>
    cases h
    exact .nil
  | cons f fields ih =>
    obtain ⟨name, shape⟩ := f
    unfold arrange at h
    rw [List.mapM_cons] at h
    obtain ⟨m, here, h⟩ := bind_eq_ok_iff.1 h
    obtain ⟨more, later, same⟩ := bind_eq_ok_iff.1 h
    cases same
    refine .cons ?_ (ih later)
    dsimp only at here
    split at here
    · rename_i value got
      cases here
      exact ⟨rfl, lookup_mem got⟩
    · cases here

theorem ofShape_arrange {fields : List (String × Shape)} {strict : Bool}
    {found members : List (String × Json)} (distinct : (fields.map Prod.fst).Nodup)
    (known : Known fields found) (h : arrange fields found = .ok members) :
    OfShape (.record fields strict) (.object members) := by
  have arranged := List.forall₂_iff_zip.1 (arrange_eq_ok h)
  refine .of_fields (List.forall₂_iff_zip.2 ⟨arranged.1, fun {f m} mem => ?_⟩)
  obtain ⟨same, got⟩ := arranged.2 mem
  have here : fields.lookup f.1 = some f.2 := lookup_of_mem distinct (List.of_mem_zip mem).1
  exact ⟨same, known m got f.2 (same ▸ here)⟩

/-- What has been found so far, with one more value of the shape of its name. -/
theorem Known.append {fields : List (String × Shape)} {found : List (String × Json)} {name : String}
    {shape : Shape} {value : Json} (known : Known fields found) (here : fields.lookup name = some shape)
    (value_of : OfShape shape value) : Known fields (found ++ [(name, value)]) := by
  intro m mem shape' here'
  rcases List.mem_append.1 mem with mem | mem
  · exact known m mem shape' here'
  · rw [List.mem_singleton.1 mem] at here' ⊢
    rw [here] at here'
    cases here'
    exact value_of

/-- With this much fuel, what is read is of the shape: values, items, fields and members. -/
structure ReadsValues (fuel : Nat) : Prop where
  value {shape : Shape} {cs rest : List Char} {v : Json} : shape.Distinct →
    readValue fuel shape cs = .ok (v, rest) → OfShape shape v
  items {shape : Shape} {cs rest : List Char} {items : List Json} : shape.Distinct →
    readItems fuel shape cs = .ok (items, rest) → ∀ j ∈ items, OfShape shape j
  fields {fields : List (String × Shape)} {cs rest : List Char} {members : List (String × Json)} :
    (∀ f ∈ fields, f.2.Distinct) → readFields fuel fields cs = .ok (members, rest) →
      List.Forall₂ (fun f m => f.1 = m.1 ∧ OfShape f.2 m.2) fields members
  members {fields : List (String × Shape)} {strict : Bool} {found members : List (String × Json)}
    {cs rest : List Char} : (∀ f ∈ fields, f.2.Distinct) → Known fields found →
      readMembers fuel fields strict found cs = .ok (members, rest) → Known fields members

section

variable {fuel : Nat} (ih : ReadsValues fuel)

include ih

theorem ofShape_of_reads {shape : Shape} {cs rest : List Char} {v : Json} (distinct : shape.Distinct)
    (h : Reads fuel shape cs v rest) : OfShape shape v := by
  have nothing (fields : List (String × Shape)) : Known fields [] := fun _ mem => by cases mem
  cases h with
  | text _ => exact .text _
  | flag read =>
    obtain ⟨b, rfl⟩ := readFlag_eq_ok read
    exact .flag b
  | integer read =>
    obtain ⟨n, within, rfl⟩ := readInteger_eq_ok read
    exact .integer within
  | choice read =>
    obtain ⟨name, mem, rfl⟩ := readChoice_eq_ok read
    exact .choice mem
  | noItems _ => exact .list fun _ mem => by cases mem
  | list read =>
    obtain ⟨⟩ | ⟨⟩ | ⟨⟩ | ⟨⟩ | inner := distinct
    exact .list (ih.items inner read)
  | noFields _ arranged =>
    cases distinct with
    | record names _ => exact ofShape_arrange names (nothing _) arranged
  | fields read =>
    cases distinct with
    | record _ inner => exact .of_fields (ih.fields inner read)
  | noMembers _ arranged =>
    cases distinct with
    | record names _ => exact ofShape_arrange names (nothing _) arranged
  | members read arranged =>
    cases distinct with
    | record names inner => exact ofShape_arrange names (ih.members inner (nothing _) read) arranged

theorem ofShape_of_readItems {shape : Shape} {cs rest : List Char} {items : List Json}
    (distinct : shape.Distinct) (h : readItems (fuel + 1) shape cs = .ok (items, rest)) :
    ∀ j ∈ items, OfShape shape j := by
  obtain ⟨item, left, read, ⟨-, rfl⟩ | ⟨next, more, -, later, rfl⟩⟩ := readItems_succ h
  · exact List.forall_mem_singleton.2 (ih.value distinct read)
  · exact List.forall_mem_cons.2 ⟨ih.value distinct read, ih.items distinct later⟩

theorem ofShape_of_readFields {fields : List (String × Shape)} {cs rest : List Char}
    {members : List (String × Json)} (distinct : ∀ f ∈ fields, f.2.Distinct)
    (h : readFields (fuel + 1) fields cs = .ok (members, rest)) :
    List.Forall₂ (fun f m => f.1 = m.1 ∧ OfShape f.2 m.2) fields members := by
  obtain ⟨name, shape, others, value, left, rfl, read, ends⟩ := readFields_succ h
  obtain ⟨here, later⟩ := List.forall_mem_cons.1 distinct
  have value_of := ih.value here read
  obtain ⟨-, rfl, rfl⟩ | ⟨next, more, -, read, rfl⟩ := ends
  · exact .cons ⟨rfl, value_of⟩ .nil
  · exact .cons ⟨rfl, value_of⟩ (ih.fields later read)

theorem known_of_readMembers {fields : List (String × Shape)} {strict : Bool}
    {found members : List (String × Json)} {cs rest : List Char} (distinct : ∀ f ∈ fields, f.2.Distinct)
    (known : Known fields found)
    (h : readMembers (fuel + 1) fields strict found cs = .ok (members, rest)) :
    Known fields members := by
  obtain ⟨found', left, member, ends⟩ := readMembers_succ h
  generalize skipSpace cs = text at member
  have known' : Known fields found' := by
    cases member with
    | field _ _ here _ read =>
      exact known.append here (ih.value (distinct _ (lookup_mem here)) read)
    | other _ _ _ _ _ => exact known
  obtain ⟨-, rfl⟩ | ⟨next, -, later⟩ := ends
  · exact known'
  · exact ih.members distinct known' later

end

theorem readsValues (fuel : Nat) : ReadsValues fuel := by
  induction fuel with
  | zero =>
    refine ⟨fun _ h => ?_, fun _ h => ?_, fun _ h => ?_, fun _ _ h => ?_⟩
    · rw [readValue] at h
      cases h
    · rw [readItems] at h
      cases h
    · rw [readFields] at h
      cases h
    · rw [readMembers] at h
      cases h
  | succ fuel ih =>
    exact ⟨fun distinct h => ofShape_of_reads ih distinct (reads_of_readValue h),
      ofShape_of_readItems ih, ofShape_of_readFields ih, known_of_readMembers ih⟩

/-- What a whole text is read as is of the shape. -/
theorem ofShape_read {shape : Shape} {cs : List Char} {v : Json} (distinct : shape.Distinct)
    (h : shape.read cs = .ok v) : OfShape shape v := by
  obtain ⟨left, reads, -⟩ := Shape.read_eq_ok h
  exact ofShape_of_reads (readsValues _) distinct reads

/-! ## Of the shape, and written, it is read back -/

/-- A value as it is written begins with a mark of its own, which is neither space nor the end of a list. -/
theorem exists_write_cons (j : Json) :
    ∃ c cs, j.write = c :: cs ∧ isSpace c = false ∧ c ≠ ']' := by
  cases j with
  | text s => exact ⟨'"', _, rfl, by decide, by decide⟩
  | flag b => cases b <;> exact ⟨_, _, rfl, by decide, by decide⟩
  | integer n =>
    obtain ⟨c, cs, text, mark⟩ := (Numeral.literal_writeInt n).exists_cons
    have other := number_mark mark
    exact ⟨c, cs, text, other.1, fun same => other.2 (same ▸ List.mem_cons_self)⟩
  | list items => exact ⟨'[', _, rfl, by decide, by decide⟩
  | object members => exact ⟨'{', _, rfl, by decide, by decide⟩

theorem readsBack_integer {n : Int} (h : inRange n = true) : ReadsBack .integer (.integer n) := by
  intro fuel rest enough follow
  have small : n.natAbs ≤ 9223372036854775808 := by
    simp only [inRange, Bool.and_eq_true, decide_eq_true_eq] at h
    omega
  obtain ⟨c, cs, text, space, -⟩ := exists_write_cons (.integer n)
  have scanned := Numeral.scan_append (Numeral.literal_writeInt n) follow.ends
  rw [← write, text] at scanned
  obtain ⟨fuel, rfl⟩ := exists_fuel enough
  rw [text, List.cons_append, readValue, skipSpace_cons space]
  rw [List.cons_append] at scanned
  simp only [readInteger, scanned, Numeral.isHuge_ofInt small, Numeral.toInt?_ofInt, h, if_true,
    Bool.false_eq_true, if_false]

theorem readsBack_choice {names : List String} {name : String} (mem : name ∈ names) :
    ReadsBack (.choice names) (.text name) := by
  intro fuel rest enough _
  obtain ⟨fuel, rfl⟩ := exists_fuel enough
  have read := readText_quote name rest
  rw [write, readValue, skipSpace_quote]
  rw [quote_append] at read ⊢
  simp only [readChoice, read, ok_bind, List.contains_iff_mem.2 mem, if_true]

/-! ### Lists -/

/-- The items that are left are read one after another. -/
theorem readItems_write {shape : Shape} (rest : List Char) (j : Json) (more : List Json) (fuel : Nat)
    (reads : ∀ x ∈ j :: more, ReadsBack shape x)
    (enough : (join (writeItems (j :: more))).length + 1 < fuel) :
    readItems fuel shape (join (writeItems (j :: more)) ++ ']' :: rest) = .ok (j :: more, rest) := by
  obtain ⟨fuel, rfl⟩ := exists_fuel enough
  have here := reads j List.mem_cons_self
  induction more generalizing j fuel with
  | nil =>
    have closed : MayFollow (']' :: rest) := by simp [MayFollow]
    simp only [writeItems, join] at enough ⊢
    rw [readItems, here fuel _ (by omega) closed, ok_bind]
    rfl
  | cons j' more ih =>
    have comma (cs : List Char) : MayFollow (',' :: cs) := by simp [MayFollow]
    have text : join (writeItems (j :: j' :: more)) ++ ']' :: rest =
        j.write ++ ',' :: (join (writeItems (j' :: more)) ++ ']' :: rest) := by
      simp [writeItems, join]
    have long : (join (writeItems (j :: j' :: more))).length =
        j.write.length + ((join (writeItems (j' :: more))).length + 1) := by
      simp only [writeItems, join, List.length_append, List.length_cons]
    have later := fun x mem => reads x (List.mem_cons_of_mem j mem)
    obtain ⟨fuel, rfl⟩ := Nat.exists_eq_succ_of_ne_zero (show fuel ≠ 0 by omega)
    rw [text, readItems, here (fuel + 1) _ (by omega) (comma _), ok_bind]
    show (readItems (fuel + 1) shape _).map _ = _
    rw [ih j' later fuel (by omega) (later j' List.mem_cons_self)]
    rfl

theorem readsBack_list {shape : Shape} {items : List Json} (reads : ∀ j ∈ items, ReadsBack shape j) :
    ReadsBack (.list shape) (.list items) := by
  intro fuel rest enough _
  obtain ⟨fuel, rfl⟩ := exists_fuel enough
  have text : (Json.list items).write ++ rest = '[' :: (join (writeItems items) ++ ']' :: rest) := by
    simp [write]
  simp only [write, List.length_cons, List.length_append] at enough
  rw [text]
  simp only [readValue, skipSpace_mark]
  cases items with
  | nil => rfl
  | cons j more =>
    have read := readItems_write rest j more fuel reads (by omega)
    obtain ⟨c, cs, first, space, other⟩ := exists_write_cons j
    obtain ⟨cs, start⟩ : ∃ cs, join (writeItems (j :: more)) ++ ']' :: rest = c :: cs := by
      cases more <;> simp [writeItems, join, first]
    rw [start] at read ⊢
    rw [skipSpace_cons space]
    split
    · rename_i same
      exact absurd (List.cons.inj same).1 other
    · rw [read]
      rfl

/-! ### Records -/

/-- The field that a member stands for. -/
theorem exists_field {fields : List (String × Shape)} {members : List (String × Json)}
    (names : fields.map Prod.fst = members.map Prod.fst) {m : String × Json} (mem : m ∈ members) :
    ∃ f, f ∈ fields ∧ f.1 = m.1 ∧ (f, m) ∈ fields.zip members := by
  obtain ⟨i, here, rfl⟩ := List.mem_iff_getElem.1 mem
  have same : fields.length = members.length := by simpa using congrArg List.length names
  have there : i < fields.length := same ▸ here
  refine ⟨fields[i], List.getElem_mem there, ?_, ?_⟩
  · have := congrArg (·[i]?) names
    simpa [here, there] using this
  · exact List.mem_iff_getElem.2 ⟨i, by simp [here, there], List.getElem_zip⟩

/-- A value of a shape is read back by it. -/
theorem OfShape.readsBack {shape : Shape} {v : Json} (h : OfShape shape v) (distinct : shape.Distinct) :
    ReadsBack shape v := by
  induction h with
  | text s => exact readsBack_text s
  | flag b => exact readsBack_flag b
  | integer within => exact readsBack_integer within
  | choice mem => exact readsBack_choice mem
  | list _ ih =>
    cases distinct with
    | list inner => exact readsBack_list fun j mem => ih j mem inner
  | record names _ ih =>
    cases distinct with
    | record nodup inner =>
      refine readsBack_record _ names (names ▸ nodup) fun m mem => ?_
      obtain ⟨f, field, same, paired⟩ := exists_field names mem
      exact ⟨f.2, same ▸ lookup_of_mem nodup field, ih (f, m) paired (inner f field)⟩

end GuessingRoom.Json
