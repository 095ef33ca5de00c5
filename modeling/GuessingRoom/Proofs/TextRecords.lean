import GuessingRoom.Proofs.ShapeValues

/-!
# Records of texts

Which texts a record is read from whose fields are all strings. A text is laid out as a list, an object or
something else (`Json.Layout`), and of its items and members only the strings count that they spell. The
record is read if the list is that of its fields, or if each field stands in the object once, with a string
(`Json.read_document`); whatever is read has such a layout (`Json.exists_document`).
-/

namespace GuessingRoom.Json

/-! ## Layouts -/

/-- A value, as far as it matters to a field: the string that it spells, or none. -/
inductive Datum : Option String → List Char → Prop
  | text {s t} : Literal s t → Datum (some s) t
  | other {t} : Derives .value t → (∀ s, ¬ Literal s t) → Datum none t

/-- A value with space around it. -/
inductive Item : Option String → List Char → Prop
  | mk {d s v s'} : Space s → Datum d v → Space s' → Item d (s ++ (v ++ s'))

inductive Items : List (Option String) → List Char → Prop
  | last {d t} : Item d t → Items [d] t
  | more {d ds t t'} : Item d t → Items ds t' → Items (d :: ds) (t ++ ',' :: t')

inductive Member : String × Option String → List Char → Prop
  | mk {name d s k s' t} : Space s → Literal name k → Space s' → Item d t →
      Member (name, d) (s ++ (k ++ (s' ++ ':' :: t)))

inductive Members : List (String × Option String) → List Char → Prop
  | last {m t} : Member m t → Members [m] t
  | more {m ms t t'} : Member m t → Members ms t' → Members (m :: ms) (t ++ ',' :: t')

/-- What a record may be found in: the items of a list, or the members of an object. -/
inductive Document where
  | list (items : List (Option String))
  | object (members : List (String × Option String))
  | scalar

/-- The text of a document, without the space around it. -/
inductive Layout : Document → List Char → Prop
  | noItems {s} : Space s → Layout (.list []) ('[' :: (s ++ [']']))
  | items {ds t} : Items ds t → Layout (.list ds) ('[' :: (t ++ [']']))
  | noMembers {s} : Space s → Layout (.object []) ('{' :: (s ++ ['}']))
  | members {ms t} : Members ms t → Layout (.object ms) ('{' :: (t ++ ['}']))
  | scalar {t} : Derives .value t → t.head? ≠ some '[' → t.head? ≠ some '{' → Layout .scalar t

/-- The text of a document, with space around it. -/
def Document.Text (doc : Document) (cs : List Char) : Prop :=
  ∃ s t s', Space s ∧ Layout doc t ∧ Space s' ∧ cs = s ++ (t ++ s')

/-- Which values a document gives to the fields of a record: the items of a list, which are as many, or what
stands under the name of a field as the only member of this name. -/
def Document.Gives (fields values : List String) : Document → Prop
  | .list items => fields.length = values.length ∧ items = values.map some
  | .object members =>
    List.Forall₂ (fun field value => members.filter (·.1 == field) = [(field, some value)]) fields values
  | .scalar => False

/-! ## Items -/

section

variable {s v t rest : List Char} {str : String} {fuel : Nat}

theorem Literal.exists_cons (h : Literal str t) : ∃ cs, t = '"' :: cs := by
  cases h with
  | mk _ _ => exact ⟨_, rfl⟩

theorem Literal.derives (h : Literal str t) : Derives .value t := by
  cases h with
  | mk glyphs _ => exact .string glyphs

theorem Datum.derives {d : Option String} (h : Datum d t) : Derives .value t := by
  cases h with
  | text literal => exact literal.derives
  | other value _ => exact value

/-- A value is a string, and of the one string that it spells, or it is something else. -/
theorem exists_datum (h : Derives .value t) : ∃ d, Datum d t := by
  by_cases literal : ∃ s, Literal s t
  · obtain ⟨s, literal⟩ := literal
    exact ⟨some s, .text literal⟩
  · exact ⟨none, .other h fun s spelled => literal ⟨s, spelled⟩⟩

theorem Item.derives {d : Option String} (h : Item d t) : Derives .item t := by
  cases h with
  | mk before datum after => exact .item before datum.derives after

theorem Items.derives {ds : List (Option String)} (h : Items ds t) : Derives .items t := by
  induction h with
  | last item => exact .lastItem item.derives
  | more item _ ih => exact .moreItems item.derives ih

theorem Member.derives {m : String × Option String} (h : Member m t) : Derives .member t := by
  cases h with
  | @mk name d s k s' t before literal between item =>
    cases literal with
    | mk glyphs _ => simpa using Derives.member before glyphs between item.derives

theorem Members.derives {ms : List (String × Option String)} (h : Members ms t) : Derives .members t := by
  induction h with
  | last member => exact .lastMember member.derives
  | more member _ ih => exact .moreMembers member.derives ih

/-- Only a string begins with a quotation mark. -/
theorem Derives.glyphs (h : Derives .value ('"' :: t)) : ∃ ps k, Glyphs ps k ∧ t = k ++ ['"'] := by
  generalize text : '"' :: t = u at h
  cases h with
  | word mem =>
    subst text
    simp [words] at mem
  | number literal =>
    obtain ⟨c, cs, rfl, mark⟩ := literal.exists_cons
    obtain ⟨rfl, -⟩ := List.cons.inj text
    exact absurd (by simp) (number_mark mark).2
  | string glyphs => exact ⟨_, _, glyphs, (List.cons.inj text).2⟩
  | noItems _ => cases (List.cons.inj text).1
  | list _ => cases (List.cons.inj text).1
  | noMembers _ => cases (List.cons.inj text).1
  | object _ => cases (List.cons.inj text).1

/-- What is read as a string at the front of a value is all of the value. -/
theorem literal_of_readText {left : List Char} (h : Derives .value v)
    (read : readText (v ++ rest) = .ok (str, left)) : Literal str v ∧ left = rest := by
  obtain ⟨t, literal, text⟩ := readText_eq_ok_iff.1 read
  cases literal with
  | mk glyphs spelled =>
    obtain ⟨c, cs, rfl, -⟩ := h.exists_cons
    rw [List.cons_append, List.cons_append, List.cons.injEq] at text
    obtain ⟨rfl, text⟩ := text
    obtain ⟨ps, k, glyphs', rfl⟩ := h.glyphs
    -- Two spellings begin the same text, so they end at the same quotation mark.
    have scanned := scanQuoted_of_glyphs glyphs left
    have scanned' := scanQuoted_of_glyphs glyphs' rest
    rw [List.append_assoc, List.append_assoc, List.singleton_append, List.singleton_append] at text
    rw [text, scanned] at scanned'
    cases scanned'
    obtain rfl := List.append_cancel_right text
    exact ⟨.mk glyphs spelled, rfl⟩

theorem readText_none (h : Datum none v) (rest : List Char) : (readText (v ++ rest)).toOption = none := by
  cases h with
  | other value no =>
    cases read : readText (v ++ rest) with
    | error e => rfl
    | ok r => exact absurd (literal_of_readText value read).1 (no _)

theorem readValue_text (fuel : Nat) (cs : List Char) :
    readValue (fuel + 1) .text cs = (readText (skipSpace cs)).map fun r => (.text r.1, r.2) := by
  rw [readValue]

/-- The string of an item, and the space after it, if it is a string. -/
theorem readValue_item {d : Option String} (h : Item d t) (fuel : Nat) (rest : List Char) :
    ∃ s, Space s ∧ (readValue (fuel + 1) .text (t ++ rest)).toOption =
      d.map fun str => (.text str, s ++ rest) := by
  cases h with
  | @mk s v s' before datum after =>
    refine ⟨s', after, ?_⟩
    obtain ⟨c, cs, first, mark, -⟩ := datum.derives.exists_cons
    have start : skipSpace (s ++ (v ++ s') ++ rest) = v ++ (s' ++ rest) := by
      rw [List.append_assoc, skipSpace_append before, first, List.append_assoc, List.cons_append,
        skipSpace_cons mark]
    rw [readValue_text, start]
    cases datum with
    | text literal =>
      rw [readText_eq_ok_iff.2 ⟨v, literal, rfl⟩]
      rfl
    | other value no =>
      obtain ⟨e, fails⟩ := toOption_eq_none_iff.1 (readText_none (.other value no) (s' ++ rest))
      rw [fails]
      rfl

end

/-! ## Lists -/

/-- Fields that are all strings. -/
def textFields (names : List String) : List (String × Shape) := names.map fun name => (name, .text)

/-- The fields with their strings. -/
def textMembers (names values : List String) : List (String × Json) := names.zip (values.map .text)

theorem readEnding_space {s : List Char} (space : Space s) (close : Char) (cs : List Char) :
    readEnding close (s ++ cs) = readEnding close cs := by
  simp only [readEnding, skipSpace_append space]

/-- The first item of a list is the first field if it is a string, and then the others go on. -/
theorem readFields_item {d : Option String} {t : List Char} (item : Item d t) (name : String)
    (names : List String) (fuel : Nat) (rest : List Char) :
    (readFields (fuel + 2) (textFields (name :: names)) (t ++ rest)).toOption =
      d.bind fun str => (readEnding ']' rest).toOption.bind fun ending =>
        match names, ending with
        | [], .closed left => some ([(name, .text str)], left)
        | [], .more _ => none
        | _ :: _, .closed _ => none
        | name' :: names, .more next =>
          (readFields (fuel + 1) (textFields (name' :: names)) next).toOption.map fun r =>
            ((name, .text str) :: r.1, r.2) := by
  obtain ⟨s, space, read⟩ := readValue_item item fuel rest
  rw [textFields, List.map_cons, readFields]
  cases d with
  | none =>
    obtain ⟨e, fails⟩ := toOption_eq_none_iff.1 read
    rw [fails]
    rfl
  | some str =>
    rw [toOption_eq_some_iff.1 read, ok_bind]
    dsimp only
    rw [readEnding_space space, Option.bind_some]
    cases readEnding ']' rest with
    | error e => rfl
    | ok ending =>
      cases names with
      | nil => cases ending <;> rfl
      | cons name' names =>
        cases ending with
        | closed left => rfl
        | more next =>
          rw [ok_bind]
          exact toOption_map _ _

theorem readFields_items_cons {ds : List (Option String)} {t : List Char} (h : Items ds t) (name : String)
    (names : List String) (fuel : Nat) (rest left : List Char) (members : List (String × Json))
    (enough : t.length + 1 < fuel) :
    (readFields fuel (textFields (name :: names)) (t ++ ']' :: rest)).toOption = some (members, left) ↔
      left = rest ∧ ∃ values, (name :: names).length = values.length ∧ ds = values.map some ∧
        members = textMembers (name :: names) values := by
  induction h generalizing name names fuel members with
  | @last d t item =>
    obtain ⟨fuel, rfl⟩ : ∃ n, fuel = n + 2 := ⟨fuel - 2, by omega⟩
    have closed : (readEnding ']' (']' :: rest)).toOption = some (.closed rest) := rfl
    rw [readFields_item item, closed]
    constructor
    · intro h
      obtain ⟨str, rfl, h⟩ := Option.bind_eq_some_iff.1 h
      cases names with
      | nil =>
        cases h
        exact ⟨rfl, [str], rfl, rfl, rfl⟩
      | cons _ _ => cases h
    · rintro ⟨rfl, values, length, same, rfl⟩
      obtain ⟨str, rfl, rfl⟩ := List.map_eq_singleton_iff.1 same.symm
      obtain rfl := List.length_eq_zero_iff.1 (Nat.succ.inj length)
      rfl
  | @more d ds t t' item items ih =>
    simp only [List.length_append, List.length_cons] at enough
    obtain ⟨fuel, rfl⟩ : ∃ n, fuel = n + 2 := ⟨fuel - 2, by omega⟩
    have comma : (readEnding ']' (',' :: (t' ++ ']' :: rest))).toOption =
      some (.more (t' ++ ']' :: rest)) := rfl
    rw [List.append_assoc, List.cons_append, readFields_item item, comma]
    constructor
    · intro h
      obtain ⟨str, rfl, h⟩ := Option.bind_eq_some_iff.1 h
      cases names with
      | nil => cases h
      | cons name' names =>
        obtain ⟨⟨members, left⟩, later, h⟩ := Option.map_eq_some_iff.1 h
        cases h
        obtain ⟨rfl, values, length, rfl, rfl⟩ := (ih name' names (fuel + 1) members (by omega)).1 later
        exact ⟨rfl, str :: values, congrArg Nat.succ length, rfl, rfl⟩
    · rintro ⟨rfl, values, length, same, rfl⟩
      obtain ⟨str, values, rfl, rfl, rfl⟩ := List.map_eq_cons_iff.1 same.symm
      cases names with
      | nil =>
        obtain rfl := List.length_eq_zero_iff.1 (Nat.succ.inj length).symm
        cases items
      | cons name' names =>
        have later := (ih name' names (fuel + 1) _ (by omega)).2
          ⟨rfl, values, Nat.succ.inj length, rfl, rfl⟩
        exact Option.map_eq_some_iff.2 ⟨_, later, rfl⟩

/-- The items of a list are read as the fields if they are as many strings. -/
theorem readFields_items {ds : List (Option String)} {t : List Char} (h : Items ds t) (fields : List String)
    {fuel : Nat} (enough : t.length + 1 < fuel) {rest left : List Char} {members : List (String × Json)} :
    readFields fuel (textFields fields) (t ++ ']' :: rest) = .ok (members, left) ↔
      left = rest ∧ ∃ values, fields.length = values.length ∧ ds = values.map some ∧
        members = textMembers fields values := by
  cases fields with
  | nil =>
    constructor
    · intro read
      cases fuel <;> cases read
    · rintro ⟨-, values, length, rfl, -⟩
      obtain rfl := List.length_eq_zero_iff.1 length.symm
      cases h
  | cons name names =>
    rw [← toOption_eq_some_iff]
    exact readFields_items_cons h name names fuel rest left members enough

/-! ## Objects -/

/-- The strings that were found for fields. -/
def texts (found : List (String × String)) : List (String × Json) := found.map fun v => (v.1, .text v.2)

/-- What is found with one more member: a field must not have been found before, and has to be a string. -/
def take (fields : List String) (found : List (String × String)) (m : String × Option String) :
    Option (List (String × String)) :=
  if m.1 ∈ fields then
    if m.1 ∈ found.map Prod.fst then none else m.2.map fun str => found ++ [(m.1, str)]
  else some found

theorem lookup_textFields (fields : List String) (name : String) :
    (textFields fields).lookup name = if name ∈ fields then some .text else none := by
  induction fields with
  | nil => rfl
  | cons first fields ih =>
    rw [textFields, List.map_cons, List.lookup_cons]
    by_cases same : name = first
    · simp [same]
    · rw [beq_false_of_ne same]
      simp only [List.mem_cons, same, false_or]
      exact ih

theorem lookup_texts (found : List (String × String)) (name : String) :
    (texts found).lookup name = (found.lookup name).map .text := by
  induction found with
  | nil => rfl
  | cons v found ih =>
    rw [texts, List.map_cons, List.lookup_cons, List.lookup_cons]
    split
    · rfl
    · exact ih

theorem lookup_texts_isSome (found : List (String × String)) (name : String) :
    ((texts found).lookup name).isSome = true ↔ name ∈ found.map Prod.fst := by
  rw [lookup_texts, Option.isSome_map, List.lookup_isSome_iff, List.mem_map]
  refine exists_congr fun v => and_congr_right fun _ => ?_
  rw [beq_iff_eq, eq_comm]

theorem skip_item {d : Option String} {t rest : List Char} (h : Item d t) (follow : MayFollow rest) :
    ∃ s, Space s ∧ skip (t ++ rest) = some (s ++ rest) := by
  cases h with
  | @mk s v s' before datum after =>
    refine ⟨s', after, ?_⟩
    rw [List.append_assoc, List.append_assoc]
    exact skip_append before datum.derives (after.ends follow.ends)

/-- A member is taken, and then the others go on. -/
theorem readMembers_member_text {fields : List String} {found : List (String × String)}
    {m : String × Option String} {t rest : List Char} (h : Member m t) (follow : MayFollow rest)
    (fuel : Nat) :
    (readMembers (fuel + 2) (textFields fields) false (texts found) (t ++ rest)).toOption =
      (take fields found m).bind fun found' => (readEnding '}' rest).toOption.bind fun
        | .closed left => some (texts found', left)
        | .more next =>
          (readMembers (fuel + 1) (textFields fields) false (texts found') next).toOption := by
  cases h with
  | @mk name d s k s' t before literal between item =>
    have named : readText (k ++ (s' ++ ':' :: (t ++ rest))) = .ok (name, s' ++ ':' :: (t ++ rest)) :=
      readText_eq_ok_iff.2 ⟨k, literal, rfl⟩
    have colon : skipSpace (s' ++ ':' :: (t ++ rest)) = ':' :: (t ++ rest) := by
      rw [skipSpace_append between]
      rfl
    have text : s ++ (k ++ (s' ++ ':' :: t)) ++ rest = s ++ (k ++ (s' ++ ':' :: (t ++ rest))) := by simp
    obtain ⟨cs, rfl⟩ := literal.exists_cons
    rw [List.cons_append] at named
    have start : skipSpace (s ++ ('"' :: cs ++ (s' ++ ':' :: (t ++ rest)))) =
        '"' :: (cs ++ (s' ++ ':' :: (t ++ rest))) := by
      rw [skipSpace_append before]
      rfl
    rw [text, readMembers, start]
    by_cases field : name ∈ fields
    · by_cases again : name ∈ found.map Prod.fst
      · have seen := (lookup_texts_isSome found name).2 again
        simp only [named, ok_bind, lookup_textFields, if_pos field, seen, if_true, take, if_pos again]
        rfl
      · have fresh := mt (lookup_texts_isSome found name).1 again
        obtain ⟨after, space, read⟩ := readValue_item item fuel rest
        simp only [named, ok_bind, lookup_textFields, if_pos field, fresh, colon, take, if_neg again]
        cases d with
        | none =>
          obtain ⟨e, fails⟩ := toOption_eq_none_iff.1 read
          simp only [fails]
          rfl
        | some str =>
          have extended : texts found ++ [(name, .text str)] = texts (found ++ [(name, str)]) := by
            simp [texts]
          simp only [toOption_eq_some_iff.1 read, ok_bind, readEnding_space space, extended]
          rcases readEnding '}' rest with e | (left | next) <;> rfl
    · obtain ⟨after, space, skipped⟩ := skip_item item follow
      simp only [named, ok_bind, lookup_textFields, if_neg field, colon, skipped, take, readEnding_space space]
      rcases readEnding '}' rest with e | (left | next) <;> rfl

/-- The members of an object are taken one after another. -/
theorem readMembers_members {fields : List String} {ms : List (String × Option String)} {t : List Char}
    (h : Members ms t) (found : List (String × String)) (fuel : Nat) (rest : List Char)
    (enough : t.length + 1 < fuel) :
    (readMembers fuel (textFields fields) false (texts found) (t ++ '}' :: rest)).toOption =
      (ms.foldlM (take fields) found).map fun found' => (texts found', rest) := by
  induction h generalizing found fuel with
  | @last m t member =>
    obtain ⟨fuel, rfl⟩ : ∃ n, fuel = n + 2 := ⟨fuel - 2, by omega⟩
    rw [readMembers_member_text member (mayFollow_cons (by simp) _), List.foldlM_cons]
    cases take fields found m <;> rfl
  | @more m ms t t' member _ ih =>
    simp only [List.length_append, List.length_cons] at enough
    obtain ⟨fuel, rfl⟩ : ∃ n, fuel = n + 2 := ⟨fuel - 2, by omega⟩
    rw [List.append_assoc, List.cons_append, readMembers_member_text member (mayFollow_cons (by simp) _),
      List.foldlM_cons]
    cases take fields found m with
    | none => rfl
    | some found' => exact ih found' (fuel + 1) (by omega)

/-! ### What is taken -/

theorem forall₂_congr_of_mem {α β : Type} {R S : α → β → Prop} {l : List α} {l' : List β}
    (h : ∀ a ∈ l, ∀ b, R a b ↔ S a b) : List.Forall₂ R l l' ↔ List.Forall₂ S l l' := by
  induction l generalizing l' with
  | nil => rw [List.forall₂_nil_left_iff, List.forall₂_nil_left_iff]
  | cons a l ih =>
    obtain ⟨here, later⟩ := List.forall_mem_cons.1 h
    cases l' with
    | nil => exact ⟨nofun, nofun⟩
    | cons b l' => rw [List.forall₂_cons, List.forall₂_cons, here, ih later]

theorem exists_of_forall₂ {α β : Type} {R : α → β → Prop} {l : List α} {l' : List β}
    (h : List.Forall₂ R l l') {a : α} (mem : a ∈ l) : ∃ b, R a b := by
  induction h with
  | nil => cases mem
  | cons here _ ih =>
    rcases List.mem_cons.1 mem with rfl | mem
    · exact ⟨_, here⟩
    · exact ih mem

section

variable {fields : List String} {found found' : List (String × String)} {ms : List (String × Option String)}
  {m : String × Option String}

/-- The strings that were found, as members. -/
def asMembers (found : List (String × String)) : List (String × Option String) :=
  found.map fun v => (v.1, some v.2)

theorem take_eq_some (h : take fields found m = some found') : m.1 ∉ fields ∧ found' = found ∨
    m.1 ∉ found.map Prod.fst ∧ ∃ str, m = (m.1, some str) ∧ found' = found ++ [(m.1, str)] := by
  obtain ⟨name, d⟩ := m
  unfold take at h
  split at h
  · split at h
    · cases h
    · rename_i fresh
      obtain ⟨str, rfl, rfl⟩ := Option.map_eq_some_iff.1 h
      exact .inr ⟨fresh, str, rfl, rfl⟩
  · rename_i other
    cases h
    exact .inl ⟨other, rfl⟩

/-- What stands under the name of a field stays the same when one more member is taken. -/
theorem filter_take (h : take fields found m = some found') {field : String} (known : field ∈ fields) :
    (asMembers found').filter (·.1 == field) = (asMembers found ++ [m]).filter (·.1 == field) := by
  obtain ⟨other, rfl⟩ | ⟨-, str, same, rfl⟩ := take_eq_some h
  · have differs : (m.1 == field) = false := beq_false_of_ne fun same => other (same ▸ known)
    simp [List.filter_append, differs]
  · rw [asMembers, List.map_append, List.map_singleton, ← same]
    rfl

theorem nodup_take (h : take fields found m = some found') (nodup : (found.map Prod.fst).Nodup) :
    (found'.map Prod.fst).Nodup := by
  obtain ⟨-, rfl⟩ | ⟨fresh, str, -, rfl⟩ := take_eq_some h
  · exact nodup
  · rw [List.map_append, List.map_singleton]
    exact List.nodup_append.2 ⟨nodup, List.nodup_singleton _, fun a mem b single same =>
      fresh (List.mem_singleton.1 single ▸ same ▸ mem)⟩

theorem filter_foldlM (h : ms.foldlM (take fields) found = some found') {field : String}
    (known : field ∈ fields) :
    (asMembers found').filter (·.1 == field) = (asMembers found ++ ms).filter (·.1 == field) := by
  induction ms generalizing found with
  | nil =>
    cases h
    rw [List.append_nil]
  | cons m ms ih =>
    rw [List.foldlM_cons] at h
    obtain ⟨next, first, later⟩ := Option.bind_eq_some_iff.1 h
    rw [ih later, List.filter_append, filter_take first known, ← List.filter_append, List.append_assoc]
    rfl

theorem nodup_foldlM (h : ms.foldlM (take fields) found = some found')
    (nodup : (found.map Prod.fst).Nodup) : (found'.map Prod.fst).Nodup := by
  induction ms generalizing found with
  | nil =>
    cases h
    exact nodup
  | cons m ms ih =>
    rw [List.foldlM_cons] at h
    obtain ⟨next, first, later⟩ := Option.bind_eq_some_iff.1 h
    exact ih later (nodup_take first nodup)

/-- A field that stands among all members once, with a string, can be taken. -/
theorem exists_take (once : ∀ field ∈ fields, ∃ value,
    (asMembers found ++ m :: ms).filter (·.1 == field) = [(field, some value)]) :
    ∃ found', take fields found m = some found' := by
  unfold take
  split
  · rename_i known
    obtain ⟨value, alone⟩ := once m.1 known
    rw [List.filter_append, List.filter_cons_of_pos (by simp)] at alone
    obtain ⟨before, rest⟩ | ⟨-, rest⟩ := List.append_eq_singleton_iff.1 alone
    · rw [if_neg]
      · rw [(List.cons.inj rest).1]
        exact ⟨_, rfl⟩
      · intro again
        obtain ⟨v, mem, same⟩ := List.mem_map.1 again
        have stands : (v.1, some v.2) ∈ (asMembers found).filter (·.1 == m.1) :=
          List.mem_filter.2 ⟨List.mem_map_of_mem mem, beq_iff_eq.2 same⟩
        rw [before] at stands
        cases stands
    · cases rest
  · exact ⟨found, rfl⟩

/-- If every field stands among all members once, with a string, they can all be taken. -/
theorem exists_foldlM (once : ∀ field ∈ fields, ∃ value,
    (asMembers found ++ ms).filter (·.1 == field) = [(field, some value)]) :
    ∃ found', ms.foldlM (take fields) found = some found' := by
  induction ms generalizing found with
  | nil => exact ⟨found, rfl⟩
  | cons m ms ih =>
    obtain ⟨next, taken⟩ := exists_take once
    suffices later : ∃ found', ms.foldlM (take fields) next = some found' by
      rw [List.foldlM_cons, taken]
      exact later
    refine ih fun field known => ?_
    obtain ⟨value, same⟩ := once field known
    refine ⟨value, ?_⟩
    rw [List.filter_append, filter_take taken known, ← List.filter_append, List.append_assoc]
    exact same

theorem lookup_eq_some_iff (nodup : (found.map Prod.fst).Nodup) {field value : String} :
    found.lookup field = some value ↔
      (asMembers found).filter (·.1 == field) = [(field, some value)] := by
  induction found with
  | nil => exact ⟨nofun, nofun⟩
  | cons v found ih =>
    obtain ⟨fresh, nodup⟩ := List.nodup_cons.1 nodup
    rw [List.lookup_cons, asMembers, List.map_cons]
    by_cases same : field = v.1
    · subst same
      have none_later : (asMembers found).filter (·.1 == v.1) = [] := by
        refine List.filter_eq_nil_iff.2 fun x mem again => fresh ?_
        obtain ⟨w, there, rfl⟩ := List.mem_map.1 mem
        exact List.mem_map.2 ⟨w, there, beq_iff_eq.1 again⟩
      rw [List.filter_cons_of_pos (by simp), beq_self_eq_true, ← asMembers, none_later]
      simp
    · rw [List.filter_cons_of_neg (by simpa using Ne.symm same), beq_false_of_ne same]
      exact ih nodup

/-- The fields in their order, each with the string that was found for it. -/
theorem arrange_texts {names : List String} {members : List (String × Json)} :
    arrange (textFields names) (texts found) = .ok members ↔
      ∃ values, List.Forall₂ (fun field value => found.lookup field = some value) names values ∧
        members = textMembers names values := by
  induction names generalizing members with
  | nil =>
    constructor
    · intro h
      cases h
      exact ⟨[], .nil, rfl⟩
    · rintro ⟨values, ⟨⟩, rfl⟩
      rfl
  | cons name names ih =>
    have step : arrange (textFields (name :: names)) (texts found) = .ok members ↔
        ∃ str, found.lookup name = some str ∧
          ∃ more, arrange (textFields names) (texts found) = .ok more ∧
            (name, .text str) :: more = members := by
      simp only [arrange, textFields, List.map_cons, List.mapM_cons, bind_eq_ok_iff, lookup_texts]
      cases found.lookup name <;> simp [pure_eq_ok_iff]
    rw [step]
    constructor
    · rintro ⟨str, here, more, later, rfl⟩
      obtain ⟨values, found, rfl⟩ := ih.1 later
      exact ⟨str :: values, .cons here found, rfl⟩
    · rintro ⟨values, given, rfl⟩
      cases given with
      | cons here later => exact ⟨_, here, _, ih.2 ⟨_, later, rfl⟩, rfl⟩

/-- An object gives values to the fields if its members can be taken, and these are then found. -/
theorem gives_object_iff {values : List String} :
    (Document.object ms).Gives fields values ↔ ∃ found, ms.foldlM (take fields) [] = some found ∧
      List.Forall₂ (fun field value => found.lookup field = some value) fields values := by
  have found_iff {found} (taken : ms.foldlM (take fields) [] = some found) (field)
      (known : field ∈ fields) (value : String) :
      ms.filter (·.1 == field) = [(field, some value)] ↔ found.lookup field = some value := by
    have filtered := filter_foldlM taken known
    rw [lookup_eq_some_iff (nodup_foldlM taken List.nodup_nil), filtered]
    rfl
  constructor
  · intro gives
    obtain ⟨found, taken⟩ := @exists_foldlM _ [] _ fun field known => exists_of_forall₂ gives known
    exact ⟨found, taken, (forall₂_congr_of_mem (found_iff taken)).1 gives⟩
  · rintro ⟨found, taken, values⟩
    exact (forall₂_congr_of_mem (found_iff taken)).2 values

end

/-! ## Documents -/

section

variable {doc : Document} {t rest left : List Char} {fields : List String} {v : Json} {fuel : Nat}

theorem arrange_nothing {members : List (String × Json)} :
    arrange (textFields fields) [] = .ok members ↔ fields = [] ∧ members = [] := by
  refine (@arrange_texts [] fields members).trans ?_
  constructor
  · rintro ⟨values, given, rfl⟩
    cases given with
    | nil => exact ⟨rfl, rfl⟩
    | cons here _ => cases here
  · rintro ⟨rfl, rfl⟩
    exact ⟨[], .nil, rfl⟩

/-- Without items or members there is a record only of no fields. -/
theorem map_arrange_nothing (given : ∀ values, doc.Gives fields values ↔ fields = [] ∧ values = []) :
    (arrange (textFields fields) []).map (fun members => (object members, rest)) = .ok (v, left) ↔
      left = rest ∧ ∃ values, doc.Gives fields values ∧ v = .object (textMembers fields values) := by
  rw [map_eq_ok_iff]
  simp only [arrange_nothing, given]
  constructor
  · rintro ⟨_, ⟨rfl, rfl⟩, same⟩
    cases same
    exact ⟨rfl, [], ⟨rfl, rfl⟩, rfl⟩
  · rintro ⟨rfl, _, ⟨rfl, rfl⟩, rfl⟩
    exact ⟨[], ⟨rfl, rfl⟩, rfl⟩

/-- A record is read from a document that gives values to its fields, and from no other. -/
theorem readValue_layout (h : Layout doc t) {s : List Char} (before : Space s) (enough : t.length ≤ fuel) :
    readValue (fuel + 1) (.record (textFields fields) false) (s ++ (t ++ rest)) = .ok (v, left) ↔
      left = rest ∧ ∃ values, doc.Gives fields values ∧ v = .object (textMembers fields values) := by
  have closed (c : Char) (s : List Char) (space : Space s) (other : isSpace c = false) :
      skipSpace (s ++ c :: rest) = c :: rest := by
    rw [skipSpace_append space, skipSpace_cons other]
  have bracket (t : List Char) :
      skipSpace (s ++ ('[' :: (t ++ [']']) ++ rest)) = '[' :: (t ++ ']' :: rest) := by
    rw [skipSpace_append before, List.cons_append, skipSpace_cons (by decide), List.append_assoc,
      List.singleton_append]
  have brace (t : List Char) :
      skipSpace (s ++ ('{' :: (t ++ ['}']) ++ rest)) = '{' :: (t ++ '}' :: rest) := by
    rw [skipSpace_append before, List.cons_append, skipSpace_cons (by decide), List.append_assoc,
      List.singleton_append]
  cases h with
  | noItems space =>
    simp only [readValue, bracket, closed ']' _ space (by decide)]
    refine map_arrange_nothing fun values => ?_
    constructor
    · rintro ⟨length, none⟩
      obtain rfl := List.map_eq_nil_iff.1 none.symm
      exact ⟨List.length_eq_zero_iff.1 length, rfl⟩
    · rintro ⟨rfl, rfl⟩
      exact ⟨rfl, rfl⟩
  | @items ds t items =>
    obtain ⟨c, cs, first, other⟩ := skipSpace_items items.derives (']' :: rest)
    simp only [List.length_cons, List.length_append, List.length_nil] at enough
    simp only [readValue, bracket, first]
    split
    · rename_i same
      exact absurd (List.cons.inj same).1 other
    · rw [map_eq_ok_iff]
      constructor
      · rintro ⟨⟨members, left'⟩, read, same⟩
        cases same
        obtain ⟨rfl, values, length, rfl, rfl⟩ := (readFields_items items fields (by omega)).1 read
        exact ⟨rfl, values, ⟨length, rfl⟩, rfl⟩
      · rintro ⟨rfl, values, ⟨length, rfl⟩, rfl⟩
        exact ⟨_, (readFields_items items fields (by omega)).2 ⟨rfl, values, length, rfl, rfl⟩, rfl⟩
  | noMembers space =>
    simp only [readValue, brace, closed '}' _ space (by decide)]
    refine map_arrange_nothing fun values => ?_
    constructor
    · intro given
      cases given with
      | nil => exact ⟨rfl, rfl⟩
      | cons here _ => cases here
    · rintro ⟨rfl, rfl⟩
      exact .nil
  | @members ms t members =>
    obtain ⟨cs, first⟩ := skipSpace_members members.derives ('}' :: rest)
    simp only [List.length_cons, List.length_append, List.length_nil] at enough
    have read := @readMembers_members fields ms t members [] fuel rest (by omega)
    simp only [readValue, brace, first, gives_object_iff]
    refine bind_eq_ok_iff.trans ?_
    constructor
    · rintro ⟨⟨found', left'⟩, taken, h⟩
      obtain ⟨members', arranged, same⟩ := map_eq_ok_iff.1 h
      cases same
      rw [← toOption_eq_some_iff] at taken
      obtain ⟨found, folded, same⟩ := Option.map_eq_some_iff.1 (read.symm.trans taken)
      cases same
      obtain ⟨values, given, rfl⟩ := arrange_texts.1 arranged
      exact ⟨rfl, values, ⟨found, folded, given⟩, rfl⟩
    · rintro ⟨rfl, values, ⟨found, folded, given⟩, rfl⟩
      rw [folded] at read
      refine ⟨_, toOption_eq_some_iff.1 read, map_eq_ok_iff.2 ⟨_, arrange_texts.2 ?_, rfl⟩⟩
      exact ⟨values, given, rfl⟩
  | scalar value list object =>
    obtain ⟨c, cs, rfl, mark, -⟩ := value.exists_cons
    have start : skipSpace (s ++ (c :: cs ++ rest)) = c :: (cs ++ rest) := by
      rw [skipSpace_append before, List.cons_append, skipSpace_cons mark]
    simp only [readValue, start]
    split <;> simp_all [Document.Gives]

/-- A text that goes on after a document is read as a record if only space follows, and if the document gives
values to the fields. -/
theorem read_append {cs : List Char} (h : doc.Text cs) (more : List Char) :
    (Shape.record (textFields fields) false).read (cs ++ more) = .ok v ↔
      Space more ∧ ∃ values, doc.Gives fields values ∧ v = .object (textMembers fields values) := by
  obtain ⟨s, t, s', before, layout, after, rfl⟩ := h
  have enough : t.length ≤ 2 * (s ++ (t ++ s') ++ more).length + 1 := by
    simp only [List.length_append]
    omega
  have read (v : Json) (left : List Char) :=
    @readValue_layout doc t (s' ++ more) left fields v _ layout s before enough
  rw [List.append_assoc, List.append_assoc] at read ⊢
  unfold Shape.read
  rw [bind_eq_ok_iff]
  constructor
  · rintro ⟨⟨v', left⟩, whole, ends⟩
    obtain ⟨rfl, values, given, rfl⟩ := (read v' left).1 whole
    dsimp only at ends
    split at ends
    · rename_i nothing
      cases ends
      rw [skipSpace_append after, List.isEmpty_iff] at nothing
      exact ⟨skipSpace_eq_nil_iff.1 nothing, values, given, rfl⟩
    · cases ends
  · rintro ⟨space, values, given, rfl⟩
    refine ⟨_, (read _ _).2 ⟨rfl, values, given, rfl⟩, ?_⟩
    dsimp only
    rw [skipSpace_append after, skipSpace_eq_nil_iff.2 space]
    rfl

theorem read_document {cs : List Char} (h : doc.Text cs) :
    (Shape.record (textFields fields) false).read cs = .ok v ↔
      ∃ values, doc.Gives fields values ∧ v = .object (textMembers fields values) := by
  have whole := @read_append doc fields v cs h []
  rw [List.append_nil] at whole
  exact whole.trans (and_iff_right Space.nil)

/-- A document gives a value to each of the fields. -/
theorem Document.Gives.length {values : List String} (h : doc.Gives fields values) :
    fields.length = values.length := by
  cases doc with
  | list items => exact h.1
  | object members => exact List.Forall₂.length_eq h
  | scalar => exact h.elim

/-! ## What is read is a document -/

/-- A string that was read, with the space around it. -/
theorem item_of_readValue {cs : List Char} {c : Char} (h : readValue fuel .text cs = .ok (v, left))
    (ends : skipSpace left = c :: rest) : ∃ d t, Item d t ∧ cs = t ++ c :: rest := by
  cases fuel with
  | zero => cases h
  | succ fuel =>
    rw [readValue_text] at h
    obtain ⟨⟨str, left'⟩, read, same⟩ := map_eq_ok_iff.1 h
    cases same
    obtain ⟨t, literal, text⟩ := readText_eq_ok_iff.1 read
    obtain ⟨s, before, whole⟩ := exists_skipSpace cs
    obtain ⟨s', after, rfl⟩ := exists_of_skipSpace ends
    exact ⟨some str, _, .mk before (.text literal) after, by rw [whole, text]; simp⟩

/-- A value that was passed over, with the space around it. -/
theorem item_of_skip {cs : List Char} {c : Char} (h : skip cs = some left)
    (ends : skipSpace left = c :: rest) : ∃ d t, Item d t ∧ cs = t ++ c :: rest := by
  obtain ⟨s, t, before, value, rfl⟩ := skip_eq_some h
  obtain ⟨s', after, rfl⟩ := exists_of_skipSpace ends
  obtain ⟨d, datum⟩ := exists_datum value
  exact ⟨d, _, .mk before datum after, by simp⟩

theorem items_of_readFields {cs : List Char} {members : List (String × Json)}
    (h : readFields fuel (textFields fields) cs = .ok (members, rest)) :
    ∃ ds t, Items ds t ∧ cs = t ++ ']' :: rest := by
  induction fuel generalizing fields cs members with
  | zero => cases h
  | succ fuel ih =>
    obtain ⟨name, shape, others, value, left, named, read, ends⟩ := readFields_succ h
    obtain ⟨first, names, rfl, same, rfl⟩ := List.map_eq_cons_iff.1 named
    cases same
    obtain ⟨closes, -, -⟩ | ⟨next, more, goes_on, later, -⟩ := ends
    · obtain ⟨_, _, ⟨⟩⟩ | ⟨_, closed, ⟨⟩⟩ := readEnding_eq_ok closes
      obtain ⟨d, t, item, rfl⟩ := item_of_readValue read closed
      exact ⟨_, _, .last item, rfl⟩
    · obtain ⟨_, comma, ⟨⟩⟩ | ⟨_, _, ⟨⟩⟩ := readEnding_eq_ok goes_on
      obtain ⟨d, t, item, rfl⟩ := item_of_readValue read comma
      obtain ⟨ds, t', items, rfl⟩ := ih later
      exact ⟨_, _, .more item items, by simp⟩

theorem member_of_readsMember {cs : List Char} {c : Char} {found found' : List (String × Json)}
    (h : ReadsMember fuel (textFields fields) false found (skipSpace cs) found' left)
    (ends : skipSpace left = c :: rest) : ∃ m t, Member m t ∧ cs = t ++ c :: rest := by
  obtain ⟨s, before, whole⟩ := exists_skipSpace cs
  suffices inner : ∃ name k after colon d t, skipSpace cs = k ++ after ∧ Literal name k ∧
      skipSpace after = ':' :: colon ∧ Item d t ∧ colon = t ++ c :: rest by
    obtain ⟨name, k, after, colon, d, t, text, literal, separated, item, rfl⟩ := inner
    obtain ⟨s', between, rfl⟩ := exists_of_skipSpace separated
    exact ⟨_, _, .mk before literal between item, by rw [whole, text]; simp⟩
  generalize skipSpace cs = text at h
  cases h with
  | field named separated known _ read =>
    obtain ⟨k, literal, text⟩ := readText_eq_ok_iff.1 named
    rw [lookup_textFields] at known
    split at known
    · cases known
      obtain ⟨d, t, item, colon⟩ := item_of_readValue read ends
      exact ⟨_, k, _, _, d, t, text, literal, separated, item, colon⟩
    · cases known
  | other named separated _ _ skipped =>
    obtain ⟨k, literal, text⟩ := readText_eq_ok_iff.1 named
    obtain ⟨d, t, item, colon⟩ := item_of_skip skipped ends
    exact ⟨_, k, _, _, d, t, text, literal, separated, item, colon⟩

theorem members_of_readMembers {cs : List Char} {found members : List (String × Json)}
    (h : readMembers fuel (textFields fields) false found cs = .ok (members, rest)) :
    ∃ ms t, Members ms t ∧ cs = t ++ '}' :: rest := by
  induction fuel generalizing found cs with
  | zero => cases h
  | succ fuel ih =>
    obtain ⟨found', left, reads, ends⟩ := readMembers_succ h
    obtain ⟨closes, -⟩ | ⟨next, goes_on, later⟩ := ends
    · obtain ⟨_, _, ⟨⟩⟩ | ⟨_, closed, ⟨⟩⟩ := readEnding_eq_ok closes
      obtain ⟨m, t, member, rfl⟩ := member_of_readsMember reads closed
      exact ⟨_, _, .last member, rfl⟩
    · obtain ⟨_, comma, ⟨⟩⟩ | ⟨_, _, ⟨⟩⟩ := readEnding_eq_ok goes_on
      obtain ⟨m, t, member, rfl⟩ := member_of_readsMember reads comma
      obtain ⟨ms, t', members, rfl⟩ := ih later
      exact ⟨_, _, .more member members, by simp⟩

/-- What is read as a record is a document. -/
theorem exists_document {cs : List Char} (h : (Shape.record (textFields fields) false).read cs = .ok v) :
    ∃ doc : Document, doc.Text cs := by
  obtain ⟨left, reads, ends⟩ := Shape.read_eq_ok h
  obtain ⟨s, before, text⟩ := exists_skipSpace cs
  have after := skipSpace_eq_nil_iff.1 ends
  suffices laid : ∃ doc t, Layout doc t ∧ skipSpace cs = t ++ left by
    obtain ⟨doc, t, layout, rest⟩ := laid
    exact ⟨doc, s, t, left, before, layout, after, rest ▸ text⟩
  generalize skipSpace cs = inner at reads
  cases reads with
  | noFields closed _ =>
    obtain ⟨s, space, rfl⟩ := exists_of_skipSpace closed
    exact ⟨_, _, .noItems space, by simp⟩
  | fields read =>
    obtain ⟨ds, t, items, rfl⟩ := items_of_readFields read
    exact ⟨_, _, .items items, by simp⟩
  | noMembers closed _ =>
    obtain ⟨s, space, rfl⟩ := exists_of_skipSpace closed
    exact ⟨_, _, .noMembers space, by simp⟩
  | members read _ =>
    obtain ⟨ms, t, members, rfl⟩ := members_of_readMembers read
    exact ⟨_, _, .members members, by simp⟩

end

end GuessingRoom.Json
