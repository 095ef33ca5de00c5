import Mathlib.Data.List.Nodup
import Mathlib.Data.List.Induction
import GuessingRoom.Service.Queue

/-!
# Batches in line

What every batch that was ever queued has to do with those that are still there, and with what the
queue knows of them (`InLine`). Behind a batch that is not done every later batch of its game stands
as it was queued (`InLine.behind`), wherever the one before it is on its way out of the queue: done,
and the next one begun, but not yet forgotten by the queue, or forgotten, or replaced there by a
later one.
-/

namespace GuessingRoom

namespace PublishQueue

/-- The items that a batch has still to begin with, by its number. -/
def left (batches : List Batch) (number : Nat) : List Outgoing :=
  match batches.find? (·.number == number) with
  | some b => b.items
  | none => []

/-- What all batches of the game were queued with, in the order in which they were. -/
def itemsOf (queued : List Batch) (game : Id) : List Outgoing :=
  (queued.filter (·.game == game)).flatMap (·.items)

/-- What batches of the game have still to begin with, in the order in which they were queued. -/
def leftOf (queued batches : List Batch) (game : Id) : List Outgoing :=
  (queued.filter (·.game == game)).flatMap fun q => left batches q.number

/-- No earlier batch of the game has anything to do. -/
def IsNext (batches : List Batch) (b : Batch) : Prop :=
  ∀ x ∈ batches, x.game = b.game → x.number < b.number → x.done = true

/-- The batches as they were queued, those that are still there, and the queue. -/
structure InLine (queue : PublishQueue) (queued batches : List Batch) : Prop where
  numbers : queued.map (·.number) = List.range queue.next
  distinct : (batches.map (·.number)).Nodup
  known : ∀ b ∈ batches, ∃ q ∈ queued, q.number = b.number ∧ q.game = b.game
  /-- A batch waits for the last one of its game that was queued before it. -/
  previous : ∀ b ∈ batches, ∀ p, b.previous = some p →
    (∃ q ∈ queued, q.number = p ∧ q.game = b.game) ∧ p < b.number ∧
      ∀ q ∈ queued, q.game = b.game → q.number < b.number → q.number ≤ p
  /-- Behind a batch that is not done the later ones of its game have not begun. -/
  behind : ∀ b ∈ batches, b.done = false → ∀ q ∈ queued, q.game = b.game → b.number < q.number →
    ∃ x ∈ batches, x.number = q.number ∧ x.done = false ∧ x.delivery = none ∧ x.items = q.items ∧
      x.previous ≠ none
  ended : ∀ b ∈ batches, b.done = true → b.items = [] ∧ b.delivery = none
  /-- The queue knows of a game the last batch, which is still there. -/
  tails : ∀ e ∈ queue.tails, (∃ b ∈ batches, b.game = e.1 ∧ b.number = e.2) ∧
    ∀ q ∈ queued, q.game = e.1 → q.number ≤ e.2
  /-- As long as a batch is not done the queue knows of its game. -/
  open_ : ∀ b ∈ batches, b.done = false → queue.tails.lookup b.game ≠ none

theorem mem_snoc {α : Type} {l : List α} {a x : α} : x ∈ l ++ [a] ↔ x ∈ l ∨ x = a := by
  rw [List.mem_append, List.mem_singleton]

/-! ## Tails -/

theorem mem_of_lookup {l : List (Id × Nat)} {game : Id} {n : Nat} (h : l.lookup game = some n) :
    (game, n) ∈ l := by
  induction l with
  | nil => cases h
  | cons e l ih =>
    rw [List.lookup_cons] at h
    split at h
    · rename_i same
      cases h
      rw [beq_iff_eq.1 same]
      exact List.mem_cons_self
    · exact List.mem_cons_of_mem _ (ih h)

theorem lookup_filter_game {l : List (Id × Nat)} {game other : Id} (ne : other ≠ game) :
    (l.filter (·.1 != game)).lookup other = l.lookup other := by
  induction l with
  | nil => rfl
  | cons e l ih =>
    by_cases here : e.1 = game
    · have differs : (other == e.1) = false := by simpa [here] using ne
      rw [List.filter_cons_of_neg (by simpa using here), ih, List.lookup_cons, differs]
    · rw [List.filter_cons_of_pos (by simpa using here), List.lookup_cons, List.lookup_cons, ih]

/-- The last batch of a game is the one that was pushed last. -/
theorem lookup_push (queue : PublishQueue) (game : Id) (items : List Outgoing) (other : Id) :
    (queue.push game items).2.tails.lookup other =
      if other = game then some queue.next else queue.tails.lookup other := by
  show (queue.tails.filter (·.1 != game) ++ [(game, queue.next)]).lookup other = _
  rw [List.lookup_append]
  by_cases own : other = game
  · have none : (queue.tails.filter (·.1 != game)).lookup game = none := by
      refine List.lookup_eq_none_iff.2 fun e mem => ?_
      exact bne_iff_ne.2 (bne_iff_ne.1 (List.mem_filter.1 mem).2).symm
    rw [own, none, if_pos rfl, List.lookup_cons, beq_self_eq_true]
    rfl
  · rw [lookup_filter_game own, if_neg own, List.lookup_cons, beq_false_of_ne own, List.lookup_nil,
      Option.or_none]

/-- The tail of a game stays if another entry is taken away. -/
theorem lookup_filter_ne {l : List (Id × Nat)} {game : Id} {n : Nat} {e : Id × Nat}
    (h : l.lookup game = some n) (ne : (game, n) ≠ e) :
    (l.filter (· != e)).lookup game = some n := by
  induction l with
  | nil => cases h
  | cons f l ih =>
    rw [List.lookup_cons] at h
    by_cases here : f = e
    · subst here
      rw [List.filter_cons_of_neg (by simp)]
      split at h
      · rename_i same
        cases h
        exact absurd (by rw [beq_iff_eq.1 same]) ne
      · exact ih h
    · rw [List.filter_cons_of_pos (by simpa using here), List.lookup_cons]
      split at h
      · exact h
      · exact ih h

namespace InLine

variable {queue : PublishQueue} {queued batches : List Batch} (h : InLine queue queued batches)

theorem start : InLine {} [] [] where
  numbers := rfl
  distinct := List.nodup_nil
  known := by simp
  previous := by simp
  behind := by simp
  ended := by simp
  tails := by simp
  open_ := by simp

include h

theorem lt_next {q : Batch} (mem : q ∈ queued) : q.number < queue.next := by
  have there : q.number ∈ queued.map (·.number) := List.mem_map_of_mem mem
  rw [h.numbers] at there
  exact List.mem_range.1 there

theorem queued_eq {q q' : Batch} (mem : q ∈ queued) (mem' : q' ∈ queued)
    (same : q.number = q'.number) : q = q' :=
  List.inj_on_of_nodup_map (h.numbers ▸ List.nodup_range) mem mem' same

theorem batch_eq {b b' : Batch} (mem : b ∈ batches) (mem' : b' ∈ batches)
    (same : b.number = b'.number) : b = b' := List.inj_on_of_nodup_map h.distinct mem mem' same

theorem game_eq {b q : Batch} (mem : b ∈ batches) (there : q ∈ queued)
    (same : q.number = b.number) : q.game = b.game := by
  obtain ⟨q', there', number, game⟩ := h.known b mem
  rw [h.queued_eq there there' (same.trans number.symm), game]

theorem batch_lt_next {b : Batch} (mem : b ∈ batches) : b.number < queue.next := by
  obtain ⟨q, there, number, -⟩ := h.known b mem
  exact number ▸ h.lt_next there

theorem mem_erase {b x : Batch} (mem : b ∈ batches) :
    x ∈ batches.erase b ↔ x ∈ batches ∧ x.number ≠ b.number := by
  rw [(List.Nodup.of_map _ h.distinct).mem_erase_iff]
  constructor
  · rintro ⟨ne, there⟩
    exact ⟨there, fun same => ne (h.batch_eq there mem same)⟩
  · rintro ⟨there, ne⟩
    exact ⟨fun same => ne (congrArg Batch.number same), there⟩

theorem undone_of_delivery {b : Batch} (mem : b ∈ batches) (going : b.delivery ≠ none) :
    b.done = false := by
  by_contra done
  exact going (h.ended b mem (Bool.not_eq_false _ ▸ done)).2

/-- Whoever is there after a batch took a step was there before, perhaps as that batch. -/
theorem mem_stepped {b b' x : Batch} (mem : b ∈ batches) : x ∈ batches.erase b ++ [b'] ↔
    x ∈ batches ∧ x.number ≠ b.number ∨ x = b' := by
  rw [mem_snoc, h.mem_erase mem]

/-! ## Who is next -/

/-- A batch that waits for nobody is next in its game. -/
theorem isNext_of_free {b : Batch} (mem : b ∈ batches)
    (free : ∀ p, b.previous = some p → ∀ x ∈ batches, x.number = p → x.done = true) :
    IsNext batches b := by
  intro x there game lt
  by_contra undone
  rw [Bool.not_eq_true] at undone
  obtain ⟨q, queued_b, number, own⟩ := h.known b mem
  obtain ⟨y, mem_y, same, -, -, -, waits⟩ :=
    h.behind x there undone q queued_b (own.trans game.symm) (number ▸ lt)
  obtain rfl := h.batch_eq mem_y mem (same.trans number)
  obtain ⟨p, previous⟩ := Option.ne_none_iff_exists'.1 waits
  obtain ⟨⟨r, queued_r, rfl, game_r⟩, -, last⟩ := h.previous y mem p previous
  obtain ⟨qx, queued_x, number_x, game_x⟩ := h.known x there
  rcases Nat.lt_or_eq_of_le (last qx queued_x (game_x.trans game) (number_x ▸ lt)) with
    before | is_last
  · -- the one it waits for stands behind `x` as well, so that it cannot be done
    obtain ⟨z, mem_z, same_z, undone_z, -⟩ := h.behind x there undone r queued_r
      (game_r.trans game.symm) (number_x ▸ before)
    have done_z := free r.number previous z mem_z same_z
    rw [undone_z] at done_z
    cases done_z
  · have done_x := free r.number previous x there (number_x.symm.trans is_last)
    rw [undone] at done_x
    cases done_x

/-- A batch of which an item is going out is next in its game. -/
theorem isNext_of_delivery {b : Batch} (mem : b ∈ batches) (going : b.delivery ≠ none) :
    IsNext batches b := by
  intro x there game lt
  by_contra undone
  rw [Bool.not_eq_true] at undone
  obtain ⟨q, queued_b, number, own⟩ := h.known b mem
  obtain ⟨y, mem_y, same, -, idle, -⟩ :=
    h.behind x there undone q queued_b (own.trans game.symm) (number ▸ lt)
  obtain rfl := h.batch_eq mem_y mem (same.trans number)
  exact going idle

/-- Of the others in its game no item is going out. -/
theorem idle_of_isNext {b x : Batch} (mem : b ∈ batches) (undone : b.done = false)
    (next : IsNext batches b) (there : x ∈ batches) (game : x.game = b.game)
    (ne : x.number ≠ b.number) : x.delivery = none := by
  rcases Nat.lt_or_gt_of_ne ne with before | after
  · exact (h.ended x there (next x there game before)).2
  · obtain ⟨q, queued_x, number, own⟩ := h.known x there
    obtain ⟨y, mem_y, same, -, idle, -⟩ :=
      h.behind b mem undone q queued_x (own.trans game) (number ▸ after)
    rw [← h.batch_eq mem_y there (same.trans number)]
    exact idle

/-- At most one batch of a game is going out. -/
theorem eq_of_delivery {b b' : Batch} (mem : b ∈ batches) (mem' : b' ∈ batches)
    (game : b'.game = b.game) (going : b.delivery ≠ none) (going' : b'.delivery ≠ none) :
    b' = b := by
  refine h.batch_eq mem' mem ?_
  by_contra ne
  have undone := h.undone_of_delivery mem going
  exact going' (h.idle_of_isNext mem undone (h.isNext_of_delivery mem going) mem' game ne)

/-! ## Changes -/

theorem push (game : Id) (items : List Outgoing) :
    InLine (queue.push game items).2 (queued ++ [(queue.push game items).1])
      (batches ++ [(queue.push game items).1]) where
  numbers := by
    rw [List.map_append, h.numbers]
    exact List.range_succ.symm
  distinct := by
    rw [← List.concat_eq_append, List.map_concat, List.nodup_concat]
    refine ⟨fun mem => ?_, h.distinct⟩
    obtain ⟨b, there, same⟩ := List.mem_map.1 mem
    exact absurd (h.batch_lt_next there) (by rw [same]; exact Nat.lt_irrefl _)
  known b mem := by
    rcases mem_snoc.1 mem with old | rfl
    · obtain ⟨q, there, same⟩ := h.known b old
      exact ⟨q, mem_snoc.2 (.inl there), same⟩
    · exact ⟨_, mem_snoc.2 (.inr rfl), rfl, rfl⟩
  previous b mem p waits := by
    rcases mem_snoc.1 mem with old | rfl
    · obtain ⟨⟨r, there, same⟩, lt, last⟩ := h.previous b old p waits
      refine ⟨⟨r, mem_snoc.2 (.inl there), same⟩, lt, fun q queued_q own before => ?_⟩
      rcases mem_snoc.1 queued_q with old_q | rfl
      · exact last q old_q own before
      · exact absurd (h.batch_lt_next old) (Nat.lt_asymm before)
    · obtain ⟨⟨x, there, own, number⟩, last⟩ := h.tails _ (mem_of_lookup waits)
      obtain ⟨r, queued_r, number_r, game_r⟩ := h.known x there
      have number_r : r.number = p := number_r.trans number
      refine ⟨⟨r, mem_snoc.2 (.inl queued_r), number_r, game_r.trans own⟩,
        number_r ▸ h.lt_next queued_r, fun q queued_q own before => ?_⟩
      rcases mem_snoc.1 queued_q with old_q | rfl
      · exact last q old_q own
      · exact absurd before (Nat.lt_irrefl _)
  behind b mem undone q queued_q own lt := by
    rcases mem_snoc.1 queued_q with old_q | rfl
    · have old : b ∈ batches := by
        refine (mem_snoc.1 mem).resolve_right ?_
        rintro rfl
        exact absurd (h.lt_next old_q) (Nat.lt_asymm lt)
      obtain ⟨x, there, rest⟩ := h.behind b old undone q old_q own lt
      exact ⟨x, mem_snoc.2 (.inl there), rest⟩
    · have old : b ∈ batches := by
        refine (mem_snoc.1 mem).resolve_right ?_
        rintro rfl
        exact absurd lt (Nat.lt_irrefl _)
      refine ⟨_, mem_snoc.2 (.inr rfl), rfl, rfl, rfl, rfl, ?_⟩
      show queue.tails.lookup game ≠ none
      rw [show game = b.game from own]
      exact h.open_ b old undone
  ended b mem done := by
    rcases mem_snoc.1 mem with old | rfl
    · exact h.ended b old done
    · cases done
  tails e mem := by
    rcases mem_snoc.1 mem with old | rfl
    · obtain ⟨old, other⟩ := List.mem_filter.1 old
      obtain ⟨⟨x, there, same⟩, last⟩ := h.tails e old
      refine ⟨⟨x, mem_snoc.2 (.inl there), same⟩, fun q queued_q own => ?_⟩
      rcases mem_snoc.1 queued_q with old_q | rfl
      · exact last q old_q own
      · exact absurd own.symm (bne_iff_ne.1 other)
    · refine ⟨⟨_, mem_snoc.2 (.inr rfl), rfl, rfl⟩, fun q queued_q _ => ?_⟩
      rcases mem_snoc.1 queued_q with old_q | rfl
      · exact Nat.le_of_lt (h.lt_next old_q)
      · exact Nat.le_refl _
  open_ b mem undone := by
    rw [lookup_push]
    split
    · exact Option.some_ne_none _
    · rename_i other
      rcases mem_snoc.1 mem with old | rfl
      · exact h.open_ b old undone
      · exact absurd rfl other

theorem leave {b : Batch} (mem : b ∈ batches) (done : b.done = true) :
    InLine (queue.leave b) queued (batches.erase b) where
  numbers := h.numbers
  distinct := h.distinct.sublist (List.erase_sublist.map _)
  known x there := h.known x (List.mem_of_mem_erase there)
  previous x there := h.previous x (List.mem_of_mem_erase there)
  behind x there undone q queued_q own lt := by
    obtain ⟨y, mem_y, same, undone_y, rest⟩ :=
      h.behind x (List.mem_of_mem_erase there) undone q queued_q own lt
    refine ⟨y, (h.mem_erase mem).2 ⟨mem_y, fun number => ?_⟩, same, undone_y, rest⟩
    rw [h.batch_eq mem_y mem number, done] at undone_y
    cases undone_y
  ended x there := h.ended x (List.mem_of_mem_erase there)
  tails e there := by
    obtain ⟨old, other⟩ := List.mem_filter.1 there
    obtain ⟨⟨x, mem_x, own, number⟩, last⟩ := h.tails e old
    refine ⟨⟨x, (h.mem_erase mem).2 ⟨mem_x, fun same => ?_⟩, own, number⟩, last⟩
    rw [h.batch_eq mem_x mem same] at own number
    exact absurd (Prod.ext own.symm number.symm) (by simpa using other)
  open_ x there undone := by
    obtain ⟨there, ne⟩ := (h.mem_erase mem).1 there
    obtain ⟨n, found⟩ := Option.ne_none_iff_exists'.1 (h.open_ x there undone)
    -- were the batch that leaves the last one of this game, nothing would be open behind it
    have other : (x.game, n) ≠ (b.game, b.number) := by
      intro same
      rw [Prod.mk.injEq] at same
      obtain ⟨q, queued_q, number, own⟩ := h.known x there
      have le := (h.tails _ (mem_of_lookup found)).2 q queued_q own
      have lt : x.number < b.number := by
        have le : x.number ≤ b.number := by rw [← number, ← same.2]; exact le
        exact Nat.lt_of_le_of_ne le ne
      obtain ⟨r, queued_r, number_r, own_r⟩ := h.known b mem
      obtain ⟨y, mem_y, same_y, undone_y, -⟩ := h.behind x there undone r queued_r
        (own_r.trans same.1.symm) (number_r ▸ lt)
      rw [h.batch_eq mem_y mem (same_y.trans number_r), done] at undone_y
      cases undone_y
    show (queue.tails.filter (· != (b.game, b.number))).lookup x.game ≠ none
    rw [lookup_filter_ne found other]
    exact Option.some_ne_none _

/-- A batch that is next takes a step. -/
theorem step {b b' : Batch} (mem : b ∈ batches) (undone : b.done = false)
    (next : IsNext batches b) (number : b'.number = b.number) (game : b'.game = b.game)
    (previous : b'.previous = b.previous ∨ b'.previous = none)
    (ended : b'.done = true → b'.items = [] ∧ b'.delivery = none) :
    InLine queue queued (batches.erase b ++ [b']) := by
  have before {x : Batch} (there : x ∈ batches.erase b ++ [b']) :
      x ∈ batches ∧ x.number ≠ b.number ∨ x = b' := (h.mem_stepped mem).1 there
  have after {x : Batch} (there : x ∈ batches) (ne : x.number ≠ b.number) :
      x ∈ batches.erase b ++ [b'] := (h.mem_stepped mem).2 (.inl ⟨there, ne⟩)
  have here : b' ∈ batches.erase b ++ [b'] := (h.mem_stepped mem).2 (.inr rfl)
  refine ⟨h.numbers, ?_, fun x there => ?_, fun x there p waits => ?_,
    fun x there undone_x q queued_q own lt => ?_, fun x there done => ?_, fun e there => ?_,
    fun x there undone_x => ?_⟩
  · rw [← List.concat_eq_append, List.map_concat, List.nodup_concat, number]
    refine ⟨fun there => ?_, h.distinct.sublist (List.erase_sublist.map _)⟩
    obtain ⟨x, old, same⟩ := List.mem_map.1 there
    exact ((h.mem_erase mem).1 old).2 same
  · rcases before there with ⟨old, -⟩ | rfl
    · exact h.known x old
    · rw [number, game]
      exact h.known b mem
  · rcases before there with ⟨old, -⟩ | rfl
    · exact h.previous x old p waits
    · rw [number, game]
      rcases previous with same | none
      · exact h.previous b mem p (same ▸ waits)
      · rw [none] at waits
        cases waits
  · have kept {x : Batch} (old : x ∈ batches) (undone_x : x.done = false) (own : q.game = x.game)
        (lt : x.number < q.number) : ∃ y ∈ batches.erase b ++ [b'], y.number = q.number ∧
          y.done = false ∧ y.delivery = none ∧ y.items = q.items ∧ y.previous ≠ none := by
      obtain ⟨y, mem_y, same, rest⟩ := h.behind x old undone_x q queued_q own lt
      refine ⟨y, after mem_y fun same_b => ?_, same, rest⟩
      have own_b := h.game_eq mem queued_q (same.symm.trans same_b)
      have done_x := next x old (own.symm.trans own_b) (same_b ▸ same ▸ lt)
      rw [undone_x] at done_x
      cases done_x
    rcases before there with ⟨old, -⟩ | rfl
    · exact kept old undone_x own lt
    · exact kept mem undone (own.trans game) (number ▸ lt)
  · rcases before there with ⟨old, -⟩ | rfl
    · exact h.ended x old done
    · exact ended done
  · obtain ⟨⟨x, mem_x, own, same⟩, last⟩ := h.tails e there
    refine ⟨?_, last⟩
    by_cases stepped : x.number = b.number
    · obtain rfl := h.batch_eq mem_x mem stepped
      exact ⟨b', here, game.trans own, number.trans same⟩
    · exact ⟨x, after mem_x stepped, own, same⟩
  · rcases before there with ⟨old, -⟩ | rfl
    · exact h.open_ x old undone_x
    · rw [game]
      exact h.open_ b mem undone

/-! ## What is left -/

theorem left_of_mem {b : Batch} (mem : b ∈ batches) : left batches b.number = b.items := by
  unfold left
  cases found : batches.find? (·.number == b.number) with
  | none => exact absurd (beq_self_eq_true b.number) (List.find?_eq_none.1 found b mem)
  | some x =>
    have number : x.number = b.number := by simpa using List.find?_some found
    rw [h.batch_eq (List.mem_of_find?_eq_some found) mem number]

omit h in
theorem left_of_gone {n : Nat} (gone : ∀ b ∈ batches, b.number ≠ n) : left batches n = [] := by
  unfold left
  rw [List.find?_eq_none.2 fun b mem => by simpa using gone b mem]

/-- The items of one batch are what they are for the others. -/
theorem left_eq {queue' : PublishQueue} {queued' batches' : List Batch}
    (h' : InLine queue' queued' batches') {n : Nat}
    (same : ∀ x, x.number = n → (x ∈ batches' ↔ x ∈ batches)) :
    left batches' n = left batches n := by
  by_cases there : ∃ x ∈ batches, x.number = n
  · obtain ⟨x, mem, rfl⟩ := there
    rw [h.left_of_mem mem, h'.left_of_mem ((same x rfl).2 mem)]
  · push Not at there
    rw [left_of_gone there, left_of_gone fun x mem number => there x ((same x number).1 mem) number]

omit h in
theorem flatMap_game_append (q : Batch) (game : Id) (f : Batch → List Outgoing) :
    ((queued ++ [q]).filter (·.game == game)).flatMap f =
      (queued.filter (·.game == game)).flatMap f ++ if q.game = game then f q else [] := by
  rw [List.filter_append, List.flatMap_append]
  by_cases own : q.game = game <;> simp [own]

omit h in
theorem itemsOf_push (game other : Id) (items : List Outgoing) :
    itemsOf (queued ++ [(queue.push game items).1]) other =
      itemsOf queued other ++ if game = other then items else [] :=
  flatMap_game_append _ other _

omit h in
theorem leftOf_congr {batches' : List Batch} {game : Id}
    (same : ∀ q ∈ queued, q.game = game → left batches' q.number = left batches q.number) :
    leftOf queued batches' game = leftOf queued batches game := by
  refine List.flatMap_congr fun q mem => ?_
  obtain ⟨there, own⟩ := List.mem_filter.1 mem
  exact same q there (beq_iff_eq.1 own)

theorem leftOf_push (game other : Id) (items : List Outgoing) :
    leftOf (queued ++ [(queue.push game items).1]) (batches ++ [(queue.push game items).1]) other =
      leftOf queued batches other ++ if game = other then items else [] := by
  have pushed := h.push game items
  have old : leftOf queued (batches ++ [(queue.push game items).1]) other =
      leftOf queued batches other := by
    refine leftOf_congr fun q there _ => h.left_eq pushed fun x number => ?_
    rw [mem_snoc, or_iff_left]
    rintro rfl
    exact absurd (h.lt_next there) (number ▸ Nat.lt_irrefl _)
  have new : left (batches ++ [(queue.push game items).1]) (queue.push game items).1.number =
      items := pushed.left_of_mem (mem_snoc.2 (.inr rfl))
  unfold leftOf at old ⊢
  rw [flatMap_game_append, old, new]
  rfl

theorem leftOf_leave {b : Batch} (mem : b ∈ batches) (done : b.done = true) (game : Id) :
    leftOf queued (batches.erase b) game = leftOf queued batches game := by
  refine leftOf_congr fun q _ _ => ?_
  by_cases own : q.number = b.number
  · rw [own, h.left_of_mem mem, (h.ended b mem done).1]
    exact left_of_gone fun x there => ((h.mem_erase mem).1 there).2
  · refine h.left_eq (h.leave mem done) fun x number => ?_
    rw [h.mem_erase mem, and_iff_left (number ▸ own)]

/-- A step of one batch leaves the items of the others. -/
theorem left_of_ne {b b' : Batch} (mem : b ∈ batches)
    (stepped : InLine queue queued (batches.erase b ++ [b'])) (number : b'.number = b.number)
    {n : Nat} (ne : n ≠ b.number) : left (batches.erase b ++ [b']) n = left batches n := by
  refine h.left_eq stepped fun x same => ?_
  rw [h.mem_stepped mem, and_iff_left (same ▸ ne), or_iff_left]
  rintro rfl
  exact ne (same.symm.trans number)

theorem leftOf_step {b b' : Batch} (mem : b ∈ batches)
    (stepped : InLine queue queued (batches.erase b ++ [b'])) (number : b'.number = b.number)
    (items : b'.items = b.items) (game : Id) :
    leftOf queued (batches.erase b ++ [b']) game = leftOf queued batches game := by
  refine leftOf_congr fun q _ _ => ?_
  by_cases own : q.number = b.number
  · have here := stepped.left_of_mem (mem_snoc.2 (.inr rfl))
    rw [own, h.left_of_mem mem, ← items, ← here, number]
  · exact h.left_of_ne mem stepped number own

/-- Nothing is left before the batch that is next. -/
theorem left_before {b r : Batch} (next : IsNext batches b) (there : r ∈ queued)
    (game : r.game = b.game) (lt : r.number < b.number) : left batches r.number = [] := by
  by_cases gone : ∃ x ∈ batches, x.number = r.number
  · obtain ⟨x, mem, same⟩ := gone
    have own := (h.game_eq mem there same.symm).symm.trans game
    rw [← same, h.left_of_mem mem, (h.ended x mem (next x mem own (same ▸ lt))).1]
  · push Not at gone
    exact left_of_gone gone

/-- Nothing is left of a game with no batch that is not done. -/
theorem leftOf_of_done {game : Id} (done : ∀ b ∈ batches, b.game = game → b.done = true) :
    leftOf queued batches game = [] := by
  refine List.flatMap_eq_nil_iff.2 fun q mem => ?_
  obtain ⟨there, own⟩ := List.mem_filter.1 mem
  by_cases gone : ∃ x ∈ batches, x.number = q.number
  · obtain ⟨x, mem_x, same⟩ := gone
    have own_x := (h.game_eq mem_x there same.symm).symm.trans (beq_iff_eq.1 own)
    rw [← same, h.left_of_mem mem_x, (h.ended x mem_x (done x mem_x own_x)).1]
  · push Not at gone
    exact left_of_gone gone

/-- The batch that is next begins with the first of the items that are left of its game. -/
theorem leftOf_begin {b b' : Batch} (mem : b ∈ batches) (next : IsNext batches b)
    (stepped : InLine queue queued (batches.erase b ++ [b'])) (number : b'.number = b.number)
    {item : Outgoing} (items : b.items = item :: b'.items) (game : Id) :
    leftOf queued batches game =
      (if b.game = game then [item] else []) ++ leftOf queued (batches.erase b ++ [b']) game := by
  by_cases own : b.game = game
  · subst own
    obtain ⟨q, there, number_q, game_q⟩ := h.known b mem
    have mem_q : q ∈ queued.filter (·.game == b.game) :=
      List.mem_filter.2 ⟨there, beq_iff_eq.2 game_q⟩
    obtain ⟨before, after, split⟩ := List.append_of_mem mem_q
    have sorted : (queued.map (·.number)).Pairwise (· < ·) := by
      rw [h.numbers]
      exact List.pairwise_lt_range
    have sorted := (List.pairwise_map.1 sorted).filter (·.game == b.game)
    rw [split, List.pairwise_append, List.pairwise_cons] at sorted
    obtain ⟨-, ⟨later, -⟩, earlier⟩ := sorted
    have lt {r : Batch} (mem_r : r ∈ before) : r.number < b.number :=
      number_q ▸ earlier r mem_r q List.mem_cons_self
    have first {r : Batch} (mem_r : r ∈ before) : left batches r.number = [] := by
      have own_r : r ∈ queued.filter (·.game == b.game) := split ▸ List.mem_append_left _ mem_r
      obtain ⟨there_r, game_r⟩ := List.mem_filter.1 own_r
      exact h.left_before next there_r (beq_iff_eq.1 game_r) (lt mem_r)
    have others {r : Batch} (ne : r.number ≠ b.number) :
        left (batches.erase b ++ [b']) r.number = left batches r.number :=
      h.left_of_ne mem stepped number ne
    have here := stepped.left_of_mem (mem_snoc.2 (.inr rfl))
    have none_before : before.flatMap (fun r => left batches r.number) = [] :=
      List.flatMap_eq_nil_iff.2 fun r mem_r => first mem_r
    have none_after : before.flatMap (fun r => left (batches.erase b ++ [b']) r.number) = [] :=
      List.flatMap_eq_nil_iff.2 fun r mem_r =>
        (others (Nat.ne_of_lt (lt mem_r))).trans (first mem_r)
    have rest : after.flatMap (fun r => left (batches.erase b ++ [b']) r.number) =
        after.flatMap fun r => left batches r.number :=
      List.flatMap_congr fun r mem_r => others (Nat.ne_of_gt (number_q ▸ later r mem_r))
    unfold leftOf
    rw [if_pos rfl, split, List.flatMap_append, List.flatMap_append, List.flatMap_cons,
      List.flatMap_cons, none_before, none_after, rest, number_q, h.left_of_mem mem, items,
      ← number, here]
    rfl
  · rw [if_neg own, List.nil_append]
    refine (leftOf_congr fun q there game_q => ?_).symm
    refine h.left_of_ne mem stepped number fun same => own ?_
    exact (h.game_eq mem there same).symm.trans game_q

end InLine

end PublishQueue

end GuessingRoom
