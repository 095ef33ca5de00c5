import GuessingRoom.Proofs.OneGame

/-!
# Entries that stay in a game

Two books share a game if they hold the same of it and the next draws are alike
(`Books.Shares`). An entry stays in a game (`Entry.StaysIn`) if on books that share the game it ends
the same and leaves books that share it again, and if other games see nothing of what it puts down
(`Books.KeepsTo`). So does every entry of the game but the one that opens it.
-/

namespace GuessingRoom

namespace Books

/-- The books hold the same of the game, and the keys still to be drawn are as free in the one store
as in the other. As far as the first books will draw, up to the given number, the second ones draw
the same. -/
structure Shares (game : Id) (limit : Nat) (b c : Books) : Prop where
  rows : c.store.only game = b.store.only game
  turns : ∀ n, b.drawn ≤ n → (c.store.IsTurn (b.supply.id n) ↔ b.store.IsTurn (b.supply.id n))
  messages : ∀ n, b.drawn ≤ n →
    (c.store.IsMessage (b.supply.id n) ↔ b.store.IsMessage (b.supply.id n))
  draws : ∀ i, b.drawn + i < limit →
    c.supply.stamp (c.drawn + i) = b.supply.stamp (b.drawn + i) ∧
      c.supply.choice (c.drawn + i) = b.supply.choice (b.drawn + i)

/-- The identifier was drawn between the first books and the second ones. -/
def Drew (b b' : Books) (id : Id) : Prop := ∃ n, b.drawn ≤ n ∧ n < b'.drawn ∧ id = b.supply.id n

/-- Between the first books and the second ones no game has seen anything but the given one, and
whatever was put down has an identifier that was drawn for it. -/
structure KeepsTo (game : Id) (b b' : Books) : Prop extends b.Grows b' where
  others : ∀ other, other ≠ game → b'.store.only other = b.store.only other
  turns : ∀ id, b'.store.IsTurn id → b.store.IsTurn id ∨ b.Drew b' id
  messages : ∀ id, b'.store.IsMessage id → b.store.IsMessage id ∨ b.Drew b' id

/-- A turn of the game has the identifier. -/
def HasTurn (b : Books) (game id : Id) : Prop := (b.store.only game).IsTurn id

/-- A message in the game has the identifier. -/
def HasMessage (b : Books) (game id : Id) : Prop := (b.store.only game).IsMessage id

section Units

variable (b after : Books)

@[simp] theorem only_committed (game : Id) :
    (Entry.committed b after).store.only game = after.store.only game := Store.only_commit _ _

@[simp] theorem only_abandoned (game : Id) :
    (Entry.abandoned b after).store.only game = b.store.only game := Store.only_abandon _ _

@[simp] theorem isTurn_committed (id : Id) :
    (Entry.committed b after).store.IsTurn id ↔ after.store.IsTurn id := by
  rw [Store.IsTurn, Entry.committed, WorkUnit.ledger_commit, Store.IsTurn]

@[simp] theorem isTurn_abandoned (id : Id) :
    (Entry.abandoned b after).store.IsTurn id ↔ b.store.IsTurn id := by
  rw [Store.IsTurn, Entry.abandoned, WorkUnit.ledger_abandon, Store.IsTurn]

@[simp] theorem isMessage_committed (id : Id) :
    (Entry.committed b after).store.IsMessage id ↔ after.store.IsMessage id := by
  rw [Store.IsMessage, Entry.committed, WorkUnit.ledger_commit, Store.IsMessage]

@[simp] theorem isMessage_abandoned (id : Id) :
    (Entry.abandoned b after).store.IsMessage id ↔ b.store.IsMessage id := by
  rw [Store.IsMessage, Entry.abandoned, WorkUnit.ledger_abandon, Store.IsMessage]

end Units

variable {game : Id} {limit : Nat} {b c b' : Books}

namespace Shares

theorem refl (game : Id) (limit : Nat) (b : Books) : b.Shares game limit b :=
  ⟨rfl, fun _ _ => Iff.rfl, fun _ _ => Iff.rfl, fun _ _ => ⟨rfl, rfl⟩⟩

theorem draw (h : b.Shares game limit c) :
    Shares game limit { b with drawn := b.drawn + 1 } { c with drawn := c.drawn + 1 } where
  rows := h.rows
  turns n le := h.turns n (Nat.le_of_succ_le le)
  messages n le := h.messages n (Nat.le_of_succ_le le)
  draws i lt := by
    have next := h.draws (1 + i)
    simp only [← Nat.add_assoc] at next
    exact next lt

/-- Units that have left books alike are committed alike. -/
theorem commit {b₁ c₁ : Books} (h : b₁.Shares game limit c₁) :
    (Entry.committed b b₁).Shares game limit (Entry.committed c c₁) where
  rows := by simpa using h.rows
  turns n le :=
    (isTurn_committed c c₁ _).trans ((h.turns n le).trans (isTurn_committed b b₁ _).symm)
  messages n le :=
    (isMessage_committed c c₁ _).trans ((h.messages n le).trans (isMessage_committed b b₁ _).symm)
  draws := h.draws

/-- After units that were given up the stores are as they were, but the draws are used up. -/
theorem abandon {b₁ c₁ : Books} (h : b.Shares game limit c) (after : b₁.Shares game limit c₁)
    (grown : b.Grows b₁) : (Entry.abandoned b b₁).Shares game limit (Entry.abandoned c c₁) where
  rows := by simpa using h.rows
  turns n le := by
    have old := h.turns n (grown.drawn.trans le)
    rw [← grown.supply] at old
    exact (isTurn_abandoned c c₁ _).trans (old.trans (isTurn_abandoned b b₁ _).symm)
  messages n le := by
    have old := h.messages n (grown.drawn.trans le)
    rw [← grown.supply] at old
    exact (isMessage_abandoned c c₁ _).trans (old.trans (isMessage_abandoned b b₁ _).symm)
  draws := after.draws

/-- A turn of the game is known to both. -/
theorem isTurn_iff (h : b.Shares game limit c) {id : Id} (there : b.HasTurn game id) :
    c.store.IsTurn id ↔ b.store.IsTurn id := by
  have also : c.HasTurn game id := by
    unfold HasTurn
    rw [h.rows]
    exact there
  exact iff_of_true also.of_only there.of_only

theorem isMessage_iff (h : b.Shares game limit c) {id : Id} (there : b.HasMessage game id) :
    c.store.IsMessage id ↔ b.store.IsMessage id := by
  have also : c.HasMessage game id := by
    unfold HasMessage
    rw [h.rows]
    exact there
  exact iff_of_true also.of_only there.of_only

/-- Further draws may be compared, if they are alike. -/
theorem upTo (h : b.Shares game limit c) {further : Nat}
    (draws : ∀ i, b.drawn + i < further →
      c.supply.stamp (c.drawn + i) = b.supply.stamp (b.drawn + i) ∧
        c.supply.choice (c.drawn + i) = b.supply.choice (b.drawn + i)) :
    b.Shares game further c := { h with draws }

/-- What is put down for another game makes no difference. -/
theorem beside (h : b.Shares game limit c) (distinct : Function.Injective b.supply.id)
    {other : Id} (kept : b.KeepsTo other b') (ne : game ≠ other) :
    b'.Shares game b'.drawn c where
  rows := h.rows.trans (kept.others game ne).symm
  turns n le := by
    rw [kept.supply]
    refine (h.turns n (kept.drawn.trans le)).trans ⟨fun old => ?_, fun new => ?_⟩
    · exact List.map_subset _ kept.rounds.subset old
    · -- what was drawn in between is not drawn again
      refine (kept.turns _ new).resolve_right ?_
      rintro ⟨m, -, lt, same⟩
      exact absurd (distinct same) (Nat.ne_of_gt (lt.trans_le le))
  messages n le := by
    rw [kept.supply]
    refine (h.messages n (kept.drawn.trans le)).trans ⟨fun old => ?_, fun new => ?_⟩
    · exact List.map_subset _ kept.lines.subset old
    · refine (kept.messages _ new).resolve_right ?_
      rintro ⟨m, -, lt, same⟩
      exact absurd (distinct same) (Nat.ne_of_gt (lt.trans_le le))
  draws i lt := absurd lt (Nat.not_lt_of_le (Nat.le_add_right _ i))

end Shares

theorem Drew.mono {id : Id} (h : b.Drew b' id) (le : b'.drawn ≤ c.drawn) :
    b.Drew c id := by
  obtain ⟨n, first, lt, e⟩ := h
  exact ⟨n, first, lt.trans_le le, e⟩

namespace KeepsTo

theorem refl (game : Id) (b : Books) : b.KeepsTo game b :=
  ⟨.refl b, fun _ _ => rfl, fun _ => .inl, fun _ => .inl⟩

theorem isCourse (game : Id) : IsCourse (KeepsTo game) where
  refl := refl game
  trans {a b c} h h' := by
    have later {id : Id} : b.Drew c id → a.Drew c id := by
      rintro ⟨n, first, lt, e⟩
      exact ⟨n, h.drawn.trans first, lt, h.supply ▸ e⟩
    refine ⟨h.toGrows.trans h'.toGrows, fun other ne => ?_, fun id mem => ?_, fun id mem => ?_⟩
    · exact (h'.others other ne).trans (h.others other ne)
    · rcases h'.turns id mem with old | new
      · exact (h.turns id old).imp_right (Drew.mono · h'.drawn)
      · exact .inr (later new)
    · rcases h'.messages id mem with old | new
      · exact (h.messages id old).imp_right (Drew.mono · h'.drawn)
      · exact .inr (later new)
  draw b := ⟨Grows.isCourse.draw b, fun _ _ => rfl, fun _ => .inl, fun _ => .inl⟩
  commit b after h :=
    ⟨Grows.isCourse.commit b after h.toGrows, fun other ne => by simpa using h.others other ne,
      fun id mem => h.turns id ((isTurn_committed b after id).1 mem),
      fun id mem => h.messages id ((isMessage_committed b after id).1 mem)⟩
  abandon b after h :=
    ⟨Grows.isCourse.abandon b after h.toGrows, fun other _ => only_abandoned b after other,
      fun id mem => .inl ((isTurn_abandoned b after id).1 mem),
      fun id mem => .inl ((isMessage_abandoned b after id).1 mem)⟩

/-- A turn of whatever game stays one. -/
theorem hasTurn (h : b.KeepsTo game b') {other id : Id} (there : b.HasTurn other id) :
    b'.HasTurn other id := by
  unfold HasTurn Store.IsTurn at there ⊢
  rw [Store.rounds_only] at there ⊢
  exact List.map_subset _ (h.rounds.filter _).subset there

end KeepsTo

end Books

namespace Entry

variable {α β : Type} {game : Id} {pre : Books → Prop}

/-- The entry ends the same on the one books as on the other, after as many draws, and leaves books
that share the game. -/
structure EndsAlike (game : Id) (limit : Nat) (e : Entry α) (b c : Books) : Prop where
  result : (e c).1 = (e b).1
  shares : (e b).2.Shares game limit (e c).2
  draws : (e c).2.drawn + b.drawn = c.drawn + (e b).2.drawn

/-- Begun where the condition holds, the entry ends alike on books that share the game; and no other
game sees anything of what it puts down. -/
structure StaysIn (game : Id) (pre : Books → Prop) (e : Entry α) : Prop where
  along : e.Along (Books.KeepsTo game)
  alike : ∀ {limit : Nat} {b c : Books}, b.Shares game limit c → pre b → (e b).2.drawn ≤ limit →
    e.EndsAlike game limit b c

/-! ## Entries put together -/

section Ends

variable {e : Entry α} {limit : Nat} {b c b' c' : Books} {r : Except GameError α}

theorem EndsAlike.exists_eq (h : e.EndsAlike game limit b c) (first : e b = (r, b')) :
    ∃ c', e c = (r, c') ∧ b'.Shares game limit c' ∧ c'.drawn + b.drawn = c.drawn + b'.drawn := by
  obtain ⟨result, shares, draws⟩ := h
  rw [first] at result shares draws
  exact ⟨(e c).2, Prod.ext result rfl, shares, draws⟩

theorem endsAlike_of_eq (first : e b = (r, b')) (second : e c = (r, c'))
    (shares : b'.Shares game limit c') (draws : c'.drawn + b.drawn = c.drawn + b'.drawn) :
    e.EndsAlike game limit b c := by
  constructor <;> rw [first, second]
  exacts [shares, draws]

end Ends

theorem StaysIn.weaken {pre' : Books → Prop} {e : Entry α} (h : e.StaysIn game pre)
    (of : ∀ b, pre' b → pre b) : e.StaysIn game pre' :=
  ⟨h.along, fun shares begun few => h.alike shares (of _ begun) few⟩

theorem stays_pure (a : α) : (pure a : Entry α).StaysIn game pre :=
  ⟨along_pure (Books.KeepsTo.isCourse game) a, fun shares _ _ => ⟨rfl, shares, rfl⟩⟩

theorem stays_throw (x : GameError) : (throw x : Entry α).StaysIn game pre :=
  ⟨along_throw (Books.KeepsTo.isCourse game) x, fun shares _ _ => ⟨rfl, shares, rfl⟩⟩

/-- What comes after an entry may count on what the entry has left. -/
theorem StaysIn.bind {x : Entry α} {f : α → Entry β} (hx : x.StaysIn game pre)
    (hf : ∀ a, (f a).StaysIn game fun b' => ∃ b, pre b ∧ x.Yields b a b') :
    (x >>= f).StaysIn game pre where
  along := .bind (Books.KeepsTo.isCourse game) hx.along fun a => (hf a).along
  alike {limit b c} shares begun few := by
    rcases first : x b with ⟨_ | a, b₁⟩
    · rw [bind_apply, first] at few
      obtain ⟨c₁, second, after, even⟩ :=
        (hx.alike shares begun (by rw [first]; exact few)).exists_eq first
      exact endsAlike_of_eq (fails_bind.2 (.inl first)) (fails_bind.2 (.inl second)) after even
    · have grown := ((hf a).along b₁).drawn
      rw [bind_apply, first] at few
      obtain ⟨c₁, second, after, even⟩ :=
        (hx.alike shares begun (by rw [first]; exact grown.trans few)).exists_eq first
      obtain ⟨c₂, rest, after', even'⟩ :=
        ((hf a).alike after ⟨b, begun, first⟩ few).exists_eq rfl
      have whole : (x >>= f) b = f a b₁ := by rw [bind_apply, first]
      have whole' : (x >>= f) c = f a c₁ := by rw [bind_apply, second]
      exact endsAlike_of_eq (whole.trans rfl) (whole'.trans rest) after' (by omega)

/-- An entry that only looks leaves things as they were for what comes after it. -/
theorem StaysIn.bind_looks {x : Entry α} {f : α → Entry β} (hx : x.StaysIn game pre)
    (looks : x.Looks) (hf : ∀ a, (f a).StaysIn game pre) : (x >>= f).StaysIn game pre := by
  refine hx.bind fun a => (hf a).weaken ?_
  rintro b' ⟨b, begun, y⟩
  have same := looks b
  rw [y] at same
  obtain rfl : b' = b := same
  exact begun

/-- A check before the rest either ends the entry or lets it go on. -/
theorem StaysIn.check {p : Prop} [Decidable p] {x : GameError} {k : β → Entry α} {e : Entry α}
    (h : e.StaysIn game pre) : (if p then throw x >>= k else e : Entry α).StaysIn game pre := by
  split
  · exact ⟨along_throw (Books.KeepsTo.isCourse game) x, fun shares _ _ => ⟨rfl, shares, rfl⟩⟩
  · exact h

theorem stays_look {query : Store → Except Failure α} (own : Store.LooksAt game query) :
    (look query).StaysIn game pre where
  along := along_look (Books.KeepsTo.isCourse game) query
  alike {limit b c} shares _ _ := by
    have same : query c.store = query b.store := by rw [← own, shares.rows, own]
    have looks (b : Books) : (look query b).2 = b := looks_look query b
    constructor
    · unfold look
      rw [same]
      split <;> rfl
    · rw [looks, looks]
      exact shares
    · rw [looks, looks]

theorem stays_choose (items : List α) : (choose items).StaysIn game pre where
  along := along_choose (Books.KeepsTo.isCourse game) items
  alike {limit b c} shares _ few := by
    refine ⟨?_, shares.draw, Nat.succ_add_eq_add_succ _ _⟩
    have same : c.supply.choice c.drawn = b.supply.choice b.drawn := (shares.draws 0 few).2
    unfold choose
    rw [same]

theorem StaysIn.inUnit {e : Entry α} (h : e.StaysIn game pre) : e.inUnit.StaysIn game pre where
  along := .inUnit (Books.KeepsTo.isCourse game) h.along
  alike {limit b c} shares begun few := by
    have grown := (h.along b).toGrows
    have few : (e b).2.drawn ≤ limit := by
      unfold Entry.inUnit at few
      split at few <;> rename_i first <;> rw [first] <;> exact few
    rcases first : e b with ⟨_ | a, b₁⟩ <;> rw [first] at grown
    all_goals obtain ⟨c₁, second, after, even⟩ := (h.alike shares begun few).exists_eq first
    · exact endsAlike_of_eq (fails_inUnit.2 ⟨b₁, first, rfl⟩) (fails_inUnit.2 ⟨c₁, second, rfl⟩)
        (shares.abandon after grown) even
    · exact endsAlike_of_eq (yields_inUnit.2 ⟨b₁, first, rfl⟩) (yields_inUnit.2 ⟨c₁, second, rfl⟩)
        after.commit even

/-! ## Writes -/

section Writes

variable {b c : Books} {limit : Nat} {rounds : List Round} {lines : List Line}

theorem map_put (x : Except Failure Store) (f : Store → Store) :
    (x.map fun s => ((), s)).map (Prod.map id f) = (x.map f).map fun s => ((), s) := by
  cases x <;> rfl

theorem put_eq_ok {x : Except Failure Store} {u : Unit} {s : Store}
    (h : (x.map fun s => ((), s)) = .ok (u, s)) : x = .ok s := by
  obtain ⟨s', e, same⟩ := map_eq_ok_iff.1 h
  cases same
  exact e

theorem keepsTo_of_write {store : Store} {drawn : Nat} (grows : b.Grows { b with store, drawn })
    (writes : b.store.WritesTo game rounds lines store)
    (turns : ∀ r ∈ rounds, b.Drew { b with store, drawn } r.id)
    (messages : ∀ l ∈ lines, b.Drew { b with store, drawn } l.id) :
    b.KeepsTo game { b with store, drawn } where
  toGrows := grows
  others := writes.others
  turns id mem := by
    rw [Store.IsTurn, writes.rounds, List.map_append, List.mem_append] at mem
    refine mem.imp_right fun new => ?_
    obtain ⟨r, there, rfl⟩ := List.mem_map.1 new
    exact turns r there
  messages id mem := by
    rw [Store.IsMessage, writes.lines, List.map_append, List.mem_append] at mem
    refine mem.imp_right fun new => ?_
    obtain ⟨l, there, rfl⟩ := List.mem_map.1 new
    exact messages l there

/-- Writes that come to the same leave books that share the game again. -/
theorem alike_write {change : Store → Except Failure (α × Store)} (shares : b.Shares game limit c)
    (same : (change c.store).map (Prod.map id (Store.only game)) =
      (change b.store).map (Prod.map id (Store.only game)))
    (writes : ∀ {s a s'}, change s = .ok (a, s') → s.WritesTo game rounds lines s') :
    (write change).EndsAlike game limit b c := by
  rcases first : change b.store with f | ⟨a, s⟩ <;>
    rcases second : change c.store with f' | ⟨a', s'⟩ <;>
    rw [first, second] at same
  · cases same
    unfold write
    constructor <;> rw [first, second]
    exact shares
  · cases same
  · cases same
  · simp only [Except.map, Prod.map_apply, id, Except.ok.injEq, Prod.mk.injEq] at same
    obtain ⟨rfl, rows⟩ := same
    have w := writes first
    have w' := writes second
    have after : Books.Shares game limit { b with store := s } { c with store := s' } := by
      refine ⟨rows, fun n le => ?_, fun n le => ?_, shares.draws⟩
      · have old := shares.turns n le
        simp only [Store.IsTurn, w.rounds, w'.rounds, List.map_append, List.mem_append] at old ⊢
        exact or_congr_left old
      · have old := shares.messages n le
        simp only [Store.IsMessage, w.lines, w'.lines, List.map_append, List.mem_append] at old ⊢
        exact or_congr_left old
    unfold write
    constructor <;> rw [first, second]
    exact after

theorem stamp_bind (k : Stamp → Entry α) (b : Books) :
    (stamp >>= k) b = k (b.supply.stamp b.drawn) { b with drawn := b.drawn + 1 } := rfl

theorem drawn_write (change : Store → Except Failure (α × Store)) (b : Books) :
    (write change b).2.drawn = b.drawn := by
  unfold write
  split <;> rfl

/-- A write with a stamp that puts down rows of the game, all of them by the stamp's identifier. -/
theorem stays_stamped {change : Stamp → Store → Except Failure (α × Store)}
    (rounds : Stamp → List Round) (lines : Stamp → List Line)
    (grows : (stamp >>= fun s => write (change s)).Along Books.Grows)
    (writes : ∀ {stamp s a s'}, change stamp s = .ok (a, s') →
      s.WritesTo game (rounds stamp) (lines stamp) s')
    (turns : ∀ stamp, ∀ r ∈ rounds stamp, r.id = stamp.id)
    (messages : ∀ stamp, ∀ l ∈ lines stamp, l.id = stamp.id)
    (same : ∀ {limit b c}, b.Shares game limit c → pre b → ∀ stamp,
      (c.store.IsTurn stamp.id ↔ b.store.IsTurn stamp.id) →
      (c.store.IsMessage stamp.id ↔ b.store.IsMessage stamp.id) →
      (change stamp c.store).map (Prod.map id (Store.only game)) =
        (change stamp b.store).map (Prod.map id (Store.only game))) :
    (stamp >>= fun s => write (change s)).StaysIn game pre where
  along := by
    refine along_stamped (Books.KeepsTo.isCourse game) fun b a b' y => ?_
    have grown := grows.yields y
    simp only [yields_bind, yields_stamp, yields_write] at y
    obtain ⟨_, _, ⟨rfl, rfl⟩, store, h, rfl⟩ := y
    refine keepsTo_of_write grown (writes h) (fun r mem => ?_) fun l mem => ?_
    · exact ⟨b.drawn, Nat.le_refl _, Nat.lt_succ_self _, turns _ r mem⟩
    · exact ⟨b.drawn, Nat.le_refl _, Nat.lt_succ_self _, messages _ l mem⟩
  alike {limit b c} shares begun few := by
    rw [stamp_bind, drawn_write] at few
    -- the stamp is the same, and its key is as free in the one store as in the other
    have drawn : c.supply.stamp c.drawn = b.supply.stamp b.drawn := (shares.draws 0 few).1
    have free := shares.turns b.drawn (Nat.le_refl _)
    have free' := shares.messages b.drawn (Nat.le_refl _)
    obtain ⟨ended, after, even⟩ := alike_write shares.draw
      (same shares begun (b.supply.stamp b.drawn) free free') writes
    simp only [drawn_write] at even
    constructor <;> rw [stamp_bind, stamp_bind, drawn]
    exacts [ended, after, by simp only [drawn_write]; omega]

theorem stays_addPlayer (user : Id) : (addPlayer game user).StaysIn game pre := by
  refine stays_stamped (fun _ => []) (fun _ => [])
    (Books.Grows.carries.addPlayer game user) (fun h => ?_) (by simp) (by simp)
    fun shares _ stamp _ _ => ?_
  · exact Store.writesTo_addPlayer (put_eq_ok h)
  · rw [map_put, Store.only_addPlayer shares.rows, map_put]

theorem stays_setState (user : Id) (state : PlayerState) :
    (put (·.setState game user state)).StaysIn game pre where
  along := by
    refine along_write (Books.KeepsTo.isCourse game) fun b u b' y => ?_
    have grown := (Books.Grows.carries.setState game user state).yields y
    obtain ⟨store, h, rfl⟩ := yields_put.1 y
    exact keepsTo_of_write grown (Store.writesTo_setState h) (by simp) (by simp)
  alike shares _ _ := by
    refine alike_write shares ?_ fun h => Store.writesTo_setState (put_eq_ok h)
    rw [map_put, Store.only_setState shares.rows, map_put]

theorem stays_addTurn (word : Id) : (addTurn game word).StaysIn game pre :=
  stays_stamped (fun stamp => [⟨stamp.id, game, word⟩]) (fun _ => [])
    (Books.Grows.carries.addTurn game word) Store.writesTo_addTurn (by simp) (by simp)
    fun shares _ _ free _ => Store.only_addTurn shares.rows free word

theorem stays_addMessage {turn : Id} (known : ∀ b, pre b → b.HasTurn game turn) (player : Id)
    (content : String) : (addMessage game turn player content).StaysIn game pre :=
  stays_stamped (fun _ => []) (fun stamp => [⟨stamp.id, game, turn, player, content⟩])
    (Books.Grows.carries.addMessage game turn player content) Store.writesTo_addMessage (by simp)
    (by simp) fun shares begun _ _ free =>
      Store.only_addMessage shares.rows free (shares.isTurn_iff (known _ begun)) player content

theorem stays_addScore {award : Award} (own : award.gameId = game)
    (known : ∀ b, pre b → b.HasTurn game award.turnId)
    (said : ∀ b, pre b → b.HasMessage game award.messageId) :
    (addScore award).StaysIn game pre := by
  refine stays_stamped (fun _ => []) (fun _ => [])
    (Books.Grows.along_addScore award) (fun h => ?_) (by simp) (by simp)
    fun shares begun stamp _ _ => ?_
  · exact Store.writesTo_addScore own (put_eq_ok h)
  · rw [map_put, Store.only_addScore shares.rows own (shares.isTurn_iff (known _ begun))
      (shares.isMessage_iff (said _ begun)), map_put]

/-- A message that was put down belongs to the game. -/
theorem own_of_addMessage {turn player : Id} {content : String} {message : Message} {b' : Books}
    (y : (addMessage game turn player content).Yields b message b') :
    message.gameId = game ∧ b'.HasMessage game message.id := by
  obtain ⟨line, store, rfl, ledger⟩ := addMessage_yields y
  have there : message.line ∈ store.ledger.lines := by simp [ledger, line]
  have own : message.line.gameId = game := by rw [line]
  refine ⟨own, ?_⟩
  unfold Books.HasMessage Store.IsMessage
  rw [Store.lines_only]
  exact List.mem_map_of_mem (List.mem_filter.2 ⟨there, by simpa using own⟩)

end Writes

/-! ## Rows that have to be there -/

theorem stays_require {query : Store → Except Failure (Option α)} (own : Store.LooksAt game query)
    {k : Option α → Entry α} (there : ∀ a, k (some a) = pure a) (missing : ∃ x, k none = throw x) :
    (look query >>= k).StaysIn game pre := by
  obtain ⟨x, missing⟩ := missing
  refine (stays_look own).bind fun found => ?_
  cases found with
  | none => rw [missing]; exact stays_throw x
  | some a => rw [there]; exact stays_pure a

theorem stays_requireUser (id : Id) : (requireUser id).StaysIn game pre :=
  stays_require (Store.looksAt_findUser game id) (fun _ => rfl) ⟨_, rfl⟩

theorem stays_requireGame (id : Id) : (requireGame id).StaysIn game pre :=
  stays_require (Store.looksAt_findGame game id) (fun _ => rfl) ⟨_, rfl⟩

theorem stays_requireTurn : (requireTurn game).StaysIn game pre :=
  stays_require (Store.looksAt_latestTurn game) (fun _ => rfl) ⟨_, rfl⟩

theorem stays_requireWord (id : Id) : (requireWord id).StaysIn game pre :=
  stays_require ((Store.looksAt_findWord game id).map Except.ok) (fun _ => rfl) ⟨_, rfl⟩

theorem hasTurn_of_requireTurn {b b' : Books} {turn : Turn}
    (y : (requireTurn game).Yields b turn b') : b'.HasTurn game turn.id := by
  obtain ⟨latest, rfl⟩ := yields_requireTurn.1 y
  exact Store.isTurn_of_latestTurn latest

theorem stays_drawWord : drawWord.StaysIn game pre := by
  refine (stays_look ((Store.looksAt_allWords game).map Except.ok)).bind fun words => ?_
  refine (stays_choose words).bind fun found => ?_
  cases found with
  | none => exact stays_throw _
  | some word => exact stays_pure word

/-! ## Entries of the game -/

theorem stays_takeSeat (settings : RoomSettings) (user : User) :
    (Operation.takeSeat settings game user).StaysIn game pre := by
  refine (stays_look (Store.looksAt_players game)).bind fun players => ?_
  refine .check (.check ?_)
  split
  · exact stays_setState _ _
  · exact stays_addPlayer _

theorem stays_award (settings : RoomSettings) {turn : Turn} (user : User) {message : Message}
    (active : List Player) (scores : List Score) (known : ∀ b, pre b → b.HasTurn game turn.id)
    (said : ∀ b, pre b → b.HasMessage game message.id) :
    (award settings game turn user message active scores).StaysIn game pre := by
  unfold award
  split
  · exact stays_pure _
  · have put (points : Int) :
        (addScore ⟨game, turn.id, user.id, message.id, points⟩).StaysIn game pre :=
      stays_addScore rfl known said
    exact (put _).bind fun _ => stays_pure _

theorem stays_judge (settings : RoomSettings) {turn : Turn} (word : Word) (user : User)
    (content : String) (known : ∀ b, pre b → b.HasTurn game turn.id) :
    (judge settings game turn word user content).StaysIn game pre := by
  refine (stays_look (Store.looksAt_activePlayers game)).bind_looks (looks_look _) fun active => ?_
  refine .check ((stays_addMessage known _ _).bind fun message => ?_)
  have known' : ∀ b', (∃ b, pre b ∧ (addMessage game turn.id user.id content).Yields b message b') →
      b'.HasTurn game turn.id ∧ b'.HasMessage game message.id := by
    rintro b' ⟨b, begun, y⟩
    have kept := (stays_addMessage (fun _ h => h) user.id content).along.yields y
    exact ⟨kept.hasTurn (known b begun), (own_of_addMessage y).2⟩
  split
  · exact stays_pure _
  · refine (stays_look (Store.looksAt_scores game)).bind_looks (looks_look _) fun scores => ?_
    refine (stays_award settings user active scores (fun b h => (known' b h).1)
      fun b h => (known' b h).2).bind fun verdict => stays_pure _

/-- The message under which a guess was put down belongs to the game. -/
theorem gameId_of_judge {settings : RoomSettings} {turn : Turn} {word : Word} {user : User}
    {content : String} {message : Message} {verdict : Verdict} {b b' : Books}
    (y : (judge settings game turn word user content).Yields b (message, verdict) b') :
    message.gameId = game := congrArg Line.gameId (judge_yields y).1

end Entry

end GuessingRoom
