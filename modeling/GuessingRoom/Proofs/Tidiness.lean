import Mathlib.Data.List.Perm.Basic
import GuessingRoom.Proofs.Growth
import GuessingRoom.Proofs.StoredTime

/-!
# Tidy tables

Relational tables are tidy if their rows are such as the entries of the game write them: states and
times can be read, points are whole, every player is a user, and turns stand in the order of their
times. Every entry leaves tidy books tidy while the clock does not go back (`Books.StaysTidy`). Then
the latest turn is the one put down last; players and scores can be looked up whatever the clock has
done (`Store.Legible`).
-/

namespace GuessingRoom

open Time (Instant readStored)

/-- The clock never goes back. -/
def Supply.RunsOn (s : Supply) : Prop := ∀ m n, m ≤ n → (s.time m).le (s.time n) = true

namespace RelationalTables

/-- The rows are such as were written at the times of the draws made so far. -/
structure Tidy (time : Nat → Instant) (drawn : Nat) (t : RelationalTables) : Prop where
  states : ∀ r ∈ t.members, ∃ state : PlayerState, r.state = state.name
  joined : ∀ r ∈ t.members, ∃ n, r.joinedAt = (time n).stored
  known : ∀ r ∈ t.members, t.hasUser r.userId = true
  begun : ∀ r ∈ t.turns, ∃ n < drawn, r.createdAt = (time n).stored
  ordered : t.turns.Pairwise fun r r' => ¬ r'.createdAt < r.createdAt
  points : ∀ r ∈ t.scores, ∃ n, r.points = .whole n
  scored : ∀ r ∈ t.scores, ∃ n, r.createdAt = (time n).stored

/-- The rows of seats and scores can be read, and every player is a user. -/
structure Legible (t : RelationalTables) : Prop where
  states : ∀ r ∈ t.members, ∃ state : PlayerState, r.state = state.name
  joined : ∀ r ∈ t.members, ∃ time, isStorable time ∧ r.joinedAt = time.stored
  known : ∀ r ∈ t.members, t.hasUser r.userId = true
  points : ∀ r ∈ t.scores, ∃ n, r.points = .whole n
  scored : ∀ r ∈ t.scores, ∃ time, isStorable time ∧ r.createdAt = time.stored

end RelationalTables

namespace Store

/-- Tables in memory need not be read. -/
def Legible : Store → Prop
  | memory _ => True
  | relational t => t.Legible

/-- Tables in memory hold no texts that could be other than they were written. -/
def Tidy (time : Nat → Instant) (drawn : Nat) : Store → Prop
  | memory _ => True
  | relational t => t.Tidy time drawn

variable {time : Nat → Instant} {drawn : Nat} {s s' : Store}

/-! ## Writes keep tables tidy -/

theorem Tidy.later (h : s.Tidy time drawn) {k : Nat} (le : drawn ≤ k) : s.Tidy time k := by
  cases s with
  | memory m => trivial
  | relational t =>
    refine { h with begun := fun r hr => ?_ }
    obtain ⟨n, lt, e⟩ := h.begun r hr
    exact ⟨n, lt.trans_le le, e⟩

theorem Tidy.upsertUser (h : s.Tidy time drawn) (id : Id) (nickname : String) (at_ : Instant) :
    (s.upsertUser id nickname at_).Tidy time drawn := by
  cases s with
  | memory m => trivial
  | relational t =>
    have kept : ∀ i, t.hasUser i = true →
        (t.upsertUser id nickname at_).hasUser i = true := by
      intro i hi
      simp only [RelationalTables.hasUser, List.any_eq_true, beq_iff_eq] at hi
      obtain ⟨u, hu, rfl⟩ := hi
      unfold RelationalTables.upsertUser
      split
      · simp only [RelationalTables.hasUser, List.any_map, List.any_eq_true]
        refine ⟨u, hu, ?_⟩
        by_cases e : u.id = id <;> simp [e, RelationalTables.renamed]
      · simp only [RelationalTables.hasUser, List.any_append, Bool.or_eq_true, List.any_eq_true]
        exact .inl ⟨u, hu, by simp⟩
    have same : (t.upsertUser id nickname at_).members = t.members ∧
        (t.upsertUser id nickname at_).turns = t.turns ∧
        (t.upsertUser id nickname at_).scores = t.scores := by
      unfold RelationalTables.upsertUser
      split <;> exact ⟨rfl, rfl, rfl⟩
    obtain ⟨members, turns, scores⟩ := same
    constructor
    · rw [members]
      exact h.states
    · rw [members]
      exact h.joined
    · rw [members]
      exact fun r hr => kept _ (h.known r hr)
    · rw [turns]
      exact h.begun
    · rw [turns]
      exact h.ordered
    · rw [scores]
      exact h.points
    · rw [scores]
      exact h.scored

theorem Tidy.createGame (h : s.Tidy time drawn) {stamp : Stamp} {game : Game}
    (w : s.createGame stamp = .ok (game, s')) : s'.Tidy time drawn := by
  cases s with
  | memory m =>
    simp only [Store.createGame, keep, Except.ok.injEq, Prod.mk.injEq] at w
    obtain ⟨-, rfl⟩ := w
    trivial
  | relational t =>
    simp only [Store.createGame, RelationalTables.createGame, map_eq_ok_iff, ite_throw_eq_ok_iff,
      bind_eq_ok_iff, pure_eq_ok_iff] at w
    obtain ⟨_, ⟨-, _, -, rfl⟩, hk⟩ := w
    simp only [keepRows, Prod.mk.injEq] at hk
    obtain ⟨-, rfl⟩ := hk
    exact { h with }

theorem Tidy.addPlayer (h : s.Tidy time drawn) {game user : Id} {n : Nat}
    (w : s.addPlayer game user (time n) = .ok s') : s'.Tidy time drawn := by
  cases s with
  | memory m =>
    simp only [Store.addPlayer, map_eq_ok_iff] at w
    obtain ⟨-, -, rfl⟩ := w
    trivial
  | relational t =>
    simp only [Store.addPlayer, RelationalTables.addPlayer, map_eq_ok_iff, ite_throw_eq_ok_iff,
      pure_eq_ok_iff] at w
    obtain ⟨-, ⟨-, holds, rfl⟩, rfl⟩ := w
    simp only [RelationalTables.memberHolds, Bool.not_eq_true', Bool.not_eq_false,
      Bool.and_eq_true] at holds
    refine { h with states := ?_, joined := ?_, known := ?_ } <;> intro r hr <;>
      rcases List.mem_append.1 hr with hr | hr
    · exact h.states r hr
    · rw [List.mem_singleton.1 hr]
      exact ⟨.active, rfl⟩
    · exact h.joined r hr
    · rw [List.mem_singleton.1 hr]
      exact ⟨n, rfl⟩
    · exact h.known r hr
    · rw [List.mem_singleton.1 hr]
      exact holds.2

theorem Tidy.setState (h : s.Tidy time drawn) {game user : Id} {state : PlayerState}
    (w : s.setState game user state = .ok s') : s'.Tidy time drawn := by
  cases s with
  | memory m =>
    simp only [Store.setState, map_eq_ok_iff] at w
    obtain ⟨-, -, rfl⟩ := w
    trivial
  | relational t =>
    simp only [Store.setState, RelationalTables.setState, map_eq_ok_iff] at w
    obtain ⟨t', w, rfl⟩ := w
    split at w
    · cases w
      refine { h with states := ?_, joined := ?_, known := ?_ } <;> intro r hr <;>
        obtain ⟨r₀, hr₀, rfl⟩ := List.mem_map.1 hr
      · split
        · exact ⟨state, rfl⟩
        · exact h.states r₀ hr₀
      · split <;> exact h.joined r₀ hr₀
      · split <;> exact h.known r₀ hr₀
    · cases w

theorem Tidy.addMessage (h : s.Tidy time drawn) {game turn player : Id} {content : String}
    {stamp : Stamp} {message : Message}
    (w : s.addMessage game turn player content stamp = .ok (message, s')) :
    s'.Tidy time drawn := by
  cases s with
  | memory m =>
    simp only [Store.addMessage, keep, Except.ok.injEq, Prod.mk.injEq] at w
    obtain ⟨-, rfl⟩ := w
    trivial
  | relational t =>
    simp only [Store.addMessage, RelationalTables.addMessage, map_eq_ok_iff, ite_throw_eq_ok_iff,
      bind_eq_ok_iff, pure_eq_ok_iff] at w
    obtain ⟨_, ⟨-, -, _, -, rfl⟩, hk⟩ := w
    simp only [keepRows, Prod.mk.injEq] at hk
    obtain ⟨-, rfl⟩ := hk
    exact { h with }

theorem Tidy.addScore (h : s.Tidy time drawn) {award : Award} {n : Nat}
    (w : s.addScore award (time n) = .ok s') : s'.Tidy time drawn := by
  cases s with
  | memory m =>
    simp only [Store.addScore] at w
    split at w <;> cases w
    trivial
  | relational t =>
    simp only [Store.addScore, RelationalTables.addScore, map_eq_ok_iff, ite_throw_eq_ok_iff,
      pure_eq_ok_iff] at w
    obtain ⟨-, ⟨-, rfl⟩, rfl⟩ := w
    refine { h with points := ?_, scored := ?_ } <;> intro r hr <;>
      rcases List.mem_append.1 hr with hr | hr
    · exact h.points r hr
    · rw [List.mem_singleton.1 hr]
      exact ⟨_, rfl⟩
    · exact h.scored r hr
    · rw [List.mem_singleton.1 hr]
      exact ⟨n, rfl⟩

/-- A new turn comes after all others if its time is not before theirs. -/
theorem Tidy.addTurn (h : s.Tidy time drawn) {id game word : Id} {turn : Turn}
    (runs : ∀ n < drawn, ¬ (time drawn).stored < (time n).stored)
    (w : s.addTurn game word ⟨id, time drawn⟩ = .ok (turn, s')) :
    s'.Tidy time (drawn + 1) := by
  cases s with
  | memory m =>
    simp only [Store.addTurn, keep, Except.ok.injEq, Prod.mk.injEq] at w
    obtain ⟨-, rfl⟩ := w
    trivial
  | relational t =>
    simp only [Store.addTurn, RelationalTables.addTurn, map_eq_ok_iff, ite_throw_eq_ok_iff,
      bind_eq_ok_iff, pure_eq_ok_iff] at w
    obtain ⟨_, ⟨-, -, _, -, rfl⟩, hk⟩ := w
    simp only [keepRows, Prod.mk.injEq] at hk
    obtain ⟨-, rfl⟩ := hk
    refine { h with begun := ?_, ordered := ?_ }
    · intro r hr
      rcases List.mem_append.1 hr with hr | hr
      · obtain ⟨n, lt, e⟩ := h.begun r hr
        exact ⟨n, lt.trans (Nat.lt_succ_self _), e⟩
      · rw [List.mem_singleton.1 hr]
        exact ⟨drawn, Nat.lt_succ_self _, rfl⟩
    · refine List.pairwise_append.2 ⟨h.ordered, List.pairwise_singleton _ _, ?_⟩
      intro r hr r' hr'
      obtain ⟨n, lt, e⟩ := h.begun r hr
      rw [List.mem_singleton.1 hr', e]
      exact runs n lt

theorem tidy_commit {u : WorkUnit} : u.commit.Tidy time drawn ↔ u.draft.Tidy time drawn := by
  obtain ⟨base, draft⟩ := u
  cases draft <;> rfl

theorem tidy_abandon {u : WorkUnit} : u.abandon.Tidy time drawn ↔ u.base.Tidy time drawn := by
  obtain ⟨base, draft⟩ := u
  cases base <;> rfl

theorem Tidy.legible (h : s.Tidy time drawn) (storable : ∀ n, isStorable (time n)) : s.Legible := by
  cases s with
  | memory m => trivial
  | relational t =>
    exact { h with
      joined := fun r hr => by
        obtain ⟨n, text⟩ := h.joined r hr
        exact ⟨_, storable n, text⟩
      scored := fun r hr => by
        obtain ⟨n, text⟩ := h.scored r hr
        exact ⟨_, storable n, text⟩ }

end Store

/-! ## Looks at a legible store -/

theorem parseTime_stored {t : Instant} (h : isStorable t) : parseTime t.stored = .ok t.floorMicro := by
  unfold parseTime
  rw [Time.readStored_stored (Instant.inFourDigits_of_isStorable h)]

theorem orderedBy_eq_self {α : Type} {key : α → String} {rows : List α}
    (h : rows.Pairwise fun r r' => ¬ key r' < key r) : orderedBy key rows = rows :=
  List.mergeSort_of_pairwise (h.imp fun lt => by simpa using lt)

section Reading

variable {ε α β γ : Type}

/-- A list of items that can be read is read item by item. -/
theorem exists_mapM_eq_ok {f : α → Except ε β} {p : α → γ} {q : β → γ} :
    ∀ {l : List α}, (∀ a ∈ l, ∃ b, f a = .ok b ∧ q b = p a) →
      ∃ l', l.mapM f = .ok l' ∧ l'.map q = l.map p
  | [], _ => ⟨[], rfl, rfl⟩
  | a :: l, h => by
      obtain ⟨b, hb, e⟩ := h a List.mem_cons_self
      obtain ⟨l', hl, es⟩ := exists_mapM_eq_ok fun x hx => h x (List.mem_cons_of_mem a hx)
      refine ⟨b :: l', ?_, by rw [List.map_cons, List.map_cons, e, es]⟩
      rw [List.mapM_cons, bind_eq_ok_iff]
      exact ⟨b, hb, bind_eq_ok_iff.2 ⟨l', hl, rfl⟩⟩

theorem map_filterMap_of_some {f : α → Option β} {p : α → γ} {q : β → γ} {l : List α}
    (h : ∀ a ∈ l, ∃ b, f a = some b ∧ q b = p a) : (l.filterMap f).map q = l.map p := by
  induction l with
  | nil => rfl
  | cons a l ih =>
    obtain ⟨b, hb, e⟩ := h a List.mem_cons_self
    rw [List.filterMap_cons_some hb, List.map_cons, List.map_cons, e,
      ih fun x hx => h x (List.mem_cons_of_mem a hx)]

end Reading

namespace Store

variable {time : Nat → Instant} {drawn : Nat} {s : Store}

/-- The latest turn that is read is the one put down last. -/
theorem Tidy.latestTurn (h : s.Tidy time drawn) (storable : ∀ n, isStorable (time n)) (game : Id) :
    ∃ turn, s.latestTurn game = .ok turn ∧ turn.map Turn.round = s.ledger.latest game := by
  cases s with
  | memory m =>
    refine ⟨_, rfl, ?_⟩
    simp only [MemoryTables.latestTurn, Ledger.latest, ledger, MemoryTables.ledger, List.filter_map,
      List.getLast?_map]
    rfl
  | relational t =>
    have kept : orderedBy TurnRow.createdAt (t.turns.filter (·.gameId == game)) =
        t.turns.filter (·.gameId == game) :=
      orderedBy_eq_self (h.ordered.filter _)
    have last : (Store.relational t).ledger.latest game =
        (t.turns.filter (·.gameId == game)).getLast?.map TurnRow.round := by
      simp only [Ledger.latest, ledger, RelationalTables.ledger, List.filter_map, List.getLast?_map]
      rfl
    simp only [Store.latestTurn, RelationalTables.latestTurn, kept]
    rw [last]
    cases found : (t.turns.filter (·.gameId == game)).getLast? with
    | none => exact ⟨none, rfl, rfl⟩
    | some r =>
      obtain ⟨n, -, text⟩ := h.begun r (List.mem_of_mem_filter (List.mem_of_getLast? found))
      have read : r.toTurn = .ok ⟨r.id, r.gameId, r.wordId, (time n).floorMicro⟩ := by
        simp only [TurnRow.toTurn, text, parseTime_stored (storable n)]
        rfl
      exact ⟨some _, congrArg (Except.map some) read, rfl⟩

theorem toPlayer_eq_ok {row : PlayerRow} {state : PlayerState} {t : Instant} (h : isStorable t)
    (known : row.state = state.name) (text : row.joinedAt = t.stored) :
    ∃ p, row.toPlayer = .ok p ∧
      (p.id, p.isActive) = (row.userId, row.state == PlayerState.active.name) := by
  refine ⟨⟨row.userId, row.nickname, state, t.floorMicro⟩, ?_, ?_⟩
  · simp only [PlayerRow.toPlayer, known, PlayerState.ofName?_name, text, parseTime_stored h]
    rfl
  · rw [known, name_beq_active]
    rfl

/-- Reading the players succeeds and shows the seats of the game. -/
theorem Legible.players (h : s.Legible) (game : Id) :
    ∃ players, s.players game = .ok players ∧ (players.map fun p => (p.id, p.isActive)).Perm
      ((s.ledger.seats.filter (·.gameId == game)).map fun seat => (seat.userId, seat.taken)) := by
  cases s with
  | memory m =>
    refine ⟨_, rfl, ?_⟩
    simp only [MemoryTables.players, ledger, MemoryTables.ledger, List.filter_map, List.map_map]
    exact List.Perm.refl _
  | relational t =>
    have mem : ∀ r ∈ orderedBy MemberRow.joinedAt (t.members.filter (·.gameId == game)),
        r ∈ t.members := fun r hr => List.mem_of_mem_filter ((perm_orderedBy _ _).mem_iff.1 hr)
    have joined : ∀ r ∈ orderedBy MemberRow.joinedAt (t.members.filter (·.gameId == game)),
        ∃ row, t.joinNickname r = some row ∧
          (row.userId, row.state, row.joinedAt) = (r.userId, r.state, r.joinedAt) := by
      intro r hr
      have known := h.known r (mem r hr)
      obtain ⟨u, found⟩ : ∃ u, t.users.find? (·.id == r.userId) = some u :=
        Option.isSome_iff_exists.1 (List.find?_isSome.2 (List.any_eq_true.1 known))
      exact ⟨_, by rw [RelationalTables.joinNickname, found]; rfl, rfl⟩
    have same := map_filterMap_of_some joined
    have read : ∀ row ∈ (orderedBy MemberRow.joinedAt
        (t.members.filter (·.gameId == game))).filterMap t.joinNickname,
        ∃ p, row.toPlayer = .ok p ∧
          (p.id, p.isActive) = (row.userId, row.state == PlayerState.active.name) := by
      intro row hrow
      obtain ⟨r, hr, e⟩ := List.mem_map.1 (same ▸ List.mem_map_of_mem hrow)
      obtain ⟨state, known⟩ := h.states r (mem r hr)
      obtain ⟨time, storable, text⟩ := h.joined r (mem r hr)
      simp only [Prod.mk.injEq] at e
      exact toPlayer_eq_ok storable (e.2.1 ▸ known) (e.2.2 ▸ text)
    obtain ⟨players, ok, shown⟩ := exists_mapM_eq_ok read
    refine ⟨players, ok, ?_⟩
    have seats := congrArg (List.map fun x => (x.1, x.2.1 == PlayerState.active.name)) same
    rw [List.map_map, List.map_map] at seats
    rw [shown]
    refine (List.Perm.of_eq seats).trans (((perm_orderedBy _ _).map _).trans ?_)
    simp only [ledger, RelationalTables.ledger, List.filter_map, List.map_map]
    exact List.Perm.refl _

/-- A player who is found among those read has the seat that the ledger shows. -/
theorem Legible.mem_seats (h : s.Legible) {game user : Id} {players : List Player} {p : Player}
    (read : s.players game = .ok players) (found : players.find? (·.id == user) = some p) :
    ⟨game, user, p.isActive⟩ ∈ s.ledger.seats := by
  obtain ⟨players', read', perm⟩ := h.players game
  rw [read, Except.ok.injEq] at read'
  subst read'
  have shown := perm.mem_iff.1 (List.mem_map_of_mem (List.mem_of_find?_eq_some found))
  obtain ⟨seat, mem, e⟩ := List.mem_map.1 shown
  obtain ⟨mem, here⟩ := List.mem_filter.1 mem
  have its : p.id = user := by simpa using List.find?_some found
  have same : seat = ⟨game, user, p.isActive⟩ := by
    cases seat
    simp_all
  exact same ▸ mem

/-- Whoever is not found among the players that are read has no seat. -/
theorem Legible.no_seat (h : s.Legible) {game user : Id} {players : List Player}
    (read : s.players game = .ok players) (absent : players.find? (·.id == user) = none) :
    ∀ seat ∈ s.ledger.seats, seat.gameId = game → seat.userId ≠ user := by
  rintro seat mem rfl rfl
  obtain ⟨players', read', shown⟩ := h.players seat.gameId
  obtain rfl : players = players' := by simpa [read] using read'
  have there := shown.mem_iff.2 (List.mem_map_of_mem (List.mem_filter.2 ⟨mem, beq_self_eq_true _⟩))
  obtain ⟨p, hp, e⟩ := List.mem_map.1 there
  rw [Prod.mk.injEq] at e
  exact List.find?_eq_none.1 absent p hp (beq_iff_eq.2 e.1)

/-- The active players that are read are the users seated in the game. -/
theorem Legible.activePlayers (h : s.Legible) (game : Id) :
    ∃ active, s.activePlayers game = .ok active ∧
      (active.map (·.id)).Perm (s.ledger.seated game) := by
  obtain ⟨players, read, perm⟩ := h.players game
  refine ⟨players.filter Player.isActive, by rw [Store.activePlayers, read]; rfl, ?_⟩
  have taken := (perm.filter fun x => x.2).map Prod.fst
  simp only [List.filter_map, List.map_map, Function.comp_def, List.filter_filter] at taken
  apply taken.trans
  simp only [Ledger.seated, Bool.and_comm]
  exact List.Perm.refl _

theorem Legible.scores (h : s.Legible) (game : Id) :
    ∃ scores, s.scores game = .ok scores := by
  cases s with
  | memory m => exact ⟨_, rfl⟩
  | relational t =>
    have mem : ∀ r ∈ orderedBy ScoreRow.createdAt (t.scores.filter (·.gameId == game)),
        r ∈ t.scores := fun r hr => List.mem_of_mem_filter ((perm_orderedBy _ _).mem_iff.1 hr)
    have numbers : ∀ r ∈ orderedBy ScoreRow.createdAt (t.scores.filter (·.gameId == game)),
        ∃ x, (r.points.toInt.map fun points => (r, points)) = .ok x ∧ x.1 = r := by
      intro r hr
      obtain ⟨n, whole⟩ := h.points r (mem r hr)
      exact ⟨(r, n), by rw [whole]; rfl, rfl⟩
    obtain ⟨rows, ok, same⟩ := exists_mapM_eq_ok (p := id) (q := Prod.fst) numbers
    have times : ∀ x ∈ rows, ∃ score, ScoreRow.toScore x.1 x.2 = .ok score ∧ true = true := by
      intro x hx
      have hr : x.1 ∈ orderedBy ScoreRow.createdAt (t.scores.filter (·.gameId == game)) := by
        rw [← List.map_id (orderedBy _ _), ← same]
        exact List.mem_map_of_mem hx
      obtain ⟨time, storable, text⟩ := h.scored x.1 (mem _ hr)
      refine ⟨⟨⟨x.1.gameId, x.1.turnId, x.1.playerId, x.1.messageId, x.2⟩, time.floorMicro⟩, ?_, rfl⟩
      simp only [ScoreRow.toScore, text, parseTime_stored storable]
      rfl
    obtain ⟨scores, read, -⟩ := exists_mapM_eq_ok (p := fun _ => true) (q := fun _ => true) times
    exact ⟨scores, bind_eq_ok_iff.2 ⟨rows, ok, read⟩⟩

end Store

/-! ## Entries keep books tidy -/

namespace Books

def Tidy (b : Books) : Prop := b.store.Tidy b.supply.time b.drawn

theorem Tidy.legible {b : Books} (h : b.Tidy) : b.store.Legible :=
  Store.Tidy.legible h b.supply.storable

/-- Books that are tidy, under a clock that runs on, stay so. -/
structure StaysTidy (b b' : Books) : Prop where
  supply : b'.supply = b.supply
  drawn : b.drawn ≤ b'.drawn
  tidy : b.supply.RunsOn → b.Tidy → b'.Tidy

namespace StaysTidy

open Entry

theorem isCourse : IsCourse Books.StaysTidy where
  refl b := ⟨rfl, Nat.le_refl _, fun _ h => h⟩
  trans h h' := ⟨h'.supply.trans h.supply, h.drawn.trans h'.drawn,
    fun runs t => h'.tidy (h.supply ▸ runs) (h.tidy runs t)⟩
  draw b := ⟨rfl, Nat.le_succ _, fun _ h => Store.Tidy.later h (Nat.le_succ _)⟩
  commit b after h := ⟨h.supply, h.drawn, fun runs t => Store.tidy_commit.2 (h.tidy runs t)⟩
  abandon b after h := by
    refine ⟨h.supply, h.drawn, fun _ t => ?_⟩
    unfold Books.Tidy abandoned
    rw [h.supply]
    exact Store.tidy_abandon.2 (Store.Tidy.later t h.drawn)

theorem of_write {b : Books} {store : Store} {k : Nat}
    (later : b.drawn ≤ k) (h : b.supply.RunsOn → b.Tidy → store.Tidy b.supply.time k) :
    b.StaysTidy { b with store, drawn := k } :=
  ⟨rfl, later, h⟩

theorem carries : Carries Books.StaysTidy where
  toIsCourse := isCourse
  upsertUser id nickname := by
    apply along_stamped isCourse
    intro b u b' h
    change (Entry.upsertUser id nickname).Yields b u b' at h
    simp only [Entry.upsertUser, yields_bind, yields_stamp, yields_put, Except.ok.injEq] at h
    obtain ⟨-, -, ⟨rfl, rfl⟩, -, rfl, rfl⟩ := h
    exact of_write (Nat.le_succ _) fun _ t => (t.upsertUser _ _ _).later (Nat.le_succ _)
  createGame := by
    apply along_stamped isCourse
    intro b game b' h
    simp only [yields_bind, yields_stamp, yields_write] at h
    obtain ⟨_, _, ⟨rfl, rfl⟩, store, h, rfl⟩ := h
    exact of_write (Nat.le_succ _) fun _ t => (t.createGame h).later (Nat.le_succ _)
  addPlayer game user := by
    apply along_stamped isCourse
    intro b u b' h
    change (Entry.addPlayer game user).Yields b u b' at h
    simp only [Entry.addPlayer, yields_bind, yields_stamp, yields_put] at h
    obtain ⟨_, _, ⟨rfl, rfl⟩, store, h, rfl⟩ := h
    exact of_write (Nat.le_succ _) fun _ t => (t.addPlayer h).later (Nat.le_succ _)
  setState game user state := by
    apply along_write isCourse
    intro b u b' h
    change (put _).Yields b u b' at h
    obtain ⟨store, set, rfl⟩ := yields_put.1 h
    exact of_write (Nat.le_refl _) fun _ t => t.setState set
  addTurn game word := by
    apply along_stamped isCourse
    intro b turn b' h
    simp only [yields_bind, yields_stamp, yields_write] at h
    obtain ⟨_, _, ⟨rfl, rfl⟩, store, h, rfl⟩ := h
    refine of_write (Nat.le_succ _) fun runs t => t.addTurn (fun n lt => ?_) h
    exact Instant.not_stored_lt (Instant.inFourDigits_of_isStorable (b.supply.storable n))
      (Instant.inFourDigits_of_isStorable (b.supply.storable _)) (runs n _ lt.le)
  addMessage game turn player content := by
    apply along_stamped isCourse
    intro b message b' h
    simp only [yields_bind, yields_stamp, yields_write] at h
    obtain ⟨_, _, ⟨rfl, rfl⟩, store, h, rfl⟩ := h
    exact of_write (Nat.le_succ _) fun _ t => (t.addMessage h).later (Nat.le_succ _)

theorem along_addScore (award : Award) : (addScore award).Along Books.StaysTidy := by
  apply along_stamped isCourse
  intro b u b' h
  change (Entry.addScore award).Yields b u b' at h
  simp only [Entry.addScore, yields_bind, yields_stamp, yields_put] at h
  obtain ⟨_, _, ⟨rfl, rfl⟩, store, h, rfl⟩ := h
  exact of_write (Nat.le_succ _) fun _ t => (t.addScore h).later (Nat.le_succ _)

end StaysTidy

end Books

end GuessingRoom
