import GuessingRoom.Proofs.Writes

/-!
# Healthy stores

A store is healthy if all of its rows can be read, it takes scores, and nobody in it goes without a
nickname. Every write that succeeds leaves a healthy store healthy (`Write.make_healthy`), whatever
the clock has done. In a healthy store no look fails, and a write fails only if a key is taken or a
reference leads nowhere (`Healthy.exists_createGame`, …).
-/

namespace GuessingRoom

open Time (Instant)

/-! ## Keys and references -/

namespace RelationalTables

variable {t : RelationalTables}

theorem hasUser_iff {id : Id} : t.hasUser id = true ↔ id ∈ t.ledger.users := by
  simp [hasUser, ledger]

theorem hasGame_iff {id : Id} : t.hasGame id = true ↔ id ∈ t.ledger.games := by
  simp [hasGame, ledger]

theorem hasWord_iff {id : Id} : t.hasWord id = true ↔ ∃ w ∈ t.ledger.words, w.id = id := by
  simp [hasWord, ledger]

theorem hasTurn_iff {id : Id} : t.hasTurn id = true ↔ ∃ r ∈ t.ledger.rounds, r.id = id := by
  simp [hasTurn, ledger, TurnRow.round]

theorem hasMessage_iff {id : Id} : t.hasMessage id = true ↔ ∃ l ∈ t.ledger.lines, l.id = id := by
  simp [hasMessage, ledger, MessageRow.line]

theorem isMember_iff {game user : Id} : t.isMember game user = true ↔
    ∃ seat ∈ t.ledger.seats, seat.gameId = game ∧ seat.userId = user := by
  simp [isMember, ledger, MemberRow.seat]

end RelationalTables

theorem MemoryTables.isOf_iff (words : List Word) {t : MemoryTables} {game user : Id} :
    t.memberships.any (·.isOf game user) = true ↔
      ∃ seat ∈ (t.ledger words).seats, seat.gameId = game ∧ seat.userId = user := by
  simp [ledger, Membership.seat, Membership.isOf]

/-! ## Nicknames -/

namespace Store

/-- No user and no player goes without a nickname. -/
def Nicknamed : Store → Prop
  | memory m =>
    (∀ u ∈ m.tables.users, u.nickname ≠ "") ∧ ∀ p ∈ m.tables.memberships, p.player.nickname ≠ ""
  | relational t => ∀ r ∈ t.users, r.nickname ≠ ""

theorem Nicknamed.of_rows {s s' : Store} (h : s.Nicknamed) (rows : s'.rows = s.rows) :
    s'.Nicknamed := by
  cases s with
  | memory m =>
    obtain ⟨_, _, _, rfl⟩ := eq_memory_of_rows rows
    exact h
  | relational t =>
    obtain rfl := eq_relational_of_rows rows
    exact h

/-- All players that are read have nicknames. -/
theorem Nicknamed.players {s : Store} (h : s.Nicknamed) {game : Id} {players : List Player}
    (read : s.players game = .ok players) {p : Player} (mem : p ∈ players) : p.nickname ≠ "" := by
  cases s with
  | memory m =>
    simp only [Store.players, MemoryTables.players, Except.ok.injEq] at read
    subst read
    obtain ⟨m', here, rfl⟩ := List.mem_map.1 mem
    exact h.2 m' (List.mem_of_mem_filter here)
  | relational t =>
    simp only [Store.players, RelationalTables.players] at read
    have kept : ∀ (row : PlayerRow) (p : Player), row.toPlayer = .ok p → p.nickname = row.nickname := by
      intro row p e
      unfold PlayerRow.toPlayer at e
      split at e
      · simp only [bind_eq_ok_iff, pure_eq_ok_iff] at e
        obtain ⟨-, -, rfl⟩ := e
        rfl
      · cases e
    have shown := map_of_mapM_eq_ok kept read ▸ List.mem_map_of_mem (f := Player.nickname) mem
    obtain ⟨row, hrow, e⟩ := List.mem_map.1 shown
    obtain ⟨r, -, joined⟩ := List.mem_filterMap.1 hrow
    obtain ⟨u, found, rfl⟩ := Option.map_eq_some_iff.1 joined
    exact e ▸ h u (List.mem_of_find?_eq_some found)

end Store

/-! ## Stores -/

namespace Store

variable {supply : Supply} {drawn : Nat} {s s' : Store}

structure Healthy (supply : Supply) (drawn : Nat) (s : Store) : Prop where
  holds : ∃ t, s.Holds supply drawn t
  accepts : s.refusing false = s
  nicknamed : s.Nicknamed

namespace Healthy

theorem of_isBlank (blank : s.IsBlank) (accepts : s.refusing false = s) :
    s.Healthy supply drawn where
  holds := ⟨{}, .of_isBlank blank⟩
  accepts := accepts
  nicknamed := by
    cases s with
    | memory m =>
      have blank : m.tables = {} := blank
      simp [Nicknamed, blank]
    | relational t =>
      have blank : t = { words := t.words } := blank
      rw [blank]
      simp [Nicknamed]

theorem later (h : s.Healthy supply drawn) {k : Nat} (le : drawn ≤ k) : s.Healthy supply k :=
  { h with holds := h.holds.imp fun _ holds => holds.later le }

theorem commit {u : WorkUnit} (h : u.draft.Healthy supply drawn) : u.commit.Healthy supply drawn where
  holds := h.holds.imp fun _ holds => holds.of_rows u.rows_commit
  accepts := by
    have accepts := h.accepts
    obtain ⟨base, draft⟩ := u
    cases draft with
    | memory m => exact congrArg (fun s => WorkUnit.commit ⟨base, s⟩) accepts
    | relational t => rfl
  nicknamed := h.nicknamed.of_rows u.rows_commit

theorem abandon {u : WorkUnit} (h : u.base.Healthy supply drawn) :
    u.abandon.Healthy supply drawn where
  holds := h.holds.imp fun _ holds => holds.of_rows u.rows_abandon
  accepts := by
    have accepts := h.accepts
    obtain ⟨base, draft⟩ := u
    cases base with
    | memory m => exact congrArg (fun s => WorkUnit.abandon ⟨s, draft⟩) accepts
    | relational t => rfl
  nicknamed := h.nicknamed.of_rows u.rows_abandon

end Healthy

end Store

/-! ## Writes -/

namespace Write

variable {supply : Supply} {drawn : Nat} {s s' : Store} {made : Made} {w : Write} {stamp : Stamp}

theorem nicknamed_memory {m : Memory} (h : (Store.memory m).Nicknamed)
    (named : ∀ id nickname, w = .upsertUser id nickname → nickname ≠ "")
    (put : w.make stamp (.memory m) = .ok (made, s')) : s'.Nicknamed := by
  obtain ⟨users, players⟩ := h
  cases w with
  | upsertUser id nickname =>
    have given := named id nickname rfl
    cases put
    show Store.Nicknamed
      (.memory { m with tables := m.tables.upsertUser id nickname stamp.time })
    unfold MemoryTables.upsertUser
    split
    · refine ⟨fun u mem => ?_, players⟩
      obtain ⟨v, known, rfl⟩ := List.mem_map.1 mem
      split
      · exact given
      · exact users v known
    · refine ⟨fun u mem => ?_, players⟩
      rcases List.mem_append.1 mem with old | new
      · exact users u old
      · exact List.mem_singleton.1 new ▸ given
  | createGame =>
    cases put
    exact ⟨users, players⟩
  | addPlayer game user =>
    simp only [make, Store.addPlayer, MemoryTables.addPlayer, map_eq_ok_iff] at put
    obtain ⟨_, ⟨tables, put, rfl⟩, e⟩ := put
    cases e
    split at put
    · cases put
    · split at put
      · cases put
      · rename_i u found
        split at put <;> cases put
        refine ⟨users, fun p mem => ?_⟩
        rcases List.mem_append.1 mem with old | new
        · exact players p old
        · exact List.mem_singleton.1 new ▸ users u (List.mem_of_find?_eq_some found)
  | setState game user state =>
    simp only [make, Store.setState, MemoryTables.setState, map_eq_ok_iff] at put
    obtain ⟨_, ⟨tables, put, rfl⟩, e⟩ := put
    cases e
    split at put <;> cases put
    refine ⟨users, fun p mem => ?_⟩
    obtain ⟨q, known, rfl⟩ := List.mem_map.1 mem
    split <;> exact players q known
  | addTurn game word =>
    cases put
    exact ⟨users, players⟩
  | addMessage game turn player content =>
    cases put
    exact ⟨users, players⟩
  | addScore award =>
    simp only [make, Store.addScore, map_eq_ok_iff] at put
    obtain ⟨_, put, e⟩ := put
    split at put <;> cases put
    cases e
    exact ⟨users, players⟩

theorem nicknamed_relational {t : RelationalTables} (h : (Store.relational t).Nicknamed)
    (named : ∀ id nickname, w = .upsertUser id nickname → nickname ≠ "")
    (put : w.make stamp (.relational t) = .ok (made, s')) : s'.Nicknamed := by
  have h : ∀ r ∈ t.users, r.nickname ≠ "" := h
  cases w with
  | upsertUser id nickname =>
    have given := named id nickname rfl
    cases put
    show Store.Nicknamed (.relational (t.upsertUser id nickname stamp.time))
    unfold RelationalTables.upsertUser
    split
    · intro r mem
      obtain ⟨r', known, rfl⟩ := List.mem_map.1 mem
      split
      · exact given
      · exact h r' known
    · intro r mem
      rcases List.mem_append.1 mem with old | new
      · exact h r old
      · exact List.mem_singleton.1 new ▸ given
  | _ =>
    simp only [make, Store.createGame, Store.addPlayer, Store.setState, Store.addTurn,
      Store.addMessage, Store.addScore, RelationalTables.createGame, RelationalTables.addPlayer,
      RelationalTables.setState, RelationalTables.addTurn, RelationalTables.addMessage,
      RelationalTables.addScore, map_eq_ok_iff, ite_throw_eq_ok_iff, bind_eq_ok_iff,
      pure_eq_ok_iff, Store.keepRows, Prod.mk.injEq] at put
    grind [Store.Nicknamed]

/-- A write that succeeds leaves a healthy store, unless it takes a nickname away. -/
theorem make_healthy (h : s.Healthy supply drawn)
    (named : ∀ id nickname, w = .upsertUser id nickname → nickname ≠ "")
    (put : w.make (supply.stamp drawn) s = .ok (made, s')) : s'.Healthy supply (drawn + 1) where
  holds := by
    obtain ⟨t, holds⟩ := h.holds
    obtain ⟨t', holds', -⟩ := make_holds holds put
    exact ⟨t', holds'⟩
  accepts := by
    obtain ⟨t, again, -, accepts⟩ := make_of_rows rfl h.accepts put
    rw [put] at again
    cases again
    exact accepts
  nicknamed := by
    cases s with
    | memory m => exact nicknamed_memory h.nicknamed named put
    | relational t => exact nicknamed_relational h.nicknamed named put

end Write

/-! ## Looks -/

namespace Store

variable {supply : Supply} {drawn : Nat} {s s' : Store} {game user : Id}

/-- Players and scores can be looked up if the seats belong to users. -/
theorem Holds.legible {t : MemoryTables} (holds : s.Holds supply drawn t)
    (known : ∀ seat ∈ s.ledger.seats, seat.userId ∈ s.ledger.users) : s.Legible := by
  cases s with
  | memory m => trivial
  | relational r =>
    obtain ⟨⟨words, rfl⟩, chronicled⟩ := holds
    have told {times : List Instant} (c : IsChronicle supply drawn times) {time : Instant}
        (mem : time ∈ times) : isStorable time := (c.exact mem).1
    constructor
    · intro row mem
      obtain ⟨m, -, rfl⟩ := List.mem_map.1 mem
      exact ⟨m.player.state, rfl⟩
    · intro row mem
      obtain ⟨m, known, rfl⟩ := List.mem_map.1 mem
      exact ⟨_, told chronicled.memberships (List.mem_map_of_mem known), rfl⟩
    · intro row mem
      exact RelationalTables.hasUser_iff.2 (known row.seat (List.mem_map_of_mem mem))
    · intro row mem
      obtain ⟨score, -, rfl⟩ := List.mem_map.1 mem
      exact ⟨score.points, rfl⟩
    · intro row mem
      obtain ⟨score, known, rfl⟩ := List.mem_map.1 mem
      exact ⟨_, told chronicled.scores (List.mem_map_of_mem known), rfl⟩

theorem Holds.exists_addPlayer {t : MemoryTables} (holds : s.Holds supply drawn t) (n : Nat)
    (known : user ∈ s.ledger.users) (there : game ∈ s.ledger.games)
    (free : ¬ ∃ seat ∈ s.ledger.seats, seat.gameId = game ∧ seat.userId = user) :
    ∃ s', s.addPlayer game user (supply.time n) = .ok s' := by
  cases s with
  | memory m =>
    obtain ⟨u, found⟩ := MemoryTables.exists_findUser known
    have open_ : ¬ (m.tables.findGame game).isNone = true := by
      obtain ⟨g, opened⟩ := MemoryTables.exists_findGame there
      simp [opened]
    have free := mt (MemoryTables.isOf_iff m.words).1 free
    simp only [Store.addPlayer, MemoryTables.addPlayer, if_neg free, found, if_neg open_]
    exact ⟨_, rfl⟩
  | relational r =>
    obtain ⟨⟨words, rfl⟩, -⟩ := holds
    have free := mt RelationalTables.isMember_iff.1 free
    have refs : ((t.inRows words).hasGame game && (t.inRows words).hasUser user) = true :=
      Bool.and_eq_true_iff.2 ⟨RelationalTables.hasGame_iff.2 there, RelationalTables.hasUser_iff.2 known⟩
    simp only [Store.addPlayer, MemoryTables.addPlayer_inRows words game user "",
      if_neg free, if_pos refs]
    exact ⟨_, rfl⟩

namespace Healthy

variable (h : s.Healthy supply drawn)
include h

theorem setState {state : PlayerState} (put : s.setState game user state = .ok s') :
    s'.Healthy supply drawn := by
  have made : (Write.setState game user state).make (supply.stamp drawn) s = .ok (.nothing, s') := by
    rw [Write.make, put]
    rfl
  obtain ⟨t, holds⟩ := h.holds
  exact { Write.make_healthy h (by rintro _ _ ⟨⟩) made with
    holds := (holds.setState put).imp fun _ set => set.2 }

theorem findUser (id : Id) : ∃ u, s.findUser id = .ok u := by
  obtain ⟨t, holds⟩ := h.holds
  exact ⟨_, holds.findUser id⟩

theorem findGame (id : Id) : ∃ g, s.findGame id = .ok g := by
  obtain ⟨t, holds⟩ := h.holds
  exact ⟨_, holds.findGame id⟩

/-- A game with turns has a latest one, though not the one put down last if the clock went back. -/
theorem latestTurn (game : Id) : ∃ turn, s.latestTurn game = .ok turn ∧
    ((∃ r ∈ s.ledger.rounds, r.gameId = game) → turn.isSome = true) := by
  obtain ⟨t, holds⟩ := h.holds
  cases s with
  | memory m =>
    refine ⟨_, rfl, ?_⟩
    rintro ⟨r, mem, here⟩
    obtain ⟨turn, known, rfl⟩ := List.mem_map.1 mem
    have mem : turn ∈ m.tables.turns.filter (·.gameId == game) :=
      List.mem_filter.2 ⟨known, beq_iff_eq.2 here⟩
    exact List.getLast?_isSome.2 (List.ne_nil_of_mem mem)
  | relational r =>
    obtain ⟨⟨words, rfl⟩, chronicled⟩ := holds
    have rows : ∀ row ∈ orderedBy TurnRow.createdAt
        ((t.turns.map Turn.row).filter (·.gameId == game)), ∃ turn, row.toTurn = .ok turn := by
      intro row mem
      obtain ⟨turn, known, rfl⟩ := List.mem_map.1
        (List.mem_of_mem_filter ((perm_orderedBy _ _).mem_iff.1 mem))
      exact ⟨turn, Turn.toTurn_row (chronicled.turns.exact (List.mem_map_of_mem known))⟩
    simp only [Store.latestTurn, RelationalTables.latestTurn, MemoryTables.inRows]
    cases last : (orderedBy TurnRow.createdAt
        ((t.turns.map Turn.row).filter (·.gameId == game))).getLast? with
    | some row =>
      obtain ⟨turn, read⟩ := rows row (List.mem_of_getLast? last)
      exact ⟨some turn, congrArg (Except.map some) read, fun _ => rfl⟩
    | none =>
      refine ⟨none, rfl, ?_⟩
      rintro ⟨r, mem, here⟩
      obtain ⟨row, known, rfl⟩ := List.mem_map.1 mem
      have mem : row ∈ (t.turns.map Turn.row).filter (·.gameId == game) :=
        List.mem_filter.2 ⟨known, beq_iff_eq.2 here⟩
      rw [List.getLast?_eq_none_iff] at last
      exact absurd ((perm_orderedBy TurnRow.createdAt _).mem_iff.2 mem) (last ▸ List.not_mem_nil)

theorem messages (game : Id) : ∃ messages, s.messages game = .ok messages := by
  obtain ⟨t, holds⟩ := h.holds
  cases s with
  | memory m => exact ⟨_, rfl⟩
  | relational r =>
    obtain ⟨⟨words, rfl⟩, chronicled⟩ := holds
    have rows : ∀ row ∈ orderedBy MessageRow.createdAt
        ((t.messages.map Message.row).filter (·.gameId == game)),
        ∃ message, row.toMessage = .ok message ∧ message.line = row.line := by
      intro row mem
      obtain ⟨m, known, rfl⟩ := List.mem_map.1
        (List.mem_of_mem_filter ((perm_orderedBy _ _).mem_iff.1 mem))
      exact ⟨m, Message.toMessage_row (chronicled.messages.exact (List.mem_map_of_mem known)), rfl⟩
    obtain ⟨messages, read, -⟩ := exists_mapM_eq_ok rows
    exact ⟨messages, read⟩

/-- Players and scores can be looked up if the seats belong to users. -/
theorem legible (known : ∀ seat ∈ s.ledger.seats, seat.userId ∈ s.ledger.users) : s.Legible := by
  obtain ⟨t, holds⟩ := h.holds
  exact holds.legible known

/-! ## Writes that succeed -/

variable (n : Nat)

theorem exists_createGame (free : supply.id n ∉ s.ledger.games) :
    ∃ made, s.createGame (supply.stamp n) = .ok made := by
  obtain ⟨t, holds⟩ := h.holds
  cases s with
  | memory m => exact ⟨_, rfl⟩
  | relational r =>
    obtain ⟨⟨words, rfl⟩, -⟩ := holds
    have free := mt RelationalTables.hasGame_iff.1 free
    simp only [Store.createGame, Supply.stamp,
      MemoryTables.createGame_inRows words (supply.storable n), if_neg free]
    exact ⟨_, rfl⟩

theorem exists_addPlayer (known : user ∈ s.ledger.users) (there : game ∈ s.ledger.games)
    (free : ¬ ∃ seat ∈ s.ledger.seats, seat.gameId = game ∧ seat.userId = user) :
    ∃ s', s.addPlayer game user (supply.time n) = .ok s' := by
  obtain ⟨t, holds⟩ := h.holds
  exact holds.exists_addPlayer n known there free

omit h in
theorem exists_setState (state : PlayerState)
    (seated : ∃ seat ∈ s.ledger.seats, seat.gameId = game ∧ seat.userId = user) :
    ∃ s', s.setState game user state = .ok s' := by
  cases s with
  | memory m =>
    simp only [Store.setState, MemoryTables.setState,
      if_pos ((MemoryTables.isOf_iff m.words).2 seated)]
    exact ⟨_, rfl⟩
  | relational r =>
    simp only [Store.setState, RelationalTables.setState,
      if_pos (RelationalTables.isMember_iff.2 seated)]
    exact ⟨_, rfl⟩

theorem exists_addTurn {word : Id} (free : ∀ r ∈ s.ledger.rounds, r.id ≠ supply.id n)
    (there : game ∈ s.ledger.games) (listed : ∃ w ∈ s.ledger.words, w.id = word) :
    ∃ made, s.addTurn game word (supply.stamp n) = .ok made := by
  obtain ⟨t, holds⟩ := h.holds
  cases s with
  | memory m => exact ⟨_, rfl⟩
  | relational r =>
    obtain ⟨⟨words, rfl⟩, -⟩ := holds
    have free : ¬ (t.inRows words).hasTurn (supply.id n) = true := by
      rw [RelationalTables.hasTurn_iff]
      rintro ⟨r, mem, e⟩
      exact free r mem e
    have refs : ((t.inRows words).hasGame game && (t.inRows words).hasWord word) = true :=
      Bool.and_eq_true_iff.2 ⟨RelationalTables.hasGame_iff.2 there, RelationalTables.hasWord_iff.2 listed⟩
    simp only [Store.addTurn, Supply.stamp, MemoryTables.addTurn_inRows words (supply.storable n),
      if_neg free, if_pos refs]
    exact ⟨_, rfl⟩

theorem exists_addMessage {turn : Id} (content : String)
    (free : ∀ l ∈ s.ledger.lines, l.id ≠ supply.id n) (there : game ∈ s.ledger.games)
    (begun : ∃ r ∈ s.ledger.rounds, r.id = turn) (known : user ∈ s.ledger.users) :
    ∃ made, s.addMessage game turn user content (supply.stamp n) = .ok made := by
  obtain ⟨t, holds⟩ := h.holds
  cases s with
  | memory m => exact ⟨_, rfl⟩
  | relational r =>
    obtain ⟨⟨words, rfl⟩, -⟩ := holds
    have free : ¬ (t.inRows words).hasMessage (supply.id n) = true := by
      rw [RelationalTables.hasMessage_iff]
      rintro ⟨l, mem, e⟩
      exact free l mem e
    have refs : ((t.inRows words).hasGame game && (t.inRows words).hasTurn turn &&
        (t.inRows words).hasUser user) = true := by
      rw [Bool.and_eq_true, Bool.and_eq_true]
      exact ⟨⟨RelationalTables.hasGame_iff.2 there, RelationalTables.hasTurn_iff.2 begun⟩,
        RelationalTables.hasUser_iff.2 known⟩
    simp only [Store.addMessage, Supply.stamp,
      MemoryTables.addMessage_inRows words (supply.storable n), if_neg free, if_pos refs]
    exact ⟨_, rfl⟩

theorem exists_addScore {award : Award} (there : award.gameId ∈ s.ledger.games)
    (begun : ∃ r ∈ s.ledger.rounds, r.id = award.turnId) (known : award.playerId ∈ s.ledger.users)
    (said : ∃ l ∈ s.ledger.lines, l.id = award.messageId) :
    ∃ s', s.addScore award (supply.time n) = .ok s' := by
  obtain ⟨t, holds⟩ := h.holds
  cases s with
  | memory m =>
    have accepts : m.refusesScores = false :=
      (congrArg Memory.refusesScores (Store.memory.inj h.accepts)).symm
    simp only [Store.addScore, accepts, Bool.false_eq_true, if_false]
    exact ⟨_, rfl⟩
  | relational r =>
    obtain ⟨⟨words, rfl⟩, -⟩ := holds
    have refs : ((t.inRows words).hasGame award.gameId && (t.inRows words).hasTurn award.turnId &&
        (t.inRows words).hasUser award.playerId && (t.inRows words).hasMessage award.messageId) =
          true := by
      rw [Bool.and_eq_true, Bool.and_eq_true, Bool.and_eq_true]
      exact ⟨⟨⟨RelationalTables.hasGame_iff.2 there, RelationalTables.hasTurn_iff.2 begun⟩,
        RelationalTables.hasUser_iff.2 known⟩, RelationalTables.hasMessage_iff.2 said⟩
    simp only [Store.addScore, MemoryTables.addScore_inRows words, if_pos refs]
    exact ⟨_, rfl⟩

end Healthy

end Store

end GuessingRoom
