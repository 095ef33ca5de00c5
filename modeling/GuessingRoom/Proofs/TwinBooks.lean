import GuessingRoom.Proofs.Orderly
import GuessingRoom.Proofs.StoredModels
import GuessingRoom.Proofs.Timeless

/-!
# Twin books

Books in memory and relational books are twins if they keep the same models, but for times, and draw
the same identifiers (`Books.Twins`). Then every look shows the same on both sides, but for times.

The two stores do not check the same things and read a nickname from different places. What keeps
them together is that identifiers are drawn: no new row meets an old one of its name, and nobody is
ever renamed.
-/

namespace GuessingRoom

open Time (Instant)

/-- Whatever is in the ledger has identifiers that were drawn. -/
structure Ledger.IsDrawn (id : Nat → Id) (drawn : Nat) (l : Ledger) : Prop where
  users : ∀ u ∈ l.users, ∃ n < drawn, u = id n
  games : ∀ g ∈ l.games, ∃ n < drawn, g = id n
  seats : ∀ seat ∈ l.seats, ∃ n < drawn, seat.gameId = id n
  rounds : ∀ r ∈ l.rounds, ∃ n < drawn, r.id = id n
  lines : ∀ line ∈ l.lines, ∃ n < drawn, line.id = id n

/-- Tables in memory hold the same as tables of rows, but for times. The given games are among what
they hold. -/
structure Memory.Twins (games : List Id) (supply : Supply) (drawn : Nat) (m : Memory)
    (words : List Word) (t : MemoryTables) : Prop where
  accepts : m.refusesScores = false
  words : m.words.Perm words
  distinct : (m.words.map (·.id)).Nodup
  timeless : t.timeless = m.tables.timeless
  chronicled : t.Chronicled supply drawn
  named : t.Named
  isDrawn : (m.tables.ledger m.words).IsDrawn supply.id drawn
  there : ∀ g ∈ games, g ∈ (m.tables.ledger m.words).games

/-! ## Identifiers -/

namespace Ledger.IsDrawn

variable {id : Nat → Id} {drawn k : Nat} {l : Ledger}

theorem later (h : l.IsDrawn id drawn) (le : drawn ≤ k) : l.IsDrawn id k := by
  have wider {i : Id} : (∃ n < drawn, i = id n) → ∃ n < k, i = id n :=
    fun ⟨n, lt, e⟩ => ⟨n, lt.trans_le le, e⟩
  exact ⟨fun u hu => wider (h.users u hu), fun g hg => wider (h.games g hg),
    fun seat hs => wider (h.seats seat hs), fun r hr => wider (h.rounds r hr),
    fun line hl => wider (h.lines line hl)⟩

/-- An identifier that has not been drawn is not in use. -/
theorem ne_of_le (injective : Function.Injective id) {i : Id} (old : ∃ n < drawn, i = id n)
    (le : drawn ≤ k) : i ≠ id k := by
  obtain ⟨n, lt, rfl⟩ := old
  exact injective.ne (lt.trans_le le).ne

theorem addUser (h : l.IsDrawn id drawn) {n : Nat} (lt : n < drawn) :
    IsDrawn id drawn { l with users := l.users ++ [id n] } := by
  refine { h with users := fun u hu => ?_ }
  rcases List.mem_append.1 hu with old | new
  · exact h.users u old
  · exact ⟨n, lt, List.mem_singleton.1 new⟩

theorem addGame (h : l.IsDrawn id drawn) :
    IsDrawn id (drawn + 1) { l with games := l.games ++ [id drawn] } := by
  refine { h.later (Nat.le_succ _) with games := fun g hg => ?_ }
  rcases List.mem_append.1 hg with old | new
  · exact (h.later (Nat.le_succ _)).games g old
  · exact ⟨drawn, Nat.lt_succ_self _, List.mem_singleton.1 new⟩

theorem addSeat (h : l.IsDrawn id drawn) {game : Id} (there : game ∈ l.games) (user : Id)
    (taken : Bool) : IsDrawn id drawn { l with seats := l.seats ++ [⟨game, user, taken⟩] } := by
  refine { h with seats := fun seat hs => ?_ }
  rcases List.mem_append.1 hs with old | new
  · exact h.seats seat old
  · rw [List.mem_singleton.1 new]
    exact h.games game there

theorem setSeat (h : l.IsDrawn id drawn) (game user : Id) (taken : Bool) :
    IsDrawn id drawn { l with seats := l.seats.map (Seat.withTaken game user taken) } := by
  refine { h with seats := fun seat hs => ?_ }
  obtain ⟨old, mem, rfl⟩ := List.mem_map.1 hs
  rw [Orderly.gameId_withTaken]
  exact h.seats old mem

theorem addRound (h : l.IsDrawn id drawn) (game word : Id) :
    IsDrawn id (drawn + 1) { l with rounds := l.rounds ++ [⟨id drawn, game, word⟩] } := by
  refine { h.later (Nat.le_succ _) with rounds := fun r hr => ?_ }
  rcases List.mem_append.1 hr with old | new
  · exact (h.later (Nat.le_succ _)).rounds r old
  · exact ⟨drawn, Nat.lt_succ_self _, by rw [List.mem_singleton.1 new]⟩

theorem addLine (h : l.IsDrawn id drawn) (game turn player : Id) (content : String) :
    IsDrawn id (drawn + 1)
      { l with lines := l.lines ++ [⟨id drawn, game, turn, player, content⟩] } := by
  refine { h.later (Nat.le_succ _) with lines := fun line hl => ?_ }
  rcases List.mem_append.1 hl with old | new
  · exact (h.later (Nat.le_succ _)).lines line old
  · exact ⟨drawn, Nat.lt_succ_self _, by rw [List.mem_singleton.1 new]⟩

end Ledger.IsDrawn

/-! ## Writes on both sides -/

namespace MemoryTables

theorem ledger_timeless (words : List Word) (t : MemoryTables) :
    t.timeless.ledger words = t.ledger words := by
  simp only [ledger, timeless, List.map_map, Ledger.mk.injEq, true_and]
  exact ⟨rfl, rfl, rfl, rfl, rfl, rfl⟩

theorem upsertUser_of_fresh {t : MemoryTables} {id : Id} (fresh : id ∉ t.users.map (·.id))
    (nickname : String) (time : Instant) : t.upsertUser id nickname time =
      { t with users := t.users ++ [⟨id, nickname, time, time⟩] } := by
  rw [upsertUser, if_neg (mt isSome_findUser_iff.1 fresh)]

/-- Nobody who has a seat is renamed. -/
theorem Named.addUser {t : MemoryTables} (h : t.Named) (u : User) :
    Named { t with users := t.users ++ [u] } := by
  intro m mem
  obtain ⟨v, found, nickname⟩ := h m mem
  refine ⟨v, ?_, nickname⟩
  rw [findUser, List.find?_append]
  exact congrArg (Option.or · _) found

theorem Named.addMembership {t : MemoryTables} (h : t.Named) {m : Membership} {u : User}
    (found : t.findUser m.player.id = some u) (nickname : u.nickname = m.player.nickname) :
    Named { t with memberships := t.memberships ++ [m] } := by
  intro m' mem
  rcases List.mem_append.1 mem with old | new
  · exact h m' old
  · rw [List.mem_singleton.1 new]
    exact ⟨u, found, nickname⟩

theorem Named.setState {t t' : MemoryTables} (h : t.Named) {game user : Id} {state : PlayerState}
    (set : t.setState game user state = .ok t') : t'.Named := by
  unfold MemoryTables.setState at set
  split at set <;> cases set
  intro m mem
  obtain ⟨old, known, rfl⟩ := List.mem_map.1 mem
  split
  · exact h old known
  · exact h old known

end MemoryTables

namespace Memory.Twins

variable {games : List Id} {supply : Supply} {drawn : Nat} {m : Memory} {words : List Word}
  {t : MemoryTables} (h : m.Twins games supply drawn words t)
include h

theorem ledger_eq : t.ledger m.words = m.tables.ledger m.words := by
  rw [← MemoryTables.ledger_timeless, h.timeless, MemoryTables.ledger_timeless]

theorem hasUser {id : Id} (there : id ∈ (m.tables.ledger m.words).users) :
    (t.inRows words).hasUser id = true := by
  rw [← h.ledger_eq] at there
  obtain ⟨u, mem, rfl⟩ := List.mem_map.1 there
  rw [MemoryTables.hasUser_inRows]
  exact List.any_eq_true.2 ⟨u, mem, beq_self_eq_true _⟩

theorem hasGame {id : Id} : (t.inRows words).hasGame id = true ↔
    id ∈ (m.tables.ledger m.words).games := by
  rw [← h.ledger_eq, MemoryTables.hasGame_inRows]
  simp [MemoryTables.ledger]

theorem hasTurn {id : Id} : (t.inRows words).hasTurn id = true ↔
    id ∈ (m.tables.ledger m.words).rounds.map (·.id) := by
  rw [← h.ledger_eq, MemoryTables.hasTurn_inRows]
  simp [MemoryTables.ledger, Turn.round]

theorem hasMessage {id : Id} : (t.inRows words).hasMessage id = true ↔
    id ∈ (m.tables.ledger m.words).lines.map (·.id) := by
  rw [← h.ledger_eq, MemoryTables.hasMessage_inRows]
  simp [MemoryTables.ledger, Message.line]

theorem isMember {game user : Id} : (t.inRows words).isMember game user = true ↔
    ∃ seat ∈ (m.tables.ledger m.words).seats, seat.gameId = game ∧ seat.userId = user := by
  rw [← h.ledger_eq, MemoryTables.isMember_inRows]
  simp [MemoryTables.ledger, Membership.seat, Membership.isOf]

theorem hasWord {word : Word} (listed : word ∈ m.words) : (t.inRows words).hasWord word.id = true :=
  List.any_eq_true.2 ⟨word, h.words.mem_iff.1 listed, beq_self_eq_true _⟩

/-- Drawing changes nothing. -/
theorem later {k : Nat} (le : drawn ≤ k) : m.Twins games supply k words t :=
  { h with chronicled := h.chronicled.later le, isDrawn := h.isDrawn.later le }

theorem addUser {n : Nat} (lt : n < drawn) (fresh : supply.id n ∉ (m.tables.ledger m.words).users)
    (nickname : String) (time : Instant) :
    Memory.Twins games supply (drawn + 1)
      { m with tables := m.tables.upsertUser (supply.id n) nickname time } words
      (t.upsertUser (supply.id n) nickname (supply.time drawn).floorMicro) := by
  have chronicled := h.chronicled.upsertUser (supply.id n) nickname
  have fresh' : supply.id n ∉ t.users.map (·.id) := by
    have fresh := fresh
    rw [← h.ledger_eq] at fresh
    exact fresh
  rw [MemoryTables.upsertUser_of_fresh fresh'] at chronicled ⊢
  rw [MemoryTables.upsertUser_of_fresh fresh]
  refine ⟨h.accepts, h.words, h.distinct, ?_, chronicled, h.named.addUser _, ?_, h.there⟩
  · rw [MemoryTables.timeless_addUser, MemoryTables.timeless_addUser, h.timeless]
    rfl
  · have drawn := (h.isDrawn.addUser lt).later (Nat.le_succ drawn)
    simp only [MemoryTables.ledger, List.map_append] at drawn ⊢
    exact drawn

/-- The user who takes a seat goes by the same nickname on both sides. -/
theorem addMembership {game user : Id} {u : User} (found : m.tables.findUser user = some u)
    (there : game ∈ (m.tables.ledger m.words).games) (state : PlayerState) (time : Instant) :
    Memory.Twins games supply (drawn + 1)
      { m with tables := { m.tables with memberships :=
        m.tables.memberships ++ [⟨game, ⟨user, u.nickname, state, time⟩⟩] } } words
      { t with memberships := t.memberships ++
        [⟨game, ⟨user, u.nickname, state, (supply.time drawn).floorMicro⟩⟩] } where
  accepts := h.accepts
  words := h.words
  distinct := h.distinct
  timeless := by
    rw [MemoryTables.timeless_addMembership, MemoryTables.timeless_addMembership, h.timeless]
    rfl
  chronicled := h.chronicled.addMembership _ _ _ _
  named := by
    have same : (t.findUser user).map User.timeless = some u.timeless := by
      rw [← MemoryTables.findUser_timeless, h.timeless, MemoryTables.findUser_timeless, found]
      rfl
    obtain ⟨v, found', e⟩ := Option.map_eq_some_iff.1 same
    have nickname : v.timeless.nickname = u.timeless.nickname := congrArg User.nickname e
    exact h.named.addMembership found' nickname
  isDrawn := by
    have drawn := (h.isDrawn.addSeat there user (decide (state = .active))).later (Nat.le_succ drawn)
    simp only [MemoryTables.ledger, List.map_append] at drawn ⊢
    exact drawn
  there := h.there

theorem setState {game user : Id} {state : PlayerState} {tables : MemoryTables}
    (set : m.tables.setState game user state = .ok tables) :
    ∃ t', t.setState game user state = .ok t' ∧
      Memory.Twins games supply drawn { m with tables } words t' := by
  have same : (t.setState game user state).map MemoryTables.timeless = .ok tables.timeless := by
    rw [MemoryTables.timeless_setState, h.timeless, ← MemoryTables.timeless_setState, set]
    rfl
  obtain ⟨t', set', timeless⟩ := map_eq_ok_iff.1 same
  refine ⟨t', set', h.accepts, h.words, h.distinct, timeless, h.chronicled.setState set',
    h.named.setState set', ?_, ?_⟩
  · have put : (Store.memory m).setState game user state = .ok (.memory { m with tables }) := by
      rw [Store.setState, set]
      rfl
    have ledger := Store.ledger_setState put
    show Ledger.IsDrawn _ _ (Store.memory { m with tables }).ledger
    rw [ledger]
    exact h.isDrawn.setSeat _ _ _
  · intro g mem
    unfold MemoryTables.setState at set
    split at set <;> cases set
    exact h.there g mem

theorem createGame (time : Instant) :
    Memory.Twins games supply (drawn + 1)
      { m with tables := (m.tables.createGame ⟨supply.id drawn, time⟩).2 } words
      (t.createGame ⟨supply.id drawn, (supply.time drawn).floorMicro⟩).2 where
  accepts := h.accepts
  words := h.words
  distinct := h.distinct
  timeless := by
    rw [MemoryTables.timeless_createGame, MemoryTables.timeless_createGame, h.timeless]
  chronicled := h.chronicled.createGame _
  named := h.named
  isDrawn := by
    have drawn := h.isDrawn.addGame
    simp only [MemoryTables.ledger, MemoryTables.createGame, List.map_append] at drawn ⊢
    exact drawn
  there g mem := by
    simp only [MemoryTables.ledger, MemoryTables.createGame, List.map_append]
    exact List.mem_append_left _ (h.there g mem)

theorem addTurn (game word : Id) (time : Instant) :
    Memory.Twins games supply (drawn + 1)
      { m with tables := (m.tables.addTurn game word ⟨supply.id drawn, time⟩).2 } words
      (t.addTurn game word ⟨supply.id drawn, (supply.time drawn).floorMicro⟩).2 where
  accepts := h.accepts
  words := h.words
  distinct := h.distinct
  timeless := by
    rw [MemoryTables.timeless_addTurn, MemoryTables.timeless_addTurn, h.timeless]
  chronicled := h.chronicled.addTurn _ _ _
  named := h.named
  isDrawn := by
    have drawn := h.isDrawn.addRound game word
    simp only [MemoryTables.ledger, MemoryTables.addTurn, List.map_append] at drawn ⊢
    exact drawn
  there := h.there

theorem addMessage (game turn player : Id) (content : String) (time : Instant) :
    Memory.Twins games supply (drawn + 1)
      { m with
        tables := (m.tables.addMessage game turn player content ⟨supply.id drawn, time⟩).2 } words
      (t.addMessage game turn player content
        ⟨supply.id drawn, (supply.time drawn).floorMicro⟩).2 where
  accepts := h.accepts
  words := h.words
  distinct := h.distinct
  timeless := by
    rw [MemoryTables.timeless_addMessage, MemoryTables.timeless_addMessage, h.timeless]
  chronicled := h.chronicled.addMessage _ _ _ _ _
  named := h.named
  isDrawn := by
    have drawn := h.isDrawn.addLine game turn player content
    simp only [MemoryTables.ledger, MemoryTables.addMessage, List.map_append] at drawn ⊢
    exact drawn
  there := h.there

theorem addScore (award : Award) (time : Instant) :
    Memory.Twins games supply (drawn + 1) { m with tables := m.tables.addScore award time } words
      (t.addScore award (supply.time drawn).floorMicro) where
  accepts := h.accepts
  words := h.words
  distinct := h.distinct
  timeless := by
    rw [MemoryTables.timeless_addScore, MemoryTables.timeless_addScore, h.timeless]
  chronicled := h.chronicled.addScore _
  named := h.named
  isDrawn := by
    have later := h.isDrawn.later (Nat.le_succ drawn)
    exact { later with }
  there := h.there

end Memory.Twins

/-- The first books are kept in memory, the second ones in relational tables. -/
structure Books.Twins (games : List Id) (b c : Books) : Prop where
  drawn : c.drawn = b.drawn
  ids : c.supply.id = b.supply.id
  injective : Function.Injective c.supply.id
  clock : c.supply.RunsOn
  stores : ∃ m words t, b.store = .memory m ∧ c.store = .relational (t.inRows words) ∧
    m.Twins games c.supply c.drawn words t

/-! ## Looks on both sides -/

/-- Which row is found by its key has nothing to do with the order of rows if keys differ. -/
theorem find?_eq_of_perm {α κ : Type} [BEq κ] [LawfulBEq κ] (key : α → κ) {l l' : List α}
    (perm : l.Perm l') (distinct : (l.map key).Nodup) (k : κ) :
    l'.find? (fun a => key a == k) = l.find? fun a => key a == k := by
  cases found : l.find? fun a => key a == k with
  | none =>
    rw [List.find?_eq_none] at found ⊢
    exact fun a mem => found a (perm.mem_iff.2 mem)
  | some a =>
    have there := List.mem_of_find?_eq_some found
    have named : key a = k := by simpa using List.find?_some found
    obtain ⟨a', found'⟩ : ∃ a', l'.find? (fun a => key a == k) = some a' :=
      Option.isSome_iff_exists.1
        (List.find?_isSome.2 ⟨a, perm.mem_iff.1 there, beq_iff_eq.2 named⟩)
    have named' : key a' = k := by simpa using List.find?_some found'
    have there' := perm.mem_iff.2 (List.mem_of_find?_eq_some found')
    rw [found', List.inj_on_of_nodup_map distinct there' there (named'.trans named.symm)]

namespace Books.Twins

variable {games : List Id} {b c : Books} (h : b.Twins games c)
include h

/-- A look at models that can be made at rows as well shows the same on both sides, but for times. -/
theorem looks_alike {α : Type} (query : Store → Except Failure α) (ofTables : MemoryTables → α)
    (erase : α → α) (memory : ∀ m, query (.memory m) = .ok (ofTables m.tables))
    (relational : ∀ words t, t.Chronicled c.supply c.drawn → t.Named →
      query (.relational (t.inRows words)) = .ok (ofTables t))
    (timeless : ∀ t, ofTables t.timeless = erase (ofTables t)) :
    ∃ a a', query b.store = .ok a ∧ query c.store = .ok a' ∧ erase a' = erase a := by
  obtain ⟨m, words, t, first, second, twins⟩ := h.stores
  refine ⟨ofTables m.tables, ofTables t, by rw [first, memory], ?_, ?_⟩
  · rw [second, relational words t twins.chronicled twins.named]
  · rw [← timeless, twins.timeless, timeless]

theorem findUser (id : Id) : ∃ u u', b.store.findUser id = .ok u ∧ c.store.findUser id = .ok u' ∧
    u'.map User.timeless = u.map User.timeless :=
  h.looks_alike (·.findUser id) (·.findUser id) (Option.map User.timeless) (fun _ => rfl)
    (fun words _ read _ => MemoryTables.findUser_inRows words read id)
    fun t => t.findUser_timeless id

theorem findGame (id : Id) : ∃ g g', b.store.findGame id = .ok g ∧ c.store.findGame id = .ok g' ∧
    g'.map Game.timeless = g.map Game.timeless :=
  h.looks_alike (·.findGame id) (·.findGame id) (Option.map Game.timeless) (fun _ => rfl)
    (fun words _ read _ => MemoryTables.findGame_inRows words read id)
    fun t => t.findGame_timeless id

theorem players (game : Id) : ∃ ps ps', b.store.players game = .ok ps ∧
    c.store.players game = .ok ps' ∧ ps'.map Player.timeless = ps.map Player.timeless :=
  h.looks_alike (·.players game) (·.players game) (List.map Player.timeless) (fun _ => rfl)
    (fun words _ read named => MemoryTables.players_inRows words read named h.clock game)
    fun t => t.players_timeless game

theorem activePlayers (game : Id) : ∃ ps ps', b.store.activePlayers game = .ok ps ∧
    c.store.activePlayers game = .ok ps' ∧ ps'.map Player.timeless = ps.map Player.timeless := by
  obtain ⟨ps, ps', found, found', same⟩ := h.players game
  refine ⟨ps.filter Player.isActive, ps'.filter Player.isActive, ?_, ?_, ?_⟩
  · rw [Store.activePlayers, found]
    rfl
  · rw [Store.activePlayers, found']
    rfl
  · rw [← filter_isActive_timeless, same, filter_isActive_timeless]

theorem latestTurn (game : Id) : ∃ t t', b.store.latestTurn game = .ok t ∧
    c.store.latestTurn game = .ok t' ∧ t'.map Turn.timeless = t.map Turn.timeless :=
  h.looks_alike (·.latestTurn game) (·.latestTurn game) (Option.map Turn.timeless) (fun _ => rfl)
    (fun words _ read _ => MemoryTables.latestTurn_inRows words read h.clock game)
    fun t => t.latestTurn_timeless game

theorem messages (game : Id) : ∃ ms ms', b.store.messages game = .ok ms ∧
    c.store.messages game = .ok ms' ∧ ms'.map Message.timeless = ms.map Message.timeless :=
  h.looks_alike (·.messages game) (·.messagesOf game) (List.map Message.timeless) (fun _ => rfl)
    (fun words _ read _ => MemoryTables.messagesOf_inRows words read h.clock game)
    fun t => t.messagesOf_timeless game

theorem scores (game : Id) : ∃ ss ss', b.store.scores game = .ok ss ∧
    c.store.scores game = .ok ss' ∧ ss'.map Score.timeless = ss.map Score.timeless :=
  h.looks_alike (·.scores game) (·.scoresOf game) (List.map Score.timeless) (fun _ => rfl)
    (fun words _ read _ => MemoryTables.scoresOf_inRows words read h.clock game)
    fun t => t.scoresOf_timeless game

theorem findWord (id : Id) : c.store.findWord id = b.store.findWord id := by
  obtain ⟨m, words, t, memory, relational, twins⟩ := h.stores
  rw [memory, relational]
  exact find?_eq_of_perm Word.id twins.words twins.distinct id

end Books.Twins

end GuessingRoom
