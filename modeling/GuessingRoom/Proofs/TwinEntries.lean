import GuessingRoom.Proofs.Growth
import GuessingRoom.Proofs.TwinBooks

/-!
# Entries on twin books

An entry made on twin books ends on both of them with the same value, but for times, or on both with
the same error, and it leaves twins (`Entry.Parallel`). The rules come first, then the single writes,
and from them whatever a unit of work is made of.
-/

namespace GuessingRoom

/-- The item that a draw picks. -/
def Supply.pick {α : Type} (s : Supply) (n : Nat) (items : List α) : Option α :=
  items[s.choice n % items.length]?

/-! ## Rules -/

namespace Entry

variable {α α' β β' : Type} {games : List Id}

/-- Begun on the two books, the two entries end with values for which the predicate holds together
with the books that they leave, or they fail with the same error and leave twins. -/
def Parallel (games : List Id) (P : α → α' → Books → Books → Prop) (e : Entry α) (e' : Entry α')
    (b c : Books) : Prop :=
  (∃ a b' a' c', e.Yields b a b' ∧ e'.Yields c a' c' ∧ P a a' b' c') ∨
    ∃ x b' c', e.Fails b x b' ∧ e'.Fails c x c' ∧ b'.Twins games c'

variable {b c : Books} {P : α → α' → Books → Books → Prop} {Q : β → β' → Books → Books → Prop}

theorem parallel_pure {a : α} {a' : α'} (h : P a a' b c) :
    Parallel games P (pure a) (pure a') b c :=
  .inl ⟨a, b, a', c, yields_pure.2 ⟨rfl, rfl⟩, yields_pure.2 ⟨rfl, rfl⟩, h⟩

theorem parallel_throw (h : b.Twins games c) (x : GameError) :
    Parallel games P (throw x) (throw x) b c :=
  .inr ⟨x, b, c, rfl, rfl, h⟩

theorem Parallel.bind {e : Entry β} {e' : Entry β'} {k : β → Entry α} {k' : β' → Entry α'}
    (first : Parallel games Q e e' b c)
    (rest : ∀ a a' b' c', Q a a' b' c' → Parallel games P (k a) (k' a') b' c') :
    Parallel games P (e >>= k) (e' >>= k') b c := by
  rcases first with ⟨a, b', a', c', y, y', q⟩ | ⟨x, b', c', f, f', twins⟩
  · rcases rest a a' b' c' q with ⟨v, b₂, v', c₂, z, z', p⟩ | ⟨x, b₂, c₂, g, g', twins⟩
    · exact .inl ⟨v, b₂, v', c₂, yields_bind.2 ⟨a, b', y, z⟩, yields_bind.2 ⟨a', c', y', z'⟩, p⟩
    · exact .inr ⟨x, b₂, c₂, fails_bind.2 (.inr ⟨a, b', y, g⟩),
        fails_bind.2 (.inr ⟨a', c', y', g'⟩), twins⟩
  · exact .inr ⟨x, b', c', fails_bind.2 (.inl f), fails_bind.2 (.inl f'), twins⟩

theorem Parallel.mono {e : Entry β} {e' : Entry β'} {Q' : β → β' → Books → Books → Prop}
    (h : Parallel games Q e e' b c) (weaker : ∀ a a' b' c', Q a a' b' c' → Q' a a' b' c') :
    Parallel games Q' e e' b c := by
  rcases h with ⟨a, b', a', c', y, y', q⟩ | failed
  · exact .inl ⟨a, b', a', c', y, y', weaker a a' b' c' q⟩
  · exact .inr failed

/-- A check that both pass or both fail. -/
theorem Parallel.check {p p' : Prop} [Decidable p] [Decidable p'] (same : p ↔ p') {x : GameError}
    {k : β → Entry α} {k' : β' → Entry α'} {e : Entry α} {e' : Entry α'} (h : b.Twins games c)
    (rest : ¬ p → Parallel games P e e' b c) :
    Parallel games P (if p then throw x >>= k else e) (if p' then throw x >>= k' else e') b c := by
  by_cases holds : p
  · rw [if_pos holds, if_pos (same.1 holds)]
    exact .inr ⟨x, b, c, rfl, rfl, h⟩
  · rw [if_neg holds, if_neg (mt same.2 holds)]
    exact rest holds

theorem parallel_look {query : Store → Except Failure α} {query' : Store → Except Failure α'} {a : α}
    {a' : α'} (found : query b.store = .ok a) (found' : query' c.store = .ok a') (h : P a a' b c) :
    Parallel games P (look query) (look query') b c :=
  .inl ⟨a, b, a', c, yields_look.2 ⟨found, rfl⟩, yields_look.2 ⟨found', rfl⟩, h⟩

theorem parallel_put {change change' : Store → Except Failure Store}
    {P : Unit → Unit → Books → Books → Prop} {s s' : Store} (put : change b.store = .ok s)
    (put' : change' c.store = .ok s') (h : P () () { b with store := s } { c with store := s' }) :
    Parallel games P (Entry.put change) (Entry.put change') b c :=
  .inl ⟨(), _, (), _, yields_put.2 ⟨s, put, rfl⟩, yields_put.2 ⟨s', put', rfl⟩, h⟩

/-- A write with a stamp that succeeds on both sides. -/
theorem parallel_stamped {change : Stamp → Store → Except Failure (α × Store)}
    {change' : Stamp → Store → Except Failure (α' × Store)} {a : α} {a' : α'} {s s' : Store}
    (put : change (b.supply.stamp b.drawn) b.store = .ok (a, s))
    (put' : change' (c.supply.stamp c.drawn) c.store = .ok (a', s'))
    (h : P a a' { b with store := s, drawn := b.drawn + 1 }
      { c with store := s', drawn := c.drawn + 1 }) :
    Parallel games P (stamp >>= fun x => write (change x)) (stamp >>= fun x => write (change' x))
      b c := by
  refine .inl ⟨a, _, a', _, yields_bind.2 ⟨_, _, yields_stamp.2 ⟨rfl, rfl⟩, ?_⟩,
    yields_bind.2 ⟨_, _, yields_stamp.2 ⟨rfl, rfl⟩, ?_⟩, h⟩
  · exact yields_write.2 ⟨s, put, rfl⟩
  · exact yields_write.2 ⟨s', put', rfl⟩

theorem parallel_stamped_put {change : Stamp → Store → Except Failure Store}
    {change' : Stamp → Store → Except Failure Store} {P : Unit → Unit → Books → Books → Prop}
    {s s' : Store} (put : change (b.supply.stamp b.drawn) b.store = .ok s)
    (put' : change' (c.supply.stamp c.drawn) c.store = .ok s')
    (h : P () () { b with store := s, drawn := b.drawn + 1 }
      { c with store := s', drawn := c.drawn + 1 }) :
    Parallel games P (stamp >>= fun x => Entry.put (change x))
      (stamp >>= fun x => Entry.put (change' x)) b c :=
  parallel_stamped (congrArg (Except.map fun s => ((), s)) put)
    (congrArg (Except.map fun s => ((), s)) put') h

end Entry

namespace Books.Twins

variable {games : List Id} {b c : Books} (h : b.Twins games c)
include h

theorem stamp_eq : b.supply.stamp b.drawn = ⟨c.supply.id c.drawn, b.supply.time b.drawn⟩ := by
  rw [h.drawn, h.ids]
  rfl

/-- Twins in their stores make twin books. -/
theorem of_stores {m : Memory} {words : List Word} {t : MemoryTables} {k k' : Nat} (same : k' = k)
    (twins : m.Twins games c.supply k' words t) :
    Twins games { b with store := .memory m, drawn := k }
      { c with store := .relational (t.inRows words), drawn := k' } :=
  ⟨same, h.ids, h.injective, h.clock, m, words, t, rfl, rfl, twins⟩

end Books.Twins

namespace Entry

variable {games : List Id} {b c : Books} (h : b.Twins games c)
include h

theorem parallel_createGame :
    Parallel games (fun g g' b' c' => b'.Twins games c' ∧ g'.timeless = g.timeless ∧
      b'.ledger = { b.ledger with games := b.ledger.games ++ [g.id] } ∧
      g.id = c.supply.id c.drawn) createGame createGame b c := by
  obtain ⟨m, words, t, memory, relational, twins⟩ := h.stores
  have put : b.store.createGame (b.supply.stamp b.drawn) = .ok (Store.keep m
      (m.tables.createGame ⟨c.supply.id c.drawn, b.supply.time b.drawn⟩)) := by
    rw [memory, h.stamp_eq]
    rfl
  have free : ¬ (t.inRows words).hasGame (c.supply.id c.drawn) = true := fun taken =>
    Ledger.IsDrawn.ne_of_le h.injective (twins.isDrawn.games _ (twins.hasGame.1 taken)) le_rfl rfl
  have put' : c.store.createGame (c.supply.stamp c.drawn) = .ok
      ((t.createGame ⟨c.supply.id c.drawn, (c.supply.time c.drawn).floorMicro⟩).1, .relational
        ((t.createGame ⟨c.supply.id c.drawn, (c.supply.time c.drawn).floorMicro⟩).2.inRows
          words)) := by
    rw [relational, Store.createGame]
    show ((t.inRows words).createGame ⟨_, _⟩).map _ = _
    rw [MemoryTables.createGame_inRows words (c.supply.storable _), if_neg free]
    rfl
  refine parallel_stamped put put' ⟨h.of_stores (by rw [h.drawn]) (twins.createGame _), rfl, ?_, rfl⟩
  rw [Books.ledger, Books.ledger, memory]
  simp [Store.ledger, MemoryTables.ledger]

theorem parallel_addPlayer {game user : Id} (known : user ∈ b.ledger.users)
    (there : game ∈ b.ledger.games)
    (free : ∀ seat ∈ b.ledger.seats, seat.gameId = game → seat.userId ≠ user) :
    Parallel games (fun _ _ b' c' => b'.Twins games c' ∧
      b'.ledger = { b.ledger with seats := b.ledger.seats ++ [⟨game, user, true⟩] })
      (addPlayer game user) (addPlayer game user) b c := by
  obtain ⟨m, words, t, memory, relational, twins⟩ := h.stores
  rw [Books.ledger, memory] at known there free
  obtain ⟨u, found⟩ := MemoryTables.exists_findUser known
  have single : ¬ (m.tables.memberships.any (·.isOf game user)) = true := by
    simpa [Store.ledger, MemoryTables.ledger, Membership.seat, Membership.isOf] using free
  have opened : ¬ (m.tables.findGame game).isNone = true := by
    simpa [MemoryTables.findGame, Store.ledger, MemoryTables.ledger] using there
  have put : b.store.addPlayer game user (b.supply.time b.drawn) = .ok (.memory { m with
      tables := { m.tables with memberships := m.tables.memberships ++
        [⟨game, ⟨user, u.nickname, .active, b.supply.time b.drawn⟩⟩] } }) := by
    rw [memory, Store.addPlayer, MemoryTables.addPlayer, if_neg single, found]
    dsimp only
    rw [if_neg opened]
    rfl
  have outside : ¬ (t.inRows words).isMember game user = true := fun taken => by
    obtain ⟨seat, mem, here, its⟩ := twins.isMember.1 taken
    exact free seat mem here its
  have put' : c.store.addPlayer game user (c.supply.time c.drawn) = .ok (.relational
      (MemoryTables.inRows words { t with memberships := t.memberships ++
        [⟨game, ⟨user, u.nickname, .active, (c.supply.time c.drawn).floorMicro⟩⟩] })) := by
    rw [relational, Store.addPlayer,
      MemoryTables.addPlayer_inRows words game user u.nickname,
      if_neg outside, twins.hasGame.2 there, twins.hasUser known]
    rfl
  refine parallel_stamped_put put put' ⟨h.of_stores (by rw [h.drawn]) ?_, ?_⟩
  · exact twins.addMembership found there .active _
  · exact (Store.ledger_addPlayer put).2.2.2

/-- A player who was found can be given any state. -/
theorem parallel_setState {game user : Id} {players : List Player} {p : Player}
    (read : b.store.players game = .ok players) (found : players.find? (·.id == user) = some p)
    (state : PlayerState) :
    Parallel games (fun _ _ b' c' => b'.Twins games c') (put (·.setState game user state))
      (put (·.setState game user state)) b c := by
  obtain ⟨m, words, t, memory, relational, twins⟩ := h.stores
  have seated : m.tables.memberships.any (·.isOf game user) = true := by
    rw [memory] at read
    obtain rfl : m.tables.players game = players := Except.ok.inj read
    obtain ⟨member, mem, rfl⟩ := List.mem_map.1 (List.mem_of_find?_eq_some found)
    obtain ⟨mem, here⟩ := List.mem_filter.1 mem
    have its := List.find?_some found
    exact List.any_eq_true.2 ⟨member, mem, Bool.and_eq_true_iff.2 ⟨here, its⟩⟩
  obtain ⟨tables, set⟩ : ∃ tables, m.tables.setState game user state = .ok tables := by
    rw [MemoryTables.setState, if_pos seated]
    exact ⟨_, rfl⟩
  obtain ⟨t', set', twins⟩ := twins.setState set
  have put : b.store.setState game user state = .ok (.memory { m with tables }) := by
    rw [memory, Store.setState, set]
    rfl
  have put' : c.store.setState game user state = .ok (.relational (t'.inRows words)) := by
    rw [relational, Store.setState, MemoryTables.setState_inRows, set']
    rfl
  exact parallel_put put put' (h.of_stores h.drawn twins)

theorem parallel_addTurn {game : Id} {word : Word} (there : game ∈ b.ledger.games)
    (listed : word ∈ b.ledger.words) :
    Parallel games (fun _ _ b' c' => b'.Twins games c') (addTurn game word.id)
      (addTurn game word.id) b c := by
  obtain ⟨m, words, t, memory, relational, twins⟩ := h.stores
  rw [Books.ledger, memory] at there listed
  have put : b.store.addTurn game word.id (b.supply.stamp b.drawn) = .ok (Store.keep m
      (m.tables.addTurn game word.id ⟨c.supply.id c.drawn, b.supply.time b.drawn⟩)) := by
    rw [memory, h.stamp_eq]
    rfl
  have free : ¬ (t.inRows words).hasTurn (c.supply.id c.drawn) = true := fun taken => by
    obtain ⟨r, mem, e⟩ := List.mem_map.1 (twins.hasTurn.1 taken)
    exact Ledger.IsDrawn.ne_of_le h.injective (twins.isDrawn.rounds r mem) le_rfl e
  have put' : c.store.addTurn game word.id (c.supply.stamp c.drawn) = .ok
      ((t.addTurn game word.id ⟨c.supply.id c.drawn, (c.supply.time c.drawn).floorMicro⟩).1,
        .relational ((t.addTurn game word.id
          ⟨c.supply.id c.drawn, (c.supply.time c.drawn).floorMicro⟩).2.inRows words)) := by
    rw [relational, Store.addTurn]
    show ((t.inRows words).addTurn _ _ ⟨_, _⟩).map _ = _
    rw [MemoryTables.addTurn_inRows words (c.supply.storable _), if_neg free, twins.hasGame.2 there,
      twins.hasWord listed]
    rfl
  exact parallel_stamped put put' (h.of_stores (by rw [h.drawn]) (twins.addTurn _ _ _))

theorem parallel_addMessage {game turn player : Id} (there : game ∈ b.ledger.games)
    (begun : turn ∈ b.ledger.rounds.map (·.id)) (known : player ∈ b.ledger.users)
    (content : String) :
    Parallel games (fun m m' b' c' => b'.Twins games c' ∧ m'.timeless = m.timeless ∧
      m.line = ⟨c.supply.id c.drawn, game, turn, player, content⟩ ∧
      b'.ledger = { b.ledger with lines := b.ledger.lines ++ [m.line] })
      (addMessage game turn player content) (addMessage game turn player content) b c := by
  obtain ⟨m, words, t, memory, relational, twins⟩ := h.stores
  have put : b.store.addMessage game turn player content (b.supply.stamp b.drawn) = .ok
      (Store.keep m (m.tables.addMessage game turn player content
        ⟨c.supply.id c.drawn, b.supply.time b.drawn⟩)) := by
    rw [memory, h.stamp_eq]
    rfl
  have ledger := (Store.ledger_addMessage put).2
  rw [Books.ledger, memory] at there begun known
  have free : ¬ (t.inRows words).hasMessage (c.supply.id c.drawn) = true := fun taken => by
    obtain ⟨line, mem, e⟩ := List.mem_map.1 (twins.hasMessage.1 taken)
    exact Ledger.IsDrawn.ne_of_le h.injective (twins.isDrawn.lines line mem) le_rfl e
  have put' : c.store.addMessage game turn player content (c.supply.stamp c.drawn) = .ok
      ((t.addMessage game turn player content
          ⟨c.supply.id c.drawn, (c.supply.time c.drawn).floorMicro⟩).1,
        .relational ((t.addMessage game turn player content
          ⟨c.supply.id c.drawn, (c.supply.time c.drawn).floorMicro⟩).2.inRows words)) := by
    rw [relational, Store.addMessage]
    show ((t.inRows words).addMessage _ _ _ _ ⟨_, _⟩).map _ = _
    rw [MemoryTables.addMessage_inRows words (c.supply.storable _), if_neg free,
      twins.hasGame.2 there, twins.hasTurn.2 begun, twins.hasUser known]
    rfl
  refine parallel_stamped put put'
    ⟨h.of_stores (by rw [h.drawn]) (twins.addMessage _ _ _ _ _), rfl, rfl, ?_⟩
  rw [h.stamp_eq] at ledger
  exact ledger

theorem parallel_addScore {award : Award} (there : award.gameId ∈ b.ledger.games)
    (begun : award.turnId ∈ b.ledger.rounds.map (·.id)) (known : award.playerId ∈ b.ledger.users)
    (said : award.messageId ∈ b.ledger.lines.map (·.id)) :
    Parallel games (fun _ _ b' c' => b'.Twins games c') (addScore award) (addScore award) b c := by
  obtain ⟨m, words, t, memory, relational, twins⟩ := h.stores
  rw [Books.ledger, memory] at there begun known said
  have put : b.store.addScore award (b.supply.time b.drawn) = .ok
      (.memory { m with tables := m.tables.addScore award (b.supply.time b.drawn) }) := by
    rw [memory, Store.addScore, if_neg (by simp [twins.accepts])]
  have put' : c.store.addScore award (c.supply.time c.drawn) = .ok
      (.relational ((t.addScore award (c.supply.time c.drawn).floorMicro).inRows words)) := by
    rw [relational, Store.addScore, MemoryTables.addScore_inRows words,
      twins.hasGame.2 there, twins.hasTurn.2 begun, twins.hasUser known, twins.hasMessage.2 said]
    rfl
  exact parallel_stamped_put put put' (h.of_stores (by rw [h.drawn]) (twins.addScore _ _))

theorem parallel_upsertUser {n : Nat} (lt : n < c.drawn) (fresh : c.supply.id n ∉ b.ledger.users)
    (nickname : String) :
    Parallel games (fun _ _ b' c' => b'.Twins games c') (upsertUser (c.supply.id n) nickname)
      (upsertUser (c.supply.id n) nickname) b c := by
  obtain ⟨m, words, t, memory, relational, twins⟩ := h.stores
  rw [Books.ledger, memory] at fresh
  have put : b.store.upsertUser (c.supply.id n) nickname (b.supply.time b.drawn) = .memory { m with
      tables := m.tables.upsertUser (c.supply.id n) nickname (b.supply.time b.drawn) } := by
    rw [memory]
    rfl
  have put' : c.store.upsertUser (c.supply.id n) nickname (c.supply.time c.drawn) = .relational
      ((t.upsertUser (c.supply.id n) nickname (c.supply.time c.drawn).floorMicro).inRows words) := by
    rw [relational, Store.upsertUser, MemoryTables.upsertUser_inRows words]
  exact parallel_stamped_put (congrArg Except.ok put) (congrArg Except.ok put')
    (h.of_stores (by rw [h.drawn]) (twins.addUser lt fresh nickname _))

end Entry

namespace Books.Twins

variable {games : List Id} {b c b' c' : Books}

/-- Memory counts its units, which are not part of what it holds. -/
theorem committed (h : b'.Twins games c') :
    (Entry.committed b b').Twins games (Entry.committed c c') := by
  obtain ⟨m, words, t, memory, relational, twins⟩ := h.stores
  refine ⟨h.drawn, h.ids, h.injective, h.clock, { m with commits := m.commits + 1 }, words, t,
    ?_, ?_, { twins with }⟩
  · rw [Entry.committed, memory]
    rfl
  · rw [Entry.committed, relational]
    rfl

/-- What is abandoned has only used up draws. -/
theorem abandoned (h : b.Twins games c) (after : b'.Twins games c') (grows : c.Grows c') :
    (Entry.abandoned b b').Twins games (Entry.abandoned c c') := by
  obtain ⟨m, words, t, memory, relational, twins⟩ := h.stores
  refine ⟨after.drawn, after.ids, after.injective, after.clock,
    { m with rollbacks := m.rollbacks + 1 }, words, t, ?_, ?_, ?_⟩
  · rw [Entry.abandoned, memory]
    rfl
  · rw [Entry.abandoned, relational]
    rfl
  · have later := twins.later grows.drawn
    rw [Entry.abandoned, grows.supply]
    exact { later with }

theorem draw (h : b.Twins games c) :
    Twins games { b with drawn := b.drawn + 1 } { c with drawn := c.drawn + 1 } := by
  obtain ⟨m, words, t, memory, relational, twins⟩ := h.stores
  exact ⟨congrArg (· + 1) h.drawn, h.ids, h.injective, h.clock, m, words, t, memory, relational,
    twins.later (Nat.le_succ _)⟩

/-- No user goes by the identifier that is drawn next. -/
theorem fresh_user (h : b.Twins games c) : c.supply.id c.drawn ∉ b.ledger.users := by
  obtain ⟨m, words, t, memory, relational, twins⟩ := h.stores
  intro mem
  rw [Books.ledger, memory] at mem
  exact Ledger.IsDrawn.ne_of_le h.injective (twins.isDrawn.users _ mem) le_rfl rfl

/-- No seat is in a game by the identifier that is drawn next. -/
theorem fresh_game (h : b.Twins games c) : ∀ seat ∈ b.ledger.seats, seat.gameId ≠ c.supply.id c.drawn := by
  obtain ⟨m, words, t, memory, relational, twins⟩ := h.stores
  intro seat mem
  rw [Books.ledger, memory] at mem
  exact Ledger.IsDrawn.ne_of_le h.injective (twins.isDrawn.seats seat mem) le_rfl

/-- Who is not among the players has no seat. -/
theorem free_of_players (h : b.Twins games c) {game user : Id} {players : List Player}
    (read : b.store.players game = .ok players) (missing : players.find? (·.id == user) = none) :
    ∀ seat ∈ b.ledger.seats, seat.gameId = game → seat.userId ≠ user := by
  obtain ⟨m, words, t, memory, relational, twins⟩ := h.stores
  rintro seat mem rfl rfl
  rw [memory] at read
  rw [Books.ledger, memory] at mem
  obtain rfl : m.tables.players seat.gameId = players := Except.ok.inj read
  obtain ⟨member, known, rfl⟩ := List.mem_map.1 mem
  have here : member ∈ m.tables.memberships.filter (·.gameId == member.gameId) :=
    List.mem_filter.2 ⟨known, beq_self_eq_true _⟩
  exact List.find?_eq_none.1 missing _ (List.mem_map_of_mem here) (beq_self_eq_true _)

/-- A game that is there may be among the given ones. -/
theorem add_game (h : b.Twins games c) {game : Id} (there : game ∈ b.ledger.games) :
    b.Twins (games ++ [game]) c := by
  obtain ⟨m, words, t, memory, relational, twins⟩ := h.stores
  refine ⟨h.drawn, h.ids, h.injective, h.clock, m, words, t, memory, relational,
    { twins with there := fun g mem => ?_ }⟩
  rcases List.mem_append.1 mem with old | new
  · exact twins.there g old
  · rw [Books.ledger, memory] at there
    rw [List.mem_singleton.1 new]
    exact there

theorem of_subset (h : b.Twins games c) {few : List Id} (sub : few ⊆ games) : b.Twins few c := by
  obtain ⟨m, words, t, memory, relational, twins⟩ := h.stores
  exact ⟨h.drawn, h.ids, h.injective, h.clock, m, words, t, memory, relational,
    { twins with there := fun g mem => twins.there g (sub mem) }⟩

theorem there (h : b.Twins games c) {game : Id} (mem : game ∈ games) : game ∈ b.ledger.games := by
  obtain ⟨m, words, t, memory, relational, twins⟩ := h.stores
  rw [Books.ledger, memory]
  exact twins.there game mem

end Books.Twins

namespace Entry

variable {α α' : Type} {games : List Id} {b c : Books}

/-! ## Units and draws -/

/-- A unit that fails leaves what was there before it, which is the same on both sides. -/
theorem Parallel.inUnit {e : Entry α} {e' : Entry α'} {P : α → α' → Books → Books → Prop}
    (h : Parallel games P e e' b c) (twins : b.Twins games c) (grows : e'.Along Books.Grows)
    (kept : ∀ a a' b' c', P a a' b' c' → P a a' (committed b b') (committed c c')) :
    Parallel games P e.inUnit e'.inUnit b c := by
  rcases h with ⟨a, b', a', c', y, y', p⟩ | ⟨x, b', c', f, f', after⟩
  · exact .inl ⟨a, _, a', _, yields_inUnit.2 ⟨b', y, rfl⟩, yields_inUnit.2 ⟨c', y', rfl⟩,
      kept a a' b' c' p⟩
  · exact .inr ⟨x, _, _, fails_inUnit.2 ⟨b', f, rfl⟩, fails_inUnit.2 ⟨c', f', rfl⟩,
      twins.abandoned after (grows.fails f')⟩

theorem parallel_stamp :
    Parallel games (fun x x' b' c' => x = b.supply.stamp b.drawn ∧ x' = c.supply.stamp c.drawn ∧
      b' = { b with drawn := b.drawn + 1 } ∧ c' = { c with drawn := c.drawn + 1 })
      stamp stamp b c :=
  .inl ⟨_, _, _, _, yields_stamp.2 ⟨rfl, rfl⟩, yields_stamp.2 ⟨rfl, rfl⟩, rfl, rfl, rfl, rfl⟩

theorem parallel_choose {items items' : List α}
    (alike : c.supply.pick c.drawn items' = b.supply.pick b.drawn items) :
    Parallel games (fun a a' b' c' => a = b.supply.pick b.drawn items ∧ a' = a ∧
      b' = { b with drawn := b.drawn + 1 } ∧ c' = { c with drawn := c.drawn + 1 })
      (choose items) (choose items') b c :=
  .inl ⟨_, _, _, _, yields_choose.2 ⟨rfl, rfl⟩, yields_choose.2 ⟨rfl, rfl⟩, rfl, alike, rfl, rfl⟩

section Twins

variable (h : b.Twins games c)
include h

/-- The same word is drawn on both sides, or there are none. -/
theorem parallel_drawWord
    (alike : c.supply.pick c.drawn c.store.allWords = b.supply.pick b.drawn b.store.allWords) :
    Parallel games (fun w w' b' c' => w' = w ∧ w ∈ b.ledger.words ∧
      b' = { b with drawn := b.drawn + 1 } ∧ c' = { c with drawn := c.drawn + 1 })
      drawWord drawWord b c := by
  refine (parallel_look (P := fun ws ws' b' c' => ws = b.store.allWords ∧ ws' = c.store.allWords ∧
    b = b' ∧ c = c') rfl rfl ⟨rfl, rfl, rfl, rfl⟩).bind ?_
  rintro _ _ _ _ ⟨rfl, rfl, rfl, rfl⟩
  refine (parallel_choose alike).bind ?_
  rintro _ word _ _ ⟨chosen, rfl, rfl, rfl⟩
  cases word with
  | none => exact parallel_throw h.draw _
  | some word =>
    have listed := (b.store.mem_allWords word).1 (List.mem_of_getElem? chosen.symm)
    exact parallel_pure ⟨rfl, listed, rfl, rfl⟩

/-- A row that is looked for and passed on is there on both sides, or missing on both. -/
theorem parallel_require {α : Type} {query : Store → Except Failure (Option α)} {erase : α → α}
    {k : Option α → Entry α} (found : ∃ a a', query b.store = .ok a ∧ query c.store = .ok a' ∧
      a'.map erase = a.map erase) (there : ∀ a, k (some a) = pure a)
    (missing : ∃ x, k none = throw x) :
    Parallel games (fun a a' b' c' => (query b.store = .ok (some a) ∧ erase a' = erase a) ∧
      b = b' ∧ c = c') (look query >>= k) (look query >>= k) b c := by
  obtain ⟨a, a', read, read', same⟩ := found
  obtain ⟨x, missing⟩ := missing
  refine (parallel_look (P := fun v v' b' c' => v = a ∧ v' = a' ∧ b = b' ∧ c = c') read read'
    ⟨rfl, rfl, rfl, rfl⟩).bind ?_
  rintro a a' _ _ ⟨rfl, rfl, rfl, rfl⟩
  cases a with
  | none =>
    obtain rfl := Option.map_eq_none_iff.1 same
    rw [missing]
    exact parallel_throw h x
  | some a =>
    obtain ⟨a', rfl, alike⟩ := Option.map_eq_some_iff.1 same
    rw [there, there]
    exact parallel_pure ⟨⟨read, alike⟩, rfl, rfl⟩

theorem parallel_requireUser (id : Id) :
    Parallel games (fun u u' b' c' => (b.store.findUser id = .ok (some u) ∧
      u'.timeless = u.timeless) ∧ b = b' ∧ c = c') (requireUser id) (requireUser id) b c :=
  parallel_require h (h.findUser id) (fun _ => rfl) ⟨_, rfl⟩

theorem parallel_requireGame (id : Id) :
    Parallel games (fun g g' b' c' => (b.store.findGame id = .ok (some g) ∧
      g'.timeless = g.timeless) ∧ b = b' ∧ c = c') (requireGame id) (requireGame id) b c :=
  parallel_require h (h.findGame id) (fun _ => rfl) ⟨_, rfl⟩

theorem parallel_requireTurn (game : Id) :
    Parallel games (fun t t' b' c' => (b.store.latestTurn game = .ok (some t) ∧
      t'.timeless = t.timeless) ∧ b = b' ∧ c = c') (requireTurn game) (requireTurn game) b c :=
  parallel_require h (h.latestTurn game) (fun _ => rfl) ⟨_, rfl⟩

theorem parallel_requireWord (id : Id) :
    Parallel games (fun w w' b' c' => w' = w ∧ b = b' ∧ c = c') (requireWord id) (requireWord id)
      b c := by
  have same : (c.store.findWord id).map (fun w => w) = (b.store.findWord id).map fun w => w := by
    rw [h.findWord]
  have found : ∃ w w', (.ok (b.store.findWord id) : Except Failure _) = .ok w ∧
      (.ok (c.store.findWord id) : Except Failure _) = .ok w' ∧
        w'.map (fun w => w) = w.map fun w => w := ⟨_, _, rfl, rfl, same⟩
  have found : Parallel games (fun w w' b' c' => ((.ok (b.store.findWord id) : Except Failure _) =
      .ok (some w) ∧ w' = w) ∧ b = b' ∧ c = c') (requireWord id) (requireWord id) b c :=
    parallel_require h found (fun _ => rfl) ⟨_, rfl⟩
  exact found.mono fun _ _ _ _ ⟨⟨_, same⟩, stay⟩ => ⟨same, stay⟩

/-! ## Entries of the game -/

theorem parallel_openGame {user : Id} {word : Word} (known : user ∈ b.ledger.users)
    (listed : word ∈ b.ledger.words) :
    Parallel games (fun g g' b' c' => b'.Twins games c' ∧ g'.timeless = g.timeless)
      (Operation.openGame user word) (Operation.openGame user word) b c := by
  refine (parallel_createGame h).bind ?_
  rintro g g' b₁ c₁ ⟨twins, same, put, drew⟩
  have id_eq : g'.id = g.id := Game.same_of_timeless same
  rw [id_eq]
  have there : g.id ∈ b₁.ledger.games := by
    rw [put]
    exact List.mem_append_right _ (List.mem_singleton_self _)
  refine (parallel_addPlayer twins (by rwa [put]) there fun seat mem here => ?_).bind ?_
  · rw [put] at mem
    exact absurd (here.trans drew) (h.fresh_game seat mem)
  · rintro _ _ b₂ c₂ ⟨twins₂, put₂⟩
    refine (parallel_addTurn twins₂ (by rwa [put₂]) (by rwa [put₂, put])).bind ?_
    exact fun _ _ _ _ twins₃ => parallel_pure ⟨twins₃, same⟩

theorem parallel_takeSeat (settings : RoomSettings) {game : Id} {u u' : User}
    (same : u'.id = u.id) (known : u.id ∈ b.ledger.users) (there : game ∈ b.ledger.games) :
    Parallel games (fun _ _ b' c' => b'.Twins games c') (Operation.takeSeat settings game u)
      (Operation.takeSeat settings game u') b c := by
  obtain ⟨ps, ps', read, read', alike⟩ := h.players game
  unfold Operation.takeSeat
  rw [same]
  refine (parallel_look (P := fun v v' b' c' => v = ps ∧ v' = ps' ∧ b = b' ∧ c = c') read read'
    ⟨rfl, rfl, rfl, rfl⟩).bind ?_
  rintro ps ps' _ _ ⟨rfl, rfl, rfl, rfl⟩
  have existing : (ps'.find? (·.id == u.id)).map Player.timeless =
      (ps.find? (·.id == u.id)).map Player.timeless := by
    rw [← find_player_timeless, alike, find_player_timeless]
  have active : (ps'.find? (·.id == u.id)).any Player.isActive =
      (ps.find? (·.id == u.id)).any Player.isActive := by
    have same := congrArg (Option.any Player.isActive) existing
    rwa [Option.any_map, Option.any_map] at same
  have count : (ps'.filter Player.isActive).length = (ps.filter Player.isActive).length := by
    have same := congrArg (fun l => (l.filter Player.isActive).length) alike
    simpa only [filter_isActive_timeless, List.length_map] using same
  refine .check (by rw [active]) h fun _ => .check (by rw [count]) h fun _ => ?_
  cases found : ps.find? (·.id == u.id) with
  | none =>
    rw [found] at existing
    rw [Option.map_eq_none_iff.1 existing]
    exact (parallel_addPlayer h known there (h.free_of_players read found)).mono
      fun _ _ _ _ p => p.1
  | some p =>
    rw [found] at existing
    obtain ⟨p', found', -⟩ := Option.map_eq_some_iff.1 existing
    rw [found']
    exact parallel_setState h read found .active

theorem parallel_award (settings : RoomSettings) {game : Id} {turn turn' : Turn} {user user' : User}
    {message message' : Message} (same_turn : turn'.id = turn.id) (same_user : user'.id = user.id)
    (same : message'.id = message.id) {active active' : List Player}
    (alike : active'.map Player.timeless = active.map Player.timeless) {scores scores' : List Score}
    (told : scores'.map Score.timeless = scores.map Score.timeless)
    (there : game ∈ b.ledger.games) (begun : turn.id ∈ b.ledger.rounds.map (·.id))
    (known : user.id ∈ b.ledger.users) (said : message.id ∈ b.ledger.lines.map (·.id)) :
    Parallel games (fun v v' b' c' => v' = v ∧ b'.Twins games c')
      (award settings game turn user message active scores)
      (award settings game turn' user' message' active' scores') b c := by
  have guessed : Board.hasGuessed scores' user.id turn.id = Board.hasGuessed scores user.id turn.id := by
    rw [← Board.hasGuessed_timeless, told, Board.hasGuessed_timeless]
  have count : guessedCount active' scores' user.id turn.id =
      guessedCount active scores user.id turn.id := by
    rw [← guessedCount_timeless, alike, told, guessedCount_timeless]
  have number : active'.length = active.length := by
    simpa only [List.length_map] using congrArg List.length alike
  unfold award
  rw [same_turn, same_user, same, guessed, count, number]
  split
  · exact parallel_pure ⟨rfl, h⟩
  · exact (parallel_addScore h there begun known said).bind fun _ _ _ _ twins =>
      parallel_pure ⟨rfl, twins⟩

theorem parallel_judge (settings : RoomSettings) {game : Id} {turn turn' : Turn} {word : Word}
    {user user' : User} (same_turn : turn'.id = turn.id) (same_user : user'.id = user.id)
    (content : String) (there : game ∈ b.ledger.games)
    (begun : turn.id ∈ b.ledger.rounds.map (·.id)) (known : user.id ∈ b.ledger.users) :
    Parallel games (fun r r' b' c' => r.1.gameId = game ∧ r'.1.timeless = r.1.timeless ∧
      r'.2 = r.2 ∧ b'.Twins games c')
      (judge settings game turn word user content)
      (judge settings game turn' word user' content) b c := by
  obtain ⟨ps, ps', read, read', alike⟩ := h.activePlayers game
  unfold judge
  rw [same_turn, same_user]
  refine (parallel_look (P := fun v v' b' c' => v = ps ∧ v' = ps' ∧ b = b' ∧ c = c') read read'
    ⟨rfl, rfl, rfl, rfl⟩).bind ?_
  rintro ps ps' _ _ ⟨rfl, rfl, rfl, rfl⟩
  have seated : ps'.any (·.id == user.id) = ps.any (·.id == user.id) := by
    rw [← any_isActive_timeless, alike, any_isActive_timeless]
  refine .check (by rw [seated]) h fun _ => ?_
  refine (parallel_addMessage h there begun known content).bind ?_
  rintro m m' b₁ c₁ ⟨twins, same, line, put⟩
  have here : m.gameId = game := congrArg Line.gameId line
  split
  · exact parallel_pure ⟨here, same, rfl, twins⟩
  · obtain ⟨ss, ss', found, found', told⟩ := twins.scores game
    refine (parallel_look (P := fun v v' b' c' => v = ss ∧ v' = ss' ∧ b₁ = b' ∧ c₁ = c') found found'
      ⟨rfl, rfl, rfl, rfl⟩).bind ?_
    rintro ss ss' _ _ ⟨rfl, rfl, rfl, rfl⟩
    have said : m.id ∈ b₁.ledger.lines.map (·.id) := by
      rw [put, List.map_append]
      exact List.mem_append_right _ (List.mem_singleton_self _)
    refine (parallel_award twins settings same_turn same_user (Message.same_of_timeless same).1 alike told
      (by rwa [put]) (by rwa [put]) (by rwa [put]) said).bind ?_
    rintro v _ b₂ c₂ ⟨rfl, twins₂⟩
    exact parallel_pure ⟨here, same, rfl, twins₂⟩

end Twins

end Entry

end GuessingRoom
