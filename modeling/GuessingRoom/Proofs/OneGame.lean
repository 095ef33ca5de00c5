import GuessingRoom.Proofs.Growth

/-!
# A store as one game sees it

What a store holds of one game, together with the users, the games and the words (`Store.only`). A
look at the game finds all that it looks at there (`Store.LooksAt`). A write to the game comes to the
same on two stores that hold the same of it, if the key of what is new is as free in the one as in
the other (`only_addTurn`, `only_addMessage`, …); and no other game sees anything of it
(`Store.WritesTo`).
-/

namespace GuessingRoom

open Time (Instant)

def MemoryTables.only (game : Id) (t : MemoryTables) : MemoryTables :=
  { t with
    memberships := t.memberships.filter (·.gameId == game)
    turns := t.turns.filter (·.gameId == game)
    messages := t.messages.filter (·.gameId == game)
    scores := t.scores.filter fun s => s.gameId == game }

def RelationalTables.only (game : Id) (t : RelationalTables) : RelationalTables :=
  { t with
    members := t.members.filter (·.gameId == game)
    turns := t.turns.filter (·.gameId == game)
    messages := t.messages.filter (·.gameId == game)
    scores := t.scores.filter (·.gameId == game) }

namespace Store

/-- What the store holds of one game, with the users, games and words. How units of work have ended
is counted for all games together, and is left out. -/
def only (game : Id) : Store → Store
  | memory m => memory { m with tables := m.tables.only game, commits := 0, rollbacks := 0 }
  | relational t => relational (t.only game)

/-- Whether a turn of whatever game has the identifier. -/
def IsTurn (s : Store) (id : Id) : Prop := id ∈ s.ledger.rounds.map (·.id)

/-- Whether a message in whatever game has the identifier. -/
def IsMessage (s : Store) (id : Id) : Prop := id ∈ s.ledger.lines.map (·.id)

/-- The query looks at nothing but what the store holds of the game. -/
def LooksAt {α : Type} (game : Id) (query : Store → α) : Prop :=
  ∀ s : Store, query (s.only game) = query s

/-- The second store is what the first one becomes by a write that no other game sees, and that puts
down the rounds and the lines. -/
structure WritesTo (game : Id) (rounds : List Round) (lines : List Line) (s s' : Store) : Prop where
  others : ∀ other, other ≠ game → s'.only other = s.only other
  rounds : s'.ledger.rounds = s.ledger.rounds ++ rounds
  lines : s'.ledger.lines = s.ledger.lines ++ lines

/-! ## The ledger of one game -/

theorem rounds_only (s : Store) (game : Id) :
    (s.only game).ledger.rounds = s.ledger.rounds.filter (·.gameId == game) := by
  cases s <;> simp only [ledger, MemoryTables.ledger, RelationalTables.ledger,
    List.filter_map] <;> rfl

theorem lines_only (s : Store) (game : Id) :
    (s.only game).ledger.lines = s.ledger.lines.filter (·.gameId == game) := by
  cases s <;> simp only [ledger, MemoryTables.ledger, RelationalTables.ledger,
    List.filter_map] <;> rfl

theorem IsTurn.of_only {s : Store} {game id : Id} (h : (s.only game).IsTurn id) : s.IsTurn id := by
  unfold IsTurn at h
  rw [rounds_only] at h
  exact List.map_subset _ List.filter_sublist.subset h

theorem IsMessage.of_only {s : Store} {game id : Id} (h : (s.only game).IsMessage id) :
    s.IsMessage id := by
  unfold IsMessage at h
  rw [lines_only] at h
  exact List.map_subset _ List.filter_sublist.subset h

theorem only_commit (u : WorkUnit) (game : Id) : u.commit.only game = u.draft.only game := by
  obtain ⟨base, draft⟩ := u
  cases draft <;> rfl

theorem only_abandon (u : WorkUnit) (game : Id) : u.abandon.only game = u.base.only game := by
  obtain ⟨base, draft⟩ := u
  cases base <;> rfl

/-! ## Looks -/

variable (game : Id)

theorem LooksAt.map {α β : Type} {game : Id} {query : Store → α} (h : LooksAt game query)
    (f : α → β) : LooksAt game fun s => f (query s) := fun s => congrArg f (h s)

theorem looksAt_findUser (id : Id) : LooksAt game (·.findUser id) := by
  rintro (_ | _) <;> rfl

theorem looksAt_findGame (id : Id) : LooksAt game (·.findGame id) := by
  rintro (_ | _) <;> rfl

theorem looksAt_findWord (id : Id) : LooksAt game (·.findWord id) := by
  rintro (_ | _) <;> rfl

theorem looksAt_allWords : LooksAt game allWords := by
  rintro (_ | _) <;> rfl

theorem looksAt_players : LooksAt game (·.players game) := by
  rintro (m | t)
  · simp [players, only, MemoryTables.players, MemoryTables.only]
  · simp only [players, only, RelationalTables.players, RelationalTables.only, List.filter_filter,
      Bool.and_self]
    rfl

theorem looksAt_activePlayers : LooksAt game (·.activePlayers game) :=
  (looksAt_players game).map (Except.map fun players => players.filter Player.isActive)

theorem looksAt_latestTurn : LooksAt game (·.latestTurn game) := by
  rintro (m | t)
  · simp [latestTurn, only, MemoryTables.latestTurn, MemoryTables.only]
  · simp [latestTurn, only, RelationalTables.latestTurn, RelationalTables.only]

theorem looksAt_messages : LooksAt game (·.messages game) := by
  rintro (m | t)
  · simp [messages, only, MemoryTables.messagesOf, MemoryTables.only]
  · simp [messages, only, RelationalTables.messagesOf, RelationalTables.only]

theorem looksAt_scores : LooksAt game (·.scores game) := by
  rintro (m | t)
  · simp [scores, only, MemoryTables.scoresOf, MemoryTables.only]
  · simp [scores, only, RelationalTables.scoresOf, RelationalTables.only]

/-- The turn that the game is at is one of its own. -/
theorem isTurn_of_latestTurn {s : Store} {game : Id} {turn : Turn}
    (h : s.latestTurn game = .ok (some turn)) : (s.only game).IsTurn turn.id := by
  have there := (mem_rounds_of_latestTurn ((looksAt_latestTurn game s).trans h)).1
  exact List.mem_map_of_mem there

end Store

/-! ## Keys and references -/

namespace MemoryTables

theorem any_isOf (t : MemoryTables) (game user : Id) : t.memberships.any (·.isOf game user) =
    (t.only game).memberships.any (·.player.id == user) := List.any_filter.symm

end MemoryTables

namespace RelationalTables

variable {t : RelationalTables}

theorem hasTurn_iff_isTurn {id : Id} : t.hasTurn id = true ↔ (Store.relational t).IsTurn id := by
  simp [hasTurn, Store.IsTurn, Store.ledger, ledger, TurnRow.round]

theorem hasMessage_iff_isMessage {id : Id} :
    t.hasMessage id = true ↔ (Store.relational t).IsMessage id := by
  simp [hasMessage, Store.IsMessage, Store.ledger, ledger, MessageRow.line]

theorem isMember_eq (t : RelationalTables) (game user : Id) : t.isMember game user =
    (t.only game).members.any (·.userId == user) := List.any_filter.symm

end RelationalTables

/-! ## Seats given up and taken again -/

section Rows

variable {α : Type} {key : α → Id} {f : α → α} (stays : ∀ x, key (f x) = key x)
include stays

theorem filter_map_stays (game : Id) (rows : List α) :
    (rows.map f).filter (key · == game) = (rows.filter (key · == game)).map f := by
  rw [List.filter_map]
  congr 2
  funext x
  exact congrArg (· == game) (stays x)

theorem filter_map_elsewhere {game other : Id} (idle : ∀ x, key x ≠ game → f x = x)
    (ne : other ≠ game) (rows : List α) :
    (rows.map f).filter (key · == other) = rows.filter (key · == other) := by
  rw [filter_map_stays stays]
  refine (List.map_congr_left fun x mem => ?_).trans (List.map_id _)
  have own : key x = other := by simpa using (List.mem_filter.1 mem).2
  exact idle x (own ▸ ne)

end Rows

theorem Membership.gameId_withState (game user : Id) (state : PlayerState) (m : Membership) :
    (if m.isOf game user then m.withState state else m).gameId = m.gameId := by
  split <;> rfl

theorem Membership.withState_of_ne {game : Id} (user : Id) (state : PlayerState) (m : Membership)
    (ne : m.gameId ≠ game) : (if m.isOf game user then m.withState state else m) = m := by
  simp [isOf, ne]

theorem MemberRow.gameId_withState (game user : Id) (state : PlayerState) (r : MemberRow) :
    (if r.gameId == game && r.userId == user then { r with state := state.name } else r).gameId =
      r.gameId := by
  split <;> rfl

theorem MemberRow.withState_of_ne {game : Id} (user : Id) (state : PlayerState) (r : MemberRow)
    (ne : r.gameId ≠ game) :
    (if r.gameId == game && r.userId == user then { r with state := state.name } else r) = r := by
  simp [ne]

/-! ## Writes on two stores -/

namespace Store

open RelationalTables (hasTurn_iff_isTurn hasMessage_iff_isMessage)

section Results

variable {ε α β γ δ : Type}

theorem except_map_map (x : Except ε α) (f : α → β) (g : β → γ) :
    (x.map f).map g = x.map (g ∘ f) := by
  cases x <;> rfl

/-- A check that is made of both alike. -/
theorem map_checked {p : Prop} [Decidable p] {e : ε} {k k' : γ → Except ε α} {x y : Except ε α}
    {f : α → β} (h : x.map f = y.map f) :
    (if p then throw e >>= k else x).map f = (if p then throw e >>= k' else y).map f := by
  split
  · rfl
  · exact h

end Results

variable {game : Id} {s t : Store}

section Same

variable (same : t.only game = s.only game)
include same

theorem only_addPlayer (user : Id) (time : Instant) :
    (t.addPlayer game user time).map (only game) =
      (s.addPlayer game user time).map (only game) := by
  rcases s with m | r <;> rcases t with m' | r'
  · simp only [only, memory.injEq, Memory.mk.injEq] at same
    unfold addPlayer MemoryTables.addPlayer MemoryTables.findUser MemoryTables.findGame
    dsimp only
    rw [MemoryTables.any_isOf, MemoryTables.any_isOf, same.1]
    simp only [MemoryTables.only, MemoryTables.mk.injEq] at same
    rw [same.1.1, same.1.2.1]
    split
    · rfl
    split
    · rfl
    split
    · rfl
    simp [Except.map, only, MemoryTables.only, same]
  · cases same
  · cases same
  · simp only [only, relational.injEq] at same
    have seated : r'.isMember game user = r.isMember game user := by
      rw [RelationalTables.isMember_eq, same, RelationalTables.isMember_eq]
    simp only [RelationalTables.only, RelationalTables.mk.injEq] at same
    have holds (row : MemberRow) : r'.memberHolds row = r.memberHolds row := by
      simp only [RelationalTables.memberHolds, RelationalTables.hasGame, RelationalTables.hasUser,
        same]
    unfold addPlayer RelationalTables.addPlayer
    dsimp only
    rw [seated, holds, except_map_map, except_map_map]
    refine map_checked (map_checked ?_)
    simp [Except.map, only, RelationalTables.only, same, pure, Except.pure]

theorem only_setState (user : Id) (state : PlayerState) :
    (t.setState game user state).map (only game) =
      (s.setState game user state).map (only game) := by
  rcases s with m | r <;> rcases t with m' | r'
  · simp only [only, memory.injEq, Memory.mk.injEq] at same
    unfold setState MemoryTables.setState
    dsimp only
    rw [MemoryTables.any_isOf, MemoryTables.any_isOf, same.1]
    simp only [MemoryTables.only, MemoryTables.mk.injEq] at same
    split
    · have kept := filter_map_stays (Membership.gameId_withState game user state) game
      simp only [Except.map, only, MemoryTables.only, kept, same]
    · rfl
  · cases same
  · cases same
  · simp only [only, relational.injEq] at same
    unfold setState RelationalTables.setState
    dsimp only
    rw [RelationalTables.isMember_eq, same, RelationalTables.isMember_eq]
    simp only [RelationalTables.only, RelationalTables.mk.injEq] at same
    split
    · have kept := filter_map_stays (MemberRow.gameId_withState game user state) game
      simp only [Except.map, only, RelationalTables.only, kept, same]
    · rfl

theorem only_addTurn {stamp : Stamp} (free : t.IsTurn stamp.id ↔ s.IsTurn stamp.id) (word : Id) :
    (t.addTurn game word stamp).map (Prod.map id (only game)) =
      (s.addTurn game word stamp).map (Prod.map id (only game)) := by
  rcases s with m | r <;> rcases t with m' | r'
  · simp only [only, MemoryTables.only, memory.injEq, Memory.mk.injEq,
      MemoryTables.mk.injEq] at same
    simp [addTurn, keep, MemoryTables.addTurn, Except.map, only, MemoryTables.only, same]
  · cases same
  · cases same
  · rw [← hasTurn_iff_isTurn, ← hasTurn_iff_isTurn, ← Bool.eq_iff_iff] at free
    simp only [only, RelationalTables.only, relational.injEq, RelationalTables.mk.injEq] at same
    have holds (row : TurnRow) : r'.turnHolds row = r.turnHolds row := by
      simp only [RelationalTables.turnHolds, RelationalTables.hasGame, RelationalTables.hasWord,
        same]
    unfold addTurn RelationalTables.addTurn
    dsimp only
    rw [free, holds, except_map_map, except_map_map]
    refine map_checked (map_checked ?_)
    cases TurnRow.toTurn ⟨stamp.id, game, word, stamp.time.stored⟩ with
    | error f => rfl
    | ok turn =>
      simp [Except.map, keepRows, only, RelationalTables.only, pure, Except.pure, bind, Except.bind,
        same]

theorem only_addMessage {stamp : Stamp} (free : t.IsMessage stamp.id ↔ s.IsMessage stamp.id)
    {turn : Id} (known : t.IsTurn turn ↔ s.IsTurn turn) (player : Id) (content : String) :
    (t.addMessage game turn player content stamp).map (Prod.map id (only game)) =
      (s.addMessage game turn player content stamp).map (Prod.map id (only game)) := by
  rcases s with m | r <;> rcases t with m' | r'
  · simp only [only, MemoryTables.only, memory.injEq, Memory.mk.injEq,
      MemoryTables.mk.injEq] at same
    simp [addMessage, keep, MemoryTables.addMessage, Except.map, only, MemoryTables.only, same]
  · cases same
  · cases same
  · rw [← hasMessage_iff_isMessage, ← hasMessage_iff_isMessage, ← Bool.eq_iff_iff] at free
    rw [← hasTurn_iff_isTurn, ← hasTurn_iff_isTurn, ← Bool.eq_iff_iff] at known
    simp only [only, RelationalTables.only, relational.injEq, RelationalTables.mk.injEq] at same
    let row : MessageRow := ⟨stamp.id, game, turn, player, content, stamp.time.stored⟩
    have holds : r'.messageHolds row = r.messageHolds row := by
      simp only [RelationalTables.messageHolds, RelationalTables.hasGame, RelationalTables.hasUser,
        same, known, row]
    unfold addMessage RelationalTables.addMessage
    dsimp only
    rw [free, holds, except_map_map, except_map_map]
    refine map_checked (map_checked ?_)
    cases row.toMessage with
    | error f => rfl
    | ok message =>
      simp [Except.map, keepRows, only, RelationalTables.only, pure, Except.pure, bind, Except.bind,
        same]

theorem only_addScore {award : Award} (own : award.gameId = game)
    (known : t.IsTurn award.turnId ↔ s.IsTurn award.turnId)
    (said : t.IsMessage award.messageId ↔ s.IsMessage award.messageId) (time : Instant) :
    (t.addScore award time).map (only game) = (s.addScore award time).map (only game) := by
  subst own
  rcases s with m | r <;> rcases t with m' | r'
  · simp only [only, MemoryTables.only, memory.injEq, Memory.mk.injEq,
      MemoryTables.mk.injEq] at same
    simp only [addScore, MemoryTables.addScore, same]
    split
    · rfl
    · simp [Except.map, only, MemoryTables.only, same]
  · cases same
  · cases same
  · rw [← hasMessage_iff_isMessage, ← hasMessage_iff_isMessage, ← Bool.eq_iff_iff] at said
    rw [← hasTurn_iff_isTurn, ← hasTurn_iff_isTurn, ← Bool.eq_iff_iff] at known
    simp only [only, RelationalTables.only, relational.injEq, RelationalTables.mk.injEq] at same
    let row : ScoreRow := ⟨award.gameId, award.turnId, award.playerId, award.messageId,
      .whole award.points, time.stored⟩
    have holds : r'.scoreHolds row = r.scoreHolds row := by
      simp only [RelationalTables.scoreHolds, RelationalTables.hasGame, RelationalTables.hasUser,
        same, known, said, row]
    unfold addScore RelationalTables.addScore
    dsimp only
    rw [holds, except_map_map, except_map_map]
    refine map_checked ?_
    simp [Except.map, only, RelationalTables.only, same, pure, Except.pure]

end Same

/-! ## Writes and other games -/

section WritesTo

variable {s s' : Store}

theorem writesTo_addPlayer {user : Id} {time : Instant} (h : s.addPlayer game user time = .ok s') :
    s.WritesTo game [] [] s' := by
  obtain ⟨-, -, -, ledger⟩ := ledger_addPlayer h
  refine ⟨fun other ne => ?_, by simp [ledger], by simp [ledger]⟩
  cases s with
  | memory m =>
    simp only [addPlayer, MemoryTables.addPlayer, map_eq_ok_iff] at h
    obtain ⟨t, h, rfl⟩ := h
    split at h
    · cases h
    split at h
    · cases h
    split at h
    · cases h
    cases h
    simp [only, MemoryTables.only, ne.symm]
  | relational t =>
    simp only [addPlayer, RelationalTables.addPlayer, map_eq_ok_iff, ite_throw_eq_ok_iff,
      pure_eq_ok_iff] at h
    obtain ⟨-, ⟨-, -, rfl⟩, rfl⟩ := h
    simp [only, RelationalTables.only, ne.symm]

theorem writesTo_setState {user : Id} {state : PlayerState}
    (h : s.setState game user state = .ok s') : s.WritesTo game [] [] s' := by
  have ledger := ledger_setState h
  refine ⟨fun other ne => ?_, by simp [ledger], by simp [ledger]⟩
  cases s with
  | memory m =>
    simp only [setState, MemoryTables.setState, map_eq_ok_iff] at h
    obtain ⟨t, h, rfl⟩ := h
    split at h
    · cases h
      have kept := filter_map_elsewhere (Membership.gameId_withState game user state)
        (Membership.withState_of_ne user state) ne
      simp only [only, MemoryTables.only, kept]
    · cases h
  | relational t =>
    simp only [setState, RelationalTables.setState, map_eq_ok_iff] at h
    obtain ⟨t', h, rfl⟩ := h
    split at h
    · cases h
      have kept := filter_map_elsewhere (MemberRow.gameId_withState game user state)
        (MemberRow.withState_of_ne user state) ne
      simp only [only, RelationalTables.only, kept]
    · cases h

theorem writesTo_addTurn {word : Id} {stamp : Stamp} {turn : Turn}
    (h : s.addTurn game word stamp = .ok (turn, s')) :
    s.WritesTo game [⟨stamp.id, game, word⟩] [] s' := by
  obtain ⟨-, ledger⟩ := ledger_addTurn h
  refine ⟨fun other ne => ?_, by simp [ledger], by simp [ledger]⟩
  cases s with
  | memory m =>
    simp only [addTurn, keep, MemoryTables.addTurn, Except.ok.injEq, Prod.mk.injEq] at h
    obtain ⟨rfl, rfl⟩ := h
    simp [only, MemoryTables.only, ne.symm]
  | relational t =>
    simp only [addTurn, RelationalTables.addTurn, map_eq_ok_iff, ite_throw_eq_ok_iff,
      bind_eq_ok_iff, pure_eq_ok_iff] at h
    obtain ⟨-, ⟨-, -, r, -, rfl⟩, hk⟩ := h
    simp only [keepRows, Prod.mk.injEq] at hk
    obtain ⟨rfl, rfl⟩ := hk
    simp [only, RelationalTables.only, ne.symm]

theorem writesTo_addMessage {turn player : Id} {content : String} {stamp : Stamp}
    {message : Message} (h : s.addMessage game turn player content stamp = .ok (message, s')) :
    s.WritesTo game [] [⟨stamp.id, game, turn, player, content⟩] s' := by
  obtain ⟨-, ledger⟩ := ledger_addMessage h
  refine ⟨fun other ne => ?_, by simp [ledger], by simp [ledger]⟩
  cases s with
  | memory m =>
    simp only [addMessage, keep, MemoryTables.addMessage, Except.ok.injEq, Prod.mk.injEq] at h
    obtain ⟨rfl, rfl⟩ := h
    simp [only, MemoryTables.only, ne.symm]
  | relational t =>
    simp only [addMessage, RelationalTables.addMessage, map_eq_ok_iff, ite_throw_eq_ok_iff,
      bind_eq_ok_iff, pure_eq_ok_iff] at h
    obtain ⟨-, ⟨-, -, r, -, rfl⟩, hk⟩ := h
    simp only [keepRows, Prod.mk.injEq] at hk
    obtain ⟨rfl, rfl⟩ := hk
    simp [only, RelationalTables.only, ne.symm]

theorem writesTo_addScore {award : Award} {time : Instant} (own : award.gameId = game)
    (h : s.addScore award time = .ok s') : s.WritesTo game [] [] s' := by
  subst own
  have ledger := ledger_addScore h
  refine ⟨fun other ne => ?_, by simp [ledger], by simp [ledger]⟩
  cases s with
  | memory m =>
    simp only [addScore] at h
    split at h
    · cases h
    · cases h
      simp [only, MemoryTables.only, MemoryTables.addScore, ne.symm]
  | relational t =>
    simp only [addScore, RelationalTables.addScore, map_eq_ok_iff, ite_throw_eq_ok_iff,
      pure_eq_ok_iff] at h
    obtain ⟨-, ⟨-, rfl⟩, rfl⟩ := h
    simp [only, RelationalTables.only, ne.symm]

end WritesTo

end Store

end GuessingRoom
