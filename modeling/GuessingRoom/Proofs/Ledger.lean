import Mathlib.Data.List.Basic
import Mathlib.Data.List.Perm.Basic
import GuessingRoom.Board
import GuessingRoom.Proofs.Outcomes
import GuessingRoom.Store

/-!
# The ledger of a store

What the two kinds of store have in common: users, games, seats, turns, messages and awards in the
order in which they were put down, without times and nicknames. Every write that succeeds is told by
what it changes in the ledger (`ledger_createGame`, …, `ledger_addScore`), and every look by what it
shows of the ledger (`perm_scores`, `mem_rounds_of_latestTurn`, …).
-/

namespace GuessingRoom

open Time (Instant)

/-- A user's place in a game, and whether it is taken at present. -/
structure Seat where
  gameId : Id
  userId : Id
  taken : Bool
deriving DecidableEq, Repr

/-- A turn without its time. -/
structure Round where
  id : Id
  gameId : Id
  wordId : Id
deriving DecidableEq, Repr

/-- A message without its time. -/
structure Line where
  id : Id
  gameId : Id
  turnId : Id
  playerId : Id
  content : String
deriving DecidableEq, Repr

structure Ledger where
  words : List Word
  users : List Id
  games : List Id
  seats : List Seat
  rounds : List Round
  lines : List Line
  awards : List Award
deriving DecidableEq, Repr

namespace Ledger

/-- Whether the player holds an award for the turn of the game. -/
def hasFound (l : Ledger) (game player turn : Id) : Bool :=
  l.awards.any fun a => a.gameId == game && (a.playerId == player && a.turnId == turn)

theorem hasFound_iff {l : Ledger} {game player turn : Id} :
    l.hasFound game player turn = true ↔
      ∃ a ∈ l.awards, a.gameId = game ∧ a.playerId = player ∧ a.turnId = turn := by
  simp [hasFound]

/-- The turn of the game that was put down last. -/
def latest (l : Ledger) (game : Id) : Option Round := (l.rounds.filter (·.gameId == game)).getLast?

/-- The users whose seats in the game are taken. -/
def seated (l : Ledger) (game : Id) : List Id :=
  (l.seats.filter fun seat => seat.gameId == game && seat.taken).map (·.userId)

/-- The seated users who have not found the word of the latest turn. -/
def lacking (l : Ledger) (game : Id) : List Id :=
  match l.latest game with
  | some round => (l.seated game).filter fun user => !l.hasFound game user round.id
  | none => l.seated game

end Ledger

/-! ## Rows -/

def Turn.round (t : Turn) : Round := ⟨t.id, t.gameId, t.wordId⟩

def Message.line (m : Message) : Line := ⟨m.id, m.gameId, m.turnId, m.playerId, m.content⟩

def Membership.seat (m : Membership) : Seat := ⟨m.gameId, m.player.id, m.player.isActive⟩

def TurnRow.round (r : TurnRow) : Round := ⟨r.id, r.gameId, r.wordId⟩

def MessageRow.line (r : MessageRow) : Line := ⟨r.id, r.gameId, r.turnId, r.playerId, r.content⟩

def MemberRow.seat (r : MemberRow) : Seat :=
  ⟨r.gameId, r.userId, r.state == PlayerState.active.name⟩

/-- The number in a cell; a cell without a whole number counts as zero. -/
def Cell.number : Cell → Int
  | whole n => n
  | _ => 0

def ScoreRow.award (r : ScoreRow) : Award :=
  ⟨r.gameId, r.turnId, r.playerId, r.messageId, r.points.number⟩

/-- A seat given up or taken again. -/
def Seat.withTaken (game user : Id) (taken : Bool) (s : Seat) : Seat :=
  if s.gameId = game ∧ s.userId = user then { s with taken } else s

theorem name_beq_active (state : PlayerState) :
    (state.name == PlayerState.active.name) = decide (state = .active) := by
  cases state <;> rfl

theorem Membership.seat_withState (m : Membership) (game user : Id) (state : PlayerState) :
    (if m.isOf game user then m.withState state else m).seat =
      m.seat.withTaken game user (decide (state = .active)) := by
  by_cases h : m.gameId = game ∧ m.player.id = user
  · simp [isOf, Seat.withTaken, seat, withState, Player.isActive, h]
  · simp [isOf, Seat.withTaken, seat, h]

theorem MemberRow.seat_withState (r : MemberRow) (game user : Id) (state : PlayerState) :
    (if r.gameId == game && r.userId == user then { r with state := state.name } else r).seat =
      r.seat.withTaken game user (decide (state = .active)) := by
  by_cases h : r.gameId = game ∧ r.userId = user
  · simp [Seat.withTaken, seat, name_beq_active, h]
  · simp [Seat.withTaken, seat, h]

/-! ## Ledgers of the two stores -/

namespace MemoryTables

def ledger (words : List Word) (t : MemoryTables) : Ledger where
  words := words
  users := t.users.map (·.id)
  games := t.games.map (·.id)
  seats := t.memberships.map Membership.seat
  rounds := t.turns.map Turn.round
  lines := t.messages.map Message.line
  awards := t.scores.map (·.toAward)

variable {t : MemoryTables} {id : Id}

theorem isSome_findUser_iff : (t.findUser id).isSome = true ↔ id ∈ t.users.map (·.id) := by
  simp [findUser, List.find?_isSome]

theorem isSome_findGame_iff : (t.findGame id).isSome = true ↔ id ∈ t.games.map (·.id) := by
  simp [findGame, List.find?_isSome]

theorem exists_findUser (known : id ∈ t.users.map (·.id)) : ∃ u, t.findUser id = some u :=
  Option.isSome_iff_exists.1 (isSome_findUser_iff.2 known)

theorem exists_findGame (there : id ∈ t.games.map (·.id)) : ∃ g, t.findGame id = some g :=
  Option.isSome_iff_exists.1 (isSome_findGame_iff.2 there)

end MemoryTables

namespace RelationalTables

def ledger (t : RelationalTables) : Ledger where
  words := t.words
  users := t.users.map (·.id)
  games := t.games.map (·.id)
  seats := t.members.map MemberRow.seat
  rounds := t.turns.map TurnRow.round
  lines := t.messages.map MessageRow.line
  awards := t.scores.map ScoreRow.award

end RelationalTables

namespace Store

def ledger : Store → Ledger
  | memory m => m.tables.ledger m.words
  | relational t => t.ledger

end Store

theorem perm_orderedBy {α : Type} (key : α → String) (rows : List α) :
    (orderedBy key rows).Perm rows := List.mergeSort_perm _ _

/-! ## Rows that are read keep what the ledger has of them -/

theorem GameRow.id_toGame {r : GameRow} {g : Game} (h : r.toGame = .ok g) : g.id = r.id := by
  simp only [toGame, bind_eq_ok_iff, pure_eq_ok_iff] at h
  obtain ⟨-, -, -, -, rfl⟩ := h
  rfl

theorem TurnRow.round_toTurn {r : TurnRow} {t : Turn} (h : r.toTurn = .ok t) : t.round = r.round := by
  simp only [toTurn, bind_eq_ok_iff, pure_eq_ok_iff] at h
  obtain ⟨-, -, rfl⟩ := h
  rfl

theorem MessageRow.line_toMessage {r : MessageRow} {m : Message} (h : r.toMessage = .ok m) :
    m.line = r.line := by
  simp only [toMessage, bind_eq_ok_iff, pure_eq_ok_iff] at h
  obtain ⟨-, -, rfl⟩ := h
  rfl

/-! ## Writes -/

namespace Store

variable {s s' : Store}

/-- A user that is known stays where it was. -/
theorem ledger_upsertUser (s : Store) (id : Id) (nickname : String) (time : Instant) :
    id ∈ s.ledger.users ∧ (s.upsertUser id nickname time).ledger = s.ledger ∨
      id ∉ s.ledger.users ∧ (s.upsertUser id nickname time).ledger =
        { s.ledger with users := s.ledger.users ++ [id] } := by
  cases s with
  | memory m =>
    have keep : (fun u : User => (if u.id == id then MemoryTables.rename nickname time u else u).id) =
        (·.id) := by
      funext u
      by_cases e : u.id = id <;> simp [e, MemoryTables.rename]
    simp only [upsertUser, MemoryTables.upsertUser, MemoryTables.isSome_findUser_iff, ledger,
      MemoryTables.ledger]
    by_cases h : id ∈ m.tables.users.map (·.id)
    · refine .inl ⟨h, ?_⟩
      rw [if_pos h]
      simp only [List.map_map, Function.comp_def, keep]
    · refine .inr ⟨h, ?_⟩
      rw [if_neg h]
      simp only [List.map_append, List.map_cons, List.map_nil]
  | relational t =>
    have known : t.hasUser id ↔ id ∈ t.users.map (·.id) := by
      simp [RelationalTables.hasUser]
    have keep : (fun r : UserRow =>
        (if r.id == id then RelationalTables.renamed nickname time r else r).id) = (·.id) := by
      funext r
      by_cases e : r.id = id <;> simp [e, RelationalTables.renamed]
    simp only [upsertUser, RelationalTables.upsertUser, known, ledger, RelationalTables.ledger]
    by_cases h : id ∈ t.users.map (·.id)
    · refine .inl ⟨h, ?_⟩
      rw [if_pos h]
      simp only [List.map_map, Function.comp_def, keep]
    · refine .inr ⟨h, ?_⟩
      rw [if_neg h]
      simp only [List.map_append, List.map_cons, List.map_nil]

theorem ledger_createGame {stamp : Stamp} {game : Game} (h : s.createGame stamp = .ok (game, s')) :
    game.id = stamp.id ∧ s'.ledger = { s.ledger with games := s.ledger.games ++ [stamp.id] } := by
  cases s with
  | memory m =>
    simp only [createGame, keep, MemoryTables.createGame, Except.ok.injEq, Prod.mk.injEq] at h
    obtain ⟨rfl, rfl⟩ := h
    simp [ledger, MemoryTables.ledger]
  | relational t =>
    simp only [createGame, RelationalTables.createGame, map_eq_ok_iff, ite_throw_eq_ok_iff,
      bind_eq_ok_iff, pure_eq_ok_iff] at h
    obtain ⟨-, ⟨-, g, hg, rfl⟩, hk⟩ := h
    simp only [keepRows, Prod.mk.injEq] at hk
    obtain ⟨rfl, rfl⟩ := hk
    exact ⟨GameRow.id_toGame hg, by simp [ledger, RelationalTables.ledger]⟩

/-- The seat is new, and both its user and its game are there. -/
theorem ledger_addPlayer {game user : Id} {time : Instant}
    (h : s.addPlayer game user time = .ok s') :
    (∀ seat ∈ s.ledger.seats, seat.gameId = game → seat.userId ≠ user) ∧ user ∈ s.ledger.users ∧
      game ∈ s.ledger.games ∧
      s'.ledger = { s.ledger with seats := s.ledger.seats ++ [⟨game, user, true⟩] } := by
  cases s with
  | memory m =>
    simp only [addPlayer, MemoryTables.addPlayer, map_eq_ok_iff] at h
    obtain ⟨t, h, rfl⟩ := h
    split at h
    · cases h
    · rename_i free
      split at h
      · cases h
      · rename_i u found
        split at h
        · cases h
        · rename_i known
          cases h
          refine ⟨?_, ?_, ?_, ?_⟩
          · simpa [ledger, MemoryTables.ledger, Membership.seat, Membership.isOf] using free
          · have e : u.id = user := by simpa using List.find?_some found
            exact e ▸ List.mem_map_of_mem (List.mem_of_find?_eq_some found)
          · simpa [MemoryTables.findGame, ledger, MemoryTables.ledger] using known
          · simp [ledger, MemoryTables.ledger, Membership.seat, Player.isActive]
  | relational t =>
    simp only [addPlayer, RelationalTables.addPlayer, map_eq_ok_iff, ite_throw_eq_ok_iff,
      pure_eq_ok_iff] at h
    obtain ⟨-, ⟨free, holds, rfl⟩, rfl⟩ := h
    simp only [RelationalTables.memberHolds, Bool.not_eq_true', Bool.not_eq_false, Bool.and_eq_true,
      RelationalTables.hasGame, RelationalTables.hasUser, List.any_eq_true, beq_iff_eq] at holds
    obtain ⟨⟨g, hg, rfl⟩, u, hu, rfl⟩ := holds
    refine ⟨?_, List.mem_map_of_mem hu, List.mem_map_of_mem hg, ?_⟩
    · simpa [RelationalTables.isMember, ledger, RelationalTables.ledger, MemberRow.seat] using free
    · simp [ledger, RelationalTables.ledger, MemberRow.seat]

theorem ledger_setState {game user : Id} {state : PlayerState}
    (h : s.setState game user state = .ok s') :
    s'.ledger = { s.ledger with
      seats := s.ledger.seats.map (Seat.withTaken game user (decide (state = .active))) } := by
  cases s with
  | memory m =>
    simp only [setState, MemoryTables.setState, map_eq_ok_iff] at h
    obtain ⟨t, h, rfl⟩ := h
    split at h
    · cases h
      simp only [ledger, MemoryTables.ledger, List.map_map, Function.comp_def,
        Membership.seat_withState]
    · cases h
  | relational t =>
    simp only [setState, RelationalTables.setState, map_eq_ok_iff] at h
    obtain ⟨t', h, rfl⟩ := h
    split at h
    · cases h
      simp only [ledger, RelationalTables.ledger, List.map_map, Function.comp_def,
        MemberRow.seat_withState]
    · cases h

theorem ledger_addTurn {game word : Id} {stamp : Stamp} {turn : Turn}
    (h : s.addTurn game word stamp = .ok (turn, s')) :
    turn.round = ⟨stamp.id, game, word⟩ ∧
      s'.ledger = { s.ledger with rounds := s.ledger.rounds ++ [⟨stamp.id, game, word⟩] } := by
  cases s with
  | memory m =>
    simp only [addTurn, keep, MemoryTables.addTurn, Except.ok.injEq, Prod.mk.injEq] at h
    obtain ⟨rfl, rfl⟩ := h
    simp [ledger, MemoryTables.ledger, Turn.round]
  | relational t =>
    simp only [addTurn, RelationalTables.addTurn, map_eq_ok_iff, ite_throw_eq_ok_iff,
      bind_eq_ok_iff, pure_eq_ok_iff] at h
    obtain ⟨-, ⟨-, -, r, hr, rfl⟩, hk⟩ := h
    simp only [keepRows, Prod.mk.injEq] at hk
    obtain ⟨rfl, rfl⟩ := hk
    exact ⟨TurnRow.round_toTurn hr, by simp [ledger, RelationalTables.ledger, TurnRow.round]⟩

theorem ledger_addMessage {game turn player : Id} {content : String} {stamp : Stamp}
    {message : Message} (h : s.addMessage game turn player content stamp = .ok (message, s')) :
    message.line = ⟨stamp.id, game, turn, player, content⟩ ∧
      s'.ledger = { s.ledger with
        lines := s.ledger.lines ++ [⟨stamp.id, game, turn, player, content⟩] } := by
  cases s with
  | memory m =>
    simp only [addMessage, keep, MemoryTables.addMessage, Except.ok.injEq, Prod.mk.injEq] at h
    obtain ⟨rfl, rfl⟩ := h
    simp [ledger, MemoryTables.ledger, Message.line]
  | relational t =>
    simp only [addMessage, RelationalTables.addMessage, map_eq_ok_iff, ite_throw_eq_ok_iff,
      bind_eq_ok_iff, pure_eq_ok_iff] at h
    obtain ⟨-, ⟨-, -, r, hr, rfl⟩, hk⟩ := h
    simp only [keepRows, Prod.mk.injEq] at hk
    obtain ⟨rfl, rfl⟩ := hk
    exact ⟨MessageRow.line_toMessage hr, by simp [ledger, RelationalTables.ledger, MessageRow.line]⟩

theorem ledger_addScore {award : Award} {time : Instant}
    (h : s.addScore award time = .ok s') :
    s'.ledger = { s.ledger with awards := s.ledger.awards ++ [award] } := by
  cases s with
  | memory m =>
    simp only [addScore] at h
    split at h
    · cases h
    · cases h
      simp [ledger, MemoryTables.ledger, MemoryTables.addScore]
  | relational t =>
    simp only [addScore, RelationalTables.addScore, map_eq_ok_iff, ite_throw_eq_ok_iff,
      pure_eq_ok_iff] at h
    obtain ⟨-, ⟨-, rfl⟩, rfl⟩ := h
    simp [ledger, RelationalTables.ledger, ScoreRow.award, Cell.number]

end Store

@[simp] theorem WorkUnit.ledger_commit (u : WorkUnit) : u.commit.ledger = u.draft.ledger := by
  obtain ⟨base, draft⟩ := u
  cases draft <;> rfl

@[simp] theorem WorkUnit.ledger_abandon (u : WorkUnit) : u.abandon.ledger = u.base.ledger := by
  obtain ⟨base, draft⟩ := u
  cases base <;> rfl

/-! ## Looks -/

namespace Store

variable {s : Store}

theorem findWord_eq (s : Store) (id : Id) : s.findWord id = s.ledger.words.find? (·.id == id) := by
  cases s <;> rfl

theorem mem_allWords (s : Store) (word : Word) : word ∈ s.allWords ↔ word ∈ s.ledger.words := by
  cases s with
  | memory m => rfl
  | relational t => exact (perm_orderedBy Word.id t.words).mem_iff

theorem id_of_findUser {id : Id} {user : User} (h : s.findUser id = .ok (some user)) :
    user.id = id ∧ id ∈ s.ledger.users := by
  cases s with
  | memory m =>
    simp only [findUser, MemoryTables.findUser, Except.ok.injEq] at h
    have e : user.id = id := by simpa using List.find?_some h
    exact ⟨e, e ▸ List.mem_map_of_mem (List.mem_of_find?_eq_some h)⟩
  | relational t =>
    simp only [findUser, RelationalTables.findUser] at h
    split at h
    · rename_i r found
      simp only [map_eq_ok_iff, Option.some.injEq, exists_eq_right] at h
      simp only [UserRow.toUser, bind_eq_ok_iff, pure_eq_ok_iff] at h
      obtain ⟨-, -, -, -, rfl⟩ := h
      have e : r.id = id := by simpa using List.find?_some found
      exact ⟨e, e ▸ List.mem_map_of_mem (List.mem_of_find?_eq_some found)⟩
    · cases h

theorem mem_games_of_findGame {id : Id} {game : Game} (h : s.findGame id = .ok (some game)) :
    id ∈ s.ledger.games := by
  cases s with
  | memory m =>
    simp only [findGame, MemoryTables.findGame, Except.ok.injEq] at h
    have e : game.id = id := by simpa using List.find?_some h
    exact e ▸ List.mem_map_of_mem (List.mem_of_find?_eq_some h)
  | relational t =>
    simp only [findGame, RelationalTables.findGame] at h
    split at h
    · rename_i r found
      have e : r.id = id := by simpa using List.find?_some found
      exact e ▸ List.mem_map_of_mem (List.mem_of_find?_eq_some found)
    · cases h

theorem mem_rounds_of_latestTurn {game : Id} {turn : Turn}
    (h : s.latestTurn game = .ok (some turn)) :
    turn.round ∈ s.ledger.rounds ∧ turn.gameId = game := by
  cases s with
  | memory m =>
    simp only [latestTurn, MemoryTables.latestTurn, Except.ok.injEq] at h
    have mem := List.mem_filter.1 (List.mem_of_getLast? h)
    exact ⟨List.mem_map_of_mem mem.1, by simpa using mem.2⟩
  | relational t =>
    simp only [latestTurn, RelationalTables.latestTurn] at h
    split at h
    · rename_i r last
      simp only [map_eq_ok_iff, Option.some.injEq, exists_eq_right] at h
      have mem := List.mem_filter.1
        ((perm_orderedBy TurnRow.createdAt _).mem_iff.1 (List.mem_of_getLast? last))
      have e := TurnRow.round_toTurn h
      refine ⟨e ▸ List.mem_map_of_mem mem.1, ?_⟩
      have : turn.gameId = r.gameId := congrArg Round.gameId e
      rw [this]
      simpa using mem.2
    · cases h

theorem perm_messages {game : Id} {messages : List Message} (h : s.messages game = .ok messages) :
    (messages.map Message.line).Perm (s.ledger.lines.filter (·.gameId == game)) := by
  cases s with
  | memory m =>
    simp only [Store.messages, MemoryTables.messagesOf, Except.ok.injEq] at h
    subst h
    simp only [ledger, MemoryTables.ledger, List.filter_map, Function.comp_def]
    exact List.Perm.refl _
  | relational t =>
    simp only [Store.messages, RelationalTables.messagesOf] at h
    rw [map_of_mapM_eq_ok (fun _ _ => MessageRow.line_toMessage) h]
    apply ((perm_orderedBy MessageRow.createdAt _).map MessageRow.line).trans
    simp only [ledger, RelationalTables.ledger, List.filter_map, Function.comp_def]
    exact List.Perm.refl _

theorem perm_scores {game : Id} {scores : List Score} (h : s.scores game = .ok scores) :
    (scores.map (·.toAward)).Perm (s.ledger.awards.filter (·.gameId == game)) := by
  cases s with
  | memory m =>
    simp only [Store.scores, MemoryTables.scoresOf, Except.ok.injEq] at h
    subst h
    simp only [ledger, MemoryTables.ledger, List.filter_map, Function.comp_def]
    exact List.Perm.refl _
  | relational t =>
    simp only [Store.scores, RelationalTables.scoresOf, bind_eq_ok_iff] at h
    obtain ⟨rows, hrows, h⟩ := h
    have numbers : ∀ (r : ScoreRow) (x : ScoreRow × Int),
        (r.points.toInt.map fun points => (r, points)) = .ok x →
          (⟨x.1.gameId, x.1.turnId, x.1.playerId, x.1.messageId, x.2⟩ : Award) = r.award := by
      intro r x hx
      simp only [map_eq_ok_iff] at hx
      obtain ⟨n, hn, rfl⟩ := hx
      unfold Cell.toInt at hn
      split at hn <;> cases hn
      rename_i c
      simp [ScoreRow.award, c, Cell.number]
    have awards : ∀ (x : ScoreRow × Int) (a : Score), x.1.toScore x.2 = .ok a →
        a.toAward = ⟨x.1.gameId, x.1.turnId, x.1.playerId, x.1.messageId, x.2⟩ := by
      intro x a ha
      simp only [ScoreRow.toScore, bind_eq_ok_iff, pure_eq_ok_iff] at ha
      obtain ⟨-, -, rfl⟩ := ha
      rfl
    have e := (map_of_mapM_eq_ok awards h).trans (map_of_mapM_eq_ok numbers hrows)
    rw [e]
    have p := (perm_orderedBy ScoreRow.createdAt (t.scores.filter (·.gameId == game))).map
      ScoreRow.award
    apply p.trans
    simp only [ledger, RelationalTables.ledger, List.filter_map, Function.comp_def,
      ScoreRow.award]
    exact List.Perm.refl _

/-- Who has found the word can be read off the awards. -/
theorem hasGuessed_eq_hasFound {game : Id} {scores : List Score} (h : s.scores game = .ok scores)
    (player turn : Id) :
    Board.hasGuessed scores player turn = s.ledger.hasFound game player turn := by
  have rows : Board.hasGuessed scores player turn =
      (scores.map (·.toAward)).any fun a => a.playerId == player && a.turnId == turn := by
    rw [List.any_map]
    rfl
  rw [rows, (perm_scores h).any_eq, List.any_filter]
  rfl

end Store

end GuessingRoom
