import GuessingRoom.Proofs.Requests

/-!
# Models without their times

What is the same in two models that differ at most in their times. Whoever is looked up, counted or
shown, the times have no part in it: a look at tables without times gives what the look at the tables
gives, without its times, and a view is derived the same (`View.derive_timeless`).
-/

namespace GuessingRoom

open Time (Instant)

/-- An instant to stand for any other. -/
def Time.Instant.whenever : Instant := Supply.tick 0

def User.timeless (u : User) : User := { u with createdAt := .whenever, updatedAt := .whenever }

def Game.timeless (g : Game) : Game := { g with createdAt := .whenever, updatedAt := .whenever }

def Player.timeless (p : Player) : Player := { p with joinedAt := .whenever }

def Membership.timeless (m : Membership) : Membership := { m with player := m.player.timeless }

def Turn.timeless (t : Turn) : Turn := { t with createdAt := .whenever }

def Message.timeless (m : Message) : Message := { m with createdAt := .whenever }

def Score.timeless (s : Score) : Score := { s with createdAt := .whenever }

def Answer.timeless : Answer → Answer
  | user u => user u.timeless
  | game g => game g.timeless
  | a => a

/-! ## The same but for times -/

theorem User.same_of_timeless {u u' : User} (h : u'.timeless = u.timeless) :
    u'.id = u.id ∧ u'.nickname = u.nickname :=
  ⟨(congrArg User.id h :), (congrArg User.nickname h :)⟩

theorem Game.same_of_timeless {g g' : Game} (h : g'.timeless = g.timeless) : g'.id = g.id :=
  (congrArg Game.id h :)

theorem Turn.same_of_timeless {t t' : Turn} (h : t'.timeless = t.timeless) :
    t'.id = t.id ∧ t'.wordId = t.wordId :=
  ⟨(congrArg Turn.id h :), (congrArg Turn.wordId h :)⟩

theorem Message.same_of_timeless {m m' : Message} (h : m'.timeless = m.timeless) :
    m'.id = m.id ∧ m'.gameId = m.gameId ∧ m'.playerId = m.playerId ∧ m'.content = m.content :=
  ⟨(congrArg Message.id h :), (congrArg Message.gameId h :), (congrArg Message.playerId h :),
    (congrArg Message.content h :)⟩

/-! ## Tables -/

namespace MemoryTables

def timeless (t : MemoryTables) : MemoryTables where
  users := t.users.map User.timeless
  games := t.games.map Game.timeless
  memberships := t.memberships.map Membership.timeless
  turns := t.turns.map Turn.timeless
  messages := t.messages.map Message.timeless
  scores := t.scores.map Score.timeless

variable (t : MemoryTables)

/-! ## Looks -/

theorem findUser_timeless (id : Id) : t.timeless.findUser id = (t.findUser id).map User.timeless :=
  List.find?_map

theorem findGame_timeless (id : Id) : t.timeless.findGame id = (t.findGame id).map Game.timeless :=
  List.find?_map

theorem players_timeless (game : Id) :
    t.timeless.players game = (t.players game).map Player.timeless := by
  simp only [players, timeless, List.filter_map, List.map_map]
  rfl

theorem latestTurn_timeless (game : Id) :
    t.timeless.latestTurn game = (t.latestTurn game).map Turn.timeless := by
  simp only [latestTurn, timeless, List.filter_map, List.getLast?_map]
  rfl

theorem messagesOf_timeless (game : Id) :
    t.timeless.messagesOf game = (t.messagesOf game).map Message.timeless := by
  simp only [messagesOf, timeless, List.filter_map]
  rfl

theorem scoresOf_timeless (game : Id) :
    t.timeless.scoresOf game = (t.scoresOf game).map Score.timeless := by
  simp only [scoresOf, timeless, List.filter_map]
  rfl

/-! ## Writes -/

theorem timeless_addUser (u : User) :
    ({ t with users := t.users ++ [u] }).timeless =
      { t.timeless with users := t.timeless.users ++ [u.timeless] } := by
  simp only [timeless, List.map_append, List.map_cons, List.map_nil]

theorem timeless_createGame (s : Stamp) : (t.createGame s).2.timeless =
    { t.timeless with games := t.timeless.games ++ [⟨s.id, .whenever, .whenever⟩] } := by
  simp only [timeless, createGame, List.map_append, List.map_cons, List.map_nil, Game.timeless]

theorem timeless_addMembership (m : Membership) :
    ({ t with memberships := t.memberships ++ [m] }).timeless =
      { t.timeless with memberships := t.timeless.memberships ++ [m.timeless] } := by
  simp only [timeless, List.map_append, List.map_cons, List.map_nil]

theorem timeless_setState (game user : Id) (state : PlayerState) :
    (t.setState game user state).map timeless = t.timeless.setState game user state := by
  have same (m : Membership) : (if m.isOf game user then m.withState state else m).timeless =
      if m.timeless.isOf game user then m.timeless.withState state else m.timeless := by
    show _ = if m.isOf game user then _ else _
    split <;> rfl
  have there : t.timeless.memberships.any (·.isOf game user) =
      t.memberships.any (·.isOf game user) := List.any_map
  unfold setState
  rw [there]
  split
  · refine congrArg Except.ok ?_
    simp only [timeless, List.map_map, Function.comp_def, same]
  · rfl

theorem timeless_addTurn (game word : Id) (s : Stamp) : (t.addTurn game word s).2.timeless =
    { t.timeless with turns := t.timeless.turns ++ [⟨s.id, game, word, .whenever⟩] } := by
  simp only [timeless, addTurn, List.map_append, List.map_cons, List.map_nil, Turn.timeless]

theorem timeless_addMessage (game turn player : Id) (content : String) (s : Stamp) :
    (t.addMessage game turn player content s).2.timeless = { t.timeless with
      messages := t.timeless.messages ++ [⟨s.id, game, turn, player, content, .whenever⟩] } := by
  simp only [timeless, addMessage, List.map_append, List.map_cons, List.map_nil, Message.timeless]

theorem timeless_addScore (award : Award) (time : Instant) : (t.addScore award time).timeless =
    { t.timeless with scores := t.timeless.scores ++ [⟨award, .whenever⟩] } := by
  simp only [timeless, addScore, List.map_append, List.map_cons, List.map_nil, Score.timeless]

end MemoryTables

/-! ## What is made of looks -/

section Blind

variable {players players' : List Player} {scores scores' : List Score} {messages : List Message}

theorem filter_isActive_timeless (players : List Player) :
    (players.map Player.timeless).filter Player.isActive =
      (players.filter Player.isActive).map Player.timeless := List.filter_map

theorem any_isActive_timeless (user : Id) (players : List Player) :
    (players.map Player.timeless).any (·.id == user) = players.any (·.id == user) := List.any_map

theorem find_player_timeless (user : Id) (players : List Player) :
    (players.map Player.timeless).find? (·.id == user) =
      (players.find? (·.id == user)).map Player.timeless := List.find?_map

theorem Board.isSeated_timeless (user : Id) (players : List Player) :
    isSeated (players.map Player.timeless) user = isSeated players user := List.any_map

theorem Board.hasGuessed_timeless (player turn : Id) (scores : List Score) :
    hasGuessed (scores.map Score.timeless) player turn = hasGuessed scores player turn :=
  List.any_map

theorem Entry.guessedCount_timeless (guesser turn : Id) (active : List Player)
    (scores : List Score) :
    guessedCount (active.map Player.timeless) (scores.map Score.timeless) guesser turn =
      guessedCount active scores guesser turn := by
  simp only [guessedCount, Board.hasGuessed_timeless, List.filter_map, List.length_map]
  rfl

theorem Board.totalScore_timeless (player : Id) (scores : List Score) :
    totalScore (scores.map Score.timeless) player = totalScore scores player := by
  simp only [totalScore, List.filter_map, List.foldr_map]
  rfl

theorem View.nicknameOf_timeless (player : Id) (players : List Player) :
    nicknameOf (players.map Player.timeless) player = nicknameOf players player := by
  unfold nicknameOf
  rw [← List.map_reverse, find_player_timeless]
  cases players.reverse.find? (·.id == player) <;> rfl

/-- No time is shown in a view. -/
theorem View.derive_timeless (game viewer : Id) (turn : Turn) (word : Word) (players : List Player)
    (messages : List Message) (scores : List Score) :
    derive ⟨game, players.map Player.timeless, turn.timeless, word,
      messages.map Message.timeless, scores.map Score.timeless⟩ viewer =
        derive ⟨game, players, turn, word, messages, scores⟩ viewer := by
  have shown : (messages.map Message.timeless).reverse.map
      (post (players.map Player.timeless) word.word viewer) =
        messages.reverse.map (post players word.word viewer) := by
    rw [← List.map_reverse, List.map_map]
    apply List.map_congr_left
    intro m _
    simp only [Function.comp_apply, post, nicknameOf_timeless]
    rfl
  have standings : Board.leaderboard ((players.filter Player.isActive).map Player.timeless)
      (scores.map Score.timeless) turn.id viewer =
        Board.leaderboard (players.filter Player.isActive) scores turn.id viewer := by
    simp only [Board.leaderboard, List.map_map]
    apply List.map_congr_left
    intro p _
    simp only [Function.comp_apply, Board.standing, Board.hasGuessed_timeless,
      Board.totalScore_timeless]
    rfl
  have ended : Board.isTurnEnded ((players.filter Player.isActive).map Player.timeless)
      (scores.map Score.timeless) turn.id =
        Board.isTurnEnded (players.filter Player.isActive) scores turn.id := by
    simp only [Board.isTurnEnded, List.all_map, Board.hasGuessed_timeless]
    rfl
  simp only [derive, Board.activePlayers, filter_isActive_timeless, any_isActive_timeless, shown,
    shownWord, Board.hasGuessed_timeless, Turn.timeless, standings, ended]

end Blind

end GuessingRoom
