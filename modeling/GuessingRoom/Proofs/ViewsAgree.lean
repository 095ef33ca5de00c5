import Mathlib.Algebra.BigOperators.Group.List.Basic
import Mathlib.Algebra.Ring.Int.Defs
import GuessingRoom.Proofs.Discretion
import GuessingRoom.Proofs.Posts

/-!
# Views of one game

Each player has an own view of the game, but they are views of one and the same game: they agree on
everything that is there for all (`View.SameGame`), and each is right about its viewer and the
messages (`View.Faithful`). Main statement: so it is for every two active players of a game in which
nobody has two seats, and the order in which scores are kept makes no difference
(`View.views_agree`).
-/

namespace GuessingRoom

/-! ## The board -/

namespace Board

theorem hasGuessed_perm {scores scores' : List Score} (perm : scores.Perm scores') (player turn : Id) :
    hasGuessed scores player turn = hasGuessed scores' player turn :=
  perm.any_eq

theorem totalScore_eq_sum (scores : List Score) (player : Id) :
    totalScore scores player = ((scores.filter (·.playerId == player)).map (·.points)).sum := by
  unfold totalScore
  rw [List.sum_eq_foldr, List.foldr_map]

theorem totalScore_perm {scores scores' : List Score} (perm : scores.Perm scores') (player : Id) :
    totalScore scores player = totalScore scores' player := by
  rw [totalScore_eq_sum, totalScore_eq_sum]
  exact ((perm.filter _).map _).sum_eq

theorem standing_perm {scores scores' : List Score} (perm : scores.Perm scores') (turn viewer : Id) :
    standing scores turn viewer = standing scores' turn viewer := by
  funext p
  unfold standing
  rw [hasGuessed_perm perm, totalScore_perm perm]

theorem isTurnEnded_perm {scores scores' : List Score} (perm : scores.Perm scores')
    (active : List Player) (turn : Id) :
    isTurnEnded active scores turn = isTurnEnded active scores' turn := by
  unfold isTurnEnded
  simp only [hasGuessed_perm perm]

variable {players : List Player} {scores : List Score} {turn viewer : Id}

theorem isTurnEnded_iff_leaderboard (viewer : Id) : isTurnEnded players scores turn = true ↔
    ∀ x ∈ leaderboard players scores turn viewer, x.guessedWord = true := by
  simp [isTurnEnded, leaderboard, standing]

theorem filter_id_of_nodup (distinct : (players.map (·.id)).Nodup) {p : Player} (mem : p ∈ players) :
    players.filter (·.id == p.id) = [p] := by
  obtain ⟨before, after, rfl⟩ := List.append_of_mem mem
  have others : ∀ q ∈ before ++ after, (q.id == p.id) = false := by
    intro q there
    have apart : p.id ∉ (before ++ after).map (·.id) := by
      rw [List.map_append, List.map_cons, List.nodup_middle] at distinct
      rw [List.map_append]
      exact (List.nodup_cons.1 distinct).1
    rw [beq_eq_false_iff_ne]
    intro same
    exact apart (same ▸ List.mem_map_of_mem there)
  rw [List.forall_mem_append] at others
  rw [List.filter_append, List.filter_cons_of_pos (by simp),
    List.filter_eq_nil_iff.2 fun q there => by simp [others.1 q there],
    List.filter_eq_nil_iff.2 fun q there => by simp [others.2 q there], List.nil_append]

/-- A player with a single seat has a single line of the own board. -/
theorem filter_me_leaderboard (distinct : (players.map (·.id)).Nodup) {p : Player}
    (mem : p ∈ players) (own : p.id = viewer) :
    (leaderboard players scores turn viewer).filter (·.me) = [standing scores turn viewer p] := by
  subst own
  unfold leaderboard
  rw [List.filter_map]
  exact congrArg (List.map (standing scores turn p.id)) (filter_id_of_nodup distinct mem)

end Board

namespace View

/-! ## Posts -/

variable {players : List Player}

theorem nicknameOf_of_mem (distinct : (players.map (·.id)).Nodup) {p : Player} (mem : p ∈ players) :
    nicknameOf players p.id = p.nickname := by
  have first : players.reverse.find? (·.id == p.id) = some p := by
    rw [← List.head?_filter, List.filter_reverse, Board.filter_id_of_nodup distinct mem]
    rfl
  unfold nicknameOf
  rw [first]

theorem nicknameOf_of_stranger {id : Id} (stranger : ∀ p ∈ players, p.id ≠ id) :
    nicknameOf players id = "" := by
  have none : players.reverse.find? (·.id == id) = none :=
    List.find?_eq_none.2 fun p mem => by simpa using stranger p (List.mem_reverse.1 mem)
  unfold nicknameOf
  rw [none]

/-- The post shows the message to the viewer: it has its author's nickname, and its text but for one
that spells out the secret and is not the viewer's own. -/
structure Displays (s : Snapshot) (viewer : Id) (m : Message) (p : Post) : Prop where
  mine : p.me = true ↔ m.playerId = viewer
  author : ∀ q ∈ s.players, q.id = m.playerId → p.nickname = q.nickname
  stranger : (∀ q ∈ s.players, q.id ≠ m.playerId) → p.nickname = ""
  own : m.playerId = viewer → p.content = m.content
  plain : Secret.sameWord m.content s.word.word = false → p.content = m.content
  covered : m.playerId ≠ viewer → Secret.sameWord m.content s.word.word = true → p.content = "***"

theorem displays_post {s : Snapshot} (distinct : (s.players.map (·.id)).Nodup) (viewer : Id)
    (m : Message) : Displays s viewer m (post s.players s.word.word viewer m) where
  mine := beq_iff_eq
  author := by
    intro q mem same
    rw [← nicknameOf_of_mem distinct mem, same]
    rfl
  stranger := nicknameOf_of_stranger
  own := by
    rintro rfl
    exact Secret.visibleContent_self ..
  plain := Secret.visibleContent_of_not_sameWord
  covered := Secret.visibleContent_of_sameWord

/-- Of what somebody reads, others are kept from the secret alone. -/
theorem Displays.differ {s : Snapshot} {v w : Id} {m : Message} {p q : Post}
    (left : Displays s v m p) (right : Displays s w m q) (differ : p.content ≠ q.content) :
    (m.playerId = v ∨ m.playerId = w) ∧ Secret.sameWord m.content s.word.word = true := by
  cases same : Secret.sameWord m.content s.word.word with
  | false => exact absurd ((left.plain same).trans (right.plain same).symm) differ
  | true =>
    refine ⟨?_, rfl⟩
    by_contra neither
    rw [not_or] at neither
    exact differ ((left.covered neither.1 same).trans (right.covered neither.2 same).symm)

/-! ## One game seen by two -/

/-- What a board tells everybody of a player. -/
def shared (x : Standing) : String × Int × Bool := (x.nickname, x.score, x.guessedWord)

/-- Two views have in common whatever does not depend on who looks. -/
structure SameGame (a b : View) : Prop where
  game : a.gameId = b.gameId
  turn : a.turnId = b.turnId
  hint : a.hint = b.hint
  ended : a.turnEnded = b.turnEnded
  board : a.leaderboard.map shared = b.leaderboard.map shared
  authors : a.messages.map (·.nickname) = b.messages.map (·.nickname)

/-- The view is right about its viewer, about the end of the turn, the word and each message. -/
structure Faithful (s : Snapshot) (viewer : Id) (a : View) : Prop where
  one_me : (a.leaderboard.filter (·.me)).length = 1
  ended : a.turnEnded = true ↔ ∀ x ∈ a.leaderboard, x.guessedWord = true
  found : ∀ x ∈ a.leaderboard, x.me = true → x.guessedWord = true → a.word = s.word.word
  masked : ∀ x ∈ a.leaderboard, x.me = true → x.guessedWord = false →
    a.word.toList = s.word.word.toList.map fun c => if Text.isWordChar c then '*' else c
  all_messages : a.messages.length = s.messages.length
  newest_first : ∀ i < s.messages.length, ∃ m p, s.messages[s.messages.length - 1 - i]? = some m ∧
    a.messages[i]? = some p ∧ Displays s viewer m p

variable {s : Snapshot}

/-- The parts of a view, and who has one. -/
theorem derive_eq (s : Snapshot) (viewer : Id) : derive s viewer =
    if Board.isSeated s.players viewer then
      .ok ⟨s.gameId, viewer, s.turn.id,
        Board.isTurnEnded (Board.activePlayers s.players) s.scores s.turn.id, shownWord s viewer,
        s.word.hint, s.messages.reverse.map (post s.players s.word.word viewer),
        Board.leaderboard (Board.activePlayers s.players) s.scores s.turn.id viewer⟩
    else .error .notInGame := by
  have seats : (Board.activePlayers s.players).any (·.id == viewer) =
      Board.isSeated s.players viewer := by
    rw [Board.activePlayers, List.any_filter]
    simp only [Board.isSeated, Bool.and_comm]
  rw [← seats]
  rfl

theorem derive_eq_ok_iff {viewer : Id} {a : View} : derive s viewer = .ok a ↔
    Board.isSeated s.players viewer = true ∧
    a = ⟨s.gameId, viewer, s.turn.id,
      Board.isTurnEnded (Board.activePlayers s.players) s.scores s.turn.id, shownWord s viewer,
      s.word.hint, s.messages.reverse.map (post s.players s.word.word viewer),
      Board.leaderboard (Board.activePlayers s.players) s.scores s.turn.id viewer⟩ := by
  rw [derive_eq]
  split
  · rename_i seated
    exact ⟨fun h => ⟨seated, (Except.ok.inj h).symm⟩, fun h => congrArg Except.ok h.2.symm⟩
  · rename_i absent
    exact ⟨fun h => absurd h (by simp), fun h => absurd h.1 absent⟩

theorem derive_of_not_seated {viewer : Id} (absent : Board.isSeated s.players viewer = false) :
    derive s viewer = .error .notInGame := by
  rw [derive_eq, absent]
  rfl

theorem sameGame {v w : Id} {a b : View} (left : derive s v = .ok a) (right : derive s w = .ok b) :
    a.SameGame b := by
  rw [(derive_eq_ok_iff.1 left).2, (derive_eq_ok_iff.1 right).2]
  refine ⟨rfl, rfl, rfl, rfl, ?_, ?_⟩
  · simp [Board.leaderboard, Board.standing, shared]
  · simp [post]

theorem faithful (distinct : (s.players.map (·.id)).Nodup) {viewer : Id} {a : View}
    (h : derive s viewer = .ok a) : a.Faithful s viewer := by
  have once : ((Board.activePlayers s.players).map (·.id)).Nodup :=
    distinct.sublist (List.filter_sublist.map _)
  obtain ⟨seated, rfl⟩ := derive_eq_ok_iff.1 h
  obtain ⟨p, mem, own⟩ := List.mem_map.1 (Board.isSeated_iff.1 seated)
  have me : (Board.leaderboard (Board.activePlayers s.players) s.scores s.turn.id viewer).filter
      (·.me) = [Board.standing s.scores s.turn.id viewer p] :=
    Board.filter_me_leaderboard once mem own
  -- the viewer's line is the only one that is the viewer's
  have line {x : Standing}
      (there : x ∈ Board.leaderboard (Board.activePlayers s.players) s.scores s.turn.id viewer)
      (mine : x.me = true) : x.guessedWord = Board.hasGuessed s.scores viewer s.turn.id := by
    have only := List.mem_filter.2 ⟨there, mine⟩
    rw [me, List.mem_singleton] at only
    rw [only, ← own]
    rfl
  constructor
  case one_me => rw [me]; rfl
  case ended => exact Board.isTurnEnded_iff_leaderboard viewer
  case found =>
    intro x there mine found
    rw [line there mine] at found
    exact if_pos found
  case masked =>
    intro x there mine lacks
    rw [line there mine] at lacks
    show (shownWord s viewer).toList = _
    rw [shownWord, lacks, if_neg (by simp), Secret.mask, String.toList_ofList]
    rfl
  case all_messages => simp
  case newest_first =>
    intro i short
    have there : s.messages.length - 1 - i < s.messages.length := by omega
    refine ⟨s.messages[s.messages.length - 1 - i], _, List.getElem?_eq_getElem there, ?_,
      displays_post distinct viewer _⟩
    rw [List.getElem?_map, List.getElem?_reverse short, List.getElem?_eq_getElem there,
      Option.map_some]

theorem derive_perm {scores : List Score} (perm : s.scores.Perm scores) (viewer : Id) :
    derive { s with scores := scores } viewer = derive s viewer := by
  rw [derive_eq, derive_eq]
  unfold shownWord Board.leaderboard
  dsimp only
  rw [Board.isTurnEnded_perm perm, Board.hasGuessed_perm perm, Board.standing_perm perm]

/-- Where nobody has two seats, the active players of a game have views and nobody else has; any two
of them agree on the game, each is faithful to its viewer, they differ in a message only if one of the
two wrote it and it is the secret, and it does not matter in which order the scores stand. -/
theorem views_agree (s : Snapshot) (distinct : (s.players.map (·.id)).Nodup) :
    (∀ v, Board.isSeated s.players v = false → derive s v = .error .notInGame) ∧
    (∀ v w, Board.isSeated s.players v = true → Board.isSeated s.players w = true →
      ∃ a b, derive s v = .ok a ∧ derive s w = .ok b ∧ a.SameGame b ∧
        a.Faithful s v ∧ b.Faithful s w ∧
        ∀ i p q m, a.messages[i]? = some p → b.messages[i]? = some q →
          s.messages[s.messages.length - 1 - i]? = some m → p.content ≠ q.content →
          (m.playerId = v ∨ m.playerId = w) ∧ Secret.sameWord m.content s.word.word = true) ∧
    (∀ scores, s.scores.Perm scores → ∀ v, derive { s with scores := scores } v = derive s v) := by
  refine ⟨fun v absent => derive_of_not_seated absent, fun v w seated seated' => ?_,
    fun scores perm v => derive_perm perm v⟩
  obtain ⟨a, left⟩ := exists_derive seated
  obtain ⟨b, right⟩ := exists_derive seated'
  have faithful_a := faithful distinct left
  have faithful_b := faithful distinct right
  refine ⟨a, b, left, right, sameGame left right, faithful_a, faithful_b, ?_⟩
  intro i p q m at_a at_b stored differ
  have short : i < s.messages.length := by
    rw [← faithful_a.all_messages]
    exact (List.getElem?_eq_some_iff.1 at_a).1
  obtain ⟨m', p', stored', at_a', left'⟩ := faithful_a.newest_first i short
  obtain ⟨m'', q', stored'', at_b', right'⟩ := faithful_b.newest_first i short
  obtain rfl := Option.some.inj (stored.symm.trans stored')
  obtain rfl := Option.some.inj (stored.symm.trans stored'')
  obtain rfl := Option.some.inj (at_a.symm.trans at_a')
  obtain rfl := Option.some.inj (at_b.symm.trans at_b')
  exact left'.differ right' differ

/-- A game about a cat with three seats: Ann has found the word, Bob has not, and Cleo has left after
she had found it first. -/
def threeSeats (now : Time.Instant) : Snapshot where
  gameId := "g"
  players := [⟨"cleo", "Cleo", .inactive, now⟩, ⟨"ann", "Ann", .active, now⟩,
    ⟨"bob", "Bob", .active, now⟩]
  turn := ⟨"t", "g", "w", now⟩
  word := ⟨"w", "Big Cat", "🐈"⟩
  messages := [⟨"m1", "g", "t", "cleo", "big cat", now⟩, ⟨"m2", "g", "t", "bob", "cow", now⟩,
    ⟨"m3", "g", "t", "ann", "Big Cat", now⟩]
  scores := [⟨⟨"g", "t", "cleo", "m1", 30⟩, now⟩, ⟨⟨"g", "t", "ann", "m3", 10⟩, now⟩]

theorem views_agree_on_three_seats :
    let s := threeSeats (Supply.tick 0)
    (s.players.map (·.id)).Nodup ∧ derive s "cleo" = .error .notInGame ∧
      ∃ a b, derive s "ann" = .ok a ∧ derive s "bob" = .ok b ∧ a.SameGame b ∧
        a.Faithful s "ann" ∧ b.Faithful s "bob" ∧ a.word = "Big Cat" ∧ b.word = "*** ***" ∧
        a.messages.map (·.content) = ["Big Cat", "cow", "***"] ∧
        b.messages.map (·.content) = ["***", "cow", "***"] := by
  intro s
  have distinct : (s.players.map (·.id)).Nodup := by decide
  obtain ⟨stranger, agree, -⟩ := views_agree s distinct
  obtain ⟨a, b, left, right, same, faithful_a, faithful_b, -⟩ :=
    agree "ann" "bob" (by decide) (by decide)
  refine ⟨distinct, stranger "cleo" (by decide), a, b, left, right, same, faithful_a, faithful_b, ?_⟩
  rw [(derive_eq_ok_iff.1 left).2, (derive_eq_ok_iff.1 right).2]
  decide +kernel

end View

end GuessingRoom
