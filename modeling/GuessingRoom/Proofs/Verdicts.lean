import GuessingRoom.Proofs.Effects
import GuessingRoom.Proofs.Rooms
import GuessingRoom.Proofs.Rows

/-!
# Verdicts and views

The verdict on a guess counts how many of the active players have found the word; a view asks whether
each of them has. The two agree as long as nobody has two seats (`Judged.endsTurn_iff`). From what a
guess that was taken in one go leaves behind (`Operation.Took`) follows the main statement: a guess is
put down once, it scores exactly if it is the word and the first time, and the end of the turn is
announced exactly by the guess after which views show it (`guess_verdict_agrees_with_view`).
-/

namespace GuessingRoom

open Time (Instant)

namespace Verdict

/-- What the guess has earned. -/
def points? : Verdict → Option Int
  | scored points _ => some points
  | _ => none

end Verdict

/-! ## Counting and asking everyone -/

/-- Those who have found the word can be counted by their identifiers. -/
theorem Ledger.foundCount_eq_map (l : Ledger) (active : List Player) (game guesser turn : Id) :
    l.foundCount active game guesser turn = 1 + ((active.map (·.id)).filter fun u =>
      u != guesser && l.hasFound game u turn).length := by
  rw [List.filter_map, List.length_map]
  rfl

namespace Judged

variable {basePoints : Int} {word : Word} {active : List Player} {line : Line} {l l' : Ledger}
  {verdict : Verdict} (h : Judged basePoints word active line l verdict l')
include h

/-- The line is put down, and an award with it if the guess scores. -/
theorem ledger_eq : l' = { l with
    lines := l.lines ++ [line]
    awards := l.awards ++ (verdict.points?.map fun points =>
      (⟨line.gameId, line.turnId, line.playerId, line.id, points⟩ : Award)).toList } := by
  cases h with
  | miss | again => simp [Verdict.points?]
  | scored => rfl

theorem isSome_points : verdict.points?.isSome = true ↔
    Secret.sameWord line.content word.word = true ∧
      l.hasFound line.gameId line.playerId line.turnId = false := by
  cases h with
  | miss other => simp [Verdict.points?, other]
  | again _ found => simp [Verdict.points?, found]
  | scored _ _ same open_ => simp [Verdict.points?, same, open_]

/-- Whoever has found a word now has found it before, or with this guess. -/
theorem hasFound_iff (game user turn : Id) : l'.hasFound game user turn = true ↔
    l.hasFound game user turn = true ∨ verdict.points?.isSome = true ∧
      line.gameId = game ∧ line.playerId = user ∧ line.turnId = turn := by
  rw [h.ledger_eq, Ledger.hasFound_iff, Ledger.hasFound_iff]
  cases verdict.points? with
  | none => simp
  | some points =>
    simp only [Option.map_some, Option.toList_some, List.mem_append, List.mem_singleton, or_and_right,
      exists_or, exists_eq_left, Option.isSome_some, true_and]

/-- The counts are equal exactly if everyone has the word now and somebody had not before. -/
theorem endsTurn_iff (distinct : (active.map (·.id)).Nodup)
    (seated : line.playerId ∈ active.map (·.id)) : verdict.endsTurn = true ↔
      (active.all fun p => l.hasFound line.gameId p.id line.turnId) = false ∧
      (active.all fun p => l'.hasFound line.gameId p.id line.turnId) = true := by
  have unchanged {a b : Bool} (same : b = a) : false = true ↔ a = false ∧ b = true := by
    rw [same]
    cases a <;> simp
  have later := h.hasFound_iff line.gameId
  cases h with
  | miss | again => exact unchanged rfl
  | scored points turnOver same open_ worth ends =>
    have before : (active.all fun p => l.hasFound line.gameId p.id line.turnId) = false := by
      obtain ⟨p, mem, own⟩ := List.mem_map.1 seated
      exact List.all_eq_false.2 ⟨p, mem, by rw [own, open_]; decide⟩
    have count := l.foundCount_eq_map active line.gameId line.playerId line.turnId
    have others := RoomStep.count_eq_length_iff distinct seated
      fun u => l.hasFound line.gameId u line.turnId
    rw [List.length_map, ← count, ← ends] at others
    rw [show (Verdict.scored points turnOver).endsTurn = turnOver from rfl, others, before]
    simp only [true_and, List.all_eq_true, later, Verdict.points?, Option.isSome_some,
      and_true]
    constructor
    · intro all p mem
      by_cases own : line.playerId = p.id
      · exact .inr own
      · exact .inl (all p.id (List.mem_map_of_mem mem) (Ne.symm own))
    · intro all u mem other
      obtain ⟨p, there, rfl⟩ := List.mem_map.1 mem
      exact (all p there).resolve_right (Ne.symm other)

end Judged

/-! ## What is shown after a guess -/

namespace Store

/-- Players and turns of all games are shown as before. -/
structure SameRooms (s s' : Store) : Prop where
  players : s'.players = s.players
  latestTurn : s'.latestTurn = s.latestTurn

variable {s s' s'' : Store}

theorem SameRooms.trans (h : s.SameRooms s') (h' : s'.SameRooms s'') : s.SameRooms s'' :=
  ⟨h'.players.trans h.players, h'.latestTurn.trans h.latestTurn⟩

theorem SameRooms.activePlayers (h : s.SameRooms s') : s'.activePlayers = s.activePlayers := by
  funext game
  unfold Store.activePlayers
  rw [h.players]

theorem sameRooms_addMessage {game turn player : Id} {content : String} {stamp : Stamp} {m : Message}
    (w : s.addMessage game turn player content stamp = .ok (m, s')) :
    s.SameRooms s' ∧ s'.scores = s.scores := by
  cases s with
  | memory =>
    cases w
    exact ⟨⟨rfl, rfl⟩, rfl⟩
  | relational t =>
    simp only [Store.addMessage, RelationalTables.addMessage, map_eq_ok_iff, ite_throw_eq_ok_iff,
      bind_eq_ok_iff, pure_eq_ok_iff] at w
    obtain ⟨_, ⟨-, -, _, -, rfl⟩, kept⟩ := w
    cases kept
    exact ⟨⟨rfl, rfl⟩, rfl⟩

theorem sameRooms_addScore {award : Award} {time : Instant} (w : s.addScore award time = .ok s') :
    s.SameRooms s' := by
  cases s with
  | memory m =>
    simp only [Store.addScore] at w
    split at w <;> cases w
    exact ⟨rfl, rfl⟩
  | relational t =>
    simp only [Store.addScore, RelationalTables.addScore, map_eq_ok_iff, ite_throw_eq_ok_iff,
      pure_eq_ok_iff] at w
    obtain ⟨-, ⟨-, rfl⟩, rfl⟩ := w
    exact ⟨rfl, rfl⟩

theorem sameRooms_commit (base : Store) : s.SameRooms (WorkUnit.commit ⟨base, s⟩) ∧
    (WorkUnit.commit ⟨base, s⟩).scores = s.scores := by
  have alike := readsAlike_of_rows (WorkUnit.rows_commit ⟨base, s⟩)
  exact ⟨⟨funext alike.players, funext alike.latestTurn⟩, funext alike.scores⟩

end Store

/-- The points and the time in the row can be read. -/
def ScoreRow.IsLegible (r : ScoreRow) : Prop :=
  ∃ points score, r.points.toInt = .ok points ∧ r.toScore points = .ok score

/-- A list can be read in two goes exactly if each of its items can. -/
theorem exists_mapM_mapM_iff {ε α β γ : Type} {f : α → Except ε β} {g : β → Except ε γ}
    {l : List α} : (∃ bs, l.mapM f = .ok bs ∧ ∃ cs, bs.mapM g = .ok cs) ↔
      ∀ a ∈ l, ∃ b, f a = .ok b ∧ ∃ c, g b = .ok c := by
  induction l with
  | nil => exact ⟨fun _ _ mem => absurd mem List.not_mem_nil, fun _ => ⟨[], rfl, [], rfl⟩⟩
  | cons a l ih =>
    rw [List.forall_mem_cons, ← ih]
    simp only [List.mapM_cons, bind_eq_ok_iff, pure_eq_ok_iff]
    constructor
    · rintro ⟨_, ⟨b, first, bs, rest, rfl⟩, cs, read⟩
      simp only [List.mapM_cons, bind_eq_ok_iff, pure_eq_ok_iff] at read
      obtain ⟨c, second, cs', others, -⟩ := read
      exact ⟨⟨b, first, c, second⟩, bs, rest, cs', others⟩
    · rintro ⟨⟨b, first, c, second⟩, bs, rest, cs, others⟩
      refine ⟨b :: bs, ⟨b, first, bs, rest, rfl⟩, c :: cs, ?_⟩
      simp only [List.mapM_cons, bind_eq_ok_iff, pure_eq_ok_iff]
      exact ⟨c, second, cs, others, rfl⟩

theorem RelationalTables.exists_scoresOf_iff {t : RelationalTables} {game : Id} :
    (∃ scores, t.scoresOf game = .ok scores) ↔
      ∀ r ∈ t.scores, r.gameId = game → r.IsLegible := by
  unfold RelationalTables.scoresOf
  simp only [bind_eq_ok_iff]
  rw [exists_comm]
  simp only [exists_and_left]
  rw [exists_mapM_mapM_iff]
  simp only [(perm_orderedBy _ _).mem_iff, List.mem_filter, beq_iff_eq, and_imp, map_eq_ok_iff,
    ScoreRow.IsLegible]
  refine forall₃_congr fun r _ _ => ?_
  constructor
  · rintro ⟨_, ⟨points, read, rfl⟩, score, whole⟩
    exact ⟨points, score, read, whole⟩
  · rintro ⟨points, score, read, whole⟩
    exact ⟨_, ⟨points, read, rfl⟩, score, whole⟩

/-- If the scores of a game can be read, then also with a further one. -/
theorem Store.exists_scores_addScore {s s' : Store} {award : Award} {time : Instant} {game : Id}
    (storable : isStorable time) (read : ∃ scores, s.scores game = .ok scores)
    (w : s.addScore award time = .ok s') : ∃ scores, s'.scores game = .ok scores := by
  cases s with
  | memory m =>
    simp only [Store.addScore] at w
    split at w <;> cases w
    exact ⟨_, rfl⟩
  | relational t =>
    simp only [Store.addScore, RelationalTables.addScore, map_eq_ok_iff, ite_throw_eq_ok_iff,
      pure_eq_ok_iff] at w
    obtain ⟨-, ⟨-, rfl⟩, rfl⟩ := w
    refine RelationalTables.exists_scoresOf_iff.2 fun r mem here => ?_
    rcases List.mem_append.1 mem with old | new
    · exact RelationalTables.exists_scoresOf_iff.1 read r old here
    · rw [List.mem_singleton.1 new]
      refine ⟨award.points, ⟨award, time.floorMicro⟩, rfl, ?_⟩
      simp only [ScoreRow.toScore, parseTime_stored storable]
      rfl

/-! ## What a guess looks at and leaves -/

namespace Entry

variable {b b' : Books}

/-- Seats and turns are shown as before, and the scores of the game too unless the guess scores; if it
does, they can be read before and after. -/
theorem judge_shows {settings : RoomSettings} {game : Id} {turn : Turn} {word : Word} {user : User}
    {content : String} {message : Message} {verdict : Verdict}
    (h : (judge settings game turn word user content).Yields b (message, verdict) b') :
    b.store.SameRooms b'.store ∧
      (verdict.points? = none → b'.store.scores = b.store.scores) ∧
      (verdict.points?.isSome = true → (∃ scores, b.store.scores game = .ok scores) ∧
        ∃ scores, b'.store.scores game = .ok scores) := by
  simp only [judge, yields_bind, yields_ite_throw, yields_look] at h
  obtain ⟨active, _, ⟨-, rfl⟩, -, m, b₁, said, h⟩ := h
  simp only [addMessage, yields_bind, yields_stamp, yields_write] at said
  obtain ⟨_, _, ⟨rfl, rfl⟩, store, said, rfl⟩ := said
  obtain ⟨rooms, scores⟩ := Store.sameRooms_addMessage said
  simp only [yields_ite, yields_bind, yields_look, yields_pure, Prod.mk.injEq] at h
  obtain ⟨-, ⟨rfl, rfl⟩, rfl⟩ | ⟨-, ss, _, ⟨read, rfl⟩, v, b₂, judged, ⟨rfl, rfl⟩, rfl⟩ := h
  · exact ⟨rooms, fun _ => scores, by simp [Verdict.points?]⟩
  unfold award at judged
  simp only [yields_ite, yields_bind, yields_pure] at judged
  obtain ⟨-, rfl, rfl⟩ | ⟨-, _, _, put, rfl, rfl⟩ := judged
  · exact ⟨rooms, fun _ => scores, by simp [Verdict.points?]⟩
  · simp only [addScore, yields_bind, yields_stamp, yields_put] at put
    obtain ⟨_, _, ⟨rfl, rfl⟩, store', put, rfl⟩ := put
    refine ⟨rooms.trans (Store.sameRooms_addScore put), (by simp [Verdict.points?]), fun _ => ?_⟩
    exact ⟨⟨ss, scores ▸ read⟩, Store.exists_scores_addScore (b.supply.storable _) ⟨ss, read⟩ put⟩

end Entry

namespace Operation

/-- A guess that was taken in one go: what it found, the verdict on it, and what it left. -/
structure Took (game : Id) (u : User) (content : String) (turn : Turn) (word : Word)
    (active : List Player) (m : Message) (verdict : Verdict) (s t : Service) : Prop where
  known : s.books.store.findUser u.id = .ok (some u)
  latest : s.books.store.latestTurn game = .ok (some turn)
  found : s.books.store.findWord turn.wordId = some word
  read : s.books.store.activePlayers game = .ok active
  seated : u.id ∈ active.map (·.id)
  line : m.line = ⟨s.books.freshId, game, turn.id, u.id, content⟩
  judged : Judged s.settings.basePoints word active m.line s.books.ledger verdict t.books.ledger
  jobs : t.jobs = s.jobs ++ (.batch (s.queue.push game (guessNotices m u.nickname verdict)).1 ::
    if verdict.endsTurn then [.timer (s.now + s.settings.turnDelay) (.nextTurn game)] else [])
  rooms : s.books.store.SameRooms t.books.store
  kept : verdict.points? = none → t.books.store.scores = s.books.store.scores
  legible : verdict.points?.isSome = true → (∃ scores, s.books.store.scores game = .ok scores) ∧
    ∃ scores, t.books.store.scores game = .ok scores

open Entry in
/-- A guess is taken in this way, or it fails and leaves nothing. -/
theorem took_guess (s : Service) (game user : Id) (content : String) :
    (guess game user content).Ends s fun r t =>
      (∃ x, r = .error x ∧ t.books.ledger = s.books.ledger ∧ t.jobs = s.jobs) ∨
      ∃ u turn word active m verdict, u.id = user ∧ r = .ok (ownPost m u.nickname) ∧
        Took game u content turn word active m verdict s t := by
  refine ends_looks (looks_requireUser user) (fun x => .inl ⟨x, rfl, rfl, rfl⟩) fun u known => ?_
  refine ends_looks (looks_requireGame game) (fun x => .inl ⟨x, rfl, rfl, rfl⟩) fun g _ => ?_
  refine ends_looks (looks_requireTurn game) (fun x => .inl ⟨x, rfl, rfl, rfl⟩) fun turn latest => ?_
  refine ends_looks (looks_requireWord turn.wordId) (fun x => .inl ⟨x, rfl, rfl, rfl⟩)
    fun word found => ?_
  refine ends_entryWith (fun x b f => .inl ⟨x, rfl, unchanged_of_fails_inUnit f, rfl⟩)
    fun ⟨m, verdict⟩ b whole => ?_
  obtain ⟨after, judging, rfl⟩ := yields_inUnit.1 whole
  obtain ⟨rooms, kept, legible⟩ := judge_shows judging
  obtain ⟨line, active, read, seated, store, drawn, rfl, -, judged⟩ := judge_yields judging
  obtain ⟨committed_rooms, committed_scores⟩ := store.sameRooms_commit s.books.store
  have known := (yields_requireUser.1 known).1
  have id := (Store.id_of_findUser known).1
  obtain rfl : m.gameId = game := congrArg Line.gameId line
  have took {t : Service} (books : t.books = committed s.books { s.books with store, drawn })
      (jobs : t.jobs = s.jobs ++ (.batch
        (s.queue.push m.gameId (guessNotices m u.nickname verdict)).1 ::
          if verdict.endsTurn then [.timer (s.now + s.settings.turnDelay) (.nextTurn m.gameId)]
          else [])) :
      Took m.gameId u content turn word active m verdict s t := by
    constructor
    case known => rwa [id]
    case latest => exact (yields_requireTurn.1 latest).1
    case found => exact (yields_requireWord.1 found).1
    case read => exact read
    case seated => simpa using seated
    case line => exact line
    case jobs => exact jobs
    all_goals rw [books]
    case judged => rwa [ledger_committed]
    case rooms => exact rooms.trans committed_rooms
    case kept => exact fun none => committed_scores.trans (kept none)
    case legible =>
      intro some_points
      obtain ⟨before, scores, read⟩ := legible some_points
      exact ⟨before, scores, (congrFun committed_scores _).trans read⟩
  refine ends_change ?_
  split
  · rename_i over_
    refine ends_change (.inr ⟨u, turn, word, active, m, verdict, id, rfl, took rfl ?_⟩)
    rw [if_pos over_]
    exact List.append_assoc _ _ _
  · rename_i goes_on
    refine .inr ⟨u, turn, word, active, m, verdict, id, rfl, took rfl ?_⟩
    rw [if_neg goes_on]
    rfl

end Operation

/-! ## The end of a turn -/

/-- Whether the turn has ended, as the views of the game's active players show it. -/
def Store.ShowsEnd (s : Store) (game : Id) (ended : Bool) : Prop :=
  ∃ active scores turn, s.activePlayers game = .ok active ∧ s.scores game = .ok scores ∧
    s.latestTurn game = .ok (some turn) ∧ Board.isTurnEnded active scores turn.id = ended

theorem Store.showsEnd_iff {s : Store} {game : Id} {active : List Player} {turn : Turn}
    (read : s.activePlayers game = .ok active) (latest : s.latestTurn game = .ok (some turn))
    (ended : Bool) : s.ShowsEnd game ended ↔ (∃ scores, s.scores game = .ok scores) ∧
      (active.all fun p => s.ledger.hasFound game p.id turn.id) = ended := by
  have asked {scores : List Score} (legible : s.scores game = .ok scores) :
      Board.isTurnEnded active scores turn.id =
        active.all fun p => s.ledger.hasFound game p.id turn.id := by
    unfold Board.isTurnEnded
    simp only [Store.hasGuessed_eq_hasFound legible]
  unfold ShowsEnd
  rw [read, latest]
  constructor
  · rintro ⟨_, scores, _, ⟨⟩, legible, ⟨⟩, shown⟩
    exact ⟨⟨scores, legible⟩, (asked legible).symm.trans shown⟩
  · rintro ⟨⟨scores, legible⟩, shown⟩
    exact ⟨active, scores, turn, rfl, legible, rfl, (asked legible).trans shown⟩

/-- The notices that somebody has found the word which a job is to send out, with their game. -/
def Job.discoveries : Job → List (Id × Outgoing)
  | .batch b => (b.items.filter (·.notice.kind == .correctGuess)).map (b.game, ·)
  | _ => []

namespace Operation

theorem discoveries_guessNotices (m : Message) (nickname : String) (verdict : Verdict) :
    (guessNotices m nickname verdict).filter (·.notice.kind == .correctGuess) =
      if verdict.points?.isSome then [.fromPlayer m.playerId (.correctGuess m.playerId nickname)]
      else [] := by
  rcases verdict with _ | _ | ⟨points, _ | _⟩ <;> rfl

end Operation

namespace Operation.Took

variable {game : Id} {u : User} {content : String} {turn : Turn} {word : Word} {active : List Player}
  {m : Message} {verdict : Verdict} {s t : Service}
  (h : Took game u content turn word active m verdict s t)
include h

/-- The verdict ends the turn exactly if views show its end after the guess and not before. -/
theorem endsTurn_iff (distinct : (active.map (·.id)).Nodup) : verdict.endsTurn = true ↔
    s.books.store.ShowsEnd game false ∧ t.books.store.ShowsEnd game true := by
  have here : m.line.gameId = game := by rw [h.line]
  have turns : m.line.turnId = turn.id := by rw [h.line]
  have guesser : m.line.playerId = u.id := by rw [h.line]
  have counted := h.judged.endsTurn_iff distinct (guesser ▸ h.seated)
  rw [here, turns] at counted
  rw [Store.showsEnd_iff h.read h.latest,
    Store.showsEnd_iff ((congrFun h.rooms.activePlayers game).trans h.read)
      ((congrFun h.rooms.latestTurn game).trans h.latest), counted]
  cases scored : verdict.points? with
  | some points =>
    obtain ⟨before, after⟩ := h.legible (by rw [scored]; rfl)
    exact and_congr (iff_and_self.2 fun _ => before) (iff_and_self.2 fun _ => after)
  | none =>
    -- without an award everybody has found as much as before
    have same : ∀ p : Player, t.books.ledger.hasFound game p.id turn.id =
        s.books.ledger.hasFound game p.id turn.id := by
      intro p
      rw [Bool.eq_iff_iff, h.judged.hasFound_iff, scored]
      simp
    simp only [Books.ledger] at same
    simp only [same, Books.ledger]
    constructor
    · rintro ⟨before, after⟩
      exact absurd (before.symm.trans after) (by decide)
    · rintro ⟨⟨-, before⟩, -, after⟩
      exact absurd (before.symm.trans after) (by decide)

/-- What the guess has left to be told and to be done. -/
theorem queued : ∃ jobs, t.jobs = s.jobs ++ jobs ∧
    jobs.flatMap Job.discoveries = (if verdict.points?.isSome then
      [(game, .fromPlayer u.id (.correctGuess u.id u.nickname))] else []) ∧
    jobs.flatMap Job.endings = (if verdict.endsTurn then [game] else []) ∧
    jobs.filterMap Job.advance? =
      if verdict.endsTurn then [(s.now + s.settings.turnDelay, game)] else [] := by
  have author : m.playerId = u.id := congrArg Line.playerId h.line
  refine ⟨_, h.jobs, ?_, ?_, ?_⟩
  · rw [List.flatMap_cons]
    show (List.map _ (List.filter _ (guessNotices m u.nickname verdict))) ++ _ = _
    rw [discoveries_guessNotices, author]
    cases verdict.points? <;> cases verdict.endsTurn <;> rfl
  · rw [List.flatMap_cons]
    show (List.map _ (List.filter _ (guessNotices m u.nickname verdict))) ++ _ = _
    rw [filter_guessNotices]
    cases verdict.endsTurn <;> rfl
  · rw [List.filterMap_cons]
    cases verdict.endsTurn <;> rfl

end Operation.Took

/-- A guess that is taken in one go is put down as one message in the latest turn. Exactly if it is
the word and its player had no score for the turn, a score is put down with it and the others are to
be told; exactly if the views of the game's active players have begun to show the end of the turn,
that is announced and an advance is scheduled. -/
theorem guess_verdict_agrees_with_view {s t : Service} {game user : Id} {content : String} {post : Post}
    (distinct : ∀ players, s.books.store.players game = .ok players → (players.map (·.id)).Nodup)
    (taken : (Operation.guess game user content).run s = (.ok post, t)) :
    ∃ (u : User) (turn : Turn) (word : Word) (id : Id) (points : Int) (jobs : List Job)
        (right closes : Bool),
      s.books.store.findUser user = .ok (some u) ∧
      s.books.store.latestTurn game = .ok (some turn) ∧
      s.books.store.findWord turn.wordId = some word ∧
      (right = true ↔ Secret.sameWord content word.word = true ∧
        s.books.ledger.hasFound game user turn.id = false) ∧
      (closes = true ↔ s.books.store.ShowsEnd game false ∧ t.books.store.ShowsEnd game true) ∧
      t.books.ledger = { s.books.ledger with
        lines := s.books.ledger.lines ++ [⟨id, game, turn.id, user, content⟩]
        awards := s.books.ledger.awards ++ if right then [⟨game, turn.id, user, id, points⟩] else [] } ∧
      (right = false → t.books.store.scores = s.books.store.scores) ∧
      t.jobs = s.jobs ++ jobs ∧
      jobs.flatMap Job.discoveries =
        (if right then [(game, .fromPlayer user (.correctGuess user u.nickname))] else []) ∧
      jobs.flatMap Job.endings = (if closes then [game] else []) ∧
      jobs.filterMap Job.advance? =
        (if closes then [(s.now + s.settings.turnDelay, game)] else []) := by
  have ends := Operation.took_guess s game user content
  unfold Operation.Ends at ends
  rw [taken] at ends
  obtain ⟨x, failed, -⟩ | ⟨u, turn, word, active, m, verdict, rfl, -, took⟩ := ends
  · cases failed
  obtain ⟨players, read, shown⟩ := map_eq_ok_iff.1 took.read
  have once : (active.map (·.id)).Nodup := by
    rw [← shown]
    exact (distinct players read).sublist (List.filter_sublist.map _)
  have closes := took.endsTurn_iff once
  have right := took.judged.isSome_points
  have ledger := took.judged.ledger_eq
  rw [took.line] at right ledger
  obtain ⟨jobs, queued, discoveries, endings, advances⟩ := took.queued
  refine ⟨u, turn, word, s.books.freshId, verdict.points?.getD 0, jobs, verdict.points?.isSome,
    verdict.endsTurn, took.known, took.latest, took.found, right, closes, ?_, ?_, queued, discoveries,
    endings, advances⟩
  · rw [ledger]
    cases verdict.points? <;> rfl
  · exact fun none => took.kept (by simpa using none)

/-- The second turn of a game about a cat: Ann has found the word, Bob has not, and Cleo, who was the
only one to find the first word, has left. -/
def Service.lastGuess (now : Time.Instant) : Service where
  settings := {}
  books := {
    supply := .counting
    store := .memory {
      words := [⟨"w", "Cat", "🐈"⟩]
      tables := {
        users := [⟨"ann", "Ann", now, now⟩, ⟨"bob", "Bob", now, now⟩, ⟨"cleo", "Cleo", now, now⟩]
        games := [⟨"g", now, now⟩]
        memberships := [⟨"g", "cleo", "Cleo", .inactive, now⟩, ⟨"g", "ann", "Ann", .active, now⟩,
          ⟨"g", "bob", "Bob", .active, now⟩]
        turns := [⟨"t1", "g", "w", now⟩, ⟨"t2", "g", "w", now⟩]
        messages := [⟨"m1", "g", "t1", "cleo", "cat", now⟩, ⟨"m2", "g", "t2", "ann", "cat", now⟩]
        scores := [⟨⟨"g", "t1", "cleo", "m1", 30⟩, now⟩, ⟨⟨"g", "t2", "ann", "m2", 20⟩, now⟩] } } }

theorem last_guess_ends_turn :
    let s := Service.lastGuess (Supply.tick 0)
    let t := ((Operation.guess "g" "bob" "CAT").run s).2
    (∀ players, s.books.store.players "g" = .ok players → (players.map (·.id)).Nodup) ∧
      (Operation.guess "g" "bob" "CAT").run s = (.ok ⟨true, "Bob", "CAT"⟩, t) ∧
      s.books.store.ShowsEnd "g" false ∧ t.books.store.ShowsEnd "g" true ∧
      ∃ jobs, t.jobs = s.jobs ++ jobs ∧
        jobs.flatMap Job.discoveries = [("g", .fromPlayer "bob" (.correctGuess "bob" "Bob"))] ∧
        jobs.flatMap Job.endings = ["g"] ∧ jobs.filterMap Job.advance? = [(5000, "g")] := by
  intro s t
  have distinct : ∀ players, s.books.store.players "g" = .ok players →
      (players.map (·.id)).Nodup := by
    rintro _ ⟨⟩
    decide
  have taken : (Operation.guess "g" "bob" "CAT").run s = (.ok ⟨true, "Bob", "CAT"⟩, t) :=
    Prod.ext (by decide +kernel) rfl
  have open_ : s.books.store.ShowsEnd "g" false :=
    ⟨_, _, _, rfl, rfl, rfl, by decide +kernel⟩
  have ended : t.books.store.ShowsEnd "g" true :=
    ⟨_, _, _, rfl, rfl, rfl, by decide +kernel⟩
  obtain ⟨u, turn, word, id, points, jobs, right, closes, known, latest, found, right_iff, closes_iff,
    -, -, added, discoveries, endings, advances⟩ := guess_verdict_agrees_with_view distinct taken
  cases known
  cases latest
  cases found
  obtain rfl : right = true := right_iff.2 (by decide +kernel)
  obtain rfl : closes = true := closes_iff.2 ⟨open_, ended⟩
  exact ⟨distinct, taken, open_, ended, jobs, added, discoveries, endings, advances⟩

end GuessingRoom
