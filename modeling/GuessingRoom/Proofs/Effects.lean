import GuessingRoom.Proofs.Operations
import GuessingRoom.Proofs.Tidiness

/-!
# Effects of requests

What a request does when all of its steps are taken in a row: its effect on the ledger (`Effect`),
and what it leaves to the background (`Service.Answered`). A request that fails has no effect. Later
theorems go by the cases of `Effect` and look at no operation again.
-/

namespace GuessingRoom

/-- What a request does to the ledger, and the game whose turn it brings to its end, if any. New
identifiers are those of draws made meanwhile, the first of which has the number `drawn` and the last
comes before `k`. -/
inductive Effect (id : Nat → Id) (drawn k : Nat) (l : Ledger) : Option Id → Ledger → Prop where
  | idle : Effect id drawn k l none l
  | named (users : List Id) (kept : ∀ u ∈ l.users, u ∈ users) :
      Effect id drawn k l none { l with users }
  | opened (m n : Nat) (user : Id) (word : Word) (first : drawn ≤ m) (next : m < n) (last : n < k)
      (listed : word ∈ l.words) :
      Effect id drawn k l none { l with
        games := l.games ++ [id m]
        seats := l.seats ++ [⟨id m, user, true⟩]
        rounds := l.rounds ++ [⟨id n, id m, word.id⟩] }
  | joined (game user : Id) (there : game ∈ l.games)
      (free : ∀ seat ∈ l.seats, seat.gameId = game → seat.userId ≠ user) :
      Effect id drawn k l none { l with seats := l.seats ++ [⟨game, user, true⟩] }
  | rejoined (game user : Id) (was : ⟨game, user, false⟩ ∈ l.seats) :
      Effect id drawn k l none { l with seats := l.seats.map (Seat.withTaken game user true) }
  | left (game user : Id) (was : ⟨game, user, true⟩ ∈ l.seats) :
      Effect id drawn k l none { l with seats := l.seats.map (Seat.withTaken game user false) }
  | said (line : Line) (n : Nat) (first : drawn ≤ n) (last : n < k) (drew : line.id = id n) :
      Effect id drawn k l none { l with lines := l.lines ++ [line] }
  /-- A guess that scores ends the turn if all who are seated have found the word. -/
  | found (line : Line) (round : Round) (word : Word) (points : Int) (turnOver : Bool) (n : Nat)
      (first : drawn ≤ n) (last : n < k) (drew : line.id = id n)
      (latest : l.latest line.gameId = some round) (turn : line.turnId = round.id)
      (looked : l.words.find? (·.id == round.wordId) = some word)
      (same : Secret.sameWord line.content word.word = true)
      (seated : line.playerId ∈ l.seated line.gameId)
      (lacks : l.hasFound line.gameId line.playerId line.turnId = false)
      (ends : turnOver = (1 + ((l.seated line.gameId).filter fun u =>
        u != line.playerId && l.hasFound line.gameId u line.turnId).length ==
          (l.seated line.gameId).length)) :
      Effect id drawn k l (if turnOver then some line.gameId else none) { l with
        lines := l.lines ++ [line]
        awards := l.awards ++ [⟨line.gameId, line.turnId, line.playerId, line.id, points⟩] }

/-! ## Entries that fail -/

namespace Entry

variable {α : Type} {b b' : Books}

/-- A unit that fails leaves nothing, whatever it was made of. -/
theorem unchanged_of_fails_inUnit {e : Entry α} {x : GameError} (h : (inUnit e).Fails b x b') :
    b'.ledger = b.ledger := by
  obtain ⟨after, -, rfl⟩ := fails_inUnit.1 h
  exact ledger_abandoned b after

/-! ## Entries that succeed -/

theorem drawWord_yields {word : Word} (h : drawWord.Yields b word b') :
    word ∈ b.ledger.words ∧ b' = { b with drawn := b.drawn + 1 } := by
  simp only [drawWord, yields_bind, yields_look, yields_choose, Except.ok.injEq] at h
  obtain ⟨words, _, ⟨rfl, rfl⟩, choice, _, ⟨rfl, rfl⟩, h⟩ := h
  split at h
  · rename_i word' chosen
    obtain ⟨rfl, rfl⟩ := yields_pure.1 h
    exact ⟨(b.store.mem_allWords _).1 (List.mem_of_getElem? chosen), rfl⟩
  · exact absurd h yields_throw

/-- A word can be drawn unless there are none. -/
theorem drawWord_fails {x : GameError} (h : drawWord.Fails b x b') :
    b.ledger.words = [] ∧ b' = { b with drawn := b.drawn + 1 } := by
  rcases fails_bind.1 h with h | ⟨words, b₁, look, h⟩
  · cases h
  · obtain ⟨e, rfl⟩ := yields_look.1 look
    cases e
    rcases fails_bind.1 h with h | ⟨choice, b₂, chosen, h⟩
    · cases h
    · obtain ⟨rfl, rfl⟩ := yields_choose.1 chosen
      split at h
      · cases h
      · rename_i none
        cases h
        refine ⟨List.eq_nil_iff_forall_not_mem.2 fun word mem => ?_, rfl⟩
        have some_word := (b.store.mem_allWords word).2 mem
        have out := List.getElem?_eq_none_iff.1 none
        have := Nat.mod_lt (b.supply.choice b.drawn) (List.length_pos_of_mem some_word)
        omega

theorem openGame_yields {user : Id} {word : Word} {game : Game}
    (h : (Operation.openGame user word).Yields b game b') :
    ∃ m n store drawn, b.drawn ≤ m ∧ m < n ∧ n < drawn ∧ b' = { b with store, drawn } ∧
      store.ledger = { b.ledger with
        games := b.ledger.games ++ [b.supply.id m]
        seats := b.ledger.seats ++ [⟨b.supply.id m, user, true⟩]
        rounds := b.ledger.rounds ++ [⟨b.supply.id n, b.supply.id m, word.id⟩] } := by
  simp only [Operation.openGame, yields_bind, yields_pure] at h
  obtain ⟨g, b₁, create, u, b₂, add, turn, b₃, begin_, rfl, rfl⟩ := h
  obtain ⟨named, store₁, rfl, e₁⟩ := createGame_yields create
  obtain ⟨-, store₂, rfl, e₂⟩ := addPlayer_yields add
  obtain ⟨-, store₃, rfl, e₃⟩ := addTurn_yields begin_
  refine ⟨b.drawn, b.drawn + 1 + 1, store₃, _, le_rfl, by omega, Nat.lt_succ_self _, rfl, ?_⟩
  rw [e₃]
  simp only [Books.ledger, Books.freshId] at e₁ e₂ named ⊢
  rw [e₂, e₁, named]

/-- The user's old seat is taken again, or a new one is made. -/
theorem takeSeat_yields {settings : RoomSettings} {game : Id} {user : User} {u : Unit}
    (legible : b.store.Legible) (h : (Operation.takeSeat settings game user).Yields b u b') :
    (⟨game, user.id, false⟩ ∈ b.ledger.seats ∧ ∃ store, b' = { b with store } ∧
      store.ledger = { b.ledger with
        seats := b.ledger.seats.map (Seat.withTaken game user.id true) }) ∨
    (∀ seat ∈ b.ledger.seats, seat.gameId = game → seat.userId ≠ user.id) ∧
      ∃ store, b' = { b with store, drawn := b.drawn + 1 } ∧
        store.ledger = { b.ledger with seats := b.ledger.seats ++ [⟨game, user.id, true⟩] } := by
  obtain ⟨players, b₁, look, h⟩ := yields_bind.1 h
  obtain ⟨read, rfl⟩ := yields_look.1 look
  simp only [yields_ite_throw] at h
  obtain ⟨inactive, -, h⟩ := h
  split at h
  · rename_i p found
    refine .inl ⟨?_, ?_⟩
    · have away : p.isActive = false := by simpa [found] using inactive
      exact away ▸ legible.mem_seats read found
    · obtain ⟨store, rfl, e⟩ := setState_yields h
      exact ⟨store, rfl, e⟩
  · exact .inr (addPlayer_yields h)

end Entry

/-! ## What a request leaves behind -/

namespace Job

/-- The time at which the job lets a game go on to its next turn, and the game. -/
def advance? : Job → Option (Nat × Id)
  | timer due (.nextTurn game) => some (due, game)
  | _ => none

/-- The game that the job is to tell that a turn has ended, as often as it is to tell it. -/
def endings : Job → List Id
  | batch b => (b.items.filter (· == .broadcast .turnEnded)).map fun _ => b.game
  | _ => []

end Job

namespace Service

/-- The service after a request was carried out, which may have brought a turn to its end: exactly
then that is announced, and an advance is scheduled. -/
structure Answered (s : Service) (ended : Option Id) (t : Service) : Prop where
  effect : Effect s.books.supply.id s.books.drawn t.books.drawn s.books.ledger ended t.books.ledger
  jobs : ∃ jobs, t.jobs = s.jobs ++ jobs ∧
    jobs.filterMap Job.advance? =
      (ended.map fun game => (s.now + s.settings.turnDelay, game)).toList ∧
    jobs.flatMap Job.endings = ended.toList
  settings : t.settings = s.settings
  now : t.now = s.now
  closing : t.closing = s.closing

namespace Answered

variable {s t : Service}

theorem of_books {b : Books} (h : Effect s.books.supply.id s.books.drawn b.drawn s.books.ledger
    none b.ledger) : s.Answered none { s with books := b } :=
  ⟨h, ⟨[], by simp, rfl, rfl⟩, rfl, rfl, rfl⟩

/-- Nothing was put down. -/
theorem idle {b : Books} (h : b.ledger = s.books.ledger) : s.Answered none { s with books := b } := by
  apply of_books
  rw [h]
  exact .idle

theorem refl (s : Service) : s.Answered none s := idle rfl

/-- Notices are queued, none of which tells of the end of a turn. -/
theorem publishLater (h : s.Answered none t) (game : Id) {items : List Outgoing}
    (others : items.filter (· == .broadcast .turnEnded) = []) :
    s.Answered none (t.publishLater game items) := by
  obtain ⟨jobs, e, advances, endings⟩ := h.jobs
  refine ⟨h.effect, ?_, h.settings, h.now, h.closing⟩
  refine ⟨jobs ++ [.batch (t.queue.push game items).1], ?_, ?_, ?_⟩
  · show t.jobs ++ _ = _
    rw [e, List.append_assoc]
    rfl
  · simpa [Job.advance?] using advances
  · rw [List.flatMap_append, endings]
    simp [Job.endings, PublishQueue.push, others]

end Answered

end Service

namespace Operation

open Entry

variable {s : Service}

theorem answered_initUser : initUser.Ends s fun _ t => s.Answered none t := by
  refine ends_entry (fun x b h => by cases h) fun stamp b₁ y₁ => ?_
  refine ends_entry (fun x b h => by cases h) fun adjective b₂ y₂ => ?_
  refine ends_entry (fun x b h => by cases h) fun animal b₃ y₃ => ?_
  obtain ⟨rfl, rfl⟩ := yields_stamp.1 y₁
  obtain ⟨-, rfl⟩ := yields_choose.1 y₂
  obtain ⟨-, rfl⟩ := yields_choose.1 y₃
  refine ends_entry (fun x b h => ?_) fun _ b₄ y₄ => ends_last ?_
  · rw [(fails_stamped h).1]
    exact .idle rfl
  · obtain ⟨store, rfl, users, -, kept, e⟩ := upsertUser_yields y₄
    refine .of_books ?_
    rw [looks_requireUser]
    show Effect _ _ _ _ none store.ledger
    rw [e]
    exact .named users kept

theorem answered_initGame (user : Id) : (initGame user).Ends s fun _ t => s.Answered none t := by
  refine ends_looks (looks_requireUser user) (fun _ => .refl s) fun u _ => ?_
  refine ends_entry (fun x b h => .idle (by rw [(drawWord_fails h).2]; rfl)) fun word b y => ?_
  obtain ⟨listed, rfl⟩ := drawWord_yields y
  apply ends_last
  obtain ⟨game, h⟩ | ⟨x, h⟩ := (inUnit (openGame u.id word)).yields_or_fails
    { s.books with drawn := s.books.drawn + 1 }
  · obtain ⟨after, whole, e⟩ := yields_inUnit.1 h
    obtain ⟨m, n, store, drawn, first, next, last, rfl, put⟩ := openGame_yields whole
    rw [e] at h
    rw [h]
    refine .of_books ?_
    rw [ledger_committed]
    show Effect _ _ _ _ none store.ledger
    rw [put]
    exact .opened m n u.id word (Nat.le_of_succ_le first) next last listed
  · have same := unchanged_of_fails_inUnit h
    exact .idle same

theorem answered_join (tidy : s.books.Tidy) (game user : Id) :
    (join game user).Ends s fun _ t => s.Answered none t := by
  refine ends_looks (looks_requireUser user) (fun _ => .refl s) fun u _ => ?_
  refine ends_looks (looks_requireGame game) (fun _ => .refl s) fun g found => ?_
  refine ends_entryWith (fun x b h => .idle (unchanged_of_fails_inUnit h)) fun _ b y => ?_
  obtain ⟨after, whole, rfl⟩ := yields_inUnit.1 y
  refine Service.Answered.publishLater (.of_books ?_) game rfl
  rw [ledger_committed]
  rcases takeSeat_yields tidy.legible whole with ⟨was, store, rfl, e⟩ | ⟨free, store, rfl, e⟩
  · show Effect _ _ _ _ none store.ledger
    rw [e]
    exact .rejoined game u.id was
  · show Effect _ _ _ _ none store.ledger
    rw [e]
    exact .joined game u.id (Store.mem_games_of_findGame (yields_requireGame.1 found).1) free

theorem answered_kick (tidy : s.books.Tidy) (game user : Id) :
    (kick game user).Ends s fun _ t => s.Answered none t := by
  apply ends_look
  split
  · exact .refl s
  · refine ends_looks (looks_look _) (fun _ => .refl s) fun players look => ?_
    split
    · exact .refl s
    · rename_i p found
      split
      · exact .refl s
      · rename_i active
        refine ends_entry (fun x b h => ?_) fun _ b y => ?_
        · rw [(fails_write h).1]
          exact .idle rfl
        · obtain ⟨store, rfl, e⟩ := setState_yields y
          apply ends_change
          refine Service.Answered.publishLater (.of_books ?_) game rfl
          show Effect _ _ _ _ none store.ledger
          rw [e]
          have active : p.isActive = true := by simpa using active
          exact .left game user
            (active ▸ tidy.legible.mem_seats (yields_look.1 look).1 found)

theorem answered_ofEvent_kick (tidy : s.books.Tidy) (game user : Id) :
    (ofEvent (.kick game user)).Ends s fun _ t => s.Answered none t :=
  (answered_kick tidy game user).map

theorem answered_say (game user : Id) (content : String) :
    (say game user content).Ends s fun _ t => s.Answered none t := by
  refine ends_looks (looks_requireUser user) (fun _ => .refl s) fun u _ => ?_
  refine ends_looks (looks_requireGame game) (fun _ => .refl s) fun g _ => ?_
  refine ends_looks (looks_requireTurn game) (fun _ => .refl s) fun turn _ => ?_
  refine ends_looks (looks_requireWord _) (fun _ => .refl s) fun word _ => ?_
  refine ends_looks (looks_look _) (fun _ => .refl s) fun active _ => ?_
  apply ends_check (.refl s)
  intro _
  refine ends_entry (fun x b h => ?_) fun message b y => ?_
  · rw [(fails_stamped h).1]
    exact .idle rfl
  · obtain ⟨line, store, rfl, e⟩ := addMessage_yields y
    apply ends_change
    refine Service.Answered.publishLater (.of_books ?_) message.gameId rfl
    show Effect _ _ _ _ none store.ledger
    rw [e]
    exact .said _ s.books.drawn le_rfl (Nat.lt_succ_self _) rfl

theorem answered_view (game viewer : Id) :
    (view game viewer).Ends s fun _ t => s.Answered none t := by
  refine ends_looks (looks_requireGame game) (fun _ => .refl s) fun g _ => ?_
  refine ends_looks (looks_look _) (fun _ => .refl s) fun players _ => ?_
  apply ends_check (.refl s)
  intro _
  refine ends_looks (looks_requireTurn game) (fun _ => .refl s) fun turn _ => ?_
  refine ends_looks (looks_requireWord _) (fun _ => .refl s) fun word _ => ?_
  refine ends_looks (looks_look _) (fun _ => .refl s) fun messages _ => ?_
  exact ends_looks (looks_look _) (fun _ => .refl s) fun scores _ => .refl s

/-- Those who have found the word can be counted among the seated users. -/
theorem foundCount_eq {l : Ledger} {active : List Player} {game : Id}
    (shown : (active.map (·.id)).Perm (l.seated game)) (guesser turn : Id) :
    l.foundCount active game guesser turn =
      1 + ((l.seated game).filter fun u => u != guesser && l.hasFound game u turn).length := by
  rw [← (shown.filter _).length_eq, List.filter_map, List.length_map]
  rfl

/-- What becomes of the ledger with a verdict is an effect of the guess. -/
theorem effect_of_judged {basePoints : Int} {word : Word} {active : List Player} {line : Line}
    {l l' : Ledger} {verdict : Verdict} {round : Round} {id : Nat → Id} {drawn k : Nat}
    (judged : Judged basePoints word active line l verdict l') (later : drawn < k)
    (drew : line.id = id drawn) (latest : l.latest line.gameId = some round)
    (turn : line.turnId = round.id) (looked : l.words.find? (·.id == round.wordId) = some word)
    (shown : (active.map (·.id)).Perm (l.seated line.gameId))
    (seated : line.playerId ∈ l.seated line.gameId) :
    Effect id drawn k l (if verdict.endsTurn then some line.gameId else none) l' := by
  cases judged with
  | miss other => exact .said line drawn le_rfl later drew
  | again same found => exact .said line drawn le_rfl later drew
  | scored points turnOver same lacks worth ends =>
    have count := shown.length_eq
    rw [List.length_map] at count
    rw [foundCount_eq shown, count] at ends
    exact .found line round word points turnOver drawn le_rfl later drew latest turn looked same
      seated lacks ends

/-- The end of a turn is among the notices of a guess exactly if the verdict says so. -/
theorem filter_guessNotices (m : Message) (nickname : String) (verdict : Verdict) :
    (guessNotices m nickname verdict).filter (· == .broadcast .turnEnded) =
      if verdict.endsTurn then [.broadcast .turnEnded] else [] := by
  rcases verdict with _ | _ | ⟨points, _ | _⟩ <;> rfl

theorem answered_guess (tidy : s.books.Tidy) (game user : Id) (content : String) :
    (guess game user content).Ends s fun _ t => ∃ ended, s.Answered ended t := by
  refine ends_looks (looks_requireUser user) (fun _ => ⟨none, .refl s⟩) fun u _ => ?_
  refine ends_looks (looks_requireGame game) (fun _ => ⟨none, .refl s⟩) fun g _ => ?_
  refine ends_looks (looks_requireTurn game) (fun _ => ⟨none, .refl s⟩) fun turn foundTurn => ?_
  refine ends_looks (looks_requireWord _) (fun _ => ⟨none, .refl s⟩) fun word foundWord => ?_
  refine ends_entryWith (fun x b h => ⟨none, .idle (unchanged_of_fails_inUnit h)⟩)
    fun result b y => ?_
  obtain ⟨message, verdict⟩ := result
  obtain ⟨after, whole, rfl⟩ := yields_inUnit.1 y
  obtain ⟨line, active, read, seated, store, drawn, rfl, later, judged⟩ := judge_yields whole
  -- what the guess has looked up is what the ledger shows
  obtain ⟨turn', read', latest⟩ := Store.Tidy.latestTurn tidy s.books.supply.storable game
  obtain ⟨active', read'', shown⟩ := tidy.legible.activePlayers game
  have foundTurn := (yields_requireTurn.1 foundTurn).1
  have foundWord := (yields_requireWord.1 foundWord).1
  rw [foundTurn, Except.ok.injEq] at read'
  rw [read, Except.ok.injEq] at read''
  subst read' read''
  rw [Store.findWord_eq] at foundWord
  have here : message.line.gameId = game := by rw [line]
  have asked : message.line.playerId = u.id := by rw [line]
  have latest : s.books.ledger.latest message.line.gameId = some turn.round := by
    rw [here]
    exact latest.symm
  have shown : (active.map (·.id)).Perm (s.books.ledger.seated message.line.gameId) := here ▸ shown
  have its : message.line.playerId ∈ s.books.ledger.seated message.line.gameId := by
    rw [asked]
    exact shown.mem_iff.1 (by simpa using seated)
  have effect := effect_of_judged judged later (by rw [line]; rfl) latest (by rw [line]; rfl)
    foundWord shown its
  have ledger : (committed s.books { s.books with store, drawn }).ledger = store.ledger :=
    ledger_committed _ _
  apply ends_change
  by_cases over_ : verdict.endsTurn = true
  · rw [if_pos over_] at effect ⊢
    refine ends_change ⟨some message.gameId, ?_, ?_, rfl, rfl, rfl⟩
    · show Effect _ _ _ _ _ (committed _ _).ledger
      rw [ledger]
      exact effect
    · refine ⟨[_, _], List.append_assoc _ _ _, rfl, ?_⟩
      show ((guessNotices message u.nickname verdict).filter _).map _ ++ _ = _
      rw [filter_guessNotices, if_pos over_]
      rfl
  · rw [if_neg over_] at effect ⊢
    refine ⟨none, .publishLater (.of_books ?_) message.gameId ?_⟩
    · rw [ledger]
      exact effect
    · rw [filter_guessNotices, if_neg over_]

/-- Whatever is asked of the service, its answer is told by an effect. -/
theorem answered_request (tidy : s.books.Tidy) {request : Request}
    (asked : ∀ e, request ≠ .event e) :
    ∃ ended, s.Answered ended (request.operation.run s).2 := by
  cases request with
  | initUser => exact ⟨none, answered_initUser.map⟩
  | initGame user => exact ⟨none, (answered_initGame user).map⟩
  | join game user => exact ⟨none, (answered_join tidy game user).map⟩
  | kick game user => exact ⟨none, (answered_kick tidy game user).map⟩
  | guess game user content =>
    exact Ends.map (Q := fun t => ∃ ended, s.Answered ended t) (answered_guess tidy game user content)
  | say game user content => exact ⟨none, (answered_say game user content).map⟩
  | view game viewer => exact ⟨none, (answered_view game viewer).map⟩
  | event e => exact absurd rfl (asked e)

/-! ## The next turn -/

/-- The next turn begins with one of the words unless there are none, or the store fails. -/
theorem ends_nextTurn (game : Id) :
    (nextTurn game).Ends s fun result t =>
      (∃ f, result = .error (.persistence f)) ∨
      ∃ b, t = { s with books := b } ∧
        (s.books.ledger.words = [] ∧ b.ledger = s.books.ledger ∨
          ∃ n word, s.books.drawn ≤ n ∧ n < b.drawn ∧ word ∈ s.books.ledger.words ∧
            b.ledger = { s.books.ledger with rounds := s.books.ledger.rounds ++
              [⟨s.books.supply.id n, game, word.id⟩] }) := by
  refine ends_entry (fun x b h => .inr ⟨b, rfl, .inl ?_⟩) fun word b y => ?_
  · obtain ⟨words, rfl⟩ := drawWord_fails h
    exact ⟨words, rfl⟩
  · obtain ⟨listed, rfl⟩ := drawWord_yields y
    refine ends_entry (fun x b h => .inl ?_) fun turn b y => ?_
    · obtain ⟨f, rfl⟩ := (fails_stamped h).2
      exact ⟨f, rfl⟩
    · obtain ⟨-, store, rfl, e⟩ := addTurn_yields y
      exact .inr ⟨_, rfl, .inr ⟨s.books.drawn + 1, word, Nat.le_succ _, Nat.lt_succ_self _, listed, e⟩⟩

end Operation

end GuessingRoom
