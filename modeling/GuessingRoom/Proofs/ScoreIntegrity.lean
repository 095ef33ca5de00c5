import GuessingRoom.Proofs.Integrity
import GuessingRoom.Proofs.Operations

/-!
# The integrity of scores

No constraint of the tables keeps awards in order, and the turn and the word of a guess are looked
up before the unit of work that judges it, so that seats, turns and other guesses may change in
between. The invariant `Books.Integrity` is kept by every step of every request nevertheless: what
was looked up stays true as the books grow, and a unit of work reads the awards it goes by.
-/

namespace GuessingRoom

/-- After the verdict on a guess that is the word the player has an award for the turn. -/
theorem Judged.awarded {basePoints : Int} {word : Word} {active : List Player} {line : Line}
    {l l' : Ledger} {verdict : Verdict} (h : Judged basePoints word active line l verdict l')
    (same : Secret.sameWord line.content word.word = true) :
    ∃ a ∈ l'.awards, a.turnId = line.turnId ∧ a.playerId = line.playerId := by
  cases h with
  | miss other =>
    rw [other] at same
    exact absurd same Bool.false_ne_true
  | again _ found =>
    obtain ⟨a, ha, -, player, turn⟩ := Ledger.hasFound_iff.1 found
    exact ⟨a, ha, turn, player⟩
  | scored points turnOver _ lacks worth ends =>
    exact ⟨_, List.mem_append_right _ (List.mem_singleton_self _), rfl, rfl⟩

theorem Entry.awarded_of_judge {settings : RoomSettings} {game : Id} {turn : Turn} {word : Word}
    {user : User} {content : String} {result : Message × Verdict} {b b' : Books}
    (h : (inUnit (judge settings game turn word user content)).Yields b result b')
    (same : Secret.sameWord content word.word = true) :
    ∃ a ∈ b'.ledger.awards, a.turnId = turn.id ∧ a.playerId = user.id := by
  obtain ⟨after, whole, rfl⟩ := yields_inUnit.1 h
  obtain ⟨line, active, -, -, store, drawn, rfl, -, judged⟩ := judge_yields whole
  obtain ⟨a, ha, byTurn, byPlayer⟩ := judged.awarded (by rw [line]; exact same)
  rw [line] at byTurn byPlayer
  refine ⟨a, ?_, byTurn, byPlayer⟩
  rw [ledger_committed]
  exact ha

/-! ## The books -/

namespace Books

def Integrity (b : Books) : Prop := b.ledger.Integrity b.supply.id b.drawn

/-- The books grow, and keep their integrity. -/
def Advances (b b' : Books) : Prop := b.Grows b' ∧ (b.Integrity → b'.Integrity)

namespace Advances

open Entry

/-- Growth of everything but turns, messages and awards is harmless. -/
theorem of_grows {b b' : Books} (grows : b.Grows b')
    (rounds : b'.ledger.rounds = b.ledger.rounds) (lines : b'.ledger.lines = b.ledger.lines)
    (awards : b'.ledger.awards = b.ledger.awards) : b.Advances b' := by
  refine ⟨grows, fun h => ?_⟩
  unfold Books.Integrity at h ⊢
  rw [grows.supply]
  exact h.of_eq grows.drawn grows.words rounds lines awards

theorem of_write {b : Books} {store : Store} {drawn : Nat} (grows : b.Grows { b with store, drawn })
    (rounds : store.ledger.rounds = b.ledger.rounds) (lines : store.ledger.lines = b.ledger.lines)
    (awards : store.ledger.awards = b.ledger.awards) : b.Advances { b with store, drawn } :=
  of_grows grows rounds lines awards

theorem isCourse : IsCourse Books.Advances where
  refl b := ⟨.refl b, id⟩
  trans h h' := ⟨h.1.trans h'.1, h'.2 ∘ h.2⟩
  draw b := of_grows (Books.Grows.isCourse.draw b) rfl rfl rfl
  commit b after h := by
    refine ⟨Books.Grows.isCourse.commit b after h.1, fun i => ?_⟩
    unfold Books.Integrity
    rw [ledger_committed]
    exact h.2 i
  abandon b after h := by
    refine of_grows (Books.Grows.isCourse.abandon b after h.1) ?_ ?_ ?_ <;> rw [ledger_abandoned]

theorem carries : Carries Books.Advances where
  toIsCourse := isCourse
  upsertUser id nickname := by
    apply along_stamped isCourse
    intro b u b' h
    have grows := (Books.Grows.carries.upsertUser id nickname).yields h
    obtain ⟨store, rfl, users, -, -, e⟩ := upsertUser_yields h
    refine of_write grows ?_ ?_ ?_ <;> rw [e]
  createGame := by
    apply along_stamped isCourse
    intro b game b' h
    have grows := Books.Grows.carries.createGame.yields h
    obtain ⟨-, store, rfl, e⟩ := createGame_yields h
    refine of_write grows ?_ ?_ ?_ <;> rw [e]
  addPlayer game user := by
    apply along_stamped isCourse
    intro b u b' h
    have grows := (Books.Grows.carries.addPlayer game user).yields h
    obtain ⟨-, store, rfl, e⟩ := addPlayer_yields h
    refine of_write grows ?_ ?_ ?_ <;> rw [e]
  setState game user state := by
    apply along_write isCourse
    intro b u b' h
    have grows := (Books.Grows.carries.setState game user state).yields h
    obtain ⟨store, rfl, e⟩ := setState_yields h
    refine of_write grows ?_ ?_ ?_ <;> rw [e]
  addTurn game word := by
    apply along_stamped isCourse
    intro b turn b' h
    have grows := (Books.Grows.carries.addTurn game word).yields h
    obtain ⟨-, store, rfl, e⟩ := addTurn_yields h
    refine ⟨grows, fun i => ?_⟩
    show store.ledger.Integrity b.supply.id (b.drawn + 1)
    rw [e]
    exact Ledger.Integrity.addRound i game word
  addMessage game turn player content := by
    apply along_stamped isCourse
    intro b message b' h
    have grows := (Books.Grows.carries.addMessage game turn player content).yields h
    obtain ⟨-, store, rfl, e⟩ := addMessage_yields h
    refine ⟨grows, fun i => ?_⟩
    show store.ledger.Integrity b.supply.id (b.drawn + 1)
    rw [e]
    exact Ledger.Integrity.addLine i rfl

/-- A guess may be judged by a turn and a word that were looked up before. -/
theorem of_judge {settings : RoomSettings} {game : Id} {turn : Turn} {word : Word} {user : User}
    {content : String} {b : Books} (begun : turn.round ∈ b.ledger.rounds)
    (its : turn.gameId = game)
    (looked : b.ledger.words.find? (·.id == turn.wordId) = some word) :
    b.Advances (inUnit (judge settings game turn word user content) b).2 := by
  have grows := (Along.inUnit Books.Grows.isCourse (along_judge Books.Grows.isCourse
    Books.Grows.carries.addMessage Books.Grows.along_addScore settings game turn word user content)) b
  obtain ⟨⟨message, verdict⟩, y⟩ | ⟨x, f⟩ :=
    (inUnit (judge settings game turn word user content)).yields_or_fails b
  · obtain ⟨after, y, e⟩ := yields_inUnit.1 y
    obtain ⟨line, active, -, -, store, drawn, rfl, later, judged⟩ := judge_yields y
    refine ⟨grows, fun i => ?_⟩
    rw [e]
    show Ledger.Integrity b.supply.id drawn (committed b _).ledger
    rw [ledger_committed]
    refine Ledger.Integrity.judged i later ?_ begun ?_ ?_ looked judged <;> rw [line]
    · rfl
    · rfl
    · exact its
  · obtain ⟨after, -, e⟩ := fails_inUnit.1 f
    refine of_grows grows ?_ ?_ ?_ <;> rw [e, ledger_abandoned]

end Advances

end Books

/-! ## Requests side by side -/

/-- The turn of the game and its word, as a guess has found them: its first two steps look up the
user and the game, and the next two the turn and the word by which it is judged. -/
def JudgedBy (game : Id) (found : List Service) (turn : Turn) (word : Word) : Prop :=
  (∃ s, found[2]? = some s ∧ s.books.store.latestTurn game = .ok (some turn)) ∧
    ∃ s, found[3]? = some s ∧ s.books.store.findWord turn.wordId = some word

/-- Every step lets the books grow and keeps their integrity, and a guess that succeeds with the
word by which it is judged leaves its player with an award. -/
def scoring : Discipline Service Request (Except GameError Answer) where
  inv s := s.books.Integrity
  rely s t := s.books.Grows t.books
  post request found result s :=
    match request, result with
    | .guess game user content, .ok _ => ∃ turn word, JudgedBy game found turn word ∧
        (Secret.sameWord content word.word = true →
          ∃ a ∈ s.books.ledger.awards, a.turnId = turn.id ∧ a.playerId = user)
    | _, _ => True
  refl s := .refl s.books
  trans h h' := h.trans h'
  stable := by
    intro request found result s t grows post
    split
    · rename_i game user content answer
      obtain ⟨turn, word, judged, awarded⟩ := post
      refine ⟨turn, word, judged, fun same => ?_⟩
      obtain ⟨a, ha, rest⟩ := awarded same
      exact ⟨a, grows.awards.subset ha, rest⟩
    · trivial

namespace scoring

/-- A change of the service that leaves the books alone is allowed. -/
theorem allows_of_books {s t : Service} (h : t.books = s.books) : scoring.Allows s t := by
  refine ⟨?_, ?_⟩
  · show s.books.Grows t.books
    rw [h]
    exact .refl _
  · show s.books.Integrity → t.books.Integrity
    rw [h]
    exact id

/-! ## A guess -/

section Guess

variable {game user : Id} {content : String} {found : List Service} {s : Service} {α β : Type}

/-- A guess goes on after an entry, which may find that the books have grown. -/
theorem secures_entryWith {e : RoomSettings → Entry α} {k : α → Operation β}
    {l : β → Operation Answer}
    (advances : ∀ t : Service, s.books.Grows t.books → t.books.Advances (e t.settings t.books).2)
    (rest : ∀ (t : Service) a b', s.books.Grows t.books → (e t.settings).Yields t.books a b' →
      scoring.Secures (.guess game user content) (found ++ [t]) (k a >>= l : Operation Answer)
        { t with books := b' }) :
    scoring.Secures (.guess game user content) found
      ((Operation.entryWith e >>= k) >>= l : Operation Answer) s := by
  intro t grows inv
  refine ⟨advances t grows, ?_⟩
  show scoring.Secures _ _ (Script.bind (Script.bind (.done (t.work (e t.settings)).1)
    (ExceptT.bindCont k)) (ExceptT.bindCont l)) (t.work (e t.settings)).2
  rcases (e t.settings).yields_or_fails t.books with ⟨a, y⟩ | ⟨x, f⟩
  · have work : t.work (e t.settings) = (.ok a, { t with books := (e t.settings t.books).2 }) := by
      unfold Service.work
      rw [y]
    rw [work]
    exact rest t a _ grows y
  · have work : t.work (e t.settings) =
        (.error x, { t with books := (e t.settings t.books).2 }) := by
      unfold Service.work
      rw [f]
    rw [work]
    trivial

theorem secures_change {f : Service → Service} {k : Unit → Operation β} {l : β → Operation Answer}
    (books : ∀ t, (f t).books = t.books)
    (rest : ∀ t : Service, s.books.Grows t.books →
      scoring.Secures (.guess game user content) (found ++ [t]) (k () >>= l : Operation Answer)
        (f t)) :
    scoring.Secures (.guess game user content) found
      ((Operation.change f >>= k) >>= l : Operation Answer) s :=
  fun t grows _ => ⟨allows_of_books (books t), rest t grows⟩

end Guess

/-- The guesser has an award if the guess is the word that its fourth step has found. -/
theorem secures_guess (game user : Id) (content : String) (s : Service) :
    scoring.Secures (.guess game user content) [] (Request.guess game user content).operation s := by
  have c := Books.Advances.isCourse
  refine secures_entryWith (e := fun _ => Entry.requireUser user)
    (fun t _ => Entry.along_requireUser c user _) fun t₀ u _ _ asked => ?_
  obtain ⟨foundUser, rfl⟩ := Entry.yields_requireUser.1 asked
  refine secures_entryWith (e := fun _ => Entry.requireGame game)
    (fun t _ => Entry.along_requireGame c game _) fun t₁ g _ _ asked => ?_
  obtain ⟨-, rfl⟩ := Entry.yields_requireGame.1 asked
  refine secures_entryWith (e := fun _ => Entry.requireTurn game)
    (fun t _ => Entry.along_requireTurn c game _) fun t₂ turn _ _ asked => ?_
  obtain ⟨foundTurn, rfl⟩ := Entry.yields_requireTurn.1 asked
  refine secures_entryWith (e := fun _ => Entry.requireWord turn.wordId)
    (fun t _ => Entry.along_requireWord c _ _) fun t₃ word _ grows₃ asked => ?_
  obtain ⟨foundWord, rfl⟩ := Entry.yields_requireWord.1 asked
  have begun := (Store.mem_rounds_of_latestTurn foundTurn).1
  have its := (Store.mem_rounds_of_latestTurn foundTurn).2
  -- what the turn and the word were then, they still are when the guess is judged
  have begun₃ : turn.round ∈ t₃.books.ledger.rounds := grows₃.rounds.subset begun
  refine secures_entryWith
    (e := fun settings => Entry.inUnit (Entry.judge settings game turn word u content))
    (fun t grows => ?_) fun t₄ judged b' grows₄ asked => ?_
  · refine .of_judge (grows.rounds.subset begun₃) its ?_
    rw [grows.words, Books.ledger, ← Store.findWord_eq]
    exact foundWord
  · have closes : ∀ (later : List Service) (t : Service) (answer : Answer), b'.Grows t.books →
        scoring.post (.guess game user content) (t₀ :: t₁ :: t₂ :: t₃ :: later) (.ok answer) t := by
      intro later t answer grows
      refine ⟨turn, word, ⟨⟨t₂, rfl, foundTurn⟩, t₃, rfl, foundWord⟩, fun same => ?_⟩
      obtain ⟨a, ha, byTurn, byPlayer⟩ := Entry.awarded_of_judge asked same
      exact ⟨a, grows.awards.subset ha, byTurn, byPlayer.trans (Store.id_of_findUser foundUser).1⟩
    obtain ⟨message, verdict⟩ := judged
    refine secures_change (fun _ => rfl) fun t₅ grows₅ => ?_
    by_cases ends : verdict.endsTurn = true
    · rw [if_pos ends]
      refine secures_change (fun _ => rfl) fun t₆ grows₆ => ?_
      exact closes [t₄, t₅, t₆] _ _ (grows₅.trans grows₆)
    · rw [if_neg ends]
      exact closes [t₄, t₅] _ _ grows₅

/-- No other request needs anything of what its steps have found. -/
theorem secures (request : Request) (s : Service) :
    scoring.Secures request [] request.operation s := by
  by_cases h : ∀ g u c, request ≠ .guess g u c
  · have along : Script.Along scoring.Allows request.operation :=
      Operation.along_operation_of_ne Books.Advances.carries h
    refine Discipline.secures_of_along along (fun found result t => ?_) [] s
    unfold scoring
    dsimp only
    split
    · rename_i game user content _
      exact absurd rfl (h game user content)
    · trivial
  · push Not at h
    obtain ⟨game, user, content, rfl⟩ := h
    exact secures_guess game user content s

end scoring

/-! ## Every interleaving -/

/-- A change of the service that leaves the books alone. -/
def Service.Idle (change : Service → Service) : Prop := ∀ s, (change s).books = s.books

/-- Requests of any number, whose steps are taken in any order, while hub, queue, jobs and clock
change as they like. -/
def Service.serve (s : Service) (moves : List (Interleaving.Move Service Request Service.Idle)) :
    Interleaving Service Request (Except GameError Answer) :=
  (⟨s, []⟩ : Interleaving Service Request (Except GameError Answer)).play Request.operation moves

theorem Service.sound_serve {s : Service} (fresh : s.books.Fresh)
    (injective : Function.Injective s.books.supply.id)
    (moves : List (Interleaving.Move Service Request Service.Idle)) :
    scoring.Sound (s.serve moves) :=
  (Discipline.Sound.start (fresh.integrity injective : s.books.Integrity)).play scoring.secures
    (fun _ idle t => scoring.allows_of_books (idle t)) moves

/-- At most one award of a player for a turn. -/
theorem Ledger.ScoresHold.eq_of_mem {l : Ledger} (h : l.ScoresHold) {a a' : Award}
    (ha : a ∈ l.awards) (ha' : a' ∈ l.awards) (turn : a.turnId = a'.turnId)
    (player : a.playerId = a'.playerId) : a = a' :=
  List.inj_on_of_nodup_map h.one_each ha ha' (Prod.ext turn player)

/-- However the steps of requests fall, the scores hold at any time, and a guess that has succeeded
was judged by a turn and a word it had looked up, and if it is that word then exactly one award for
that turn is the guesser's. -/
theorem scores_hold_side_by_side (s : Service) (fresh : s.books.Fresh)
    (injective : Function.Injective s.books.supply.id)
    (moves : List (Interleaving.Move Service Request Service.Idle)) :
    (s.serve moves).state.books.ledger.ScoresHold ∧
      ∀ e ∈ (s.serve moves).errands, ∀ game user content answer,
        e.task = .guess game user content → e.result? = some (.ok answer) →
        ∃ turn word, JudgedBy game e.found turn word ∧
          (Secret.sameWord content word.word = true →
            ∃! a, a ∈ (s.serve moves).state.books.ledger.awards ∧
              a.turnId = turn.id ∧ a.playerId = user) := by
  have sound := Service.sound_serve fresh injective moves
  have holds : (s.serve moves).state.books.ledger.ScoresHold := sound.inv.scores
  refine ⟨holds, ?_⟩
  rintro ⟨task, found, rest⟩ mem game user content answer rfl ended
  obtain ⟨turn, word, judged, awarded⟩ := sound.ended mem ended
  refine ⟨turn, word, judged, fun same => ?_⟩
  obtain ⟨a, ha, byTurn, byPlayer⟩ := awarded same
  refine ⟨a, ⟨ha, byTurn, byPlayer⟩, ?_⟩
  rintro a' ⟨ha', byTurn', byPlayer'⟩
  exact holds.eq_of_mem ha' ha (byTurn'.trans byTurn.symm) (byPlayer'.trans byPlayer.symm)

/-- A player alone in a game sends the word twice, and the steps of the two guesses alternate. -/
def Service.twiceAtOnce : List (Interleaving.Move Service Request Service.Idle) :=
  [.begin .initUser] ++ List.replicate 5 (.step 0) ++
    [.begin (.initGame "|")] ++ List.replicate 3 (.step 1) ++
    [.begin (.guess "||||||" "|" "apple"), .begin (.guess "||||||" "|" "Apple")] ++
    List.flatten (List.replicate 7 [.step 2, .step 3])

theorem scores_hold_twice_at_once :
    (Service.opening [⟨"w", "apple", "🍎"⟩]).books.Fresh ∧ Function.Injective Supply.counting.id ∧
      ((Service.opening [⟨"w", "apple", "🍎"⟩]).serve
        Service.twiceAtOnce).state.books.ledger.ScoresHold ∧
      ∃ e ∈ ((Service.opening [⟨"w", "apple", "🍎"⟩]).serve Service.twiceAtOnce).errands,
        e.task = .guess "||||||" "|" "Apple" ∧
        e.result? = some (.ok (.post ⟨true, "SillyCat", "Apple"⟩)) ∧
        ∃ turn word, JudgedBy "||||||" e.found turn word ∧
          (Secret.sameWord "Apple" word.word = true →
            ∃! a, a ∈ ((Service.opening [⟨"w", "apple", "🍎"⟩]).serve
                Service.twiceAtOnce).state.books.ledger.awards ∧
              a.turnId = turn.id ∧ a.playerId = "|") := by
  have fresh : (Service.opening [⟨"w", "apple", "🍎"⟩]).books.Fresh := ⟨rfl, rfl, rfl⟩
  have all := scores_hold_side_by_side _ fresh Supply.counting_injective Service.twiceAtOnce
  have second : ((Service.opening [⟨"w", "apple", "🍎"⟩]).serve
      Service.twiceAtOnce).errands[3]?.map (fun e => (e.task, e.result?)) =
        some (.guess "||||||" "|" "Apple", some (.ok (.post ⟨true, "SillyCat", "Apple"⟩))) := by
    decide +kernel
  obtain ⟨e, mem, task, result⟩ := Interleaving.exists_errand second
  exact ⟨fresh, Supply.counting_injective, all.1, e, mem, task, result,
    all.2 e mem _ _ _ _ task result⟩

end GuessingRoom
