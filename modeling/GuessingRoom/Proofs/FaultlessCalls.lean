import GuessingRoom.Proofs.TwoStores
import GuessingRoom.Proofs.WellKept

/-!
# Calls without faults

Calls side by side, step by step, on a service that began with a blank store: at any time its ledger
is well-formed and its rows keep all rules, no call ends with a fault of the program, and no message
in a view goes without a nickname (`store_stays_well_formed`). An operation is followed from wherever
the others leave the books between two of its steps (`Operation.Serves`); what it has looked up stays
true because rows are only ever added.
-/

namespace GuessingRoom

/-! ## Safe entries -/

namespace Entry

open Books

variable {α : Type} {b : Books} {game user : Id}

/-- The entry leaves well-kept books in which nothing has gone, and does not fail through a fault. -/
structure Safe (e : Entry α) (b : Books) : Prop where
  further : b.Extends (e b).2
  wellKept : (e b).2.WellKept
  fine : e.Fine b

/-- An entry is safe if what it puts down keeps the ledger well-formed, and it puts down nothing when
it fails. -/
theorem safe_of {e : Entry α} (kept : b.WellKept) (spreads : b.Spreads (e b).2)
    (advances : b.Advances (e b).2) (fine : e.Fine b)
    (fails : ∀ x b', e.Fails b x b' → b'.ledger = b.ledger)
    (yields : ∀ a b', e.Yields b a b' → b'.ledger.WellFormed) : e.Safe b := by
  have wellFormed : (e b).2.ledger.WellFormed := by
    rcases e.yields_or_fails b with ⟨a, y⟩ | ⟨x, f⟩
    · exact yields a _ y
    · rw [fails x _ f]
      exact kept.wellFormed
  have further := kept.of_advances advances spreads wellFormed
  exact ⟨further.1, further.2, fine⟩

section WellKept

variable (kept : b.WellKept)
include kept

theorem safe_of_looks {e : Entry α} (looks : e.Looks) (fine : e.Fine b) : e.Safe b := by
  refine ⟨?_, ?_, fine⟩ <;> rw [looks]
  · exact .refl b
  · exact kept

/-- An entry that only makes a draw. -/
theorem safe_of_draw {e : Entry α} (draws : (e b).2 = { b with drawn := b.drawn + 1 })
    (fine : e.Fine b) : e.Safe b := by
  have further := kept.of_advances (Books.Advances.isCourse.draw b) (Spreads.isCourse.draw b)
    kept.wellFormed
  refine ⟨?_, ?_, fine⟩ <;> rw [draws]
  · exact further.1
  · exact further.2

theorem safe_drawWord : drawWord.Safe b := by
  refine safe_of_draw kept ?_ (fine_drawWord kept)
  rcases drawWord.yields_or_fails b with ⟨a, y⟩ | ⟨x, f⟩
  · exact (drawWord_yields y).2
  · exact (drawWord_fails f).2

theorem safe_upsertUser (id : Id) {nickname : String} (given : nickname ≠ "") :
    (Entry.upsertUser id nickname).Safe b := by
  refine safe_of kept (Spreads.along_upsertUser id given b)
    (Books.Advances.carries.upsertUser id nickname b) (fine_stamped (fine_put ⟨_, rfl⟩)) ?_ ?_
  · intro x b' f
    rw [(fails_stamped f).1]
    rfl
  · intro u b' y
    obtain ⟨store, rfl, users, -, old, e⟩ := upsertUser_yields y
    show store.ledger.WellFormed
    rw [e]
    exact kept.wellFormed.addUsers old

theorem safe_openGame {word : Word} (known : user ∈ b.ledger.users) (listed : word ∈ b.ledger.words) :
    (inUnit (Operation.openGame user word)).Safe b := by
  refine safe_of kept (Along.inUnit Spreads.isCourse (along_openGame Spreads.carries.toCarriesRooms _ _) b)
    (Along.inUnit Advances.isCourse (along_openGame Advances.carries.toCarriesRooms _ _) b)
    (fine_openGame kept known ⟨word, listed, rfl⟩).inUnit (fun _ _ => unchanged_of_fails_inUnit) ?_
  intro g b' y
  obtain ⟨after, whole, rfl⟩ := yields_inUnit.1 y
  obtain ⟨m, n, store, drawn, first, -, -, rfl, e⟩ := openGame_yields whole
  rw [ledger_committed]
  show store.ledger.WellFormed
  rw [e]
  refine kept.wellFormed.open_ known ⟨word, listed, rfl⟩ fun mem => ?_
  obtain ⟨k, lt, same⟩ := kept.keyed.games_drawn _ mem
  have := kept.keyed.injective same
  omega

theorem safe_takeSeat (settings : RoomSettings) {u : User} (known : u.id ∈ b.ledger.users)
    (there : game ∈ b.ledger.games) : (inUnit (Operation.takeSeat settings game u)).Safe b := by
  refine safe_of kept (Along.inUnit Spreads.isCourse (along_takeSeat Spreads.carries.toCarriesRooms _ _ _) b)
    (Along.inUnit Advances.isCourse (along_takeSeat Advances.carries.toCarriesRooms _ _ _) b)
    (fine_takeSeat kept settings known there).inUnit (fun _ _ => unchanged_of_fails_inUnit) ?_
  intro _ b' y
  obtain ⟨after, whole, rfl⟩ := yields_inUnit.1 y
  rw [ledger_committed]
  rcases takeSeat_yields kept.legible whole with ⟨-, store, rfl, e⟩ | ⟨free, store, rfl, e⟩
  · show store.ledger.WellFormed
    rw [e]
    exact kept.wellFormed.setSeat game u.id true
  · show store.ledger.WellFormed
    rw [e]
    refine kept.wellFormed.addSeat there known ?_
    rintro ⟨seat, hs, here, same⟩
    exact free seat hs here same

theorem safe_setState (state : PlayerState) (seated : b.ledger.HasSeat game user) :
    (put (·.setState game user state)).Safe b := by
  refine safe_of kept (Spreads.carries.setState game user state b)
    (Advances.carries.setState game user state b)
    (fine_put (Store.Healthy.exists_setState state seated)) ?_ ?_
  · intro x b' f
    rw [(fails_write f).1]
  · intro _ b' y
    obtain ⟨store, rfl, e⟩ := setState_yields y
    show store.ledger.WellFormed
    rw [e]
    exact kept.wellFormed.setSeat game user _

theorem safe_addTurn {word : Word} (there : game ∈ b.ledger.games) (listed : word ∈ b.ledger.words) :
    (addTurn game word.id).Safe b := by
  refine safe_of kept (Spreads.carries.addTurn game word.id b)
    (Advances.carries.addTurn game word.id b)
    (fine_stamped (fine_write
      (kept.healthy.exists_addTurn _ (kept.fresh_round le_rfl) there ⟨word, listed, rfl⟩))) ?_ ?_
  · intro x b' f
    rw [(fails_stamped f).1]
    rfl
  · intro turn b' y
    obtain ⟨-, store, rfl, e⟩ := addTurn_yields y
    show store.ledger.WellFormed
    rw [e]
    exact kept.wellFormed.addRound there ⟨word, listed, rfl⟩

theorem safe_addMessage {turn : Id} (content : String) (begun : b.ledger.HasTurn game turn)
    (seated : b.ledger.HasSeat game user) : (addMessage game turn user content).Safe b := by
  refine safe_of kept (Spreads.carries.addMessage game turn user content b)
    (Advances.carries.addMessage game turn user content b)
    (fine_addMessage kept content begun seated) ?_ ?_
  · intro x b' f
    rw [(fails_stamped f).1]
    rfl
  · intro m b' y
    obtain ⟨-, store, rfl, e⟩ := addMessage_yields y
    show store.ledger.WellFormed
    rw [e]
    exact kept.wellFormed.addLine begun seated

theorem safe_judge (settings : RoomSettings) {turn : Turn} {word : Word} {u : User}
    (content : String) (begun : turn.round ∈ b.ledger.rounds) (its : turn.gameId = game)
    (looked : b.ledger.words.find? (·.id == turn.wordId) = some word) :
    (inUnit (judge settings game turn word u content)).Safe b := by
  have hasTurn : b.ledger.HasTurn game turn.id := ⟨_, begun, rfl, its⟩
  refine safe_of kept (Along.inUnit Spreads.isCourse
      (along_judge Spreads.isCourse Spreads.carries.addMessage Spreads.along_addScore _ _ _ _ _ _) b)
    (.of_judge begun its looked) (fine_judge kept settings content hasTurn).inUnit
    (fun _ _ => unchanged_of_fails_inUnit) ?_
  rintro ⟨m, verdict⟩ b' y
  obtain ⟨after, whole, rfl⟩ := yields_inUnit.1 y
  obtain ⟨line, active, read, seated, store, drawn, rfl, -, judged⟩ := judge_yields whole
  rw [ledger_committed]
  refine kept.wellFormed.judged ?_ ?_ judged <;> rw [line]
  · exact hasTurn
  · exact hasSeat_of_active kept read seated

end WellKept

end Entry

/-! ## Operations among others -/

/-- The books are well kept, and every game that is to go on to its next turn is in them. -/
structure Service.WellKept (s : Service) : Prop where
  books : s.books.WellKept
  advances : ∀ p ∈ s.advances, p.2 ∈ s.books.ledger.games

theorem Service.WellKept.of_books {s : Service} (h : s.WellKept) {b : Books}
    (further : s.books.Extends b) (kept : b.WellKept) : Service.WellKept { s with books := b } :=
  ⟨kept, fun p hp => further.within.games _ (h.advances p hp)⟩

/-- From the given service, or from wherever others take it, every step of the script leaves a
well-kept service with all rows, and the script ends as the predicate says. -/
def Script.Serves {α : Type} (P : α → Service → Prop) : Script Service α → Service → Prop
  | .done a, s => P a s
  | .step effect next, s => ∀ t : Service, s.books.Extends t.books → t.WellKept →
      t.books.Extends (effect t).books ∧ (effect t).WellKept ∧ (next t).Serves P (effect t)

namespace Operation

variable {α β : Type} {s : Service} {P : α → Service → Prop} {Q : β → Service → Prop}

/-- The operation does not end with a fault, and if it succeeds then as the predicate says. -/
def Serves (op : Operation α) (s : Service) (P : α → Service → Prop) : Prop :=
  Script.Serves (fun
    | .ok a, t => P a t
    | .error x, _ => x.isFault = false) op s

/-! ### Rules -/

theorem serves_pure {a : α} (h : P a s) : (pure a : Operation α).Serves s P := h

theorem serves_throw {x : GameError} (h : x.isFault = false) :
    (throw x : Operation α).Serves s P := h

theorem Serves.bind {x : Operation α} {k : α → Operation β} (first : x.Serves s P)
    (rest : ∀ a t, P a t → (k a).Serves t Q) : (x >>= k).Serves s Q := by
  show Script.Serves _ (Script.bind x (ExceptT.bindCont k)) s
  induction x generalizing s with
  | done r =>
    cases r with
    | ok a => exact rest a s first
    | error e => exact first
  | step effect next ih =>
    intro t further kept
    obtain ⟨further', kept', after⟩ := first t further kept
    exact ⟨further', kept', ih t after⟩

theorem Serves.check {p : Prop} [Decidable p] {x : GameError} {k : β → Operation α}
    {op : Operation α} (h : x.isFault = false) (passes : ¬ p → op.Serves s P) :
    (if p then throw x >>= k else op : Operation α).Serves s P := by
  split
  · exact h
  · rename_i not
    exact passes not

/-- An entry may find that rows have been added. -/
theorem serves_step {e : RoomSettings → Entry α}
    (safe : ∀ t : Service, s.books.Extends t.books → t.WellKept → (e t.settings).Safe t.books)
    (yields : ∀ (t : Service) a b', s.books.Extends t.books → t.WellKept →
      (e t.settings).Yields t.books a b' → P a { t with books := b' }) : (entryWith e).Serves s P := by
  intro t further kept
  have safe := safe t further kept
  have yields := yields t
  refine ⟨safe.further, kept.of_books safe.further safe.wellKept, ?_⟩
  show Script.Serves _ (.done (t.work (e t.settings)).1) (t.work (e t.settings)).2
  unfold Service.work
  rcases (e t.settings).yields_or_fails t.books with ⟨a, y⟩ | ⟨x, f⟩
  · rw [show e t.settings t.books = _ from y]
    exact yields a _ further kept y
  · rw [show e t.settings t.books = _ from f]
    exact safe.fine x _ f

/-- An entry with what comes after it. -/
theorem serves_entryWith {e : RoomSettings → Entry α} {k : α → Operation β}
    (safe : ∀ t : Service, s.books.Extends t.books → t.WellKept → (e t.settings).Safe t.books)
    (rest : ∀ (t : Service) a b', s.books.Extends t.books → t.WellKept →
      (e t.settings).Yields t.books a b' → (k a).Serves { t with books := b' } Q) :
    (entryWith e >>= k).Serves s Q :=
  (serves_step (P := fun a u => (k a).Serves u Q) safe rest).bind fun _ _ h => h

theorem serves_entry {e : Entry α} {k : α → Operation β}
    (safe : ∀ t : Service, s.books.Extends t.books → t.WellKept → e.Safe t.books)
    (rest : ∀ (t : Service) a b', s.books.Extends t.books → t.WellKept → e.Yields t.books a b' →
      (k a).Serves { t with books := b' } Q) : (entry e >>= k).Serves s Q :=
  serves_entryWith (e := fun _ => e) safe rest

/-- An entry that leaves the books alone, with what comes after it. -/
theorem serves_looks {e : Entry α} {k : α → Operation β} (looks : e.Looks)
    (fine : ∀ t : Service, s.books.Extends t.books → t.WellKept → e.Fine t.books)
    (rest : ∀ (t : Service) a, s.books.Extends t.books → t.WellKept → e.Yields t.books a t.books →
      (k a).Serves t Q) : (entry e >>= k).Serves s Q := by
  refine serves_entry (fun t further kept => Entry.safe_of_looks kept.books looks (fine t further kept))
    fun t a b' further kept y => ?_
  obtain rfl : b' = t.books := by rw [← looks t.books, y]
  exact rest t a further kept y

/-- An entry with nothing after it. -/
theorem serves_last {e : Entry α}
    (safe : ∀ t : Service, s.books.Extends t.books → t.WellKept → e.Safe t.books) :
    (entry e).Serves s fun _ _ => True :=
  serves_step (e := fun _ => e) safe fun _ _ _ _ _ _ => trivial

theorem serves_change {P : Unit → Service → Prop} {f : Service → Service} (books : ∀ t, (f t).books = t.books)
    (advances : ∀ t : Service, s.books.Extends t.books → t.WellKept →
      ∀ p ∈ (f t).advances, p.2 ∈ t.books.ledger.games)
    (after : ∀ t : Service, s.books.Extends t.books → P () (f t)) : (change f).Serves s P := by
  intro t further kept
  refine ⟨?_, ⟨?_, ?_⟩, after t further⟩ <;> dsimp only <;> rw [books]
  · exact .refl _
  · exact kept.books
  · exact advances t further kept

theorem serves_publishLater {P : Unit → Service → Prop} {game : Id} {items : List Outgoing}
    (after : ∀ t : Service, s.books.Extends t.books → P () (t.publishLater game items)) :
    (change (Service.publishLater game items)).Serves s P := by
  refine serves_change (fun _ => rfl) (fun t _ kept p hp => kept.advances p ?_) after
  have same : (t.publishLater game items).advances = t.advances := Service.advances_spawn _ rfl
  rwa [same] at hp

/-! ### Operations of the game -/

open Entry

theorem given_nickname {adjective animal : Option String}
    (first : ∀ a ∈ adjective, a ∈ Nickname.adjectives) :
    adjective.getD "Silly" ++ animal.getD "Cat" ≠ "" := by
  have listed : ∀ a ∈ Nickname.adjectives, a ≠ "" := by decide
  intro empty
  have nothing := (String.append_eq_empty_iff.1 empty).1
  cases adjective with
  | none => exact absurd nothing (by decide)
  | some a => exact listed a (first a rfl) nothing

theorem serves_initUser : initUser.Serves s fun _ _ => True := by
  refine serves_entry (fun t _ kept => safe_of_draw kept.books rfl (by rintro _ _ ⟨⟩))
    fun _ stamp _ _ _ _ => ?_
  refine serves_entry (fun t _ kept => safe_of_draw kept.books rfl (by rintro _ _ ⟨⟩))
    fun _ adjective _ _ _ chosen => ?_
  refine serves_entry (fun t _ kept => safe_of_draw kept.books rfl (by rintro _ _ ⟨⟩))
    fun _ animal _ _ _ _ => ?_
  have first : ∀ a ∈ adjective, a ∈ Nickname.adjectives := by
    rintro a rfl
    exact List.mem_of_getElem? (yields_choose.1 chosen).1.symm
  refine serves_entry (fun t _ kept => safe_upsertUser kept.books _ (given_nickname first))
    fun _ _ _ _ _ _ => ?_
  exact serves_last fun t _ kept =>
    safe_of_looks kept.books (looks_requireUser _) (fine_requireUser kept.books _)

theorem serves_initGame (user : Id) : (initGame user).Serves s fun _ _ => True := by
  refine serves_looks (looks_requireUser user) (fun t _ kept => fine_requireUser kept.books user)
    fun t u _ _ asked => ?_
  have known := Store.id_of_findUser (yields_requireUser.1 asked).1
  refine serves_entry (fun t _ kept => safe_drawWord kept.books) fun t₁ word b further _ drew => ?_
  obtain ⟨listed, rfl⟩ := drawWord_yields drew
  refine serves_last fun t₂ further₂ kept => safe_openGame kept.books ?_ ?_
  · exact further₂.within.users _ (further.within.users _ (known.1 ▸ known.2))
  · exact further₂.words ▸ listed

theorem serves_join (game user : Id) : (join game user).Serves s fun _ _ => True := by
  refine serves_looks (looks_requireUser user) (fun t _ kept => fine_requireUser kept.books user)
    fun t u _ _ asked => ?_
  have known := Store.id_of_findUser (yields_requireUser.1 asked).1
  refine serves_looks (looks_requireGame game) (fun t _ kept => fine_requireGame kept.books game)
    fun t₁ _ further _ asked => ?_
  have there := Store.mem_games_of_findGame (yields_requireGame.1 asked).1
  refine serves_entryWith (fun t₂ further₂ kept => safe_takeSeat kept.books _ ?_ ?_)
    fun _ _ _ _ _ _ => serves_publishLater fun _ _ => trivial
  · exact further₂.within.users _ (further.within.users _ (known.1 ▸ known.2))
  · exact further₂.within.games _ there

theorem serves_kick (game user : Id) : (kick game user).Serves s fun _ _ => True := by
  refine Serves.bind (P := fun _ _ => True) ?_ fun connected t _ => ?_
  · exact fun t _ kept => ⟨.refl _, kept, trivial⟩
  split
  · exact serves_pure trivial
  refine serves_looks (looks_look _) (fun t _ kept => fine_players kept.books game)
    fun t₁ players _ kept₁ asked => ?_
  split
  · exact serves_throw rfl
  rename_i p found
  have seated := hasSeat_of_player kept₁.books (yields_look.1 asked).1 found
  split
  · exact serves_pure trivial
  refine serves_entry (fun t₂ further kept => safe_setState kept.books _ ?_) fun _ _ _ _ _ _ => ?_
  · exact further.within.seats _ _ seated
  exact (serves_publishLater (P := fun _ _ => True) fun _ _ => trivial).bind
    fun _ _ _ => serves_pure trivial

/-- The rows that a guess and a message go by. -/
theorem serves_atTurn {game user : Id} {k : User → Turn → Word → Operation β}
    (rest : ∀ (t : Service) (u : User) turn word, t.WellKept → game ∈ t.books.ledger.games →
      turn.round ∈ t.books.ledger.rounds → turn.gameId = game →
      t.books.ledger.words.find? (·.id == turn.wordId) = some word → (k u turn word).Serves t Q) :
    (do
      let u ← entry (requireUser user)
      let _ ← entry (requireGame game)
      let turn ← entry (requireTurn game)
      let word ← entry (requireWord turn.wordId)
      k u turn word : Operation β).Serves s Q := by
  refine serves_looks (looks_requireUser user) (fun t _ kept => fine_requireUser kept.books user)
    fun t u _ _ _ => ?_
  refine serves_looks (looks_requireGame game) (fun t _ kept => fine_requireGame kept.books game)
    fun t₁ _ _ _ asked => ?_
  have there := Store.mem_games_of_findGame (yields_requireGame.1 asked).1
  refine serves_looks (looks_requireTurn game) (fun t₂ further kept =>
    fine_requireTurn kept.books (further.within.games _ there)) fun t₂ turn further₂ kept₂ asked => ?_
  obtain ⟨begun, its⟩ := Store.mem_rounds_of_latestTurn (yields_requireTurn.1 asked).1
  have listed := (kept₂.books.wellFormed.rounds _ begun).2
  refine serves_looks (looks_requireWord _) (fun t₃ further kept => fine_requireWord ?_)
    fun t₃ word further₃ kept₃ asked => ?_
  · unfold Ledger.HasWord
    rw [further.words]
    exact listed
  have looked := (yields_requireWord.1 asked).1
  rw [Store.findWord_eq] at looked
  exact rest t₃ u turn word kept₃ (further₃.within.games _ (further₂.within.games _ there))
    (further₃.rounds.subset begun) its looked

theorem serves_guess (game user : Id) (content : String) :
    (guess game user content).Serves s fun _ _ => True := by
  refine serves_atTurn fun t u turn word _ there begun its looked => ?_
  refine serves_entryWith (fun t₁ further kept => ?_) fun t₁ judged b' further _ y => ?_
  · exact safe_judge kept.books _ _ (further.rounds.subset begun) its (further.words ▸ looked)
  obtain ⟨m, verdict⟩ := judged
  obtain ⟨after, whole, rfl⟩ := yields_inUnit.1 y
  have here : m.gameId = game := congrArg Line.gameId (judge_yields whole).1
  have grown := (Entry.along_judge Books.Spreads.isCourse Books.Spreads.carries.addMessage
    Books.Spreads.along_addScore _ _ _ _ _ _).inUnit Books.Spreads.isCourse |>.yields y
  have there' := grown.within.games _ (further.within.games _ there)
  refine (serves_publishLater (P := fun _ u => game ∈ u.books.ledger.games) fun t₂ further₂ => ?_).bind
    fun _ t₂ there₂ => ?_
  · exact further₂.within.games _ there'
  dsimp only
  split
  · refine Serves.bind (P := fun _ _ => True) (serves_change (fun _ => rfl)
      (fun t₃ further₃ kept p hp => ?_) fun _ _ => trivial) fun _ _ _ => serves_pure trivial
    have scheduled : (t₃.schedule t₃.settings.turnDelay (.nextTurn m.gameId)).advances =
        t₃.advances ++ [(t₃.now + t₃.settings.turnDelay, m.gameId)] := by
      simp [Service.schedule, Service.spawn, Service.advances, Job.advance?]
    rw [scheduled] at hp
    rcases List.mem_append.1 hp with old | new
    · exact kept.advances p old
    · rw [List.mem_singleton.1 new, here]
      exact further₃.within.games _ there₂
  · exact serves_pure trivial

theorem serves_say (game user : Id) (content : String) :
    (say game user content).Serves s fun _ _ => True := by
  refine serves_atTurn fun t u turn word _ _ begun its _ => ?_
  refine serves_looks (looks_look _) (fun t _ kept => fine_activePlayers kept.books game)
    fun t₁ active further kept₁ asked => ?_
  refine .check rfl fun seated => ?_
  have seat := hasSeat_of_active kept₁.books (yields_look.1 asked).1 (by simpa using seated)
  refine serves_entry (fun t₂ further₂ kept => safe_addMessage kept.books content ?_ ?_)
    fun _ _ _ _ _ _ => ?_
  · exact ⟨_, further₂.rounds.subset (further.rounds.subset begun), rfl, its⟩
  · exact further₂.within.seats _ _ seat
  exact (serves_publishLater (P := fun _ _ => True) fun _ _ => trivial).bind
    fun _ _ _ => serves_pure trivial

theorem serves_view (game viewer : Id) : (view game viewer).Serves s fun _ _ => True := by
  refine serves_looks (looks_requireGame game) (fun t _ kept => fine_requireGame kept.books game)
    fun t₁ _ _ _ asked => ?_
  have there := Store.mem_games_of_findGame (yields_requireGame.1 asked).1
  refine serves_looks (looks_look _) (fun t _ kept => fine_players kept.books game)
    fun t₂ players further₂ _ _ => ?_
  refine .check rfl fun _ => ?_
  refine serves_looks (looks_requireTurn game) (fun t₃ further kept => fine_requireTurn kept.books ?_)
    fun t₃ turn _ kept₃ asked => ?_
  · exact further.within.games _ (further₂.within.games _ there)
  have begun := (Store.mem_rounds_of_latestTurn (yields_requireTurn.1 asked).1).1
  have listed := (kept₃.books.wellFormed.rounds _ begun).2
  refine serves_looks (looks_requireWord _) (fun t₄ further kept => fine_requireWord ?_)
    fun t₄ word _ _ _ => ?_
  · unfold Ledger.HasWord
    rw [further.words]
    exact listed
  refine serves_looks (looks_look _) (fun t _ kept => fine_look (kept.books.healthy.messages game))
    fun _ messages _ _ _ => ?_
  refine serves_looks (looks_look _) (fun t _ kept => fine_look (kept.books.legible.scores game))
    fun _ scores _ _ _ => ?_
  cases derived : View.derive ⟨game, players, turn, word, messages, scores⟩ viewer with
  | ok v => exact serves_pure trivial
  | error x =>
    obtain rfl : x = .notInGame := by
      unfold View.derive at derived
      dsimp only at derived
      split at derived <;> cases derived
      rfl
    exact serves_throw rfl

theorem serves_nextTurn {game : Id} (there : game ∈ s.books.ledger.games) :
    (nextTurn game).Serves s fun _ _ => True := by
  refine serves_entry (fun t _ kept => safe_drawWord kept.books) fun t word b further _ drew => ?_
  obtain ⟨listed, rfl⟩ := drawWord_yields drew
  refine serves_entry (fun t₁ further₁ kept => safe_addTurn kept.books ?_ ?_)
    fun _ _ _ _ _ _ => serves_pure trivial
  · exact further₁.within.games _ (further.within.games _ there)
  · exact further₁.words ▸ listed

end Operation

end GuessingRoom
