import GuessingRoom.Proofs.OwnEntries
import GuessingRoom.Proofs.WellFormedStore

/-!
# Operations that stay in a game

A step of an operation on a game works on the books, queues notices of the game or schedules its next
turn, and it does the same wherever the service is alike as far as the game goes
(`Service.GoAlike`). What comes after the step does not depend on anything else either, so that a
whole operation stays in its game (`Script.StaysIn`), whatever happens to other games between its
steps.
-/

namespace GuessingRoom

namespace Service

/-- The services have the same settings, and books that share the game, and the same players are
connected to it. -/
structure Shares (game : Id) (limit : Nat) (s t : Service) : Prop where
  settings : t.settings = s.settings
  books : s.books.Shares game limit t.books
  connected : t.hub.subscribers game = s.hub.subscribers game

/-- What a step of an operation on the game comes to on two services. -/
inductive GoAlike (game : Id) (limit : Nat) (s t : Service) : Service → Service → Prop where
  | works (b c : Books) (keeps : s.books.KeepsTo game b) (shares : b.Shares game limit c)
    (draws : c.drawn + s.books.drawn = t.books.drawn + b.drawn) :
    GoAlike game limit s t { s with books := b } { t with books := c }
  | queues (items : List Outgoing) :
    GoAlike game limit s t (s.publishLater game items) (t.publishLater game items)
  | schedules (delay : Nat) :
    GoAlike game limit s t (s.schedule delay (.nextTurn game)) (t.schedule delay (.nextTurn game))

theorem Shares.refl (game : Id) (limit : Nat) (s : Service) : s.Shares game limit s :=
  ⟨rfl, .refl game limit s.books, rfl⟩

end Service

/-- On services that share the game each step of the script comes to the same, and so does what comes
after it. The turns that are known are turns of the game. -/
def Script.StaysIn {α : Type} (game : Id) : (Id → Prop) → Script Service α → Prop
  | _, .done _ => True
  | known, .step effect next => ∀ (limit : Nat) (s t : Service), s.Shares game limit t →
      (∀ id, known id → s.books.HasTurn game id) → (effect s).books.drawn ≤ limit →
        s.GoAlike game limit t (effect s) (effect t) ∧ next s = next t ∧
          StaysIn game ((effect s).books.HasTurn game) (next s)

namespace Service.GoAlike

variable {game : Id} {limit : Nat} {s t s' t' : Service}

theorem keeps (h : s.GoAlike game limit t s' t') : s.books.KeepsTo game s'.books := by
  cases h with
  | works b c keeps shares draws => exact keeps
  | queues | schedules => exact .refl game s.books

theorem shares (h : s.GoAlike game limit t s' t') (before : s.Shares game limit t) :
    s'.Shares game limit t' := by
  cases h with
  | works b c keeps shares draws => exact ⟨before.settings, shares, before.connected⟩
  | queues | schedules => exact ⟨before.settings, before.books, before.connected⟩

theorem draws (h : s.GoAlike game limit t s' t') :
    t'.books.drawn + s.books.drawn = t.books.drawn + s'.books.drawn := by
  cases h with
  | works b c keeps shares draws => exact draws
  | queues | schedules => rfl

end Service.GoAlike

namespace Script.StaysIn

variable {α β : Type} {game : Id} {known : Id → Prop}

theorem mono {known' : Id → Prop} {x : Script Service α} (h : x.StaysIn game known)
    (more : ∀ id, known id → known' id) : x.StaysIn game known' := by
  cases x with
  | done a => trivial
  | step effect next =>
    exact fun limit s t shares there => h limit s t shares fun id mem => there id (more id mem)

/-- To put the value in another form takes no step. -/
theorem bind_done {x : Script Service α} (h : x.StaysIn game known) {k : α → Script Service β}
    (ends : ∀ a, ∃ b, k a = done b) : (x.bind k).StaysIn game known := by
  induction x generalizing known with
  | done a =>
    obtain ⟨b, e⟩ := ends a
    show (k a).StaysIn game known
    rw [e]
    trivial
  | step effect next ih =>
    intro limit s t shares there few
    obtain ⟨alike, same, rest⟩ := h limit s t shares there few
    exact ⟨alike, congrArg (Script.bind · k) same, ih s rest⟩

/-- No other game sees anything of what a step puts down. -/
theorem keeps {effect : Service → Service} {next : Service → Script Service α} {s : Service}
    (h : (step effect next).StaysIn game known) (there : ∀ id, known id → s.books.HasTurn game id) :
    s.books.KeepsTo game (effect s).books ∧
      (next s).StaysIn game ((effect s).books.HasTurn game) := by
  obtain ⟨alike, -, rest⟩ := h _ s s (.refl game _ s) there (Nat.le_refl _)
  exact ⟨alike.keeps, rest⟩

/-- The next step of a call, wherever services share the game. -/
theorem advance {τ : Type} {e e' : Errand Service τ α} {limit : Nat} {s t : Service}
    (h : e.rest.StaysIn game known) (same : e'.rest = e.rest) (shares : s.Shares game limit t)
    (there : ∀ id, known id → s.books.HasTurn game id)
    (few : (e.advance s).1.books.drawn ≤ limit) :
    s.GoAlike game limit t (e.advance s).1 (e'.advance t).1 ∧
      (e'.advance t).2.rest = (e.advance s).2.rest ∧
      (e.advance s).2.rest.StaysIn game ((e.advance s).1.books.HasTurn game) := by
  obtain ⟨task, found, rest⟩ := e
  obtain ⟨task', found', rest'⟩ := e'
  obtain rfl : rest' = rest := same
  cases rest' with
  | done a => exact ⟨.works s.books t.books (.refl game s.books) shares.books rfl, rfl, trivial⟩
  | step effect next =>
    obtain ⟨alike, same, stays⟩ := h limit s t shares there few
    exact ⟨alike, same.symm, stays⟩

theorem advance_self {τ : Type} {e : Errand Service τ α} {s : Service}
    (h : e.rest.StaysIn game known) (there : ∀ id, known id → s.books.HasTurn game id) :
    s.GoAlike game (e.advance s).1.books.drawn s (e.advance s).1 (e.advance s).1 ∧
      (e.advance s).2.rest.StaysIn game ((e.advance s).1.books.HasTurn game) := by
  obtain ⟨alike, -, rest⟩ := h.advance rfl (.refl game _ s) there (Nat.le_refl _)
  exact ⟨alike, rest⟩

theorem drawn_le_run {x : Script Service α} {s : Service} (h : x.StaysIn game known)
    (there : ∀ id, known id → s.books.HasTurn game id) :
    s.books.drawn ≤ (x.run s).2.books.drawn := by
  induction x generalizing known s with
  | done a => exact Nat.le_refl _
  | step effect next ih =>
    obtain ⟨kept, rest⟩ := h.keeps there
    exact kept.drawn.trans (ih s rest fun _ mem => mem)

/-- All steps in a row end the same. -/
theorem run_eq {x : Script Service α} {limit : Nat} {s t : Service} (h : x.StaysIn game known)
    (shares : s.Shares game limit t) (there : ∀ id, known id → s.books.HasTurn game id)
    (few : (x.run s).2.books.drawn ≤ limit) : (x.run t).1 = (x.run s).1 := by
  induction x generalizing known s t with
  | done a => rfl
  | step effect next ih =>
    have later := drawn_le_run (h.keeps there).2 (s := effect s) fun _ mem => mem
    obtain ⟨alike, same, rest⟩ := h limit s t shares there (later.trans few)
    show ((next t).run (effect t)).1 = ((next s).run (effect s)).1
    rw [← same]
    exact ih s rest (alike.shares shares) (fun _ mem => mem) few

end Script.StaysIn

namespace Operation

open Script (StaysIn)

variable {α β : Type} {game : Id} {known : Id → Prop}

theorem stays_pure (a : α) : StaysIn game known (pure a : Operation α) := trivial

/-- A check before the rest either ends the operation or lets it go on. -/
theorem stays_check {p : Prop} [Decidable p] {x : GameError} {k : β → Operation α}
    {op : Operation α} (h : StaysIn game known op) :
    StaysIn game known (if p then throw x >>= k else op : Operation α) := by
  split
  · trivial
  · exact h

theorem stays_then {x : Operation α} (h : StaysIn game known x) (f : α → β) :
    StaysIn game known (x >>= fun a => pure (f a) : Operation β) := by
  refine StaysIn.bind_done h fun r => ?_
  cases r with
  | error e => exact ⟨.error e, rfl⟩
  | ok a => exact ⟨.ok (f a), rfl⟩

theorem stays_map {x : Operation α} (h : StaysIn game known x) (f : α → β) :
    StaysIn game known (f <$> x : Operation β) := stays_then h f

/-- What comes after a step that ends the same on both services. -/
theorem stays_next {f : Service → Except GameError α × Service} {k : α → Operation β}
    (alike : ∀ {limit : Nat} {s t : Service}, s.Shares game limit t →
      (∀ id, known id → s.books.HasTurn game id) → (f s).2.books.drawn ≤ limit →
        s.GoAlike game limit t (f s).2 (f t).2 ∧ (f t).1 = (f s).1)
    (rest : ∀ s a, (∀ id, known id → s.books.HasTurn game id) → (f s).1 = .ok a →
      StaysIn game ((f s).2.books.HasTurn game) (k a)) :
    StaysIn game known (step f >>= k : Operation β) := by
  intro limit s t shares there few
  obtain ⟨alike, same⟩ := alike shares there few
  refine ⟨alike, congrArg (ExceptT.bindCont k) same.symm, ?_⟩
  show StaysIn game _ (ExceptT.bindCont k (f s).1 : Operation β)
  rcases ended : (f s).1 with e | a
  · trivial
  · exact rest s a there ended

/-- Work on the books, and what comes after it: turns of the game that were known are known on. -/
theorem stays_entryWith {e : RoomSettings → Entry α} {k : α → Operation β}
    (h : ∀ settings, (e settings).StaysIn game fun b => ∀ id, known id → b.HasTurn game id)
    (rest : ∀ a settings b b', (e settings).Yields b a b' →
      (∀ id, known id → b'.HasTurn game id) → StaysIn game (b'.HasTurn game) (k a)) :
    StaysIn game known (entryWith e >>= k : Operation β) := by
  refine stays_next (fun {limit s t} shares there few => ?_) fun s a there ended => ?_
  · obtain ⟨same, after, draws⟩ := (h s.settings).alike shares.books there few
    have settings : e t.settings = e s.settings := congrArg e shares.settings
    show s.GoAlike game limit t { s with books := (e s.settings s.books).2 }
      { t with books := (e t.settings t.books).2 } ∧
        (e t.settings t.books).1 = (e s.settings s.books).1
    rw [settings]
    exact ⟨.works _ _ ((h s.settings).along s.books) after draws, same⟩
  · exact rest a s.settings s.books _ (Prod.ext ended rfl) fun id mem =>
      ((h s.settings).along s.books).hasTurn (there id mem)

theorem stays_entry {e : Entry α} {k : α → Operation β}
    (h : e.StaysIn game fun b => ∀ id, known id → b.HasTurn game id)
    (rest : ∀ a b b', e.Yields b a b' → (∀ id, known id → b'.HasTurn game id) →
      StaysIn game (b'.HasTurn game) (k a)) :
    StaysIn game known (entry e >>= k : Operation β) :=
  stays_entryWith (fun _ => h) fun a _ => rest a

theorem stays_publishLater (items : List Outgoing) {k : Unit → Operation β}
    (rest : StaysIn game known (k ())) :
    StaysIn game known (change (Service.publishLater game items) >>= k : Operation β) :=
  stays_next (fun _ _ _ => ⟨.queues items, rfl⟩) fun _ _ there _ => rest.mono there

theorem stays_scheduleNext {k : Unit → Operation β} (rest : StaysIn game known (k ())) :
    StaysIn game known
      (change (fun s => s.schedule s.settings.turnDelay (.nextTurn game)) >>= k : Operation β) := by
  refine stays_next (fun {limit s t} shares _ _ => ?_) fun _ _ there _ => rest.mono there
  have delay : t.settings.turnDelay = s.settings.turnDelay := congrArg _ shares.settings
  show s.GoAlike game limit t (s.schedule s.settings.turnDelay (.nextTurn game))
    (t.schedule t.settings.turnDelay (.nextTurn game)) ∧ _
  rw [delay]
  exact ⟨.schedules _, rfl⟩

theorem stays_lookConnected (user : Id) {k : Bool → Operation β}
    (rest : ∀ connected, StaysIn game known (k connected)) :
    StaysIn game known
      (look (fun s => (s.hub.subscribers game).contains user) >>= k : Operation β) := by
  refine stays_next (fun {limit s t} shares _ _ => ⟨?_, ?_⟩) fun _ a there _ => (rest a).mono there
  · exact .works s.books t.books (.refl game s.books) shares.books rfl
  · show Except.ok ((t.hub.subscribers game).contains user) = _
    rw [shares.connected]

/-! ## Operations of the game -/

open Entry

theorem stays_join (user : Id) : StaysIn game known (join game user) := by
  refine stays_entry (stays_requireUser user) fun u _ _ _ _ => ?_
  refine stays_entry (stays_requireGame game) fun _ _ _ _ _ => ?_
  refine stays_entryWith (fun settings => (stays_takeSeat settings u).inUnit) fun _ _ _ _ _ _ => ?_
  have last : StaysIn game (fun _ => False) (change (Service.publishLater game
      [.fromPlayer user (.join user u.nickname)]) >>= pure : Operation Unit) :=
    stays_publishLater _ (stays_pure ())
  exact last.mono fun _ => False.elim

theorem stays_kick (user : Id) : StaysIn game known (kick game user) := by
  refine stays_lookConnected user fun connected => ?_
  split
  · trivial
  · refine stays_entry (stays_look (Store.looksAt_players game)) fun players _ _ _ _ => ?_
    split
    · trivial
    · split
      · trivial
      · refine stays_entry (stays_setState user .inactive) fun _ _ _ _ _ => ?_
        exact stays_publishLater _ (stays_pure true)

theorem stays_guess (user : Id) (content : String) :
    StaysIn game known (guess game user content) := by
  refine stays_entry (stays_requireUser user) fun u _ _ _ _ => ?_
  refine stays_entry (stays_requireGame game) fun _ _ _ _ _ => ?_
  refine stays_entry stays_requireTurn fun turn b b' latest _ => ?_
  have known := hasTurn_of_requireTurn latest
  refine stays_entry (stays_requireWord turn.wordId) fun word _ _ _ kept => ?_
  have known := kept _ known
  refine stays_entryWith (fun settings => (stays_judge settings word u content
    fun b there => there _ known).inUnit) fun judged settings _ _ done _ => ?_
  obtain ⟨message, verdict⟩ := judged
  obtain ⟨after, done, -⟩ := yields_inUnit.1 done
  have own : message.gameId = game := gameId_of_judge done
  dsimp only
  rw [own]
  refine stays_publishLater _ ?_
  split
  · exact stays_scheduleNext (stays_pure _)
  · exact stays_pure _

theorem stays_say (user : Id) (content : String) : StaysIn game known (say game user content) := by
  refine stays_entry (stays_requireUser user) fun u _ _ _ _ => ?_
  refine stays_entry (stays_requireGame game) fun _ _ _ _ _ => ?_
  refine stays_entry stays_requireTurn fun turn b b' latest _ => ?_
  have known := hasTurn_of_requireTurn latest
  refine stays_entry (stays_requireWord turn.wordId) fun word _ _ _ kept => ?_
  have known := kept _ known
  refine stays_entry (stays_look (Store.looksAt_activePlayers game)) fun active _ _ _ kept => ?_
  have known := kept _ known
  refine stays_check (stays_entry (stays_addMessage (fun b there => there _ known) u.id content)
    fun message _ _ put _ => ?_)
  rw [(own_of_addMessage put).1]
  exact stays_publishLater _ (stays_pure _)

theorem stays_view (viewer : Id) : StaysIn game known (view game viewer) := by
  refine stays_entry (stays_requireGame game) fun _ _ _ _ _ => ?_
  refine stays_entry (stays_look (Store.looksAt_players game)) fun players _ _ _ _ => ?_
  refine stays_check (stays_entry stays_requireTurn fun turn _ _ _ _ => ?_)
  refine stays_entry (stays_requireWord turn.wordId) fun word _ _ _ _ => ?_
  refine stays_entry (stays_look (Store.looksAt_messages game)) fun messages _ _ _ _ => ?_
  exact stays_entry (stays_look (Store.looksAt_scores game)) fun scores _ _ _ _ => trivial

theorem stays_nextTurn : StaysIn game known (nextTurn game) := by
  refine stays_entry stays_drawWord fun word _ _ _ _ => ?_
  exact stays_entry (stays_addTurn word.id) fun _ _ _ _ _ => trivial

end Operation

/-! ## What players do in a game -/

/-- What a player may ask for in a game. -/
inductive Play where
  | join (user : Id)
  | kick (user : Id)
  | guess (user : Id) (content : String)
  | say (user : Id) (content : String)
  | view (viewer : Id)
  | leaderboard (viewer : Id)
  | word (viewer : Id)
deriving DecidableEq, Repr

namespace Play

def call (game : Id) : Play → Call
  | join user => .request (.join game user)
  | kick user => .request (.kick game user)
  | guess user content => .request (.guess game user content)
  | say user content => .request (.say game user content)
  | view viewer => .request (.view game viewer)
  | leaderboard viewer => .leaderboard game viewer
  | word viewer => .word game viewer

open Operation

theorem stays (p : Play) (game : Id) (known : Id → Prop) :
    Script.StaysIn game known (p.call game).operation := by
  cases p with
  | join user => exact stays_map (stays_then (stays_join user) _) _
  | kick user => exact stays_map (stays_then (stays_kick user) _) _
  | guess user content => exact stays_map (stays_then (stays_guess user content) _) _
  | say user content => exact stays_map (stays_then (stays_say user content) _) _
  | view viewer => exact stays_map (stays_then (stays_view viewer) _) _
  | leaderboard viewer => exact stays_map (stays_map (stays_view viewer) _) _
  | word viewer => exact stays_map (stays_map (stays_view viewer) _) _

end Play

/-- The next turn of a game is of no other game. -/
theorem Call.stays_nextTurn (game : Id) (known : Id → Prop) :
    Script.StaysIn game known (Call.request (.event (.nextTurn game))).operation :=
  Operation.stays_map (Operation.stays_then Operation.stays_nextTurn _) _

end GuessingRoom
