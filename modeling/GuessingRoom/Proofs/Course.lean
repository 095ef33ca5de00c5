import GuessingRoom.Proofs.Orderly
import GuessingRoom.Service.Settle

/-!
# The course of a service

A run is a list of moments. In each of them a request is carried out in one go, or an event happens
whose time has come, or something goes on elsewhere: time passes, notices are delivered, feeds open
and close. Whatever the scheduler does is such a moment (`Moment.happens_of_move`). At every moment
the ledger changes by an effect, or by a turn that begins (`Moment.Happens.outcome`). Runs can be
computed from what is to be done in them (`Service.run_follow`).
-/

namespace GuessingRoom

inductive Deed where
  /-- A request is carried out, all steps in a row. -/
  | call (r : Request)
  /-- An event happens whose time has come. -/
  | due (time : Nat) (e : Event)
  | elsewhere
deriving DecidableEq, Repr

structure Moment where
  before : Service
  deed : Deed
  after : Service

namespace Service

def without (s : Service) (j : Job) : Service := { s with jobs := s.jobs.erase j }

/-- The advances still to come: when each is due, and the game that it lets go on. -/
def advances (s : Service) : List (Nat × Id) := s.jobs.filterMap Job.advance?

/-- An advance of the game is pending. -/
def IsAdvancing (s : Service) (game : Id) : Prop := ∃ due, .timer due (.nextTurn game) ∈ s.jobs

/-- What goes on between two states has nothing to do with the books and with advances. -/
structure Elsewhere (s t : Service) : Prop where
  books : t.books = s.books
  settings : t.settings = s.settings
  closing : t.closing = s.closing
  now : s.now ≤ t.now
  advances : t.advances = s.advances

end Service

namespace Moment

/-- What the moment comes to. No store fails under an event, and none happens once the service is
told to end. -/
def Happens (m : Moment) : Prop :=
  match m.deed with
  | .call r => (∀ e, r ≠ .event e) ∧ m.after = (r.operation.run m.before).2
  | .due time e =>
    m.before.closing = false ∧ .timer time e ∈ m.before.jobs ∧ time ≤ m.before.now ∧
      (∀ f, ((Operation.ofEvent e).run (m.before.without (.timer time e))).1 ≠
        .error (.persistence f)) ∧
      m.after = ((Operation.ofEvent e).run (m.before.without (.timer time e))).2
  | .elsewhere => m.before.Elsewhere m.after

/-- The jobs that the moment has added. -/
def added (m : Moment) : List Job :=
  match m.deed with
  | .call _ => m.after.jobs.drop m.before.jobs.length
  | .due .. => m.after.jobs.drop (m.before.jobs.length - 1)
  | .elsewhere => []

/-- The advance that fires: when it was due, and the game that it lets go on. -/
def fired (m : Moment) : Option (Nat × Id) :=
  match m.deed with
  | .due time (.nextTurn game) => some (time, game)
  | _ => none

end Moment

/-- Every moment begins where the one before it has ended. -/
def Service.Run (s : Service) : List Moment → Prop
  | [] => True
  | m :: ms => m.before = s ∧ m.Happens ∧ m.after.Run ms

/-! ## Jobs of one kind -/

section Erase

variable {α β : Type} [DecidableEq α] {f : α → Option β} {a : α}

/-- What is read of a list stays if an element is taken away that has nothing to do with it. -/
theorem filterMap_erase_of_none (l : List α) (h : f a = none) :
    (l.erase a).filterMap f = l.filterMap f := by
  induction l with
  | nil => rfl
  | cons x l ih =>
    by_cases e : x = a
    · subst e
      rw [List.erase_cons_head, List.filterMap_cons_none h]
    · rw [List.erase_cons_tail (by simpa using e), List.filterMap_cons, List.filterMap_cons, ih]

theorem filterMap_erase_of_some [BEq β] [LawfulBEq β] (l : List α) {b : β} (h : f a = some b)
    (only : ∀ x, f x = some b → x = a) :
    (l.erase a).filterMap f = (l.filterMap f).erase b := by
  induction l with
  | nil => rfl
  | cons x l ih =>
    by_cases e : x = a
    · subst e
      rw [List.erase_cons_head, List.filterMap_cons_some h, List.erase_cons_head]
    · rw [List.erase_cons_tail (by simpa using e)]
      cases v : f x with
      | none => rw [List.filterMap_cons_none v, List.filterMap_cons_none v, ih]
      | some y =>
        have differs : y ≠ b := by
          rintro rfl
          exact e (only x v)
        rw [List.filterMap_cons_some v, List.filterMap_cons_some v, ih,
          List.erase_cons_tail (by simpa using differs)]

end Erase

/-! ## Advances -/

namespace Service

theorem mem_advances {s : Service} {due : Nat} {game : Id} :
    (due, game) ∈ s.advances ↔ .timer due (.nextTurn game) ∈ s.jobs := by
  unfold advances
  rw [List.mem_filterMap]
  constructor
  · rintro ⟨j, mem, e⟩
    unfold Job.advance? at e
    split at e
    · cases e
      exact mem
    · cases e
  · exact fun mem => ⟨_, mem, rfl⟩

theorem isAdvancing_iff {s : Service} {game : Id} :
    s.IsAdvancing game ↔ game ∈ s.advances.map Prod.snd := by
  unfold IsAdvancing
  rw [List.mem_map]
  constructor
  · rintro ⟨due, mem⟩
    exact ⟨_, mem_advances.2 mem, rfl⟩
  · rintro ⟨⟨due, game⟩, mem, rfl⟩
    exact ⟨due, mem_advances.1 mem⟩

theorem advances_spawn (s : Service) {j : Job} (h : j.advance? = none) :
    (s.spawn j).advances = s.advances := by
  simp [advances, spawn, h]

/-- A job that is no advance may be taken away. -/
theorem advances_without_of_none (s : Service) {j : Job} (h : j.advance? = none) :
    (s.without j).advances = s.advances := filterMap_erase_of_none s.jobs h

theorem advances_without_advance (s : Service) (due : Nat) (game : Id) :
    (s.without (.timer due (.nextTurn game))).advances = s.advances.erase (due, game) := by
  have here : Job.advance? (.timer due (.nextTurn game)) = some (due, game) := rfl
  refine filterMap_erase_of_some s.jobs here fun j e => ?_
  unfold Job.advance? at e
  split at e <;> cases e
  rfl

end Service

/-! ## The scheduler -/

namespace Job.Move

/-- What a job does has nothing to do with the books and with advances. -/
def Calm (s : Service) : Job.Move → Prop
  | waiting => True
  | going t j => s.Elsewhere (t.spawn j)
  | ended t => s.Elsewhere t

end Job.Move

namespace Service

variable {s : Service}

theorem Elsewhere.refl (s : Service) : s.Elsewhere s := ⟨rfl, rfl, rfl, le_rfl, rfl⟩

theorem Elsewhere.spawn {t : Service} (h : s.Elsewhere t) {j : Job} (other : j.advance? = none) :
    s.Elsewhere (t.spawn j) :=
  ⟨h.books, h.settings, h.closing, h.now, (t.advances_spawn other).trans h.advances⟩

theorem Elsewhere.of_without {t : Service} {j : Job} (h : (s.without j).Elsewhere t)
    (other : j.advance? = none) : s.Elsewhere t :=
  ⟨h.books, h.settings, h.closing, h.now, h.advances.trans (s.advances_without_of_none other)⟩

theorem elsewhere_of_hub (hub : Hub) : s.Elsewhere { s with hub } := ⟨rfl, rfl, rfl, le_rfl, rfl⟩

theorem calm_moveBatch (b : Batch) : (s.moveBatch b).Calm s := by
  unfold moveBatch
  split
  · exact ⟨rfl, rfl, rfl, le_rfl, rfl⟩
  · split
    · split
      · trivial
      · exact (elsewhere_of_hub _).spawn rfl
      · exact (elsewhere_of_hub _).spawn rfl
    · split
      · trivial
      · split
        · exact (Elsewhere.refl s).spawn rfl
        · exact (elsewhere_of_hub _).spawn rfl

theorem calm_moveDelivery (id : Nat) : (s.moveDelivery id).Calm s := by
  unfold moveDelivery
  split
  · trivial
  · exact (elsewhere_of_hub _).spawn rfl
  · exact ⟨rfl, rfl, rfl, le_rfl, rfl⟩

theorem elsewhere_setInbox (i : Inbox) : s.Elsewhere (s.setInbox i) := ⟨rfl, rfl, rfl, le_rfl, rfl⟩

theorem elsewhere_handOn (f : Feed) (n : Notice) : s.Elsewhere (s.handOn f n).2 := by
  unfold handOn
  split
  · split <;> exact elsewhere_setInbox _
  · exact .refl s

theorem elsewhere_closeInbox (f : Feed) : s.Elsewhere (closeInbox f s) := by
  unfold closeInbox
  split
  · exact elsewhere_setInbox _
  · exact .refl s

theorem Elsewhere.trans {t u : Service} (h : s.Elsewhere t) (h' : t.Elsewhere u) : s.Elsewhere u :=
  ⟨h'.books.trans h.books, h'.settings.trans h.settings, h'.closing.trans h.closing,
    h.now.trans h'.now, h'.advances.trans h.advances⟩

theorem calm_moveFeed (f : Feed) : (s.moveFeed f).Calm s := by
  unfold moveFeed
  split
  · exact (elsewhere_of_hub _).spawn rfl
  · split
    · rename_i channel n hub _
      have on := (elsewhere_of_hub (s := s) hub).trans (elsewhere_handOn f n)
      split
      · rename_i e
        rw [e] at on
        exact on.spawn rfl
      · rename_i e
        rw [e] at on
        exact on.spawn rfl
    · exact (Elsewhere.refl s).spawn rfl
    · split
      · exact (Elsewhere.refl s).spawn rfl
      · trivial
  · exact (elsewhere_of_hub _).spawn rfl
  · rename_i channel _
    have closed := (elsewhere_of_hub (s := s) (s.hub.release channel)).trans (elsewhere_closeInbox f)
    dsimp only
    split
    · exact closed.spawn rfl
    · exact closed

end Service

namespace Moment

open Service

/-- Whatever the scheduler does with a job comes to pass in a moment, as long as the service is not
told to end and no store fails. -/
theorem happens_of_move {s : Service} {j : Job} (mem : j ∈ s.jobs)
    (fine : ∀ time e, j = .timer time e → s.closing = false ∧
      ∀ f, ((Operation.ofEvent e).run (s.without j)).1 ≠ .error (.persistence f)) :
    match (s.without j).move j with
    | .waiting => True
    | .going t i => ∃ d, Happens ⟨s, d, t.spawn i⟩
    | .ended t => ∃ d, Happens ⟨s, d, t⟩ := by
  have calm : j.advance? = none → ((s.without j).move j).Calm (s.without j) →
      match (s.without j).move j with
      | .waiting => True
      | .going t i => ∃ d, Happens ⟨s, d, t.spawn i⟩
      | .ended t => ∃ d, Happens ⟨s, d, t⟩ := by
    intro other calm
    cases e : (s.without j).move j with
    | waiting => trivial
    | going t i =>
      rw [e] at calm
      exact ⟨.elsewhere, Elsewhere.of_without calm other⟩
    | ended t =>
      rw [e] at calm
      exact ⟨.elsewhere, Elsewhere.of_without calm other⟩
  cases j with
  | batch b => exact calm rfl (calm_moveBatch b)
  | delivery id => exact calm rfl (calm_moveDelivery id)
  | feed f => exact calm rfl (calm_moveFeed f)
  | timer time e =>
    obtain ⟨goes_on, fine⟩ := fine time e rfl
    show match (s.without (.timer time e)).moveTimer time e with
      | .waiting => True
      | .going t i => ∃ d, Happens ⟨s, d, t.spawn i⟩
      | .ended t => ∃ d, Happens ⟨s, d, t⟩
    unfold moveTimer
    rw [if_neg (by rw [show (s.without (.timer time e)).closing = s.closing from rfl, goes_on]; decide)]
    by_cases late : time ≤ (s.without (.timer time e)).now
    · rw [if_pos late]
      exact ⟨.due time e, goes_on, mem, late, fine, rfl⟩
    · rw [if_neg late]
      trivial

theorem happens_of_time (s : Service) (later : Nat) :
    Happens ⟨s, .elsewhere, { s with now := max s.now later }⟩ :=
  ⟨rfl, rfl, rfl, le_max_left _ _, rfl⟩

/-! ## What a moment comes to -/

/-- A request or a delayed kick has its effect, by which a turn may have come to its end. -/
structure Answers (m : Moment) (ended : Option Id) : Prop where
  effect : Effect m.before.books.supply.id m.before.books.drawn m.after.books.drawn
    m.before.books.ledger ended m.after.books.ledger
  advances : m.after.advances = m.before.advances ++ m.added.filterMap Job.advance?
  scheduled : m.added.filterMap Job.advance? =
    (ended.map fun game => (m.before.now + m.before.settings.turnDelay, game)).toList
  endings : m.added.flatMap Job.endings = ended.toList
  fired : m.fired = none

/-- An advance fires, and the next turn of its game begins. -/
structure Turns (m : Moment) (time : Nat) (game : Id) (n : Nat) (word : Word) : Prop where
  fired : m.fired = some (time, game)
  pending : (time, game) ∈ m.before.advances
  advances : m.after.advances = m.before.advances.erase (time, game)
  added : m.added = []
  first : m.before.books.drawn ≤ n
  last : n < m.after.books.drawn
  listed : word ∈ m.before.books.ledger.words
  ledger : m.after.books.ledger = { m.before.books.ledger with
    rounds := m.before.books.ledger.rounds ++ [⟨m.before.books.supply.id n, game, word.id⟩] }

/-- The outcome of a moment, as far as turns and seats go. -/
inductive Outcome (m : Moment) : Prop where
  | answers (ended : Option Id) (h : m.Answers ended)
  | turns (time : Nat) (game : Id) (n : Nat) (word : Word) (h : m.Turns time game n word)
  /-- There is no word for the next turn. -/
  | wordless (time : Nat) (game : Id) (pending : (time, game) ∈ m.before.advances)
      (words : m.before.books.ledger.words = [])

theorem answers_of_call {s : Service} {r : Request} (tidy : s.books.Tidy)
    (asked : ∀ e, r ≠ .event e) : ∃ ended, Answers ⟨s, .call r, (r.operation.run s).2⟩ ended := by
  obtain ⟨ended, answered⟩ := Operation.answered_request tidy asked
  obtain ⟨jobs, all, scheduled, endings⟩ := answered.jobs
  have added : Moment.added ⟨s, .call r, (r.operation.run s).2⟩ = jobs := by
    simp only [Moment.added, all, List.drop_left]
  refine ⟨ended, answered.effect, ?_, by rw [added, scheduled], by rw [added, endings], rfl⟩
  rw [added]
  simp only [Service.advances, all, List.filterMap_append]

theorem length_without {s : Service} {j : Job} (mem : j ∈ s.jobs) :
    (s.without j).jobs.length = s.jobs.length - 1 := List.length_erase_of_mem mem

theorem answers_of_kick {s : Service} {time : Nat} {game user : Id} (tidy : s.books.Tidy)
    (mem : .timer time (.kick game user) ∈ s.jobs) :
    Answers ⟨s, .due time (.kick game user), ((Operation.ofEvent (.kick game user)).run
      (s.without (.timer time (.kick game user)))).2⟩ none := by
  have answered : (s.without (.timer time (.kick game user))).Answered none
      ((Operation.ofEvent (.kick game user)).run (s.without (.timer time (.kick game user)))).2 :=
    Operation.answered_ofEvent_kick (s := s.without _) tidy game user
  obtain ⟨jobs, all, scheduled, endings⟩ := answered.jobs
  have added : Moment.added ⟨s, .due time (.kick game user), ((Operation.ofEvent (.kick game
      user)).run (s.without (.timer time (.kick game user)))).2⟩ = jobs := by
    simp only [Moment.added, all, ← length_without mem, List.drop_left]
  refine ⟨answered.effect, ?_, by rw [added, scheduled]; rfl, by rw [added, endings], rfl⟩
  have kept := s.advances_without_of_none (j := .timer time (.kick game user)) rfl
  rw [added, ← kept]
  simp only [Service.advances, all, List.filterMap_append]

theorem outcome_of_nextTurn {s : Service} {time : Nat} {game : Id}
    (mem : .timer time (.nextTurn game) ∈ s.jobs)
    (fine : ∀ f, ((Operation.ofEvent (.nextTurn game)).run
      (s.without (.timer time (.nextTurn game)))).1 ≠ .error (.persistence f)) :
    Outcome ⟨s, .due time (.nextTurn game), ((Operation.ofEvent (.nextTurn game)).run
      (s.without (.timer time (.nextTurn game)))).2⟩ := by
  have pending := mem_advances.2 mem
  obtain ⟨f, e⟩ | ⟨b, e, words | ⟨n, word, first, last, listed, ledger⟩⟩ :=
    Operation.ends_nextTurn (s := s.without (.timer time (.nextTurn game))) game
  · exact absurd e (fine f)
  · exact .wordless time game pending words.1
  · have after : ((Operation.ofEvent (.nextTurn game)).run
        (s.without (.timer time (.nextTurn game)))).2 =
          { s.without (.timer time (.nextTurn game)) with books := b } := e
    rw [after]
    refine .turns time game n word ⟨rfl, pending, ?_, ?_, first, last, listed, ledger⟩
    · exact s.advances_without_advance time game
    · simp only [Moment.added, ← length_without mem]
      exact List.drop_length

theorem Happens.outcome {m : Moment} (h : m.Happens) (tidy : m.before.books.Tidy) : m.Outcome := by
  obtain ⟨s, deed, t⟩ := m
  cases deed with
  | call r =>
    have e : t = (r.operation.run s).2 := h.2
    subst e
    obtain ⟨ended, answers⟩ := answers_of_call tidy h.1
    exact .answers ended answers
  | due time e =>
    obtain ⟨-, mem, -, fine, after⟩ := h
    have after : t = ((Operation.ofEvent e).run (s.without (.timer time e))).2 := after
    subst after
    cases e with
    | nextTurn game => exact outcome_of_nextTurn mem fine
    | kick game user => exact .answers none (answers_of_kick tidy mem)
  | elsewhere =>
    have h : s.Elsewhere t := h
    refine .answers none ⟨?_, ?_, rfl, rfl, rfl⟩
    · show Effect _ _ _ _ none t.books.ledger
      rw [h.books]
      exact .idle
    · simpa [Moment.added] using h.advances

end Moment

/-! ## Runs that are computed -/

/-- What is to be done next. -/
inductive Cue where
  | call (r : Request)
  | due (time : Nat) (e : Event)
  | wait (now : Nat)

namespace Service

/-- The moment that comes of a cue. -/
def cued (s : Service) : Cue → Moment
  | .call r => ⟨s, .call r, (r.operation.run s).2⟩
  | .due time e => ⟨s, .due time e, ((Operation.ofEvent e).run (s.without (.timer time e))).2⟩
  | .wait now => ⟨s, .elsewhere, { s with now := max s.now now }⟩

/-- Whether the cue can be followed. -/
def allows (s : Service) : Cue → Bool
  | .call (.event _) => false
  | .call _ => true
  | .due time e =>
    !s.closing && s.jobs.contains (.timer time e) && decide (time ≤ s.now) &&
      ((Operation.ofEvent e).run (s.without (.timer time e))).1.isOk
  | .wait _ => true

def follow (s : Service) : List Cue → List Moment
  | [] => []
  | c :: cs => s.cued c :: (s.cued c).after.follow cs

def allowsAll (s : Service) : List Cue → Bool
  | [] => true
  | c :: cs => s.allows c && (s.cued c).after.allowsAll cs

theorem happens_cued {s : Service} {c : Cue} (h : s.allows c = true) : (s.cued c).Happens := by
  cases c with
  | call r =>
    refine ⟨fun e asked => ?_, rfl⟩
    subst asked
    exact Bool.false_ne_true h
  | due time e =>
    simp only [allows, Bool.and_eq_true, Bool.not_eq_true', List.contains_iff_mem,
      decide_eq_true_eq] at h
    obtain ⟨⟨⟨goes_on, mem⟩, late⟩, fine⟩ := h
    refine ⟨goes_on, mem, late, fun f failed => ?_, rfl⟩
    have failed : ((Operation.ofEvent e).run (s.without (.timer time e))).1 =
      .error (.persistence f) := failed
    rw [failed] at fine
    exact Bool.false_ne_true fine
  | wait now => exact Moment.happens_of_time s now

theorem run_follow {s : Service} {cs : List Cue} (h : s.allowsAll cs = true) :
    s.Run (s.follow cs) := by
  induction cs generalizing s with
  | nil => trivial
  | cons c cs ih =>
    obtain ⟨first, rest⟩ := Bool.and_eq_true_iff.1 h
    refine ⟨?_, happens_cued first, ih rest⟩
    cases c <;> rfl

end Service

theorem Supply.counting_runsOn : Supply.counting.RunsOn := by
  intro m n le
  have seconds : (counting.time m).second ≤ (counting.time n).second := by
    show (1767225600 + (_ : Nat) : Int) ≤ 1767225600 + (_ : Nat)
    omega
  have nanos : (counting.time m).second = (counting.time n).second →
      (counting.time m).nano ≤ (counting.time n).nano := by
    show (1767225600 + (_ : Nat) : Int) = 1767225600 + (_ : Nat) → _ * 1000 ≤ _ * 1000
    omega
  rcases lt_or_eq_of_le seconds with earlier | same
  · exact Bool.or_eq_true_iff.2 (.inl (decide_eq_true earlier))
  · refine Bool.or_eq_true_iff.2 (.inr (Bool.and_eq_true_iff.2 ?_))
    exact ⟨beq_iff_eq.2 same, decide_eq_true (nanos same)⟩

end GuessingRoom
