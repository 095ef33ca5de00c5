import Mathlib.Data.List.Chain
import GuessingRoom.Proofs.Strides
import GuessingRoom.Proofs.TwoStores

/-!
# Seats and what is told of them

A guestbook goes with a run of the service: who founded which game, and every notice that was queued
of a player who came or went (`Passage`). For every user and game these notices alternate, and the
last of them says whether the seat is taken (`Guestbook.Agrees`). One step takes a seat or gives one
up exactly if it queues the notice that says so (`Attendance`), and a run puts such steps in a row.
-/

namespace GuessingRoom

/-! ## Notices of comings and goings -/

/-- A notice that a player came or went, and the player to whom it does not go. -/
structure Passage where
  game : Id
  user : Id
  arrives : Bool
  excluded : Option Id
deriving DecidableEq, Repr

def Outgoing.passage? (game : Id) (o : Outgoing) : Option Passage :=
  match o.notice with
  | .join user _ => some ⟨game, user, true, o.excluded⟩
  | .left user => some ⟨game, user, false, o.excluded⟩
  | _ => none

def Job.passages : Job → List Passage
  | batch b => b.items.filterMap (·.passage? b.game)
  | _ => []

/-! ## Rows of one user in one game -/

namespace Ledger

variable {l l' : Ledger} {game user : Id}

def rowsOf (l : Ledger) (game user : Id) : List Seat :=
  l.seats.filter fun seat => seat.gameId == game && seat.userId == user

theorem rowsOf_congr (seats : l'.seats = l.seats) : l'.rowsOf game user = l.rowsOf game user := by
  unfold rowsOf
  rw [seats]

variable (game user) in
theorem rowsOf_append {g u : Id} (seats : l'.seats = l.seats ++ [⟨g, u, true⟩]) :
    l'.rowsOf game user =
      l.rowsOf game user ++ if g = game ∧ u = user then [⟨g, u, true⟩] else [] := by
  unfold rowsOf
  rw [seats, List.filter_append]
  by_cases h : g = game ∧ u = user <;> simp [h]

variable (game user) in
theorem rowsOf_map {g u : Id} {taken : Bool}
    (seats : l'.seats = l.seats.map (Seat.withTaken g u taken)) :
    l'.rowsOf game user =
      if g = game ∧ u = user then (l.rowsOf game user).map fun seat => { seat with taken }
      else l.rowsOf game user := by
  unfold rowsOf
  rw [seats]
  induction l.seats with
  | nil => simp
  | cons seat seats ih =>
    have kept : (seat.withTaken g u taken).gameId = seat.gameId ∧
        (seat.withTaken g u taken).userId = seat.userId := by
      unfold Seat.withTaken
      split <;> exact ⟨rfl, rfl⟩
    rw [List.map_cons, List.filter_cons, List.filter_cons, ih, kept.1, kept.2]
    by_cases its : seat.gameId = game ∧ seat.userId = user
    · by_cases h : g = game ∧ u = user
      · simp [its, h, Seat.withTaken]
      · have other : ¬ (game = g ∧ user = u) := fun e => h ⟨e.1.symm, e.2.symm⟩
        simp [its, h, Seat.withTaken, other]
    · have out : (seat.gameId == game && seat.userId == user) = false := by simpa using its
      simp [out]

theorem rowsOf_eq_nil (free : ∀ seat ∈ l.seats, seat.gameId = game → seat.userId ≠ user) :
    l.rowsOf game user = [] := by
  refine List.filter_eq_nil_iff.2 fun seat mem its => ?_
  rw [Bool.and_eq_true, beq_iff_eq, beq_iff_eq] at its
  exact free seat mem its.1 its.2

theorem mem_rowsOf {taken : Bool} (mem : ⟨game, user, taken⟩ ∈ l.seats) :
    ⟨game, user, taken⟩ ∈ l.rowsOf game user :=
  List.mem_filter.2 ⟨mem, by simp⟩

end Ledger

/-! ## One step -/

/-- What becomes of the seats while the passages are told and the games are founded. -/
inductive Attendance (l l' : Ledger) : List Passage → List (Id × Id) → Prop where
  | stays (seats : l'.seats = l.seats) : Attendance l l' [] []
  | opens (game user : Id) (free : ∀ seat ∈ l.seats, seat.gameId = game → seat.userId ≠ user)
      (seats : l'.seats = l.seats ++ [⟨game, user, true⟩]) : Attendance l l' [] [(game, user)]
  | enters (game user : Id) (free : ∀ seat ∈ l.seats, seat.gameId = game → seat.userId ≠ user)
      (seats : l'.seats = l.seats ++ [⟨game, user, true⟩]) :
      Attendance l l' [⟨game, user, true, some user⟩] []
  | returns (game user : Id) (was : ⟨game, user, false⟩ ∈ l.seats)
      (seats : l'.seats = l.seats.map (Seat.withTaken game user true)) :
      Attendance l l' [⟨game, user, true, some user⟩] []
  | leaves (game user : Id) (was : ⟨game, user, true⟩ ∈ l.seats)
      (seats : l'.seats = l.seats.map (Seat.withTaken game user false)) :
      Attendance l l' [⟨game, user, false, some user⟩] []

/-- Nobody is told of their own coming and going. -/
theorem Attendance.excluded {l l' : Ledger} {told : List Passage} {founded : List (Id × Id)}
    (h : Attendance l l' told founded) : ∀ p ∈ told, p.excluded = some p.user := by
  cases h <;> simp

namespace Service

/-- The service after an operation has run in one go, with the games that it has founded; one that
was refused has queued nothing. -/
def Attended (s : Service) (founded : List (Id × Id)) (refused : Prop) (t : Service) : Prop :=
  ∃ jobs, t.jobs = s.jobs ++ jobs ∧
    Attendance s.books.ledger t.books.ledger (jobs.flatMap Job.passages) founded ∧
      (refused → jobs = [] ∧ t.queue = s.queue)

namespace Attended

variable {s t : Service} {refused : Prop}

theorem of_seats {b : Books} (seats : b.ledger.seats = s.books.ledger.seats) :
    s.Attended [] refused { s with books := b } :=
  ⟨[], (List.append_nil _).symm, .stays seats, fun _ => ⟨rfl, rfl⟩⟩

theorem refl (s : Service) : s.Attended [] refused s := of_seats (b := s.books) rfl

/-- Notices are queued after work on the books. -/
theorem publishLater {b : Books} {game : Id} {items : List Outgoing} (accepted : ¬ refused)
    (attendance : Attendance s.books.ledger b.ledger (items.filterMap (·.passage? game)) []) :
    s.Attended [] refused (Service.publishLater game items { s with books := b }) := by
  refine ⟨[.batch (s.queue.push game items).1], rfl, ?_, fun r => absurd r accepted⟩
  rw [List.flatMap_singleton]
  exact attendance

theorem mono {founded : List (Id × Id)} {refused' : Prop} (h : s.Attended founded refused t)
    (imp : refused' → refused) : s.Attended founded refused' t := by
  obtain ⟨jobs, all, attendance, silent⟩ := h
  exact ⟨jobs, all, attendance, silent ∘ imp⟩

theorem schedule {founded : List (Id × Id)} (h : s.Attended founded refused t) (accepted : ¬ refused)
    (delay : Nat) (e : Event) : s.Attended founded refused (t.schedule delay e) := by
  obtain ⟨jobs, all, attendance, -⟩ := h
  refine ⟨jobs ++ [.timer (t.now + delay) e], ?_, ?_, fun r => absurd r accepted⟩
  · show t.jobs ++ _ = _
    rw [all, List.append_assoc]
  · show Attendance s.books.ledger t.books.ledger _ _
    rw [List.flatMap_append, List.flatMap_singleton]
    exact (List.append_nil _).symm ▸ attendance

end Attended

end Service

namespace Entry

variable {b b' : Books}

/-- A game is opened with a seat for a user who has none there. -/
theorem openGame_seats {user : Id} {word : Word} {game : Game}
    (h : (Operation.openGame user word).Yields b game b') :
    (∀ seat ∈ b.ledger.seats, seat.gameId = game.id → seat.userId ≠ user) ∧
      b'.ledger.seats = b.ledger.seats ++ [⟨game.id, user, true⟩] := by
  simp only [Operation.openGame, yields_bind, yields_pure] at h
  obtain ⟨g, b₁, create, u, b₂, add, turn, b₃, begin_, rfl, rfl⟩ := h
  obtain ⟨-, store₁, rfl, e₁⟩ := createGame_yields create
  obtain ⟨free, store₂, rfl, e₂⟩ := addPlayer_yields add
  obtain ⟨-, store₃, rfl, e₃⟩ := addTurn_yields begin_
  have first := congrArg Ledger.seats e₁
  have second := congrArg Ledger.seats e₂
  have third := congrArg Ledger.seats e₃
  unfold Books.ledger at free first second third ⊢
  rw [first] at free second
  exact ⟨free, third.trans second⟩

end Entry

namespace Operation

open Entry

variable {α : Type} {s : Service}

/-- An operation that fails is refused. -/
def Refused (r : Except GameError α) : Prop := ∃ x, r = .error x

theorem attended_initUser : initUser.Ends s fun r t => s.Attended [] (Refused r) t := by
  refine ends_entry (fun x b h => by cases h) fun stamp b₁ y₁ => ?_
  refine ends_entry (fun x b h => by cases h) fun adjective b₂ y₂ => ?_
  refine ends_entry (fun x b h => by cases h) fun animal b₃ y₃ => ?_
  obtain ⟨rfl, rfl⟩ := yields_stamp.1 y₁
  obtain ⟨-, rfl⟩ := yields_choose.1 y₂
  obtain ⟨-, rfl⟩ := yields_choose.1 y₃
  refine ends_entry (fun x b h => ?_) fun _ b₄ y₄ => ends_last ?_
  · rw [(fails_stamped h).1]
    exact .of_seats (s := s) rfl
  · obtain ⟨store, rfl, users, -, -, e⟩ := upsertUser_yields y₄
    rw [looks_requireUser]
    exact .of_seats (s := s) (congrArg Ledger.seats e :)

theorem attended_initGame (user : Id) : (initGame user).Ends s fun r t =>
    s.Attended (match r with | .ok g => [(g.id, user)] | .error _ => []) (Refused r) t := by
  refine ends_looks (looks_requireUser user) (fun _ => .refl s) fun u asked => ?_
  have its := (Store.id_of_findUser (yields_requireUser.1 asked).1).1
  refine ends_entry (fun x b h => ?_) fun word b y => ?_
  · rw [(drawWord_fails h).2]
    exact .of_seats (s := s) rfl
  obtain ⟨-, rfl⟩ := drawWord_yields y
  apply ends_last
  obtain ⟨game, h⟩ | ⟨x, h⟩ := (inUnit (openGame u.id word)).yields_or_fails
    { s.books with drawn := s.books.drawn + 1 }
  · obtain ⟨after, whole, e⟩ := yields_inUnit.1 h
    obtain ⟨free, seats⟩ := openGame_seats whole
    rw [e] at h
    rw [h]
    refine ⟨[], (List.append_nil _).symm, ?_, fun _ => ⟨rfl, rfl⟩⟩
    refine .opens game.id user (its ▸ free) ?_
    rw [ledger_committed, seats, its]
    rfl
  · have same := unchanged_of_fails_inUnit h
    rw [h]
    exact .of_seats (congrArg Ledger.seats same)

theorem attended_join (legible : s.books.store.Legible) (game user : Id) :
    (join game user).Ends s fun r t => s.Attended [] (Refused r) t := by
  refine ends_looks (looks_requireUser user) (fun _ => .refl s) fun u asked => ?_
  obtain rfl := (Store.id_of_findUser (yields_requireUser.1 asked).1).1
  refine ends_looks (looks_requireGame game) (fun _ => .refl s) fun g _ => ?_
  refine ends_entryWith (fun x b h => ?_) fun _ b y => ?_
  · exact .of_seats (congrArg Ledger.seats (unchanged_of_fails_inUnit h))
  obtain ⟨after, whole, rfl⟩ := yields_inUnit.1 y
  refine Service.Attended.publishLater (s := s) (by rintro ⟨x, ⟨⟩⟩) ?_
  rw [ledger_committed]
  rcases takeSeat_yields legible whole with ⟨was, store, rfl, e⟩ | ⟨free, store, rfl, e⟩
  · exact .returns game u.id was (congrArg Ledger.seats e)
  · exact .enters game u.id free (congrArg Ledger.seats e)

/-- A kick is refused as well if there was no seat to take. -/
theorem attended_kick (legible : s.books.store.Legible) (game user : Id) :
    (kick game user).Ends s fun r t => s.Attended [] (r ≠ .ok true) t := by
  apply ends_look
  split
  · exact .refl s
  · refine ends_looks (looks_look _) (fun _ => .refl s) fun players look => ?_
    split
    · exact .refl s
    · rename_i p found
      split
      · exact .refl s
      · rename_i active
        refine ends_entry (fun x b h => ?_) fun _ b y => ?_
        · rw [(fails_write h).1]
          exact .of_seats (s := s) rfl
        · obtain ⟨store, rfl, e⟩ := setState_yields y
          apply ends_change
          refine Service.Attended.publishLater (s := s) (not_not_intro rfl) ?_
          have active : p.isActive = true := by simpa using active
          have was := active ▸ legible.mem_seats (yields_look.1 look).1 found
          exact .leaves game user was (congrArg Ledger.seats e)

theorem passages_guessNotices (m : Message) (nickname : String) (verdict : Verdict) (game : Id) :
    (guessNotices m nickname verdict).filterMap (·.passage? game) = [] := by
  rcases verdict with _ | _ | ⟨points, _ | _⟩ <;> rfl

theorem attended_guess (game user : Id) (content : String) :
    (guess game user content).Ends s fun r t => s.Attended [] (Refused r) t := by
  refine ends_looks (looks_requireUser user) (fun _ => .refl s) fun u _ => ?_
  refine ends_looks (looks_requireGame game) (fun _ => .refl s) fun g _ => ?_
  refine ends_looks (looks_requireTurn game) (fun _ => .refl s) fun turn _ => ?_
  refine ends_looks (looks_requireWord _) (fun _ => .refl s) fun word _ => ?_
  refine ends_entryWith (fun x b h => ?_) fun judged b y => ?_
  · exact .of_seats (congrArg Ledger.seats (unchanged_of_fails_inUnit h))
  have same : s.books.SameSeats b :=
    ((along_judge Books.SameSeats.isCourse Books.SameSeats.along_addMessage
      Books.SameSeats.along_addScore _ _ _ _ _ _).inUnit Books.SameSeats.isCourse).yields y
  obtain ⟨message, verdict⟩ := judged
  have accepted : ¬ Refused (.ok (ownPost message u.nickname) : Except GameError Post) := by
    rintro ⟨x, ⟨⟩⟩
  have told : s.Attended [] (Refused (.ok (ownPost message u.nickname) : Except GameError Post))
      (Service.publishLater message.gameId (guessNotices message u.nickname verdict)
        { s with books := b }) := by
    refine .publishLater accepted ?_
    rw [passages_guessNotices]
    exact .stays same
  apply ends_change
  split
  · exact ends_change (told.schedule accepted _ _)
  · exact told

theorem attended_say (game user : Id) (content : String) :
    (say game user content).Ends s fun r t => s.Attended [] (Refused r) t := by
  refine ends_looks (looks_requireUser user) (fun _ => .refl s) fun u _ => ?_
  refine ends_looks (looks_requireGame game) (fun _ => .refl s) fun g _ => ?_
  refine ends_looks (looks_requireTurn game) (fun _ => .refl s) fun turn _ => ?_
  refine ends_looks (looks_requireWord _) (fun _ => .refl s) fun word _ => ?_
  refine ends_looks (looks_look _) (fun _ => .refl s) fun active _ => ?_
  refine ends_check (.refl s) fun _ => ?_
  refine ends_entry (fun x b h => ?_) fun message b y => ?_
  · rw [(fails_stamped h).1]
    exact .of_seats (s := s) rfl
  · obtain ⟨line, store, rfl, e⟩ := addMessage_yields y
    apply ends_change
    refine Service.Attended.publishLater (s := s) (by rintro ⟨x, ⟨⟩⟩) ?_
    exact .stays (congrArg Ledger.seats e :)

theorem attended_view (game viewer : Id) :
    (view game viewer).Ends s fun r t => s.Attended [] (Refused r) t := by
  refine ends_looks (looks_requireGame game) (fun _ => .refl s) fun g _ => ?_
  refine ends_looks (looks_look _) (fun _ => .refl s) fun players _ => ?_
  refine ends_check (.refl s) fun _ => ?_
  refine ends_looks (looks_requireTurn game) (fun _ => .refl s) fun turn _ => ?_
  refine ends_looks (looks_requireWord _) (fun _ => .refl s) fun word _ => ?_
  refine ends_looks (looks_look _) (fun _ => .refl s) fun messages _ => ?_
  exact ends_looks (looks_look _) (fun _ => .refl s) fun scores _ => .refl s

theorem attended_nextTurn (game : Id) :
    (nextTurn game).Ends s fun r t => s.Attended [] (Refused r) t := by
  refine ends_entry (fun x b h => ?_) fun word b y => ?_
  · rw [(drawWord_fails h).2]
    exact .of_seats (s := s) rfl
  · obtain ⟨-, rfl⟩ := drawWord_yields y
    refine ends_entry (fun x b h => ?_) fun turn b y => ?_
    · rw [(fails_stamped h).1]
      exact .of_seats (s := s) rfl
    · obtain ⟨-, store, rfl, e⟩ := addTurn_yields y
      exact .of_seats (s := s) (congrArg Ledger.seats e :)

end Operation

/-! ## Whole runs -/

/-- The games that a request has founded, each with its founder. -/
def Request.founded : Request → Except GameError Answer → List (Id × Id)
  | initGame user, .ok (.game g) => [(g.id, user)]
  | _, _ => []

/-- Whether the request has failed, or found nobody to kick. -/
def refuses : Except GameError Answer → Bool
  | .error _ => true
  | .ok (.kicked b) => !b
  | _ => false

namespace Service

/-- The jobs that a step adds. -/
def queued (s : Service) : Step → List Job
  | .elsewhere .. => []
  | .due time e =>
    if s.isDue time e then
      (s.take (.due time e)).2.jobs.drop (s.without (.timer time e)).jobs.length
    else []
  | x => (s.take x).2.jobs.drop s.jobs.length

/-- The games that a step founds. -/
def founded (s : Service) : Step → List (Id × Id)
  | .call r _ => r.founded (r.operation.run s).1
  | _ => []

/-- The step is a call that fails or answers no, or a kick that comes to nothing. -/
def Refuses (s : Service) : Step → Prop
  | .call r _ => refuses (r.operation.run s).1 = true
  | .due time (.kick game user) =>
    ((Operation.kick game user).run (s.without (.timer time (.kick game user)))).1 ≠ .ok true
  | _ => False

end Service

namespace Operation

variable {α β : Type} {s : Service}

/-- To put the value in another form is no step. -/
theorem ends_map {x : Operation α} {f : α → β} {P : Except GameError β → Service → Prop} :
    Ends (x >>= fun a => pure (f a)) s P ↔ x.Ends s fun r t => P (r.map f) t := by
  rw [ends_bind]
  unfold Ends
  cases (x.run s).1 <;> exact Iff.rfl

theorem refused_of_refuses {r : Except GameError α} {f : α → Answer}
    (accepts : ∀ a, refuses (.ok (f a)) = false) (h : refuses (r.map f) = true) : Refused r := by
  cases r with
  | error x => exact ⟨x, rfl⟩
  | ok a => exact absurd ((accepts a).symm.trans h) Bool.false_ne_true

/-- Every request takes seats and gives them up as it tells. -/
theorem attended_request (legible : s.books.store.Legible) {r : Request}
    (asked : ∀ e, r ≠ .event e) :
    r.operation.Ends s fun result t => s.Attended (r.founded result) (refuses result = true) t := by
  cases r with
  | initUser =>
    exact ends_map.2 (attended_initUser.mono (refused_of_refuses fun _ => rfl))
  | initGame user =>
    have attended := (attended_initGame user).mono (s := s)
      (refused_of_refuses (f := Answer.game) fun _ => rfl)
    refine ends_map.2 ?_
    unfold Ends at attended ⊢
    cases e : ((initGame user).run s).1 <;> rw [e] at attended <;> exact attended
  | join game user =>
    exact ends_map.2 ((attended_join legible game user).mono (refused_of_refuses fun _ => rfl))
  | kick game user =>
    refine ends_map.2 ((attended_kick legible game user).mono ?_)
    rintro refused e
    rw [e] at refused
    exact Bool.false_ne_true refused
  | guess game user content =>
    exact ends_map.2 ((attended_guess game user content).mono (refused_of_refuses fun _ => rfl))
  | say game user content =>
    exact ends_map.2 ((attended_say game user content).mono (refused_of_refuses fun _ => rfl))
  | view game viewer =>
    exact ends_map.2 ((attended_view game viewer).mono (refused_of_refuses fun _ => rfl))
  | event e => exact absurd rfl (asked e)

end Operation

namespace Service

variable {s : Service}

theorem Attended.drop {t : Service} {founded : List (Id × Id)} {refused : Prop}
    (h : s.Attended founded refused t) :
    Attendance s.books.ledger t.books.ledger ((t.jobs.drop s.jobs.length).flatMap Job.passages)
      founded ∧ (refused → t.jobs.drop s.jobs.length = [] ∧ t.queue = s.queue) := by
  obtain ⟨jobs, all, attendance, silent⟩ := h
  rw [all, List.drop_left]
  exact ⟨attendance, silent⟩

/-- Every step takes seats and gives them up as it tells, and queues nothing if it is refused. -/
theorem attendance_take (legible : s.books.store.Legible) (x : Step) :
    Attendance s.books.ledger (s.take x).2.books.ledger ((s.queued x).flatMap Job.passages)
      (s.founded x) ∧ (s.Refuses x → s.queued x = [] ∧ (s.take x).2.queue = s.queue) := by
  have viewed (game viewer : Id) : s.Attended [] False ((Operation.view game viewer).run s).2 :=
    (Operation.attended_view game viewer).mono False.elim
  cases x with
  | call r asked =>
    have attended : s.Attended (s.founded (.call r asked)) (s.Refuses (.call r asked))
        (r.operation.run s).2 := Operation.attended_request legible asked
    rw [← Operation.run_map_snd Reply.answer] at attended
    exact attended.drop
  | leaderboard game viewer =>
    have attended := viewed game viewer
    rw [← Operation.run_map_snd View.leaderboard, ← Operation.run_map_snd Reply.standings] at attended
    exact attended.drop
  | word game viewer =>
    have attended := viewed game viewer
    rw [← Operation.run_map_snd View.word, ← Operation.run_map_snd Reply.word] at attended
    exact attended.drop
  | due time e =>
    by_cases fires : s.isDue time e
    · have taken : (s.take (.due time e)).2 =
          ((Operation.ofEvent e).run (s.without (.timer time e))).2 := by
        simp only [take, if_pos fires]
        exact Operation.run_map_snd _ _ _
      have attended : (s.without (.timer time e)).Attended [] (s.Refuses (.due time e))
          (s.take (.due time e)).2 := by
        rw [taken]
        cases e with
        | nextTurn game => exact (Operation.attended_nextTurn game).mono False.elim
        | kick game user =>
          rw [show Operation.ofEvent (.kick game user) = (fun _ => ()) <$> Operation.kick game user
            from rfl, Operation.run_map_snd]
          exact Operation.attended_kick (s := s.without _) legible game user
      have queued : s.queued (.due time e) =
          (s.take (.due time e)).2.jobs.drop (s.without (.timer time e)).jobs.length :=
        if_pos fires
      rw [queued]
      exact attended.drop
    · have queued : s.queued (.due time e) = [] := if_neg fires
      have taken : s.take (.due time e) = (.ok .nothing, s) := if_neg fires
      rw [queued, taken]
      exact ⟨.stays rfl, fun _ => ⟨rfl, rfl⟩⟩
  | elsewhere change idle =>
    have same : (change s).books = s.books := (congrArg Service.books (idle.books s s.books) :)
    refine ⟨.stays ?_, False.elim⟩
    show (change s).books.ledger.seats = _
    rw [same]

/-- Whatever relation the entries of the game suit, a step does not leave it. -/
theorem along_take {R : Books → Books → Prop} (c : Carries R)
    (score : ∀ award, (Entry.addScore award).Along R) (s : Service) (x : Step) :
    R s.books (s.take x).2.books := by
  have view (game viewer : Id) : R s.books ((Operation.view game viewer).run s).2.books :=
    (Operation.along_view c.toCarriesRooms game viewer).run c.toIsCourse s
  cases x with
  | call r asked =>
    have kept := (Operation.along_operation c score r).run c.toIsCourse s
    rwa [← Operation.run_map_snd Reply.answer] at kept
  | leaderboard game viewer =>
    have kept := view game viewer
    rwa [← Operation.run_map_snd View.leaderboard, ← Operation.run_map_snd Reply.standings] at kept
  | word game viewer =>
    have kept := view game viewer
    rwa [← Operation.run_map_snd View.word, ← Operation.run_map_snd Reply.word] at kept
  | due time e =>
    simp only [take]
    split
    · rw [Operation.run_map_snd]
      exact (Operation.along_ofEvent c.toCarriesRooms e).run c.toIsCourse (s.without (.timer time e))
    · exact c.refl _
  | elsewhere change idle =>
    have same : (change s).books = s.books := (congrArg Service.books (idle.books s s.books) :)
    show R s.books (change s).books
    rw [same]
    exact c.refl _

end Service

/-- The service in a run, every passage told so far, and who has founded which game. -/
structure Guestbook where
  service : Service
  told : List Passage := []
  founded : List (Id × Id) := []

namespace Guestbook

def take (g : Guestbook) (x : Step) : Guestbook where
  service := (g.service.take x).2
  told := g.told ++ (g.service.queued x).flatMap Job.passages
  founded := g.founded ++ g.service.founded x

/-- The guestbook after steps, taken one after another. -/
def after (g : Guestbook) (steps : List Step) : Guestbook := steps.foldl take g

/-- What was told of the user's comings and goings in the game. -/
def about (g : Guestbook) (game user : Id) : List Passage :=
  g.told.filter fun p => p.game == game && p.user == user

/-- The notices of a user in a game alternate, the first one telling of an arrival unless the user
has founded the game, and the user's one row of seats is as the last one tells. -/
structure Agrees (g : Guestbook) (game user : Id) : Prop where
  alternates : ((g.about game user).map (·.arrives)).IsChain (· ≠ ·)
  first : ∀ p, (g.about game user).head? = some p → p.arrives = decide ((game, user) ∉ g.founded)
  row : g.service.books.ledger.rowsOf game user =
    match (g.about game user).getLast? with
    | some p => [⟨game, user, p.arrives⟩]
    | none => if (game, user) ∈ g.founded then [⟨game, user, true⟩] else []

variable {g g' : Guestbook} {game user : Id}

/-- Nobody was told of a user who has no row. -/
theorem Agrees.about_eq_nil (h : g.Agrees game user)
    (none : g.service.books.ledger.rowsOf game user = []) :
    g.about game user = [] ∧ (game, user) ∉ g.founded := by
  have row := h.row
  rw [none] at row
  cases last : (g.about game user).getLast? with
  | some p =>
    rw [last] at row
    cases row
  | none =>
    rw [last] at row
    refine ⟨List.getLast?_eq_none_iff.1 last, fun founder => ?_⟩
    dsimp only at row
    rw [if_pos founder] at row
    cases row

/-- A user with a row who was told of at last has come or gone, as the row says. -/
theorem Agrees.getLast?_of_row (h : g.Agrees game user) {taken : Bool}
    (row : ⟨game, user, taken⟩ ∈ g.service.books.ledger.rowsOf game user) :
    (∃ p, (g.about game user).getLast? = some p ∧ p.arrives = taken) ∨
      g.about game user = [] ∧ (game, user) ∈ g.founded ∧ taken = true := by
  rw [h.row] at row
  cases last : (g.about game user).getLast? with
  | some p =>
    rw [last] at row
    have same := List.mem_singleton.1 row
    exact .inl ⟨p, rfl, (congrArg Seat.taken same).symm⟩
  | none =>
    rw [last] at row
    dsimp only at row
    split at row
    · rename_i founder
      have same := List.mem_singleton.1 row
      exact .inr ⟨List.getLast?_eq_none_iff.1 last, founder, congrArg Seat.taken same⟩
    · cases row

/-- Nothing has happened that concerns the user in the game. -/
theorem Agrees.of_eq (h : g.Agrees game user) (about : g'.about game user = g.about game user)
    (founder : (game, user) ∈ g'.founded ↔ (game, user) ∈ g.founded)
    (row : g'.service.books.ledger.rowsOf game user = g.service.books.ledger.rowsOf game user) :
    g'.Agrees game user where
  alternates := about ▸ h.alternates
  first := by
    simp only [about, founder]
    exact h.first
  row := by
    simp only [about, founder, row]
    exact h.row

/-- A user whose row has been changed is told of once more, and the other way round than before. -/
theorem Agrees.passes (h : g.Agrees game user) {p : Passage}
    (was : ⟨game, user, !p.arrives⟩ ∈ g.service.books.ledger.rowsOf game user)
    (about : g'.about game user = g.about game user ++ [p]) (founded : g'.founded = g.founded)
    (row : g'.service.books.ledger.rowsOf game user =
      (g.service.books.ledger.rowsOf game user).map fun seat => { seat with taken := p.arrives }) :
    g'.Agrees game user where
  alternates := by
    rw [about, List.map_append, List.isChain_append]
    refine ⟨h.alternates, .singleton _, fun x hx y hy => ?_⟩
    obtain rfl : p.arrives = y := by simpa using hy
    rw [List.getLast?_map] at hx
    rcases h.getLast?_of_row was with ⟨q, last, told⟩ | ⟨none, -⟩
    · rw [last] at hx
      obtain rfl : q.arrives = x := by simpa using hx
      rw [told]
      exact Bool.not_ne_self _
    · rw [none] at hx
      cases hx
  first q hq := by
    rw [about] at hq
    rw [founded]
    rcases h.getLast?_of_row was with ⟨r, last, -⟩ | ⟨none, founder, told⟩
    · have some_told : g.about game user ≠ [] := by
        intro none
        rw [none] at last
        cases last
      rw [List.head?_append_of_ne_nil _ some_told] at hq
      exact h.first q hq
    · rw [none] at hq
      obtain rfl : p = q := by simpa using hq
      simpa [founder] using told
  row := by
    rw [about, List.getLast?_concat, row, h.row]
    rcases h.getLast?_of_row was with ⟨q, last, -⟩ | ⟨none, founder, -⟩
    · rw [last]
      rfl
    · rw [none]
      simp [founder]

/-- Whatever a step does to seats, it agrees with what is told of it. -/
theorem Agrees.next (h : g.Agrees game user) {told : List Passage} {founded : List (Id × Id)}
    (attendance : Attendance g.service.books.ledger g'.service.books.ledger told founded)
    (more : g'.told = g.told ++ told) (also : g'.founded = g.founded ++ founded) :
    g'.Agrees game user := by
  have about : g'.about game user = g.about game user ++
      told.filter fun p => p.game == game && p.user == user := by
    unfold Guestbook.about
    rw [more, List.filter_append]
  cases attendance with
  | stays seats =>
    exact h.of_eq (by simpa using about) (by simp [also]) (Ledger.rowsOf_congr seats)
  | opens game₀ user₀ free seats =>
    have row := Ledger.rowsOf_append game user seats
    by_cases same : game₀ = game ∧ user₀ = user
    · obtain ⟨rfl, rfl⟩ := same
      have none := Ledger.rowsOf_eq_nil free
      obtain ⟨unheard, -⟩ := h.about_eq_nil none
      have about : g'.about game₀ user₀ = [] := by simpa [unheard] using about
      have founder : (game₀, user₀) ∈ g'.founded := by simp [also]
      refine ⟨?_, ?_, ?_⟩ <;> rw [about]
      · exact .nil
      · rintro p ⟨⟩
      · simp [row, none, founder]
    · have other : ¬ (game = game₀ ∧ user = user₀) := fun e => same ⟨e.1.symm, e.2.symm⟩
      exact h.of_eq (by simpa using about) (by simp [also, other]) (by simpa [same] using row)
  | enters game₀ user₀ free seats =>
    have row := Ledger.rowsOf_append game user seats
    by_cases same : game₀ = game ∧ user₀ = user
    · obtain ⟨rfl, rfl⟩ := same
      have none := Ledger.rowsOf_eq_nil free
      obtain ⟨unheard, stranger⟩ := h.about_eq_nil none
      have about : g'.about game₀ user₀ = [⟨game₀, user₀, true, some user₀⟩] := by
        simpa [unheard] using about
      refine ⟨?_, ?_, ?_⟩ <;> rw [about]
      · exact .singleton _
      · rintro p ⟨⟩
        simp [also, stranger]
      · simp [row, none]
    · exact h.of_eq (by simpa [same] using about) (by simp [also]) (by simpa [same] using row)
  | returns game₀ user₀ was seats =>
    have row := Ledger.rowsOf_map game user seats
    by_cases same : game₀ = game ∧ user₀ = user
    · obtain ⟨rfl, rfl⟩ := same
      exact h.passes (p := ⟨game₀, user₀, true, some user₀⟩) (Ledger.mem_rowsOf was)
        (by simpa using about) (by simpa using also) (by simpa using row)
    · exact h.of_eq (by simpa [same] using about) (by simp [also]) (by simpa [same] using row)
  | leaves game₀ user₀ was seats =>
    have row := Ledger.rowsOf_map game user seats
    by_cases same : game₀ = game ∧ user₀ = user
    · obtain ⟨rfl, rfl⟩ := same
      exact h.passes (p := ⟨game₀, user₀, false, some user₀⟩) (Ledger.mem_rowsOf was)
        (by simpa using about) (by simpa using also) (by simpa using row)
    · exact h.of_eq (by simpa [same] using about) (by simp [also]) (by simpa [same] using row)

/-- Seats are in order and everybody's agree with what was told, of which nobody hears about
themselves. -/
structure Kept (g : Guestbook) : Prop where
  seating : g.service.books.Seating
  agrees : ∀ game user, g.Agrees game user
  excluded : ∀ p ∈ g.told, p.excluded = some p.user

theorem Kept.take (h : g.Kept) (x : Step) : (g.take x).Kept := by
  obtain ⟨attendance, -⟩ := Service.attendance_take h.seating.legible x
  refine ⟨?_, fun game user => (h.agrees game user).next attendance rfl rfl, fun p mem => ?_⟩
  · exact (Service.along_take Books.KeepsSeating.carries Books.KeepsSeating.along_addScore
      g.service x).seating h.seating
  · rcases List.mem_append.1 mem with old | new
    · exact h.excluded p old
    · exact attendance.excluded p new

theorem Kept.after (h : g.Kept) (steps : List Step) : (g.after steps).Kept := by
  induction steps generalizing g with
  | nil => exact h
  | cons x steps ih => exact ih (h.take x)

theorem Kept.of_isBlank {s : Service} (blank : s.books.store.IsBlank) :
    Kept { service := s } where
  seating := .of_isBlank blank
  agrees game user := by
    have none : s.books.ledger = ⟨_, [], [], [], [], [], []⟩ := blank.ledger
    refine ⟨.nil, by rintro p ⟨⟩, ?_⟩
    rw [none]
    rfl
  excluded := by simp

end Guestbook

/-- Whatever steps are taken one after another, from a blank store on: in every game and for every
user the notices of comings and goings alternate and agree with the one row of seats, nobody is told
of their own, and a step that is refused queues nothing. -/
theorem passages_agree_with_seats (s : Service) (blank : s.books.store.IsBlank) (steps : List Step) :
    let g := (⟨s, [], []⟩ : Guestbook).after steps
    (∀ game user, g.Agrees game user) ∧ (∀ p ∈ g.told, p.excluded = some p.user) ∧
      ∀ x, g.service.Refuses x →
        g.service.queued x = [] ∧ (g.service.take x).2.queue = g.service.queue := by
  intro g
  have kept : g.Kept := (Guestbook.Kept.of_isBlank blank).after steps
  exact ⟨kept.agrees, kept.excluded, fun x => (Service.attendance_take kept.seating.legible x).2⟩

/-- A player is connected to a game, with a reader for the channel. -/
def Service.connect (game player : Id) (s : Service) : Service :=
  { s with hub := (s.hub.subscribe game player s.now).2 }

theorem Service.isBackground_connect (game player : Id) : IsBackground (connect game player) :=
  ⟨fun _ _ => rfl, fun _ => List.Subset.refl _⟩

theorem Service.isBackground_kickAfter (game user : Id) (delay : Nat) :
    IsBackground (kickAfter game user delay) := by
  refine ⟨fun _ _ => rfl, fun s => ?_⟩
  have same : (kickAfter game user delay s).advances = s.advances :=
    (List.filterMap_append).trans (List.append_nil _)
  rw [same]
  exact List.Subset.refl _

theorem Request.initUser_ne_event (e : Event) : Request.initUser ≠ .event e := nofun

theorem Request.initGame_ne_event (user : Id) (e : Event) : Request.initGame user ≠ .event e := nofun

theorem Request.join_ne_event (game user : Id) (e : Event) : Request.join game user ≠ .event e := nofun

theorem Request.kick_ne_event (game user : Id) (e : Event) : Request.kick game user ≠ .event e := nofun

/-- A founder is kicked twice, comes back, and is spared while connected; a guest comes, and loses the
seat in the end. -/
def Service.comingsAndGoings : List Step :=
  let game := "||||||||||"
  let kick (user : Id) : Step := .call (.kick game user) (Request.kick_ne_event game user)
  let join (user : Id) : Step := .call (.join game user) (Request.join_ne_event game user)
  [.call .initUser Request.initUser_ne_event, .call .initUser Request.initUser_ne_event,
    .call (.initGame "|") (Request.initGame_ne_event "|"), kick "|", kick "|", join "|||||", join "|",
    .elsewhere (connect game "|") (isBackground_connect game "|"), kick "|",
    .elsewhere (kickAfter game "|||||" 0) (isBackground_kickAfter game "|||||" 0),
    .due 0 (.kick game "|||||")]

theorem passages_agree_in_a_run :
    let s := Service.inMemory {} [⟨"w", "apple", "🍎"⟩] .counting
    let g := (⟨s, [], []⟩ : Guestbook).after Service.comingsAndGoings
    s.books.store.IsBlank ∧ g.founded = [("||||||||||", "|")] ∧
      g.told = [⟨"||||||||||", "|", false, some "|"⟩, ⟨"||||||||||", "|||||", true, some "|||||"⟩,
        ⟨"||||||||||", "|", true, some "|"⟩, ⟨"||||||||||", "|||||", false, some "|||||"⟩] ∧
      g.service.books.ledger.seats = [⟨"||||||||||", "|", true⟩, ⟨"||||||||||", "|||||", false⟩] ∧
      ∀ game user, g.Agrees game user := by
  have blank : (Service.inMemory {} [⟨"w", "apple", "🍎"⟩] .counting).books.store.IsBlank := rfl
  exact ⟨blank, by decide +kernel, by decide +kernel, by decide +kernel,
    (passages_agree_with_seats _ blank Service.comingsAndGoings).1⟩

end GuessingRoom
