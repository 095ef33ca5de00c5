import GuessingRoom.Proofs.Seating

/-!
# Strides of requests

What a single step of a request can do, wherever the others have left the service: it works on the
books, queues a few notices, or schedules a turn (`Service.Stride`). Work on the books changes the
seats in one of five ways (`Books.SeatChange`); a seat is only ever given up by a kick, and only
taken where there was room, unless a game is opened with it.
-/

namespace GuessingRoom

namespace Books

/-- What becomes of the seats in one step, given whom the step may kick and how many may be seated in
one game. -/
inductive SeatChange (kicks : Id → Id → Prop) (capacity : Nat) (b b' : Books) : Prop where
  | stay (seats : b'.ledger.seats = b.ledger.seats)
  | opens (n : Nat) (user : Id) (fresh : b.drawn ≤ n)
      (seats : b'.ledger.seats = b.ledger.seats ++ [⟨b.supply.id n, user, true⟩])
  | enters (game user : Id) (room : b.Seating → (b.ledger.seated game).length < capacity)
      (seats : b'.ledger.seats = b.ledger.seats ++ [⟨game, user, true⟩])
  | returns (game user : Id) (room : b.Seating → (b.ledger.seated game).length < capacity)
      (seats : b'.ledger.seats = b.ledger.seats.map (Seat.withTaken game user true))
  | leaves (game user : Id) (may : kicks game user)
      (seats : b'.ledger.seats = b.ledger.seats.map (Seat.withTaken game user false))

/-- The seats are the same in the second books as in the first ones. -/
def SameSeats (b b' : Books) : Prop := b'.ledger.seats = b.ledger.seats

namespace SameSeats

open Entry

theorem isCourse : IsCourse SameSeats where
  refl _ := rfl
  trans h h' := Eq.trans h' h
  draw _ := rfl
  commit b after h := by
    unfold SameSeats
    rw [ledger_committed]
    exact h
  abandon b after _ := by
    unfold SameSeats
    rw [ledger_abandoned]

theorem along_upsertUser (id : Id) (nickname : String) :
    (Entry.upsertUser id nickname).Along SameSeats := by
  apply along_stamped isCourse
  intro b u b' h
  obtain ⟨store, rfl, users, -, -, e⟩ := upsertUser_yields h
  exact (congrArg Ledger.seats e :)

theorem along_addTurn (game word : Id) : (Entry.addTurn game word).Along SameSeats := by
  apply along_stamped isCourse
  intro b turn b' h
  obtain ⟨-, store, rfl, e⟩ := addTurn_yields h
  exact (congrArg Ledger.seats e :)

theorem along_addMessage (game turn player : Id) (content : String) :
    (Entry.addMessage game turn player content).Along SameSeats := by
  apply along_stamped isCourse
  intro b message b' h
  obtain ⟨-, store, rfl, e⟩ := addMessage_yields h
  exact (congrArg Ledger.seats e :)

theorem along_addScore (award : Award) : (addScore award).Along SameSeats := by
  apply along_stamped isCourse
  intro b u b' h
  obtain ⟨store, rfl, e⟩ := addScore_yields h
  exact (congrArg Ledger.seats e :)

end SameSeats

namespace SeatChange

open Entry

variable {kicks : Id → Id → Prop} {capacity : Nat}

theorem along_of_same {α : Type} {e : Entry α} (h : e.Along SameSeats) :
    e.Along (SeatChange kicks capacity) := fun b => .stay (h b)

theorem of_seats {b after b' : Books} (h : SeatChange kicks capacity b after)
    (same : b'.ledger.seats = after.ledger.seats) : SeatChange kicks capacity b b' := by
  cases h with
  | stay seats => exact .stay (same.trans seats)
  | opens n user fresh seats => exact .opens n user fresh (same.trans seats)
  | enters game user room seats => exact .enters game user room (same.trans seats)
  | returns game user room seats => exact .returns game user room (same.trans seats)
  | leaves game user may seats => exact .leaves game user may (same.trans seats)

/-- A unit may change seats only if it ends with a value. -/
theorem along_inUnit {α : Type} {e : Entry α}
    (h : ∀ b a after, e.Yields b a after → SeatChange kicks capacity b after) :
    e.inUnit.Along (SeatChange kicks capacity) := by
  refine along_of (fun b a b' u => ?_) fun b x b' u => ?_
  · obtain ⟨after, whole, rfl⟩ := yields_inUnit.1 u
    exact (h b a after whole).of_seats (by rw [ledger_committed])
  · exact .stay (congrArg Ledger.seats (unchanged_of_fails_inUnit u))

theorem along_openGame (user : Id) (word : Word) :
    (inUnit (Operation.openGame user word)).Along (SeatChange kicks capacity) := by
  apply along_inUnit
  intro b game after h
  obtain ⟨m, n, store, drawn, first, -, -, rfl, e⟩ := openGame_yields h
  exact .opens m user first (congrArg Ledger.seats e)

theorem along_takeSeat (settings : RoomSettings) (game : Id) (user : User) :
    (inUnit (Operation.takeSeat settings game user)).Along
      (SeatChange kicks settings.capacity) := by
  apply along_inUnit
  intro b u after h
  obtain ⟨players, b₁, look, h⟩ := yields_bind.1 h
  obtain ⟨read, rfl⟩ := yields_look.1 look
  simp only [yields_ite_throw] at h
  obtain ⟨-, free, h⟩ := h
  have room (seating : b.Seating) : (b.ledger.seated game).length < settings.capacity := by
    rw [← length_active seating read]
    exact not_le.1 free
  split at h
  · obtain ⟨store, rfl, e⟩ := setState_yields h
    exact .returns game user.id room (congrArg Ledger.seats e)
  · obtain ⟨-, store, rfl, e⟩ := addPlayer_yields h
    exact .enters game user.id room (congrArg Ledger.seats e)

theorem along_leaveSeat {game user : Id} (may : kicks game user) :
    (put (·.setState game user .inactive)).Along (SeatChange kicks capacity) := by
  refine along_of (fun b u b' h => ?_) fun b x b' f => ?_
  · obtain ⟨store, rfl, e⟩ := setState_yields h
    exact .leaves game user may (congrArg Ledger.seats e)
  · exact .stay (by rw [(fails_write f).1])

end SeatChange

end Books

/-! ## Steps of the service -/

/-- What a step can do. -/
inductive Service.Stride (kicks : Id → Id → Prop) (s : Service) : Service → Prop where
  | works (b : Books) (change : s.books.SeatChange kicks s.settings.capacity b) :
      s.Stride kicks { s with books := b }
  | queues (game : Id) (items : List Outgoing) (few : items.length ≤ 3) :
      s.Stride kicks (s.publishLater game items)
  | schedules (delay : Nat) (game : Id) : s.Stride kicks (s.schedule delay (.nextTurn game))

namespace Service.Stride

variable {kicks : Id → Id → Prop} {s t : Service}

theorem refl (s : Service) : s.Stride kicks s := .works s.books (.stay rfl)

@[simp] theorem settings (h : s.Stride kicks t) : t.settings = s.settings := by
  cases h <;> rfl

theorem seatChange (h : s.Stride kicks t) :
    s.books.SeatChange kicks s.settings.capacity t.books := by
  cases h with
  | works b change => exact change
  | queues | schedules => exact .stay rfl

end Service.Stride

namespace Operation

open Entry Books

variable {α β : Type} {kicks : Id → Id → Prop}

/-- Every step of the operation is a stride, from wherever it is taken. -/
def Strides (kicks : Id → Id → Prop) (op : Operation α) : Prop :=
  Script.Along (fun s t : Service => s.Stride kicks t) op

theorem Strides.bind {x : Operation α} {k : α → Operation β} (hx : x.Strides kicks)
    (hk : ∀ a, (k a).Strides kicks) : (x >>= k : Operation β).Strides kicks := steps_bind hx hk

theorem strides_pure (a : α) : (pure a : Operation α).Strides kicks := trivial

theorem Strides.map {x : Operation α} (hx : x.Strides kicks) (f : α → β) :
    (x >>= fun a => pure (f a) : Operation β).Strides kicks := hx.bind fun a => strides_pure (f a)

/-- A check before the rest either ends the operation or lets it go on. -/
theorem Strides.check {p : Prop} [Decidable p] {x : GameError} {k : β → Operation α}
    {op : Operation α} (h : op.Strides kicks) :
    (if p then throw x >>= k else op : Operation α).Strides kicks := by
  split
  · trivial
  · exact h

theorem strides_entryWith {e : RoomSettings → Entry α}
    (h : ∀ settings, (e settings).Along (SeatChange kicks settings.capacity)) :
    (entryWith e).Strides kicks := fun s => ⟨.works _ (h s.settings s.books), trivial⟩

theorem strides_entry {e : Entry α} (h : ∀ capacity, e.Along (SeatChange kicks capacity)) :
    (entry e).Strides kicks := strides_entryWith fun settings => h settings.capacity

theorem strides_same {e : Entry α} (h : e.Along SameSeats) : (entry e).Strides kicks :=
  strides_entry fun _ => SeatChange.along_of_same h

theorem strides_stored (query : Store → Except Failure α) :
    (entry (Entry.look query)).Strides kicks := strides_same (Entry.along_look SameSeats.isCourse query)

theorem strides_look (f : Service → α) : (look f).Strides kicks := fun s => ⟨.refl s, trivial⟩

theorem strides_publishLater (game : Id) {items : List Outgoing} (few : items.length ≤ 3) :
    (change (Service.publishLater game items)).Strides kicks :=
  fun _ => ⟨.queues game items few, trivial⟩

/-! ## Operations of the game -/

theorem strides_initUser : initUser.Strides kicks := by
  have c := SameSeats.isCourse
  refine .bind (strides_same (along_stamp c)) fun stamp => ?_
  refine .bind (strides_same (along_choose c _)) fun adjective => ?_
  refine .bind (strides_same (along_choose c _)) fun animal => ?_
  refine .bind (strides_same (SameSeats.along_upsertUser _ _)) fun _ => ?_
  exact strides_same (along_requireUser c _)

theorem strides_initGame (user : Id) : (initGame user).Strides kicks := by
  have c := SameSeats.isCourse
  refine .bind (strides_same (along_requireUser c user)) fun u => ?_
  refine .bind (strides_same (along_drawWord c)) fun word => ?_
  exact strides_entry fun _ => SeatChange.along_openGame u.id word

theorem strides_join (game user : Id) : (join game user).Strides kicks := by
  have c := SameSeats.isCourse
  refine .bind (strides_same (along_requireUser c user)) fun u => ?_
  refine .bind (strides_same (along_requireGame c game)) fun _ => ?_
  refine .bind (strides_entryWith fun settings => ?_) fun _ => ?_
  · exact SeatChange.along_takeSeat settings game u
  · exact strides_publishLater game (Nat.le_add_left 1 2)

theorem strides_kick {game user : Id} (may : kicks game user) : (kick game user).Strides kicks := by
  refine .bind (strides_look _) fun connected => ?_
  split
  · trivial
  · refine .bind (strides_stored _) fun players => ?_
    split
    · trivial
    · split
      · trivial
      · refine .bind (strides_entry fun _ => SeatChange.along_leaveSeat may) fun _ => ?_
        exact .bind (strides_publishLater game (Nat.le_add_left 1 2)) fun _ => strides_pure _

theorem length_guessNotices_le (m : Message) (nickname : String) (verdict : Verdict) :
    (guessNotices m nickname verdict).length ≤ 3 := by
  rcases verdict with _ | _ | ⟨points, _ | _⟩ <;> simp [guessNotices]

theorem strides_guess (game user : Id) (content : String) :
    (guess game user content).Strides kicks := by
  have c := SameSeats.isCourse
  refine .bind (strides_same (along_requireUser c user)) fun u => ?_
  refine .bind (strides_same (along_requireGame c game)) fun _ => ?_
  refine .bind (strides_same (along_requireTurn c game)) fun turn => ?_
  refine .bind (strides_same (along_requireWord c turn.wordId)) fun word => ?_
  refine .bind (strides_entryWith fun settings => SeatChange.along_of_same (.inUnit c ?_))
    fun judged => ?_
  · exact along_judge c SameSeats.along_addMessage SameSeats.along_addScore _ _ _ _ _ _
  obtain ⟨message, verdict⟩ := judged
  refine .bind (strides_publishLater _ (length_guessNotices_le message u.nickname verdict)) fun _ => ?_
  split
  · exact .bind (fun s => ⟨.schedules _ _, trivial⟩) fun _ => strides_pure _
  · exact strides_pure _

theorem strides_say (game user : Id) (content : String) : (say game user content).Strides kicks := by
  have c := SameSeats.isCourse
  refine .bind (strides_same (along_requireUser c user)) fun u => ?_
  refine .bind (strides_same (along_requireGame c game)) fun _ => ?_
  refine .bind (strides_same (along_requireTurn c game)) fun turn => ?_
  refine .bind (strides_same (along_requireWord c turn.wordId)) fun word => ?_
  refine .bind (strides_stored _) fun active => ?_
  refine .check (.bind (strides_same (SameSeats.along_addMessage _ _ _ _)) fun message => ?_)
  exact .bind (strides_publishLater _ (Nat.le_add_left 1 2)) fun _ => strides_pure _

theorem strides_view (game viewer : Id) : (view game viewer).Strides kicks := by
  have c := SameSeats.isCourse
  refine .bind (strides_same (along_requireGame c game)) fun _ => ?_
  refine .bind (strides_stored _) fun players => ?_
  refine .check (.bind (strides_same (along_requireTurn c game)) fun turn => ?_)
  refine .bind (strides_same (along_requireWord c turn.wordId)) fun word => ?_
  refine .bind (strides_stored _) fun messages => ?_
  exact .bind (strides_stored _) fun scores => trivial

theorem strides_nextTurn (game : Id) : (nextTurn game).Strides kicks := by
  refine .bind (strides_same (along_drawWord SameSeats.isCourse)) fun word => ?_
  exact .bind (strides_same (SameSeats.along_addTurn _ _)) fun _ => strides_pure _

end Operation

/-- Whom the request may kick. -/
def Request.Kicks : Request → Id → Id → Prop
  | .kick game user, g, u => g = game ∧ u = user
  | .event (.kick game user), g, u => g = game ∧ u = user
  | _, _, _ => False

/-- Whatever is asked, every step is a stride. -/
theorem Request.strides (r : Request) : r.operation.Strides r.Kicks := by
  cases r with
  | initUser => exact Operation.strides_initUser.map _
  | initGame user => exact (Operation.strides_initGame user).map _
  | join game user => exact (Operation.strides_join game user).map _
  | kick game user => exact (Operation.strides_kick ⟨rfl, rfl⟩).map _
  | guess game user content => exact (Operation.strides_guess game user content).map _
  | say game user content => exact (Operation.strides_say game user content).map _
  | view game viewer => exact (Operation.strides_view game viewer).map _
  | event e =>
    cases e with
    | nextTurn game => exact (Operation.strides_nextTurn game).map _
    | kick game user =>
      have kicked : (Operation.kick game user).Strides (Request.Kicks (.event (.kick game user))) :=
        Operation.strides_kick ⟨rfl, rfl⟩
      exact (kicked.map fun _ => ()).map _

/-! ## How many steps -/

namespace Operation

variable {α β : Type} {n : Nat}

/-- One step and what comes after it. -/
theorem atMost_next {f : Service → Except GameError α × Service} {k : α → Operation β}
    (h : ∀ a, Script.AtMost n (k a)) : Script.AtMost (n + 1) (step f >>= k : Operation β) := by
  intro s
  show Script.AtMost n (ExceptT.bindCont k (f s).1 : Operation β)
  cases (f s).1 with
  | error x => cases n <;> trivial
  | ok a => exact h a

theorem atMost_last (f : Service → Except GameError α × Service) :
    Script.AtMost 1 (step f : Operation α) := fun _ => trivial

theorem atMost_done (r : Except GameError α) (n : Nat) :
    Script.AtMost n (Script.done r : Operation α) := by
  cases n <;> trivial

theorem atMost_map {x : Operation α} (h : Script.AtMost n x) (f : α → β) :
    Script.AtMost n (x >>= fun a => pure (f a) : Operation β) := by
  refine h.bind (n := 0) fun r => ?_
  cases r <;> trivial

theorem atMost_check {p : Prop} [Decidable p] {x : GameError} {k : β → Operation α}
    {op : Operation α} (h : Script.AtMost n op) :
    Script.AtMost n (if p then throw x >>= k else op : Operation α) := by
  split
  · exact atMost_done _ _
  · exact h

theorem atMost_kick (game user : Id) : Script.AtMost 4 (kick game user) := by
  refine atMost_next fun connected => ?_
  split
  · exact atMost_done _ _
  · refine atMost_next fun players => ?_
    split
    · exact atMost_done _ _
    · split
      · exact atMost_done _ _
      · exact atMost_next fun _ => atMost_next fun _ => atMost_done _ _

theorem atMost_guess (game user : Id) (content : String) :
    Script.AtMost 7 (guess game user content) := by
  refine atMost_next fun u => atMost_next fun _ => atMost_next fun turn => atMost_next fun word => ?_
  refine atMost_next fun judged => ?_
  obtain ⟨message, verdict⟩ := judged
  refine atMost_next fun _ => ?_
  split
  · exact atMost_next fun _ => atMost_done _ _
  · exact atMost_done _ _

theorem atMost_say (game user : Id) (content : String) :
    Script.AtMost 7 (say game user content) := by
  refine atMost_next fun u => atMost_next fun _ => atMost_next fun turn => atMost_next fun word => ?_
  refine atMost_next fun active => atMost_check ?_
  exact atMost_next fun message => atMost_next fun _ => atMost_done _ _

theorem atMost_view (game viewer : Id) : Script.AtMost 6 (view game viewer) := by
  refine atMost_next fun _ => atMost_next fun players => atMost_check ?_
  refine atMost_next fun turn => atMost_next fun word => atMost_next fun messages => ?_
  exact atMost_next fun scores => atMost_done _ _

theorem atMost_nextTurn (game : Id) : Script.AtMost 2 (nextTurn game) :=
  atMost_next fun _ => atMost_next fun _ => atMost_done _ _

end Operation

/-- Nothing that is asked takes more than seven steps. -/
theorem Request.atMost (r : Request) : Script.AtMost 7 r.operation := by
  open Operation in
  cases r with
  | initUser =>
    refine .mono (m := 5) (atMost_map ?_ _) (by decide)
    exact atMost_next fun _ => atMost_next fun _ => atMost_next fun _ => atMost_next fun _ =>
      atMost_last _
  | initGame user =>
    refine .mono (m := 3) (atMost_map ?_ _) (by decide)
    exact atMost_next fun _ => atMost_next fun _ => atMost_last _
  | join game user =>
    refine .mono (m := 4) (atMost_map ?_ _) (by decide)
    exact atMost_next fun _ => atMost_next fun _ => atMost_next fun _ => atMost_last _
  | kick game user => exact .mono (atMost_map (atMost_kick game user) _) (by decide)
  | guess game user content => exact atMost_map (atMost_guess game user content) _
  | say game user content => exact atMost_map (atMost_say game user content) _
  | view game viewer => exact .mono (atMost_map (atMost_view game viewer) _) (by decide)
  | event e =>
    cases e with
    | nextTurn game => exact .mono (atMost_map (atMost_nextTurn game) _) (by decide)
    | kick game user =>
      exact .mono (atMost_map (atMost_map (atMost_kick game user) fun _ => ()) _) (by decide)

/-- The next turn takes two steps at most, and works on nothing but the books. -/
theorem Request.nextTurn_works (game : Id) :
    Script.AtMost 2 (Request.event (.nextTurn game)).operation ∧
      Script.Along (fun s t : Service => ∃ books, t = { s with books })
        (Request.event (.nextTurn game)).operation := by
  have works {α : Type} (e : Entry α) :
      Script.Along (fun s t : Service => ∃ books, t = { s with books }) (Operation.entry e) :=
    fun s => ⟨⟨(e s.books).2, rfl⟩, trivial⟩
  have turn : Script.Along (fun s t : Service => ∃ books, t = { s with books })
      (Operation.nextTurn game) :=
    Operation.steps_bind (works _) fun word => Operation.steps_bind (works _) fun _ => trivial
  exact ⟨Operation.atMost_map (Operation.atMost_nextTurn game) _,
    Operation.steps_bind turn fun _ => trivial⟩

end GuessingRoom
