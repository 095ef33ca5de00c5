import GuessingRoom.Proofs.Growth
import GuessingRoom.Proofs.Interleaving
import GuessingRoom.Proofs.Requests

/-!
# Operations along a relation, and in one go

An operation goes along a relation of books if each of its steps does, from wherever it is taken
(`Operation.Along`). So do all operations of the game if the relation suits their entries. Run in
one go, an operation is read off entry by entry (`Operation.ends_entry`, …).
-/

namespace GuessingRoom

namespace Operation

variable {α β : Type} {R : Books → Books → Prop}

/-- Every step of the operation leaves books in the relation to those it found. -/
def Along (R : Books → Books → Prop) (op : Operation α) : Prop :=
  Script.Along (fun s t : Service => R s.books t.books) op

/-! ## Operations put together -/

/-- An operation goes along a relation of services if what it is put together from does. -/
theorem steps_bind {S : Service → Service → Prop} {x : Operation α} {k : α → Operation β}
    (hx : Script.Along S x) (hk : ∀ a, Script.Along S (k a)) :
    Script.Along S (x >>= k : Operation β) := by
  apply Script.Along.bind hx
  intro result
  cases result with
  | error x => trivial
  | ok a => exact hk a

theorem Along.bind {x : Operation α} {k : α → Operation β} (hx : x.Along R)
    (hk : ∀ a, (k a).Along R) : (x >>= k : Operation β).Along R := steps_bind hx hk

theorem along_pure (a : α) : (pure a : Operation α).Along R := trivial

/-- A check before the rest either ends the operation or lets it go on. -/
theorem Along.check {p : Prop} [Decidable p] {x : GameError} {k : β → Operation α}
    {op : Operation α} (h : op.Along R) : (if p then throw x >>= k else op : Operation α).Along R := by
  split
  · trivial
  · exact h

theorem along_entryWith {e : RoomSettings → Entry α} (h : ∀ settings, (e settings).Along R) :
    (entryWith e).Along R := fun s => ⟨h s.settings s.books, trivial⟩

theorem along_entry {e : Entry α} (h : e.Along R) : (entry e).Along R := fun s => ⟨h s.books, trivial⟩

theorem along_look (c : IsCourse R) (f : Service → α) : (look f).Along R :=
  fun s => ⟨c.refl s.books, trivial⟩

theorem along_change (c : IsCourse R) {f : Service → Service} (h : ∀ s, (f s).books = s.books) :
    (change f).Along R := by
  refine fun s => ⟨?_, trivial⟩
  dsimp only
  rw [h]
  exact c.refl _

theorem Along.run {op : Operation α} (h : op.Along R) (c : IsCourse R) (s : Service) :
    R s.books (op.run s).2.books :=
  Script.Along.run (R := fun s t : Service => R s.books t.books) (fun s => c.refl s.books)
    c.trans h s

/-! ## Operations of the game -/

section Rooms

open Entry

variable (c : CarriesRooms R)
include c

theorem along_initGame (user : Id) : (initGame user).Along R := by
  refine .bind (along_entry (along_requireUser c.toIsCourse user)) fun u => ?_
  refine .bind (along_entry (along_drawWord c.toIsCourse)) fun word => ?_
  exact along_entry (.inUnit c.toIsCourse (along_openGame c u.id word))

theorem along_join (game user : Id) : (join game user).Along R := by
  refine .bind (along_entry (along_requireUser c.toIsCourse user)) fun u => ?_
  refine .bind (along_entry (along_requireGame c.toIsCourse game)) fun _ => ?_
  refine .bind (along_entryWith fun settings => ?_) fun _ => ?_
  · exact .inUnit c.toIsCourse (along_takeSeat c settings game u)
  · exact along_change c.toIsCourse fun _ => rfl

theorem along_kick (game user : Id) : (kick game user).Along R := by
  refine .bind (along_look c.toIsCourse _) fun connected => ?_
  split
  · trivial
  · refine .bind (along_entry (Entry.along_look c.toIsCourse _)) fun players => ?_
    split
    · trivial
    · rename_i p _
      split
      · trivial
      · refine .bind (along_entry (c.setState _ _ _)) fun _ => ?_
        exact .bind (along_change c.toIsCourse fun _ => rfl) fun _ => along_pure _

theorem along_view (game viewer : Id) : (view game viewer).Along R := by
  refine .bind (along_entry (along_requireGame c.toIsCourse game)) fun _ => ?_
  refine .bind (along_entry (Entry.along_look c.toIsCourse _)) fun players => ?_
  refine .check (.bind (along_entry (along_requireTurn c.toIsCourse game)) fun turn => ?_)
  refine .bind (along_entry (along_requireWord c.toIsCourse turn.wordId)) fun word => ?_
  refine .bind (along_entry (Entry.along_look c.toIsCourse _)) fun messages => ?_
  exact .bind (along_entry (Entry.along_look c.toIsCourse _)) fun scores => trivial

theorem along_ofEvent (event : Event) : (ofEvent event).Along R := by
  cases event with
  | nextTurn game =>
    refine .bind (along_entry (along_drawWord c.toIsCourse)) fun word => ?_
    exact .bind (along_entry (c.addTurn _ _)) fun _ => along_pure _
  | kick game user => exact .bind (along_kick c game user) fun _ => along_pure _

end Rooms

section Game

open Entry

variable (c : CarriesGames R)
include c

theorem along_say (game user : Id) (content : String) : (say game user content).Along R := by
  refine .bind (along_entry (along_requireUser c.toIsCourse user)) fun u => ?_
  refine .bind (along_entry (along_requireGame c.toIsCourse game)) fun _ => ?_
  refine .bind (along_entry (along_requireTurn c.toIsCourse game)) fun turn => ?_
  refine .bind (along_entry (along_requireWord c.toIsCourse turn.wordId)) fun word => ?_
  refine .bind (along_entry (Entry.along_look c.toIsCourse _)) fun active => ?_
  refine .check (.bind (along_entry (c.addMessage _ _ _ _)) fun m => ?_)
  exact .bind (along_change c.toIsCourse fun _ => rfl) fun _ => along_pure _

theorem along_guess (score : ∀ award, (addScore award).Along R) (game user : Id)
    (content : String) : (guess game user content).Along R := by
  refine .bind (along_entry (along_requireUser c.toIsCourse user)) fun u => ?_
  refine .bind (along_entry (along_requireGame c.toIsCourse game)) fun _ => ?_
  refine .bind (along_entry (along_requireTurn c.toIsCourse game)) fun turn => ?_
  refine .bind (along_entry (along_requireWord c.toIsCourse turn.wordId)) fun word => ?_
  refine .bind (along_entryWith fun settings =>
    .inUnit c.toIsCourse (along_judge c.toIsCourse c.addMessage score settings game turn word u
      content)) fun judged => ?_
  refine .bind (along_change c.toIsCourse fun _ => rfl) fun _ => ?_
  split
  · exact .bind (along_change c.toIsCourse fun _ => rfl) fun _ => along_pure _
  · exact along_pure _

/-- Of all requests only one for a user puts down users, and only a guess awards. -/
theorem along_request {request : Request} (opens : request = .initUser → initUser.Along R)
    (score : ∀ g u t, request = .guess g u t → ∀ award, (addScore award).Along R) :
    request.operation.Along R := by
  cases request with
  | initUser => exact .bind (opens rfl) fun _ => along_pure _
  | initGame user => exact .bind (along_initGame c.toCarriesRooms user) fun _ => along_pure _
  | join game user => exact .bind (along_join c.toCarriesRooms game user) fun _ => along_pure _
  | kick game user => exact .bind (along_kick c.toCarriesRooms game user) fun _ => along_pure _
  | guess game user content =>
    exact .bind (along_guess c (score game user content rfl) game user content) fun _ => along_pure _
  | say game user content => exact .bind (along_say c game user content) fun _ => along_pure _
  | view game viewer => exact .bind (along_view c.toCarriesRooms game viewer) fun _ => along_pure _
  | event e => exact .bind (along_ofEvent c.toCarriesRooms e) fun _ => along_pure _

end Game

section Requests

open Entry

variable (c : Carries R)
include c

theorem along_initUser : initUser.Along R := by
  refine .bind (along_entry (along_stamp c.toIsCourse)) fun stamp => ?_
  refine .bind (along_entry (along_choose c.toIsCourse _)) fun adjective => ?_
  refine .bind (along_entry (along_choose c.toIsCourse _)) fun animal => ?_
  refine .bind (along_entry (c.upsertUser _ _)) fun _ => ?_
  exact along_entry (along_requireUser c.toIsCourse _)

/-- Whatever is asked but a guess, which alone puts down awards. -/
theorem along_operation_of_ne {request : Request} (h : ∀ g u t, request ≠ .guess g u t) :
    request.operation.Along R :=
  along_request c.toCarriesGames (fun _ => along_initUser c) fun g u t e => absurd e (h g u t)

theorem along_operation (score : ∀ award, (addScore award).Along R) (request : Request) :
    request.operation.Along R :=
  along_request c.toCarriesGames (fun _ => along_initUser c) fun _ _ _ _ => score

end Requests

/-! ## In the midst of an operation -/

/-- What is left of an operation after an entry. -/
theorem after_entryWith {e : RoomSettings → Entry α} {k : α → Operation β} {s : Service}
    {found : List Service} : Script.after (entryWith e >>= k : Operation β) (s :: found) =
      match (e s.settings s.books).1 with
      | .ok a => Script.after (k a) found
      | .error x => .done (.error x) := by
  show Script.after (ExceptT.bindCont k (s.work (e s.settings)).1 : Operation β) found = _
  unfold Service.work
  rcases e s.settings s.books with ⟨x | a, b⟩
  · exact Script.after_done _ _
  · rfl

theorem after_entry {e : Entry α} {k : α → Operation β} {s : Service} {found : List Service} :
    Script.after (entry e >>= k : Operation β) (s :: found) =
      match (e s.books).1 with
      | .ok a => Script.after (k a) found
      | .error x => .done (.error x) :=
  after_entryWith (e := fun _ => e)

/-- To put the value of an operation in another form takes no step. -/
theorem after_map (f : α → β) (op : Operation α) (found : List Service) :
    Script.after (f <$> op : Operation β) found =
      (Script.after op found).bind fun r => .done (r.map f) := by
  have form : (f <$> op : Operation β) = Script.bind op fun r => .done (r.map f) := by
    refine congrArg (Script.bind op) (funext fun r => ?_)
    cases r <;> rfl
  rw [form]
  exact Script.after_bind_done op _ found

section Stepwise

variable {R : List Service → Service → Service → Prop} {found : List Service}

theorem stepwise_look {f : Service → α} {k : α → Operation β}
    (h : ∀ s, R found s s ∧ Script.Stepwise R (found ++ [s]) (k (f s))) :
    Script.Stepwise R found (look f >>= k : Operation β) := h

theorem stepwise_change {f : Service → Service} {k : Unit → Operation β}
    (h : ∀ s, R found s (f s) ∧ Script.Stepwise R (found ++ [s]) (k ())) :
    Script.Stepwise R found (change f >>= k : Operation β) := h

theorem stepwise_entry {e : Entry α} {k : α → Operation β}
    (h : ∀ s, R found s (s.work e).2 ∧ ∀ a, Script.Stepwise R (found ++ [s]) (k a)) :
    Script.Stepwise R found (entry e >>= k : Operation β) := by
  refine fun s => ⟨(h s).1, ?_⟩
  show Script.Stepwise R _ (ExceptT.bindCont k (s.work e).1 : Operation β)
  unfold Service.work
  rcases e s.books with ⟨x | a, b⟩
  · trivial
  · exact (h s).2 a

theorem stepwise_map {x : Operation α} (h : Script.Stepwise R found x) (f : α → β) :
    Script.Stepwise R found (x >>= fun a => pure (f a) : Operation β) :=
  h.bind_done fun r => by cases r <;> exact ⟨_, rfl⟩

end Stepwise

/-! ## In one go -/

/-- Run in one go, the operation ends with a result and a state for which the predicate holds. -/
def Ends (op : Operation α) (s : Service) (P : Except GameError α → Service → Prop) : Prop :=
  P (op.run s).1 (op.run s).2

section Ends

variable {s : Service} {P : Except GameError β → Service → Prop}

theorem run_bind (x : Operation α) (k : α → Operation β) (s : Service) :
    (x >>= k : Operation β).run s =
      (ExceptT.bindCont k (x.run s).1 : Operation β).run (x.run s).2 := Script.run_bind x _ s

/-- To put the value in another form changes nothing. -/
theorem run_map_snd (f : α → β) (op : Operation α) (s : Service) :
    ((f <$> op : Operation β).run s).2 = (op.run s).2 := by
  show ((op >>= fun a => pure (f a) : Operation β).run s).2 = _
  rw [run_bind]
  cases (op.run s).1 <;> rfl

theorem ends_bind {x : Operation α} {k : α → Operation β} :
    Ends (x >>= k) s P ↔ x.Ends s fun
      | .ok a, t => (k a).Ends t P
      | .error e, t => P (.error e) t := by
  unfold Ends
  rw [run_bind]
  cases (x.run s).1 <;> exact Iff.rfl

theorem ends_change {f : Service → Service} {k : Unit → Operation β} (h : (k ()).Ends (f s) P) :
    Ends (change f >>= k) s P := ends_bind.2 h

theorem ends_look {f : Service → α} {k : α → Operation β} (h : (k (f s)).Ends s P) :
    Ends (look f >>= k) s P := ends_bind.2 h

/-- A check with what comes after it. -/
theorem ends_check {p : Prop} [Decidable p] {x : GameError} {k : α → Operation β}
    {op : Operation β} (fails : P (.error x) s) (passes : ¬ p → op.Ends s P) :
    (if p then throw x >>= k else op : Operation β).Ends s P := by
  split
  · exact fails
  · rename_i h
    exact passes h

/-- An entry with what comes after it, by how the entry ends. -/
theorem ends_entryWith {e : RoomSettings → Entry α} {k : α → Operation β}
    (fails : ∀ x b, (e s.settings).Fails s.books x b → P (.error x) { s with books := b })
    (yields : ∀ a b, (e s.settings).Yields s.books a b → (k a).Ends { s with books := b } P) :
    Ends (entryWith e >>= k) s P := by
  rw [ends_bind]
  have run : (entryWith e).run s = s.work (e s.settings) := rfl
  unfold Ends
  rw [run, Service.work]
  rcases h : e s.settings s.books with ⟨x | a, b⟩
  · exact fails x b h
  · exact yields a b h

theorem ends_entry {e : Entry α} {k : α → Operation β}
    (fails : ∀ x b, e.Fails s.books x b → P (.error x) { s with books := b })
    (yields : ∀ a b, e.Yields s.books a b → (k a).Ends { s with books := b } P) :
    Ends (entry e >>= k) s P :=
  ends_entryWith (e := fun _ => e) fails yields

/-- An entry that leaves the books alone, with what comes after it. -/
theorem ends_looks {e : Entry α} {k : α → Operation β} (looks : e.Looks)
    (fails : ∀ x, P (.error x) s)
    (yields : ∀ a, e.Yields s.books a s.books → (k a).Ends s P) : Ends (entry e >>= k) s P := by
  refine ends_entry (fun x b h => ?_) fun a b h => ?_
  · have same : b = s.books := by rw [← looks s.books, h]
    rw [same]
    exact fails x
  · have same : b = s.books := by rw [← looks s.books, h]
    rw [same] at h ⊢
    exact yields a h

/-- An entry with nothing after it. -/
theorem ends_last {e : Entry β} (h : P (e s.books).1 { s with books := (e s.books).2 }) :
    (entry e).Ends s P := h

/-- The answer to a request says nothing about the state. -/
theorem Ends.map {x : Operation α} {f : α → β} {Q : Service → Prop} {s : Service}
    (h : x.Ends s fun _ t => Q t) : Ends (x >>= fun a => pure (f a)) s fun _ t => Q t := by
  rw [ends_bind]
  unfold Ends at h ⊢
  cases (x.run s).1 <;> exact h

end Ends

end Operation

end GuessingRoom
