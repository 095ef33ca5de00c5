import GuessingRoom.Proofs.Effects
import GuessingRoom.Proofs.Rows

/-!
# Requests that fail

A request can fail at any of its looks and writes. Whatever the rows hold, and wherever the request
fails, no row is left different, no notice is queued and no turn is scheduled. It may have used up
draws, and a unit that was given up may have been counted (`Service.Untouched`).

To open a session is not among these requests: its user is put down first and looked up afterwards.
-/

namespace GuessingRoom

namespace Service

/-- From the first state to the second one, no row and nothing but the books has changed. -/
structure Untouched (s t : Service) : Prop where
  rows : t.books.store.rows = s.books.store.rows
  others : t = { s with books := t.books }

variable {s t : Service}

theorem Untouched.refl (s : Service) : s.Untouched s := ⟨rfl, rfl⟩

/-- Entries that leave the rows as they are may go on. -/
theorem Untouched.books (h : s.Untouched t) {b : Books} (rows : b.store.rows = t.books.store.rows) :
    s.Untouched { t with books := b } := by
  refine ⟨rows.trans h.rows, ?_⟩
  rw [h.others]

end Service

namespace Entry

variable {α : Type} {b b' : Books}

theorem rows_of_fails_write {change : Store → Except Failure (α × Store)} {x : GameError}
    (h : (write change).Fails b x b') : b'.store.rows = b.store.rows := by
  rw [(fails_write h).1]

theorem rows_of_fails_stamped {change : Stamp → Store → Except Failure (α × Store)} {x : GameError}
    (h : (stamp >>= fun s => write (change s)).Fails b x b') : b'.store.rows = b.store.rows := by
  rw [(fails_stamped h).1]

/-- A unit that fails is given up, whatever was written in it. -/
theorem rows_of_fails_inUnit {e : Entry α} {x : GameError} (h : (inUnit e).Fails b x b') :
    b'.store.rows = b.store.rows := by
  obtain ⟨after, -, rfl⟩ := fails_inUnit.1 h
  exact WorkUnit.rows_abandon _

end Entry

/-! ## Operations -/

namespace Operation

variable {α β : Type} {s t : Service}

/-- Begun in the second state, the operation leaves the first one untouched if it fails. -/
def LeavesNoTrace (op : Operation α) (s t : Service) : Prop :=
  op.Ends t fun result after => ∀ x, result = .error x → s.Untouched after

theorem leavesNoTrace_pure (a : α) : (pure a : Operation α).LeavesNoTrace s t := by
  rintro x ⟨⟩

theorem leavesNoTrace_check (h : s.Untouched t) {p : Prop} [Decidable p] {x : GameError}
    {k : α → Operation β} {op : Operation β} (passes : op.LeavesNoTrace s t) :
    (if p then throw x >>= k else op : Operation β).LeavesNoTrace s t :=
  ends_check (fun _ _ => h) fun _ => passes

/-- A look leaves everything as it is, and what comes after it begins in the same state. -/
theorem leavesNoTrace_looks (h : s.Untouched t) {e : Entry α} (looks : e.Looks)
    {k : α → Operation β} (rest : ∀ a, (k a).LeavesNoTrace s t) :
    (entry e >>= k).LeavesNoTrace s t :=
  ends_looks looks (fun _ _ _ => h) fun a _ => rest a

/-- Work after which nothing can fail has only its own failure to answer for. -/
theorem leavesNoTrace_entryWith (h : s.Untouched t) {e : RoomSettings → Entry α}
    {k : α → Operation β}
    (fails : ∀ x b, (e t.settings).Fails t.books x b → b.store.rows = t.books.store.rows)
    (rest : ∀ a u, (k a).LeavesNoTrace s u) : (entryWith e >>= k).LeavesNoTrace s t :=
  ends_entryWith (fun x b f _ _ => h.books (fails x b f)) fun a _ _ => rest a _

theorem leavesNoTrace_entry (h : s.Untouched t) {e : Entry α} {k : α → Operation β}
    (fails : ∀ x b, e.Fails t.books x b → b.store.rows = t.books.store.rows)
    (rest : ∀ a u, (k a).LeavesNoTrace s u) : (entry e >>= k).LeavesNoTrace s t :=
  leavesNoTrace_entryWith h (e := fun _ => e) fails rest

theorem leavesNoTrace_last (h : s.Untouched t) {e : Entry α}
    (fails : ∀ x b, e.Fails t.books x b → b.store.rows = t.books.store.rows) :
    (entry e).LeavesNoTrace s t := by
  apply ends_last
  intro x failed
  exact h.books (fails x _ (Prod.ext failed rfl))

/-- What an operation leaves to the background cannot fail. -/
theorem leavesNoTrace_change {f : Service → Service} {k : Unit → Operation β}
    (rest : ∀ u, (k ()).LeavesNoTrace s u) : (change f >>= k).LeavesNoTrace s t :=
  ends_change (rest _)

theorem leavesNoTrace_map {x : Operation α} (f : α → β) (h : x.LeavesNoTrace s t) :
    (x >>= fun a => pure (f a)).LeavesNoTrace s t := by
  unfold LeavesNoTrace at h ⊢
  rw [ends_bind]
  unfold Ends at h ⊢
  cases result : (x.run t).1 with
  | ok a => rintro x ⟨⟩
  | error e => exact fun _ _ => h e result

open Entry

/-- To draw a word uses up a draw, and nothing else. -/
theorem leavesNoTrace_drawWord (h : s.Untouched t) {k : Word → Operation β}
    (rest : ∀ word u, s.Untouched u → (k word).LeavesNoTrace s u) :
    (entry drawWord >>= k).LeavesNoTrace s t := by
  refine ends_entry (fun x b f _ _ => ?_) fun word b y => ?_
  · exact h.books (by rw [(drawWord_fails f).2])
  · obtain ⟨-, rfl⟩ := drawWord_yields y
    exact rest word _ (h.books rfl)

theorem initGame_leavesNoTrace (user : Id) (s : Service) : (initGame user).LeavesNoTrace s s := by
  refine leavesNoTrace_looks (.refl s) (looks_requireUser user) fun u => ?_
  refine leavesNoTrace_drawWord (.refl s) fun word t drawn => ?_
  exact leavesNoTrace_last drawn fun _ _ => rows_of_fails_inUnit

theorem join_leavesNoTrace (game user : Id) (s : Service) : (join game user).LeavesNoTrace s s := by
  refine leavesNoTrace_looks (.refl s) (looks_requireUser user) fun u => ?_
  refine leavesNoTrace_looks (.refl s) (looks_requireGame game) fun _ => ?_
  refine leavesNoTrace_entryWith (.refl s) (fun _ _ => rows_of_fails_inUnit) fun _ t => ?_
  rintro x ⟨⟩

theorem kick_leavesNoTrace (game user : Id) (s : Service) : (kick game user).LeavesNoTrace s s := by
  apply ends_look
  split
  · exact leavesNoTrace_pure _
  · refine leavesNoTrace_looks (.refl s) (looks_look _) fun players => ?_
    split
    · exact fun _ _ => .refl s
    · split
      · exact leavesNoTrace_pure _
      · refine leavesNoTrace_entry (.refl s) (fun _ _ => rows_of_fails_write) fun _ t => ?_
        exact leavesNoTrace_change fun _ => leavesNoTrace_pure _

theorem guess_leavesNoTrace (game user : Id) (content : String) (s : Service) :
    (guess game user content).LeavesNoTrace s s := by
  refine leavesNoTrace_looks (.refl s) (looks_requireUser user) fun u => ?_
  refine leavesNoTrace_looks (.refl s) (looks_requireGame game) fun _ => ?_
  refine leavesNoTrace_looks (.refl s) (looks_requireTurn game) fun turn => ?_
  refine leavesNoTrace_looks (.refl s) (looks_requireWord _) fun word => ?_
  refine leavesNoTrace_entryWith (.refl s) (fun _ _ => rows_of_fails_inUnit) fun judged t => ?_
  refine leavesNoTrace_change fun _ => ?_
  split
  · exact leavesNoTrace_change fun _ => leavesNoTrace_pure _
  · exact leavesNoTrace_pure _

theorem say_leavesNoTrace (game user : Id) (content : String) (s : Service) :
    (say game user content).LeavesNoTrace s s := by
  refine leavesNoTrace_looks (.refl s) (looks_requireUser user) fun u => ?_
  refine leavesNoTrace_looks (.refl s) (looks_requireGame game) fun _ => ?_
  refine leavesNoTrace_looks (.refl s) (looks_requireTurn game) fun turn => ?_
  refine leavesNoTrace_looks (.refl s) (looks_requireWord _) fun word => ?_
  refine leavesNoTrace_looks (.refl s) (looks_look _) fun active => ?_
  refine leavesNoTrace_check (.refl s) ?_
  refine leavesNoTrace_entry (.refl s) (fun _ _ => rows_of_fails_stamped) fun message t => ?_
  exact leavesNoTrace_change fun _ => leavesNoTrace_pure _

theorem view_leavesNoTrace (game viewer : Id) (s : Service) :
    (view game viewer).LeavesNoTrace s s := by
  refine leavesNoTrace_looks (.refl s) (looks_requireGame game) fun _ => ?_
  refine leavesNoTrace_looks (.refl s) (looks_look _) fun players => ?_
  refine leavesNoTrace_check (.refl s) ?_
  refine leavesNoTrace_looks (.refl s) (looks_requireTurn game) fun turn => ?_
  refine leavesNoTrace_looks (.refl s) (looks_requireWord _) fun word => ?_
  refine leavesNoTrace_looks (.refl s) (looks_look _) fun messages => ?_
  exact leavesNoTrace_looks (.refl s) (looks_look _) fun scores => fun _ _ => .refl s

theorem nextTurn_leavesNoTrace (game : Id) (s : Service) : (nextTurn game).LeavesNoTrace s s := by
  refine leavesNoTrace_drawWord (.refl s) fun word t drawn => ?_
  exact leavesNoTrace_entry drawn (fun _ _ => rows_of_fails_stamped) fun _ _ => leavesNoTrace_pure _

theorem request_leavesNoTrace {r : Request} (asked : r ≠ .initUser) (s : Service) :
    r.operation.LeavesNoTrace s s := by
  cases r with
  | initUser => exact absurd rfl asked
  | initGame user => exact leavesNoTrace_map _ (initGame_leavesNoTrace user s)
  | join game user => exact leavesNoTrace_map _ (join_leavesNoTrace game user s)
  | kick game user => exact leavesNoTrace_map _ (kick_leavesNoTrace game user s)
  | guess game user content => exact leavesNoTrace_map _ (guess_leavesNoTrace game user content s)
  | say game user content => exact leavesNoTrace_map _ (say_leavesNoTrace game user content s)
  | view game viewer => exact leavesNoTrace_map _ (view_leavesNoTrace game viewer s)
  | event e =>
    cases e with
    | nextTurn game => exact leavesNoTrace_map _ (nextTurn_leavesNoTrace game s)
    | kick game user => exact leavesNoTrace_map _ (leavesNoTrace_map _ (kick_leavesNoTrace game user s))

end Operation

/-- A request that fails leaves all rows as they were, queues no notice and schedules nothing. -/
theorem failed_request_leaves_no_trace (s : Service) (r : Request) (asked : r ≠ .initUser)
    (x : GameError) (failed : (r.operation.run s).1 = .error x) :
    (r.operation.run s).2.books.store.rows = s.books.store.rows ∧
      (r.operation.run s).2.queue = s.queue ∧ (r.operation.run s).2.jobs = s.jobs := by
  have untouched := Operation.request_leavesNoTrace asked s x failed
  refine ⟨untouched.rows, ?_, ?_⟩ <;> rw [untouched.others]

/-- A room in memory, where scores are refused. -/
def Service.refusing : Service :=
  let s : Service :=
    { settings := {}
      books := {
        store := .memory { words := [⟨"w", "apple", "🍎"⟩], refusesScores := true }
        supply := .counting } }
  ((Request.initGame "|").operation.run (Request.initUser.operation.run s).2).2

/-- A room in relational tables, with a score whose time cannot be read. -/
def Service.corrupted : Service :=
  let time := (Supply.counting.time 0).stored
  { settings := {}
    books := {
      store := .relational {
        users := [⟨"u", "SillyCat", time, time⟩]
        games := [⟨"g", time, time⟩]
        members := [⟨"g", "u", "active", time⟩]
        words := [⟨"w", "apple", "🍎"⟩]
        turns := [⟨"t", "g", "w", time⟩]
        messages := [⟨"m", "g", "t", "u", "Apple", time⟩]
        scores := [⟨"g", "t", "u", "m", .whole 10, "yesterday"⟩] }
      supply := .counting } }

/-- In both rooms a guess that is the word fails after it was put down. -/
theorem failed_guesses_leave_no_trace :
    ((Request.guess "||||||" "|" "apple").operation.run Service.refusing).1 =
        .error (.persistence .scoresRefused) ∧
      ((Request.guess "g" "u" "apple").operation.run Service.corrupted).1 =
        .error (.persistence (.corruptTime "yesterday" .tooShort)) ∧
      ((Request.guess "||||||" "|" "apple").operation.run Service.refusing).2.books.store.rows =
        Service.refusing.books.store.rows ∧
      ((Request.guess "g" "u" "apple").operation.run Service.corrupted).2.books.store.rows =
        Service.corrupted.books.store.rows := by
  have refused : ((Request.guess "||||||" "|" "apple").operation.run Service.refusing).1 =
      .error (.persistence .scoresRefused) := by decide +kernel
  have unread : ((Request.guess "g" "u" "apple").operation.run Service.corrupted).1 =
      .error (.persistence (.corruptTime "yesterday" .tooShort)) := by decide +kernel
  exact ⟨refused, unread, (failed_request_leaves_no_trace _ _ (by decide) _ refused).1,
    (failed_request_leaves_no_trace _ _ (by decide) _ unread).1⟩

end GuessingRoom
