import GuessingRoom.Proofs.Posts
import GuessingRoom.Proofs.RoomCapacity
import GuessingRoom.Proofs.Verdicts

/-!
# Guesses that are taken

A service whose books are well kept stays so in the course of its moments
(`Moment.Happens.wellKept`). On well-kept books nothing stands in the way of a guess of an active
player (`Operation.guess_succeeds`), right or wrong.
-/

namespace GuessingRoom

/-! ## Moments of a well-kept service -/

/-- Taken in a row, the steps of a script that serves leave a well-kept service with all rows. -/
theorem Script.Serves.run {α : Type} {P : α → Service → Prop} {x : Script Service α} {s : Service}
    (h : x.Serves P s) (kept : s.WellKept) : s.books.Extends (x.run s).2.books ∧
      (x.run s).2.WellKept ∧ P (x.run s).1 (x.run s).2 := by
  induction x generalizing s with
  | done a => exact ⟨.refl _, kept, h⟩
  | step effect next ih =>
    obtain ⟨further, kept', rest⟩ := h s (.refl _) kept
    obtain ⟨further', kept'', ends⟩ := ih s rest kept'
    exact ⟨further.trans further', kept'', ends⟩

namespace Service.WellKept

variable {s : Service}

theorem without (kept : s.WellKept) (j : Job) : (s.without j).WellKept where
  books := kept.books
  advances p hp := kept.advances p (((List.erase_sublist).filterMap _).subset hp)

theorem call (kept : s.WellKept) {r : Request} (asked : ∀ e, r ≠ .event e) :
    (r.operation.run s).2.WellKept :=
  ((Operation.serves_request fun _ e => absurd e (asked _)).run kept).2.1

end Service.WellKept

theorem Moment.Happens.wellKept {m : Moment} (h : m.Happens) (kept : m.before.WellKept) :
    m.after.WellKept := by
  obtain ⟨s, deed, t⟩ := m
  cases deed with
  | call r =>
    have after : t = (r.operation.run s).2 := h.2
    rw [after]
    exact kept.call h.1
  | due time e =>
    obtain ⟨-, mem, -, -, after⟩ := h
    have after : t = ((Operation.ofEvent e).run (s.without (.timer time e))).2 := after
    rw [after]
    have kept' := kept.without (.timer time e)
    cases e with
    | nextTurn game =>
      have there : game ∈ s.books.ledger.games :=
        kept.advances (time, game) (Service.mem_advances.2 mem)
      have serves := Operation.serves_nextTurn (s := s.without (.timer time (.nextTurn game))) there
      exact (serves.run kept').2.1
    | kick game user => exact ((Operation.serves_kick game user).map.run kept').2.1
  | elsewhere =>
    have h : s.Elsewhere t := h
    refine ⟨?_, ?_⟩
    · rw [h.books]
      exact kept.books
    · rw [h.books, h.advances]
      exact kept.advances

/-! ## Guesses of active players -/

theorem Books.WellKept.seating {b : Books} (kept : b.WellKept) : b.Seating where
  holds := kept.healthy.holds
  settled := ⟨kept.wellFormed.seats, kept.wellFormed.one_seat⟩
  games_drawn := kept.keyed.games_drawn

namespace Entry

variable {α : Type} {b b' : Books}

theorem Looks.yields {e : Entry α} (looks : e.Looks) {a : α} (h : (e b).1 = .ok a) :
    e.Yields b a b := Prod.ext h (looks b)

theorem not_fails_look {query : Store → Except Failure α} {a : α} {x : GameError}
    (h : query b.store = .ok a) : ¬ (look query).Fails b x b' := by
  unfold Fails look
  rw [h]
  rintro ⟨⟩

/-- Only the store can fail under the guess of an active player. -/
theorem judge_fails {settings : RoomSettings} {game : Id} {turn : Turn} {word : Word} {u : User}
    {content : String} {x : GameError} {active : List Player}
    (read : b.store.activePlayers game = .ok active) (seated : u.id ∈ active.map (·.id))
    (h : (judge settings game turn word u content).Fails b x b') : ∃ f, x = .persistence f := by
  obtain f | ⟨active', _, asked, h⟩ := fails_bind.1 h
  · exact absurd f (not_fails_look read)
  obtain ⟨read', rfl⟩ := yields_look.1 asked
  obtain rfl := Except.ok.inj (read.symm.trans read')
  rw [if_neg (by simpa using seated)] at h
  obtain f | ⟨m, b₁, -, h⟩ := fails_bind.1 h
  · exact (fails_stamped f).2
  split at h
  · cases h
  obtain f | ⟨scores, b₂, -, h⟩ := fails_bind.1 h
  · unfold Fails look at f
    split at f <;> cases f
    exact ⟨_, rfl⟩
  obtain f | ⟨verdict, b₃, -, h⟩ := fails_bind.1 h
  · unfold award at f
    split at f
    · cases f
    · obtain f | ⟨_, b₄, -, f⟩ := fails_bind.1 f
      · exact (fails_stamped f).2
      · cases f
  · cases h

end Entry

namespace Operation

open Entry

/-- On well-kept books the guess of an active player is taken. -/
theorem guess_succeeds {s : Service} (kept : s.books.WellKept) {game user : Id} {turn : Turn}
    {word : Word} {active : List Player} (latest : s.books.store.latestTurn game = .ok (some turn))
    (found : s.books.store.findWord turn.wordId = some word)
    (read : s.books.store.activePlayers game = .ok active) (seated : user ∈ active.map (·.id))
    (content : String) : ∃ post, ((guess game user content).run s).1 = .ok post := by
  have present : active.any (·.id == user) = true := by simpa using seated
  obtain ⟨seat, mem, rfl, rfl⟩ := hasSeat_of_active kept read present
  have ⟨there, known⟩ := kept.wellFormed.seats seat mem
  obtain ⟨u, its, asked⟩ := requireUser_of_mem kept.seating known
  obtain ⟨g, opened⟩ := requireGame_of_mem kept.seating there
  obtain ⟨begun, here⟩ := Store.mem_rounds_of_latestTurn latest
  unfold guess
  rw [run_entry_bind ((looks_requireUser _).yields asked),
    run_entry_bind ((looks_requireGame _).yields opened),
    run_entry_bind (yields_requireTurn.2 ⟨latest, rfl⟩),
    run_entry_bind (yields_requireWord.2 ⟨found, rfl⟩)]
  -- only the unit of work might fail now, and then the store would
  refine ends_entryWith (P := fun r _ => ∃ post, r = .ok post) (fun x b f => ?_)
    fun ⟨m, verdict⟩ b y => ?_
  · obtain ⟨after, f, -⟩ := fails_inUnit.1 f
    have fine := fine_judge kept s.settings content ⟨_, begun, rfl, here⟩ x after f
    obtain ⟨failure, rfl⟩ := judge_fails read (its ▸ seated) f
    cases fine
  · refine ends_change ?_
    split
    · exact ends_change ⟨_, rfl⟩
    · exact ⟨_, rfl⟩

end Operation

end GuessingRoom
