import GuessingRoom.Proofs.RoomCapacity

/-!
# Awards

Awards are put down by guesses alone, one at a time. In one step of whatever is asked of the service
either all awards stay as they are, or the step belongs to a guess and adds the award that its
player has earned (`Books.AwardChange`). So it is with every move of calls side by side
(`Service.award_change_of_move`).
-/

namespace GuessingRoom

/-! ## Points -/

namespace Board

theorem signed64_of_lt {n : Nat} (h : n < 2 ^ 63) : signed64 n = n := by
  unfold signed64
  exact Int.bmod_eq_of_le (by omega) (by omega)

end Board

namespace Ledger

variable (l : Ledger) (active : List Player) (game guesser turn : Id)

/-- The guesser counts as one who has found the word. -/
theorem one_le_foundCount : 1 ≤ l.foundCount active game guesser turn := Nat.le_add_right 1 _

/-- No more have found the word than are active, if the guesser is one of these. -/
theorem foundCount_le {active : List Player} (seated : guesser ∈ active.map (·.id)) :
    l.foundCount active game guesser turn ≤ active.length := by
  obtain ⟨p, mem, own⟩ := List.mem_map.1 seated
  have others := List.length_filter_lt_length_iff_exists (l := active)
    (p := fun p => p.id != guesser && l.hasFound game p.id turn) |>.2 ⟨p, mem, by simp [own]⟩
  unfold foundCount
  omega

end Ledger

/-! ## Work on the books -/

namespace Books

open Entry

/-- The awards are the same in the second books as in the first ones. -/
def SameAwards (b b' : Books) : Prop := b'.ledger.awards = b.ledger.awards

namespace SameAwards

theorem isCourse : IsCourse SameAwards where
  refl _ := rfl
  trans h h' := Eq.trans h' h
  draw _ := rfl
  commit b after h := by
    unfold SameAwards
    rw [ledger_committed]
    exact h
  abandon b after _ := by
    unfold SameAwards
    rw [ledger_abandoned]

theorem carries : Carries SameAwards where
  toIsCourse := isCourse
  upsertUser id nickname := by
    apply along_stamped isCourse
    intro b u b' h
    obtain ⟨store, rfl, users, -, -, e⟩ := upsertUser_yields h
    exact (congrArg Ledger.awards e :)
  createGame := by
    apply along_stamped isCourse
    intro b game b' h
    obtain ⟨-, store, rfl, e⟩ := createGame_yields h
    exact (congrArg Ledger.awards e :)
  addPlayer game user := by
    apply along_stamped isCourse
    intro b u b' h
    obtain ⟨-, store, rfl, e⟩ := addPlayer_yields h
    exact (congrArg Ledger.awards e :)
  setState game user state := by
    apply along_write isCourse
    intro b u b' h
    obtain ⟨store, rfl, e⟩ := setState_yields h
    exact (congrArg Ledger.awards e :)
  addTurn game word := by
    apply along_stamped isCourse
    intro b turn b' h
    obtain ⟨-, store, rfl, e⟩ := addTurn_yields h
    exact (congrArg Ledger.awards e :)
  addMessage game turn player content := by
    apply along_stamped isCourse
    intro b message b' h
    obtain ⟨-, store, rfl, e⟩ := addMessage_yields h
    exact (congrArg Ledger.awards e :)

end SameAwards

/-- The award is what its player has earned with a first right guess among the active players. -/
structure Earned (basePoints : Int) (b : Books) (active : List Player) (a : Award) : Prop where
  read : b.store.activePlayers a.gameId = .ok active
  seated : a.playerId ∈ active.map (·.id)
  first : b.ledger.hasFound a.gameId a.playerId a.turnId = false
  worth : a.points = Board.guessPoints basePoints active.length
    (b.ledger.foundCount active a.gameId a.playerId a.turnId)

/-- What becomes of the awards in one step, given whose guesses the step may judge. -/
inductive AwardChange (guesses : Id → Id → Prop) (basePoints : Int) (b b' : Books) : Prop where
  | stay (awards : b'.ledger.awards = b.ledger.awards)
  | scores (a : Award) (active : List Player) (asked : guesses a.gameId a.playerId)
      (earned : Earned basePoints b active a) (awards : b'.ledger.awards = b.ledger.awards ++ [a])

namespace AwardChange

variable {guesses : Id → Id → Prop} {basePoints : Int}

theorem along_judge (settings : RoomSettings) {game : Id} (turn : Turn) (word : Word) {u : User}
    (content : String) (asked : guesses game u.id) :
    (inUnit (judge settings game turn word u content)).Along
      (AwardChange guesses settings.basePoints) := by
  refine along_of (fun b judged b' y => ?_) fun b x b' f => ?_
  · obtain ⟨m, verdict⟩ := judged
    obtain ⟨after, whole, rfl⟩ := yields_inUnit.1 y
    obtain ⟨line, active, read, seated, store, drawn, rfl, -, judged⟩ := judge_yields whole
    have ledger : (committed b { b with store, drawn }).ledger = store.ledger :=
      ledger_committed _ _
    rw [line] at judged
    generalize stored : store.ledger = l' at judged
    cases judged with
    | miss => exact .stay (by rw [ledger, stored])
    | again => exact .stay (by rw [ledger, stored])
    | scored points turnOver same open_ worth ends =>
      refine .scores ⟨game, turn.id, u.id, b.freshId, points⟩ active asked
        ⟨read, by simpa using seated, open_, worth⟩ ?_
      rw [ledger, stored]
  · exact .stay (congrArg Ledger.awards (unchanged_of_fails_inUnit f))

end AwardChange

end Books

/-! ## Steps of operations -/

namespace Operation

open Entry Books

variable {α β : Type} {guesses : Id → Id → Prop}

/-- Every step of the operation keeps all awards or adds one that was earned. -/
def Awards (guesses : Id → Id → Prop) (op : Operation α) : Prop :=
  Script.Along (fun s t : Service => s.books.AwardChange guesses s.settings.basePoints t.books) op

theorem awards_of_same {op : Operation α} (h : op.Along SameAwards) : op.Awards guesses :=
  Script.Along.mono h fun _ _ => .stay

theorem Awards.bind {x : Operation α} {k : α → Operation β} (hx : x.Awards guesses)
    (hk : ∀ a, (k a).Awards guesses) : (x >>= k : Operation β).Awards guesses := steps_bind hx hk

/-- An entry that awards nothing, with what comes after it. -/
theorem awards_entry {e : Entry α} {k : α → Operation β} (same : e.Along SameAwards)
    (rest : ∀ b a b', e.Yields b a b' → (k a).Awards guesses) :
    (entry e >>= k).Awards guesses := by
  refine fun s => ⟨.stay (same s.books), ?_⟩
  show Script.Along _ (ExceptT.bindCont k (s.work e).1 : Operation β)
  unfold Service.work
  obtain ⟨a, y⟩ | ⟨x, f⟩ := e.yields_or_fails s.books
  · rw [y]
    exact rest s.books a _ y
  · rw [f]
    trivial

theorem awards_guess {game user : Id} (content : String) (asked : guesses game user) :
    (guess game user content).Awards guesses := by
  have c := SameAwards.isCourse
  refine awards_entry (along_requireUser c user) fun b u b' y => ?_
  obtain rfl := (Store.id_of_findUser (yields_requireUser.1 y).1).1
  refine .bind (awards_of_same (along_entry (along_requireGame c game))) fun _ => ?_
  refine .bind (awards_of_same (along_entry (along_requireTurn c game))) fun turn => ?_
  refine .bind (awards_of_same (along_entry (along_requireWord c turn.wordId))) fun word => ?_
  refine .bind (fun s => ⟨AwardChange.along_judge _ _ _ _ asked _, trivial⟩) fun judged => ?_
  refine .bind (awards_of_same (along_change c fun _ => rfl)) fun _ => ?_
  split
  · exact .bind (awards_of_same (along_change c fun _ => rfl)) fun _ => trivial
  · trivial

end Operation

/-- Whose guess in which game the request is. -/
def Request.Guesses : Request → Id → Id → Prop
  | .guess game user _, g, u => g = game ∧ u = user
  | _, _, _ => False

theorem Request.sameAwards {r : Request} (other : ∀ g u t, r ≠ .guess g u t) :
    r.operation.Along Books.SameAwards :=
  Operation.along_operation_of_ne Books.SameAwards.carries other

theorem Request.awards (r : Request) : r.operation.Awards r.Guesses := by
  by_cases other : ∀ g u t, r ≠ .guess g u t
  · exact Operation.awards_of_same (sameAwards other)
  · push Not at other
    obtain ⟨game, user, content, rfl⟩ := other
    exact .bind (Operation.awards_guess content ⟨rfl, rfl⟩) fun _ => trivial

namespace Call

/-- Whose guess in which game the call is. -/
def Guesses : Call → Id → Id → Prop
  | request r => r.Guesses
  | _ => fun _ _ => False

theorem awards (c : Call) : c.operation.Awards c.Guesses := by
  have rooms := Books.SameAwards.carries.toCarriesRooms
  have form {α β : Type} {guesses : Id → Id → Prop} {op : Operation α} (h : op.Awards guesses)
      (f : α → β) : (f <$> op).Awards guesses := .bind h fun _ => trivial
  have looks (game viewer : Id) {guesses : Id → Id → Prop} :
      (Operation.view game viewer).Awards guesses :=
    Operation.awards_of_same (Operation.along_view rooms game viewer)
  cases c with
  | request r => exact form r.awards _
  | leaderboard game viewer => exact form (form (looks game viewer) _) _
  | word game viewer => exact form (form (looks game viewer) _) _

end Call

/-! ## Moves -/

namespace Service

/-- No move touches the settings. -/
theorem settings_play (s : Service) (moves : List (Interleaving.Move Service Call IsApart)) :
    ((⟨s, []⟩ : Calls).play Call.operation moves).state.settings = s.settings :=
  Interleaving.along_play (R := fun s t : Service => t.settings = s.settings) (fun _ => rfl)
    (fun h h' => h'.trans h) (fun c => c.strides.mono fun _ _ => Stride.settings)
    (fun _ apart t => (apart t).2) s [] moves

/-- A move of calls side by side keeps all awards, or it is the step of a guess and adds the award
that its player has earned. -/
theorem award_change_of_move {w : Calls} {inv : Service → Prop} {rely : Service → Service → Prop}
    (traced : Interleaving.Traced Call.operation inv rely w)
    (m : Interleaving.Move Service Call IsApart) :
    (w.move Call.operation m).state.books.ledger.awards = w.state.books.ledger.awards ∨
      ∃ i e a active, m = .step i ∧ w.errands[i]? = some e ∧ e.task.Guesses a.gameId a.playerId ∧
        w.state.books.Earned w.state.settings.basePoints active a ∧
        (w.move Call.operation m).state.books.ledger.awards =
          w.state.books.ledger.awards ++ [a] := by
  obtain same | ⟨i, e, rfl, here, change⟩ | ⟨change, apart, rfl, same⟩ :=
    traced.state_move Call.awards m
  · rw [same]
    exact .inl rfl
  · cases change with
    | stay awards => exact .inl awards
    | scores a active asked earned awards =>
      exact .inr ⟨i, e, a, active, rfl, here, asked, earned, awards⟩
  · rw [same, (apart _).1]
    exact .inl rfl

end Service

end GuessingRoom
