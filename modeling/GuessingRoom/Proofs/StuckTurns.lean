import GuessingRoom.Proofs.Rooms

/-!
# Turns that are stuck

Viewers are shown that a turn has ended when all who are seated have found the word, whereas the next
turn is scheduled by a guess alone. The two part when the last user who lacks the word leaves the
others behind, and when somebody who has found the word comes back to an empty room. Unless this
happens, games go on whenever their turn is shown to have ended; no other step of a room can part the
two (`RoomStep.strands_iff`).
-/

namespace GuessingRoom

/-! ## Rooms where all have found the word -/

namespace Ledger

variable {l l' : Ledger} {game : Id}

/-- Somebody is seated, and nobody of those lacks the word. -/
def IsComplete (l : Ledger) (game : Id) : Prop := l.seated game ≠ [] ∧ l.lacking game = []

/-- The only user who lacks the word leaves others behind. -/
def LastLeaves (game : Id) (l l' : Ledger) : Prop :=
  ∃ user, l.lacking game = [user] ∧ user ∉ l'.seated game ∧ l'.seated game ≠ []

/-- A user who has found the word comes back to an empty room. -/
def FinderReturns (game : Id) (l l' : Ledger) : Prop :=
  ∃ user, l.seated game = [] ∧ user ∈ l'.seated game ∧ user ∉ l'.lacking game

/-- The room becomes complete though nobody finds the word. -/
def Strands (game : Id) (l l' : Ledger) : Prop := LastLeaves game l l' ∨ FinderReturns game l l'

theorem isComplete_iff :
    l.IsComplete game ↔ (∃ u, u ∈ l.seated game) ∧ ∀ u ∈ l.seated game, l.Found game u := by
  rw [IsComplete, lacking_eq_nil_iff]
  exact and_congr_left' ⟨List.exists_mem_of_ne_nil _, fun ⟨_, mem⟩ => List.ne_nil_of_mem mem⟩

/-- Nobody has left, and nobody has come to an empty room. -/
theorem not_strands_of_subset (stay : ∀ u ∈ l.seated game, u ∈ l'.seated game)
    (occupied : l'.seated game ≠ [] → l.seated game ≠ []) : ¬ Strands game l l' := by
  rintro (⟨user, lacks, gone, -⟩ | ⟨user, empty, back, -⟩)
  · have mem : user ∈ l.lacking game := lacks ▸ List.mem_singleton_self _
    exact gone (stay user (mem_lacking.1 mem).1)
  · exact occupied (List.ne_nil_of_mem back) empty

theorem not_strands_of_seated (seated : l'.seated game = l.seated game) : ¬ Strands game l l' :=
  not_strands_of_subset (fun _ mem => seated ▸ mem) fun occupied => seated ▸ occupied

end Ledger

namespace RoomStep

open Ledger

variable {id : Nat → Id} {drawn : Nat} {game : Id} {l l' : Ledger} {ended : Bool}

/-- Whoever takes a seat completes a room only if it was empty. -/
theorem strands_of_enters {user : Id} (open_ : ¬ l.IsComplete game)
    (seated : ∀ u, u ∈ l'.seated game ↔ u ∈ l.seated game ∨ u = user)
    (found : ∀ u, l'.Found game u ↔ l.Found game u) : l'.IsComplete game ↔ Strands game l l' := by
  rw [isComplete_iff] at open_ ⊢
  constructor
  · rintro ⟨-, all⟩
    have empty : l.seated game = [] := by
      by_contra occupied
      refine open_ ⟨List.exists_mem_of_ne_nil _ occupied, fun u mem => ?_⟩
      exact (found u).1 (all u ((seated u).2 (.inl mem)))
    have back := (seated user).2 (.inr rfl)
    exact .inr ⟨user, empty, back, fun lacks => (mem_lacking.1 lacks).2 (all user back)⟩
  · rintro (⟨u, lacks, gone, -⟩ | ⟨u, empty, back, finds⟩)
    · have mem : u ∈ l.lacking game := lacks ▸ List.mem_singleton_self _
      exact absurd ((seated u).2 (.inl (mem_lacking.1 mem).1)) gone
    · have alone : ∀ v ∈ l'.seated game, v = user := fun v mem =>
        ((seated v).1 mem).resolve_left (empty ▸ List.not_mem_nil)
      refine ⟨⟨u, back⟩, fun v mem => ?_⟩
      rw [alone v mem, ← alone u back]
      by_contra lacks
      exact finds (mem_lacking.2 ⟨back, lacks⟩)

/-- Whoever leaves completes a room only if nobody else lacks the word. -/
theorem strands_of_leaves (orderly : l.Orderly id drawn) {user : Id} (open_ : ¬ l.IsComplete game)
    (was : user ∈ l.seated game)
    (seated : ∀ u, u ∈ l'.seated game ↔ u ∈ l.seated game ∧ u ≠ user)
    (found : ∀ u, l'.Found game u ↔ l.Found game u) : l'.IsComplete game ↔ Strands game l l' := by
  have gone : user ∉ l'.seated game := fun mem => ((seated user).1 mem).2 rfl
  rw [isComplete_iff] at open_ ⊢
  constructor
  · rintro ⟨⟨v, mem⟩, all⟩
    have others : ∀ u ∈ l.seated game, u ≠ user → l.Found game u := fun u hu other =>
      (found u).1 (all u ((seated u).2 ⟨hu, other⟩))
    have lacks : ¬ l.Found game user := by
      intro finds
      refine open_ ⟨⟨user, was⟩, fun u hu => ?_⟩
      by_cases same : u = user
      · exact same ▸ finds
      · exact others u hu same
    exact .inl ⟨user, orderly.lacking_eq_singleton_iff.2 ⟨was, lacks, others⟩, gone,
      List.ne_nil_of_mem mem⟩
  · rintro (⟨u, lacks, left, some_user⟩ | ⟨u, empty, -⟩)
    · obtain ⟨there, -, others⟩ := orderly.lacking_eq_singleton_iff.1 lacks
      refine ⟨List.exists_mem_of_ne_nil _ some_user, fun v mem => (found v).2 ?_⟩
      exact others v ((seated v).1 mem).1 fun same => left (same ▸ mem)
    · exact absurd empty (List.ne_nil_of_mem was)

/-- A room becomes complete by the end of its turn unless it strands. -/
theorem strands_iff (orderly : l.Orderly id drawn) (open_ : ¬ l.IsComplete game)
    (h : RoomStep game l l' ended) : (l'.IsComplete game → ended = true) ↔ ¬ Strands game l l' := by
  cases h with
  | still _ seated found =>
    refine iff_of_true (fun complete => absurd ?_ open_) (not_strands_of_seated seated)
    rw [isComplete_iff] at complete ⊢
    simpa only [seated, found] using complete
  | opens user empty _ _ _ found =>
    refine iff_of_true (fun complete => ?_) ?_
    · obtain ⟨⟨u, mem⟩, all⟩ := isComplete_iff.1 complete
      exact absurd (all u mem) (found u)
    · rintro (⟨u, lacks, -⟩ | ⟨u, -, back, finds⟩)
      · have mem : u ∈ l.lacking game := lacks ▸ List.mem_singleton_self _
        exact absurd (mem_lacking.1 mem).1 (empty ▸ List.not_mem_nil)
      · exact finds (mem_lacking.2 ⟨back, found u⟩)
  | enters user _ _ seated found =>
    rw [strands_of_enters open_ seated found]
    simp
  | leaves user _ was seated found =>
    rw [strands_of_leaves orderly open_ was seated found]
    simp
  | finds user _ _ _ seated _ _ found ends =>
    refine iff_of_true (fun complete => ends.2 fun u mem other => ?_) (not_strands_of_seated seated)
    exact ((found u).1 ((isComplete_iff.1 complete).2 u (seated ▸ mem))).resolve_right other
  | turns _ seated found =>
    refine iff_of_true (fun complete => ?_) (not_strands_of_seated seated)
    obtain ⟨⟨u, mem⟩, all⟩ := isComplete_iff.1 complete
    exact absurd (all u mem) (found u)

end RoomStep

/-! ## Games that go on -/

namespace Service

variable {s : Service} {game : Id}

/-- Whether there are viewers of a game, and they are shown that its turn has ended. -/
def showsEnded (s : Service) (game : Id) : Bool :=
  match s.books.store.activePlayers game, s.books.store.latestTurn game,
      s.books.store.scores game with
  | .ok active, .ok (some turn), .ok scores =>
    !active.isEmpty && Board.isTurnEnded active scores turn.id
  | _, _, _ => false

/-- Whenever a turn is shown to have ended, the next is to come. -/
def GoesOn (s : Service) : Prop := ∀ game, s.showsEnded game = true → s.IsAdvancing game

instance : Decidable (s.IsAdvancing game) := decidable_of_iff _ isAdvancing_iff.symm

/-- Viewers are shown what the ledger says. -/
theorem Sound.showsEnded_iff (h : s.Sound) :
    s.showsEnded game = true ↔ s.books.ledger.IsComplete game := by
  have storable := s.books.supply.storable
  obtain ⟨active, active_read, shown⟩ := h.tidy.legible.activePlayers game
  obtain ⟨turn, turn_read, latest⟩ := Store.Tidy.latestTurn h.tidy storable game
  obtain ⟨scores, scores_read⟩ := h.tidy.legible.scores game
  have guessed := Store.hasGuessed_eq_hasFound scores_read
  have seated : ∀ u, u ∈ s.books.ledger.seated game ↔ ∃ p ∈ active, p.id = u := fun u => by
    rw [← List.mem_map]
    exact shown.symm.mem_iff
  have latest : turn.map Turn.round = s.books.ledger.latest game := latest
  unfold showsEnded
  rw [active_read, turn_read, scores_read, Ledger.isComplete_iff]
  unfold Ledger.Found
  rw [← latest]
  cases turn with
  | none => simp
  | some t =>
    have some_player : active ≠ [] ↔ ∃ u, u ∈ s.books.ledger.seated game := by
      simp only [seated]
      exact ⟨fun h => (List.exists_mem_of_ne_nil _ h).imp' (·.id) fun p mem => ⟨p, mem, rfl⟩,
        fun ⟨_, p, mem, _⟩ => List.ne_nil_of_mem mem⟩
    have all : Board.isTurnEnded active scores t.id = true ↔
        ∀ u ∈ s.books.ledger.seated game, s.books.ledger.hasFound game u t.id = true := by
      simp only [Board.isTurnEnded, List.all_eq_true, guessed, seated, forall_exists_index, and_imp,
        forall_apply_eq_imp_iff₂]
      exact Iff.rfl
    rw [← some_player, Bool.and_eq_true, Bool.not_eq_true', List.isEmpty_eq_false_iff, all]
    simp only [Option.map_some, Option.some.injEq, exists_eq_left']
    exact Iff.rfl

end Service

namespace Moment

variable {m : Moment}

open Service

/-- A room becomes complete though nobody finds the word, and no advance of its game is pending. -/
def Strands (m : Moment) : Prop :=
  ∃ game, ¬ m.before.IsAdvancing game ∧
    Ledger.Strands game m.before.books.ledger m.after.books.ledger

/-- Where no advance was pending, a turn that has come to its end schedules the only one. -/
theorem Happens.isAdvancing_iff (h : m.Happens) (sound : m.before.Sound) {game : Id}
    (was : ¬ m.before.IsAdvancing game) :
    ∃ ended, RoomStep game m.before.books.ledger m.after.books.ledger ended ∧
      (m.after.IsAdvancing game ↔ ended = true) := by
  rcases h.answers_or_turns sound with ⟨ended, answers⟩ | ⟨time, g, n, word, turns⟩
  · refine ⟨ended == some game, answers.roomStep sound game, ?_⟩
    rw [answers.isAdvancing_iff, or_iff_right was, beq_iff_eq]
  · refine ⟨false, turns.roomStep sound game, ?_⟩
    exact iff_of_false (fun pending => was (turns.isAdvancing_before pending)) Bool.false_ne_true

/-- An advance that was pending still is, unless it has made room for a turn that nobody has found. -/
theorem Happens.isAdvancing_of_isComplete (h : m.Happens) (sound : m.before.Sound) {game : Id}
    (was : m.before.IsAdvancing game) (complete : m.after.books.ledger.IsComplete game) :
    m.after.IsAdvancing game := by
  rcases h.answers_or_turns sound with ⟨ended, answers⟩ | ⟨time, g, n, word, turns⟩
  · exact (answers.isAdvancing_iff game).2 (.inl was)
  · refine turns.isAdvancing_after ?_ was
    rintro rfl
    obtain ⟨⟨u, there⟩, all⟩ := Ledger.isComplete_iff.1 complete
    exact turns.not_found sound u (all u there)

theorem Happens.goesOn_iff (h : m.Happens) (sound : m.before.Sound) (goes_on : m.before.GoesOn) :
    m.after.GoesOn ↔ ¬ m.Strands := by
  unfold GoesOn Moment.Strands
  rw [not_exists]
  apply forall_congr'
  intro game
  rw [(h.sound sound).showsEnded_iff, not_and]
  by_cases was : m.before.IsAdvancing game
  · exact iff_of_true (h.isAdvancing_of_isComplete sound was) fun not_yet => absurd was not_yet
  · have open_ : ¬ m.before.books.ledger.IsComplete game := fun complete =>
      was (goes_on game (sound.showsEnded_iff.2 complete))
    obtain ⟨ended, step, pending⟩ := h.isAdvancing_iff sound was
    rw [imp_iff_right was, pending, step.strands_iff sound.orderly open_]

end Moment

/-! ## Runs -/

theorem Service.Fresh.goesOn {s : Service} (h : s.Fresh) (sound : s.Sound) : s.GoesOn := by
  intro game shown
  have occupied := (sound.showsEnded_iff.1 shown).1
  unfold Ledger.seated at occupied
  rw [h.seats] at occupied
  exact absurd rfl occupied

theorem Service.Sound.goesOn_iff {s : Service} (h : s.Sound) (goes_on : s.GoesOn) {ms : List Moment}
    (run : s.Run ms) : (∀ m ∈ ms, m.after.GoesOn) ↔ ∀ m ∈ ms, ¬ m.Strands := by
  induction ms generalizing s with
  | nil => exact iff_of_true (by simp) (by simp)
  | cons m ms ih =>
    obtain ⟨rfl, happens, run⟩ := run
    have first := happens.goesOn_iff h goes_on
    rw [List.forall_mem_cons, List.forall_mem_cons, ← first]
    exact and_congr_right fun after => ih (happens.sound h) after run

/-- At all times of a run the next turn is to come wherever one is shown to have ended, exactly if
no room strands. -/
theorem games_go_on_iff (s : Service) (fresh : s.Fresh)
    (injective : Function.Injective s.books.supply.id) (clock : s.books.supply.RunsOn)
    (ms : List Moment) (run : s.Run ms) :
    (∀ m ∈ ms, m.after.GoesOn) ↔ ∀ m ∈ ms, ¬ m.Strands := by
  have sound := fresh.sound injective clock
  exact sound.goesOn_iff (fresh.goesOn sound) run

/-- Of two players one has found the word, and the other loses the seat. -/
def Service.kickTheOther : List Cue :=
  [.call .initUser, .call (.initGame "|"), .call .initUser, .call (.join "||||||" "|||||||||"),
    .call (.guess "||||||" "|" "apple"), .call (.kick "||||||" "|||||||||"), .wait 60000]

theorem stuck_when_kicked :
    ∃ m ∈ (Service.opening [⟨"w", "apple", "🍎"⟩]).follow Service.kickTheOther,
      m.after.showsEnded "||||||" = true ∧ ¬ m.after.IsAdvancing "||||||" := by
  decide +kernel

/-- One who leaves strands the other: the turn is shown to have ended, and no other is to come. -/
theorem turn_stuck_after_kick :
    (Service.opening [⟨"w", "apple", "🍎"⟩]).Fresh ∧
      Function.Injective (Service.opening [⟨"w", "apple", "🍎"⟩]).books.supply.id ∧
      (Service.opening [⟨"w", "apple", "🍎"⟩]).books.supply.RunsOn ∧
      (Service.opening [⟨"w", "apple", "🍎"⟩]).Run
        ((Service.opening [⟨"w", "apple", "🍎"⟩]).follow Service.kickTheOther) ∧
      ¬ ∀ m ∈ (Service.opening [⟨"w", "apple", "🍎"⟩]).follow Service.kickTheOther,
        m.after.GoesOn := by
  obtain ⟨m, mem, shown, stuck⟩ := stuck_when_kicked
  exact ⟨⟨⟨rfl, rfl, rfl⟩, rfl, rfl, rfl⟩, Supply.counting_injective, Supply.counting_runsOn,
    Service.run_follow (by decide +kernel), fun all => stuck (all m mem _ shown)⟩

theorem room_strands_by_kick :
    (Service.opening [⟨"w", "apple", "🍎"⟩]).Run
        ((Service.opening [⟨"w", "apple", "🍎"⟩]).follow Service.kickTheOther) ∧
      ∃ m ∈ (Service.opening [⟨"w", "apple", "🍎"⟩]).follow Service.kickTheOther, m.Strands := by
  have fresh : (Service.opening [⟨"w", "apple", "🍎"⟩]).Fresh := ⟨⟨rfl, rfl, rfl⟩, rfl, rfl, rfl⟩
  have run : (Service.opening [⟨"w", "apple", "🍎"⟩]).Run
      ((Service.opening [⟨"w", "apple", "🍎"⟩]).follow Service.kickTheOther) :=
    Service.run_follow (by decide +kernel)
  have exactly := games_go_on_iff _ fresh Supply.counting_injective Supply.counting_runsOn _ run
  obtain ⟨m, mem, shown, stuck⟩ := stuck_when_kicked
  refine ⟨run, ?_⟩
  by_contra none_strands
  push Not at none_strands
  exact stuck (exactly.2 none_strands m mem _ shown)

end GuessingRoom
