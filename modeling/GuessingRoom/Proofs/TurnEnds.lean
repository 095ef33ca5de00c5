import GuessingRoom.Proofs.Rooms

/-!
# Turns that end once

A turn that has come to its end stays the latest one until the next begins. During the pause it can
therefore come to an end again: when somebody who lacks the word takes a seat and finds it. Unless
this happens, every turn is announced to have ended at most once, schedules at most one advance, and
is what that advance replaces. The invariant behind this is `Service.Paused`.
-/

namespace GuessingRoom

/-! ## The last one to find the word -/

/-- The only seated user who lacks the word finds it. -/
def Ledger.Completes (game : Id) (l l' : Ledger) : Prop :=
  ∃ user, l.lacking game = [user] ∧ user ∈ l'.seated game ∧ l'.lacking game = []

/-- A turn comes to its end exactly if the last user who lacks the word finds it. -/
theorem RoomStep.completes_iff {id : Nat → Id} {drawn : Nat} {game : Id} {l l' : Ledger}
    {ended : Bool} (orderly : l.Orderly id drawn) (h : RoomStep game l l' ended) :
    ended = true ↔ Ledger.Completes game l l' := by
  unfold Ledger.Completes
  simp only [orderly.lacking_eq_singleton_iff, Ledger.lacking_eq_nil_iff]
  constructor
  · rintro rfl
    cases h with
    | finds user _ _ _ seated was lacked found ends =>
      have others := ends.1 rfl
      rw [seated]
      refine ⟨user, ⟨was, lacked, others⟩, was, fun u hu => (found u).2 ?_⟩
      by_cases same : u = user
      · exact .inr same
      · exact .inl (others u hu same)
  · rintro ⟨user, ⟨was, lacks, others⟩, stays, all⟩
    have finds := all user stays
    cases h with
    | still _ _ found | enters _ _ _ _ found | leaves _ _ _ _ found =>
      exact absurd ((found user).1 finds) lacks
    | opens _ _ _ _ _ found | turns _ _ found => exact absurd finds (found user)
    | finds v _ _ _ _ _ _ found ends =>
      rcases (found user).1 finds with before | rfl
      · exact absurd before lacks
      · exact ends.2 others

/-! ## The advances of a run -/

/-- The turn that a game is in. -/
def Service.turnOf (s : Service) (game : Id) : Option Id :=
  match s.books.store.latestTurn game with
  | .ok turn => turn.map (·.id)
  | .error _ => none

/-- An advance still to come, and the turn whose end has scheduled it. -/
structure Pending where
  due : Nat
  game : Id
  turn : Option Id
deriving DecidableEq, Repr

namespace Pending

def advance (p : Pending) : Nat × Id := (p.due, p.game)

theorem map_eraseP (ps : List Pending) (x : Nat × Id) :
    (ps.eraseP (·.advance == x)).map advance = (ps.map advance).erase x := by
  rw [List.erase_eq_eraseP', List.eraseP_map]
  rfl

end Pending

namespace Moment

/-- The turns that the moment announces to have ended, each as often as it announces it. -/
def announced (m : Moment) : List (Option Id) := (m.added.flatMap Job.endings).map m.before.turnOf

/-- The advances that the moment schedules. -/
def scheduled (m : Moment) : List Pending :=
  (m.added.filterMap Job.advance?).map fun (due, game) => ⟨due, game, m.before.turnOf game⟩

/-- The advances still to come after the moment. -/
def pending (m : Moment) (ps : List Pending) : List Pending :=
  match m.fired with
  | some x => ps.eraseP (·.advance == x) ++ m.scheduled
  | none => ps ++ m.scheduled

/-- An advance replaces the turn whose end has scheduled it. -/
def ReplacesOwn (m : Moment) (ps : List Pending) : Prop :=
  ∀ x ∈ m.fired, (ps.find? (·.advance == x)).map (·.turn) = some (m.before.turnOf x.2)

instance (m : Moment) (ps : List Pending) : Decidable (m.ReplacesOwn ps) :=
  inferInstanceAs (Decidable (∀ x ∈ m.fired, _))

/-- During the pause after a turn it comes to its end once more. -/
def EndsAgain (m : Moment) : Prop :=
  ∃ game, m.before.IsAdvancing game ∧
    Ledger.Completes game m.before.books.ledger m.after.books.ledger

end Moment

/-- Every advance of a run replaces the turn whose end has scheduled it. -/
def ReplaceOwn : List Pending → List Moment → Prop
  | _, [] => True
  | ps, m :: ms => m.ReplacesOwn ps ∧ ReplaceOwn (m.pending ps) ms

instance decidableReplaceOwn : ∀ ps ms, Decidable (ReplaceOwn ps ms)
  | _, [] => .isTrue trivial
  | ps, m :: ms =>
    haveI := decidableReplaceOwn (m.pending ps) ms
    inferInstanceAs (Decidable (m.ReplacesOwn ps ∧ ReplaceOwn (m.pending ps) ms))

/-- Every turn of a run is announced at most once to have ended, schedules at most one advance, and
is replaced only by that advance. -/
structure EndOnce (ms : List Moment) : Prop where
  announced : (ms.flatMap Moment.announced).Nodup
  scheduled : (ms.flatMap fun m => m.scheduled.map (·.turn)).Nodup
  replaced : ReplaceOwn [] ms

instance (ms : List Moment) : Decidable (EndOnce ms) :=
  decidable_of_iff ((ms.flatMap Moment.announced).Nodup ∧
      (ms.flatMap fun m => m.scheduled.map (·.turn)).Nodup ∧ ReplaceOwn [] ms)
    ⟨fun h => ⟨h.1, h.2.1, h.2.2⟩, fun h => ⟨h.announced, h.scheduled, h.replaced⟩⟩

/-! ## Pauses -/

theorem Service.Sound.turnOf_eq {s : Service} (h : s.Sound) (game : Id) :
    s.turnOf game = (s.books.ledger.latest game).map (·.id) := by
  obtain ⟨turn, read, latest⟩ := Store.Tidy.latestTurn h.tidy s.books.supply.storable game
  unfold turnOf
  rw [read]
  show turn.map _ = Option.map _ (s.books.store.ledger.latest game)
  rw [← latest, Option.map_map]
  rfl

/-- As long as no turn ends again, the advances pending are those of the latest turns that were
announced to have ended. -/
structure Service.Paused (s : Service) (ps : List Pending) (ended : List (Option Id)) : Prop where
  sound : s.Sound
  shown : ps.map Pending.advance = s.advances
  one_each : (ps.map (·.game)).Nodup
  latest : ∀ p ∈ ps, p.turn = s.turnOf p.game
  announced : ∀ p ∈ ps, p.turn ∈ ended
  advancing : ∀ game round, s.books.ledger.latest game = some round → some round.id ∈ ended →
    s.IsAdvancing game
  nodup : ended.Nodup
  drawn : ∀ turn ∈ ended, ∃ n < s.books.drawn, turn = some (s.books.supply.id n)

namespace Service.Paused

variable {s : Service} {ps : List Pending} {ended : List (Option Id)}

theorem start (fresh : s.Fresh) (sound : s.Sound) : s.Paused [] [] := by
  refine ⟨sound, ?_, List.nodup_nil, ?_, ?_, ?_, List.nodup_nil, ?_⟩
  · simp [advances, fresh.jobs]
  all_goals simp

theorem mem_of_isAdvancing (h : s.Paused ps ended) {game : Id} (pending : s.IsAdvancing game) :
    ∃ p ∈ ps, p.game = game := by
  rw [isAdvancing_iff, ← h.shown, List.map_map] at pending
  exact List.mem_map.1 pending

theorem isAdvancing_of_mem (h : s.Paused ps ended) {p : Pending} (mem : p ∈ ps) :
    s.IsAdvancing p.game := by
  rw [isAdvancing_iff, ← h.shown, List.map_map]
  exact List.mem_map_of_mem mem

/-- The latest turn of a game whose advance is pending was announced. -/
theorem turnOf_mem (h : s.Paused ps ended) {game : Id} (pending : s.IsAdvancing game) :
    s.turnOf game ∈ ended := by
  obtain ⟨p, mem, rfl⟩ := h.mem_of_isAdvancing pending
  exact h.latest p mem ▸ h.announced p mem

theorem fresh_not_mem (h : s.Paused ps ended) {n : Nat} (fresh : s.books.drawn ≤ n) :
    some (s.books.supply.id n) ∉ ended := by
  intro mem
  obtain ⟨k, old, e⟩ := h.drawn _ mem
  have := h.sound.orderly.injective (Option.some.inj e)
  omega

theorem drawn_later (h : s.Paused ps ended) {t : Service} (stays : s.books.StaysTidy t.books) :
    ∀ turn ∈ ended, ∃ n < t.books.drawn, turn = some (t.books.supply.id n) := by
  intro turn mem
  obtain ⟨n, lt, e⟩ := h.drawn turn mem
  exact ⟨n, lt.trans_le stays.drawn, by rw [e, stays.supply]⟩

/-- A turn that comes to its end while no advance of its game is pending has not been announced. -/
theorem turnOf_not_mem (h : s.Paused ps ended) {game : Id} {round : Round}
    (latest : s.books.ledger.latest game = some round) (first : ¬ s.IsAdvancing game) :
    s.turnOf game ∉ ended := by
  rw [h.sound.turnOf_eq, latest]
  exact fun mem => first (h.advancing game round latest mem)

/-- What is known of an advance that fires. -/
theorem find_eq (h : s.Paused ps ended) {time : Nat} {game : Id} (pending : (time, game) ∈ s.advances) :
    ∃ p, ps.find? (·.advance == (time, game)) = some p ∧ p.game = game ∧
      p.turn = s.turnOf game := by
  rw [← h.shown] at pending
  obtain ⟨p, mem, e⟩ := List.mem_map.1 pending
  have some_advance : (ps.find? (·.advance == (time, game))).isSome :=
    List.find?_isSome.2 ⟨p, mem, by rw [e, beq_self_eq_true]⟩
  obtain ⟨q, found⟩ := Option.isSome_iff_exists.1 some_advance
  have fires := List.find?_some found
  have here : q.game = game := congrArg Prod.snd (beq_iff_eq.1 fires)
  exact ⟨q, found, here, here ▸ h.latest q (List.mem_of_find?_eq_some found)⟩

/-- The other advances pending belong to other games. -/
theorem game_ne (h : s.Paused ps ended) {time : Nat} {game : Id}
    (pending : (time, game) ∈ s.advances) {p : Pending}
    (mem : p ∈ ps.eraseP (·.advance == (time, game))) : p.game ≠ game := by
  rw [← h.shown] at pending
  obtain ⟨q, hq, e⟩ := List.mem_map.1 pending
  obtain ⟨r, before, after, -, fires, whole, rest⟩ :=
    List.exists_of_eraseP hq (p := (·.advance == (time, game))) (by rw [e, beq_self_eq_true])
  have its : r.game = game := congrArg Prod.snd (beq_iff_eq.1 fires)
  have one_each := h.one_each
  rw [whole, List.map_append, List.map_cons, its, List.nodup_middle, List.nodup_cons,
    ← List.map_append, ← rest] at one_each
  exact fun here => one_each.1 (List.mem_map.2 ⟨p, mem, here⟩)

end Service.Paused

/-! ## Moments -/

namespace Effect

variable {id : Nat → Id} {drawn k : Nat} {l l' : Ledger}

theorem rounds_eq {ended : Id} (e : Effect id drawn k l (some ended) l') : l'.rounds = l.rounds := by
  generalize h : some ended = some_ended at e
  cases e with
  | found => rfl
  | _ => cases h

/-- A request replaces no turn. -/
theorem latest_eq_or {ended : Option Id} (h : l.Orderly id drawn) (e : Effect id drawn k l ended l')
    (game : Id) : l'.latest game = l.latest game ∨
      l.latest game = none ∧ ∃ n round, drawn ≤ n ∧ l'.latest game = some round ∧ round.id = id n := by
  cases e with
  | opened m n user word first next last listed =>
    by_cases here : id m = game
    · subst here
      exact .inr ⟨h.latest_eq_none_of_fresh first, n, _, first.trans next.le,
        l.latest_addRound ⟨id n, id m, word.id⟩, rfl⟩
    · exact .inl (l.latest_addRound_of_ne ⟨id n, id m, word.id⟩ here)
  | _ => exact .inl rfl

/-- A request brings a turn to its end exactly if by it the last user finds the word. -/
theorem ended_iff {ended : Option Id} (h : l.Orderly id drawn) (e : Effect id drawn k l ended l')
    (game : Id) : ended = some game ↔ Ledger.Completes game l l' := by
  rw [← (e.roomStep h game).completes_iff h, beq_iff_eq]

end Effect

namespace Moment

variable {m : Moment} {ps : List Pending} {all : List (Option Id)}

open Service

/-- A request replaces no turn whose end was announced. -/
theorem Answers.turnOf_eq {ended : Option Id} (h : m.Answers ended) (sound : m.before.Sound)
    (after : m.after.Sound) {game : Id} (begun : m.before.books.ledger.latest game ≠ none) :
    m.after.turnOf game = m.before.turnOf game := by
  rw [after.turnOf_eq, sound.turnOf_eq]
  rcases h.effect.latest_eq_or sound.orderly game with same | ⟨unbegun, -⟩
  · rw [same]
  · exact absurd unbegun begun

/-- What was pending is so after a request. -/
theorem Answers.paused_of_none (h : m.Answers none) (paused : m.before.Paused ps all)
    (after : m.after.Sound) (stays : m.before.books.StaysTidy m.after.books) :
    m.after.Paused ps all where
  sound := after
  shown := by
    rw [h.advances, h.scheduled, paused.shown]
    exact (List.append_nil _).symm
  one_each := paused.one_each
  latest p mem := by
    have begun := paused.sound.begun p.game (paused.isAdvancing_of_mem mem)
    rw [h.turnOf_eq paused.sound after begun]
    exact paused.latest p mem
  announced := paused.announced
  advancing game round latest mem := by
    refine (h.isAdvancing_iff game).2 (.inl ?_)
    obtain same | ⟨-, n, r, fresh, latest', new⟩ :=
      h.effect.latest_eq_or paused.sound.orderly game
    · exact paused.advancing game round (same ▸ latest) mem
    · obtain rfl := Option.some.inj (latest.symm.trans latest')
      exact absurd (new ▸ mem) (paused.fresh_not_mem fresh)
  nodup := paused.nodup
  drawn := paused.drawn_later stays

/-- A turn that has come to its end for the first time is pending. -/
theorem Answers.paused_of_some {game : Id} (h : m.Answers (some game))
    (paused : m.before.Paused ps all) (after : m.after.Sound)
    (stays : m.before.books.StaysTidy m.after.books) (first : ¬ m.before.IsAdvancing game) :
    m.after.Paused
      (ps ++ [⟨m.before.now + m.before.settings.turnDelay, game, m.before.turnOf game⟩])
      (all ++ [m.before.turnOf game]) := by
  have step := h.roomStep paused.sound game
  rw [beq_self_eq_true] at step
  obtain ⟨round, latest⟩ := Option.ne_none_iff_exists'.1 step.begun_of_ended.1
  have same : ∀ g, m.after.books.ledger.latest g = m.before.books.ledger.latest g := fun g => by
    unfold Ledger.latest
    rw [h.effect.rounds_eq]
  have turns : ∀ g, m.after.turnOf g = m.before.turnOf g := fun g => by
    rw [after.turnOf_eq, same, ← paused.sound.turnOf_eq]
  have turn : m.before.turnOf game = some round.id := by
    rw [paused.sound.turnOf_eq, latest, Option.map_some]
  refine ⟨after, ?_, ?_, ?_, ?_, ?_, ?_, ?_⟩
  · rw [h.advances, h.scheduled, List.map_append, paused.shown]
    rfl
  · rw [← List.concat_eq_append, List.map_concat, List.nodup_concat]
    refine ⟨fun mem => first ?_, paused.one_each⟩
    obtain ⟨p, hp, e⟩ := List.mem_map.1 mem
    have here : p.game = game := e
    exact here ▸ paused.isAdvancing_of_mem hp
  · refine List.forall_mem_append.2 ⟨fun p mem => ?_, List.forall_mem_singleton.2 (turns game).symm⟩
    rw [turns]
    exact paused.latest p mem
  · refine List.forall_mem_append.2 ⟨fun p mem => ?_, List.forall_mem_singleton.2 ?_⟩
    · exact List.mem_append_left _ (paused.announced p mem)
    · exact List.mem_append_right _ (List.mem_singleton_self _)
  · intro g r latest' mem
    rw [same] at latest'
    apply (h.isAdvancing_iff g).2
    rcases List.mem_append.1 mem with old | new
    · exact .inl (paused.advancing g r latest' old)
    · rw [turn, List.mem_singleton, Option.some.injEq] at new
      obtain ⟨hr, here⟩ := Ledger.mem_of_latest latest
      obtain ⟨hr', here'⟩ := Ledger.mem_of_latest latest'
      obtain rfl := paused.sound.orderly.round_eq hr' hr new
      exact .inr (by rw [← here, here'])
  · rw [← List.concat_eq_append, List.nodup_concat]
    exact ⟨paused.turnOf_not_mem latest first, paused.nodup⟩
  · refine List.forall_mem_append.2 ⟨paused.drawn_later stays, List.forall_mem_singleton.2 ?_⟩
    obtain ⟨n, lt, e⟩ := paused.sound.orderly.rounds_drawn round (Ledger.mem_of_latest latest).1
    rw [stays.supply, turn, e]
    exact ⟨n, lt.trans_le stays.drawn, rfl⟩

/-- The advance that has fired is pending no more, and the turn that has begun was not announced. -/
theorem Turns.paused {time n : Nat} {game : Id} {word : Word} (h : m.Turns time game n word)
    (paused : m.before.Paused ps all) (after : m.after.Sound)
    (stays : m.before.books.StaysTidy m.after.books) :
    m.after.Paused (ps.eraseP (·.advance == (time, game))) all where
  sound := after
  shown := by rw [Pending.map_eraseP, paused.shown, h.advances]
  one_each := paused.one_each.sublist (List.eraseP_sublist.map _)
  latest p mem := by
    rw [after.turnOf_eq, h.ledger,
      Ledger.latest_addRound_of_ne _ _ (paused.game_ne h.pending mem).symm,
      ← paused.sound.turnOf_eq]
    exact paused.latest p (List.mem_of_mem_eraseP mem)
  announced p mem := paused.announced p (List.mem_of_mem_eraseP mem)
  advancing g round latest mem := by
    rw [h.ledger] at latest
    by_cases here : game = g
    · subst here
      obtain rfl := Option.some.inj (latest.symm.trans
        (m.before.books.ledger.latest_addRound ⟨m.before.books.supply.id n, game, word.id⟩))
      exact absurd mem (paused.fresh_not_mem h.first)
    · rw [Ledger.latest_addRound_of_ne _ _ here] at latest
      exact h.isAdvancing_after (Ne.symm here) (paused.advancing g round latest mem)
  nodup := paused.nodup
  drawn := paused.drawn_later stays

/-- As many advances are scheduled as ends of turns are announced. -/
theorem Happens.scheduled_eq (h : m.Happens) (sound : m.before.Sound) :
    m.scheduled.map (·.turn) = m.announced := by
  unfold scheduled announced
  rw [List.map_map]
  rcases h.answers_or_turns sound with ⟨ended, answers⟩ | ⟨time, game, n, word, turns⟩
  · rw [answers.scheduled, answers.endings]
    cases ended <;> rfl
  · rw [turns.added]
    rfl

/-- A turn that ends again is announced again. -/
theorem Happens.not_nodup (h : m.Happens) (paused : m.before.Paused ps all) (again : m.EndsAgain) :
    ¬ (all ++ m.announced).Nodup := by
  have sound := paused.sound
  obtain ⟨game, pending, completes⟩ := again
  have twice : m.before.turnOf game ∈ m.announced := by
    rcases h.answers_or_turns sound with ⟨ended, answers⟩ | ⟨time, g, n, word, turns⟩
    · unfold announced
      rw [answers.endings, (answers.effect.ended_iff sound.orderly game).2 completes]
      exact List.mem_singleton_self _
    · have never := ((turns.roomStep sound game).completes_iff sound.orderly).2 completes
      exact absurd never Bool.false_ne_true
  exact fun nodup => List.disjoint_of_nodup_append nodup (paused.turnOf_mem pending) twice

/-- In a moment in which no turn ends again, an advance that fires replaces its own turn, and the
advances pending are those of turns that were announced. -/
theorem Happens.paused (h : m.Happens) (paused : m.before.Paused ps all) (once : ¬ m.EndsAgain) :
    m.ReplacesOwn ps ∧ m.after.Paused (m.pending ps) (all ++ m.announced) := by
  have sound := paused.sound
  have after := h.sound sound
  have stays := h.staysTidy
  unfold ReplacesOwn pending scheduled announced
  rcases h.answers_or_turns sound with ⟨ended, answers⟩ | ⟨time, game, n, word, turns⟩
  · rw [answers.fired, answers.scheduled, answers.endings]
    refine ⟨by simp, ?_⟩
    cases ended with
    | none => simpa using answers.paused_of_none paused after stays
    | some game =>
      have completes := (answers.effect.ended_iff sound.orderly game).1 rfl
      exact answers.paused_of_some paused after stays fun pending => once ⟨game, pending, completes⟩
  · rw [turns.fired, turns.added]
    refine ⟨fun x mem => ?_, ?_⟩
    · obtain rfl := Option.some.inj mem
      obtain ⟨p, found, -, turn⟩ := paused.find_eq turns.pending
      rw [found, Option.map_some, turn]
    · simpa using turns.paused paused after stays

end Moment

/-! ## Runs -/

namespace Service

variable {s : Service} {ps : List Pending} {ended : List (Option Id)}

/-- What has happened so far does not matter. -/
theorem Paused.run (h : s.Paused ps ended) {ms : List Moment} (run : s.Run ms) :
    (ended ++ ms.flatMap Moment.announced).Nodup ∧ ReplaceOwn ps ms ↔ ∀ m ∈ ms, ¬ m.EndsAgain := by
  induction ms generalizing s ps ended with
  | nil => simpa [ReplaceOwn] using h.nodup
  | cons m ms ih =>
    obtain ⟨rfl, happens, run⟩ := run
    rw [List.flatMap_cons, ← List.append_assoc, List.forall_mem_cons]
    by_cases again : m.EndsAgain
    · refine iff_of_false (fun all => ?_) fun all => all.1 again
      exact happens.not_nodup h again (List.nodup_append.1 all.1).1
    · obtain ⟨own, after⟩ := happens.paused h again
      rw [← ih after run]
      exact ⟨fun all => ⟨again, all.1, all.2.2⟩, fun all => ⟨all.2.1, own, all.2.2⟩⟩

theorem Sound.scheduled_eq (h : s.Sound) {ms : List Moment} (run : s.Run ms) :
    (ms.flatMap fun m => m.scheduled.map (·.turn)) = ms.flatMap Moment.announced := by
  induction ms generalizing s with
  | nil => rfl
  | cons m ms ih =>
    obtain ⟨rfl, happens, run⟩ := run
    rw [List.flatMap_cons, List.flatMap_cons, happens.scheduled_eq h, ih (happens.sound h) run]

end Service

/-- Turns end once, and are replaced only by their own end, exactly if during no pause after a turn
the last one to lack the word finds it. -/
theorem turns_end_once_iff (s : Service) (fresh : s.Fresh)
    (injective : Function.Injective s.books.supply.id) (clock : s.books.supply.RunsOn)
    (ms : List Moment) (run : s.Run ms) : EndOnce ms ↔ ∀ m ∈ ms, ¬ m.EndsAgain := by
  have sound := fresh.sound injective clock
  have runs := (Service.Paused.start fresh sound).run run
  rw [← runs]
  constructor
  · exact fun once => ⟨once.announced, once.replaced⟩
  · exact fun ⟨announced, replaced⟩ => ⟨announced, sound.scheduled_eq run ▸ announced, replaced⟩

/-- Somebody joins in time, and finds the word of the turn that comes next. -/
def Service.playInTurn : List Cue :=
  [.call .initUser, .call (.initGame "|"), .call (.guess "||||||" "|" "apple"), .wait 3000,
    .call .initUser, .call (.join "||||||" "|||||||||||"), .wait 5000,
    .due 5000 (.nextTurn "||||||"), .call (.guess "||||||" "|||||||||||" "apple"),
    .call (.guess "||||||" "|" "apple"), .wait 10000, .due 10000 (.nextTurn "||||||")]

theorem turns_end_once_in_turn :
    (Service.opening [⟨"w", "apple", "🍎"⟩]).Run
        ((Service.opening [⟨"w", "apple", "🍎"⟩]).follow Service.playInTurn) ∧
      EndOnce ((Service.opening [⟨"w", "apple", "🍎"⟩]).follow Service.playInTurn) ∧
      ∀ m ∈ (Service.opening [⟨"w", "apple", "🍎"⟩]).follow Service.playInTurn, ¬ m.EndsAgain := by
  have fresh : (Service.opening [⟨"w", "apple", "🍎"⟩]).Fresh := ⟨⟨rfl, rfl, rfl⟩, rfl, rfl, rfl⟩
  have run : (Service.opening [⟨"w", "apple", "🍎"⟩]).Run
      ((Service.opening [⟨"w", "apple", "🍎"⟩]).follow Service.playInTurn) :=
    Service.run_follow (by decide +kernel)
  have once : EndOnce ((Service.opening [⟨"w", "apple", "🍎"⟩]).follow Service.playInTurn) := by
    decide +kernel
  have exactly := turns_end_once_iff _ fresh Supply.counting_injective Supply.counting_runsOn _ run
  exact ⟨run, once, exactly.1 once⟩

/-- Somebody joins during the pause after a turn, and still finds its word. -/
def Service.playInPause : List Cue :=
  [.call .initUser, .call (.initGame "|"), .call (.guess "||||||" "|" "apple"), .wait 3000,
    .call .initUser, .call (.join "||||||" "|||||||||||"),
    .call (.guess "||||||" "|||||||||||" "apple"), .wait 5000, .due 5000 (.nextTurn "||||||"),
    .wait 8000, .due 8000 (.nextTurn "||||||")]

/-- The turn is announced twice to have ended, and the next one is replaced before its end. -/
theorem turn_ends_twice_in_pause :
    (Service.opening [⟨"w", "apple", "🍎"⟩]).Fresh ∧
      Function.Injective (Service.opening [⟨"w", "apple", "🍎"⟩]).books.supply.id ∧
      (Service.opening [⟨"w", "apple", "🍎"⟩]).books.supply.RunsOn ∧
      (Service.opening [⟨"w", "apple", "🍎"⟩]).Run
        ((Service.opening [⟨"w", "apple", "🍎"⟩]).follow Service.playInPause) ∧
      ¬ EndOnce ((Service.opening [⟨"w", "apple", "🍎"⟩]).follow Service.playInPause) :=
  ⟨⟨⟨rfl, rfl, rfl⟩, rfl, rfl, rfl⟩, Supply.counting_injective, Supply.counting_runsOn,
    Service.run_follow (by decide +kernel), by decide +kernel⟩

end GuessingRoom
