import GuessingRoom.Proofs.Awards
import GuessingRoom.Proofs.TakenGuesses

/-!
# What a turn is worth

Every award is the base times a share of the active players that is never empty and never more than
all of them (`Books.Earned.share`). In a turn with the same active players from its beginning on, the
first of `n` players to find the word gets `n` times the base, the second half of that, and so on, in
whole numbers; the turn is over with the last of them (`scoring_law`). The turn is followed moment by
moment (`Moment.keepsScore`), whatever else goes on: of all that happens only a first right guess
changes what has been earned.
-/

namespace GuessingRoom

/-! ## Shares -/

/-- An award is worth the base times the share of the active players that goes to each of those who
have found the word. -/
theorem Books.Earned.share {basePoints : Int} {b : Books} {active : List Player} {a : Award}
    (h : b.Earned basePoints active a) : ∃ k, 1 ≤ k ∧ k ≤ active.length ∧
      1 ≤ active.length / k ∧ active.length / k ≤ active.length ∧
      a.points = basePoints * Board.signed64 (active.length / k) := by
  have le := b.ledger.foundCount_le a.gameId a.playerId a.turnId h.seated
  have pos := b.ledger.one_le_foundCount active a.gameId a.playerId a.turnId
  exact ⟨_, pos, le, Nat.div_pos le pos, Nat.div_le_self _ _, h.worth⟩

/-- What is earned by players who find the word one after another, of `n` who are active. -/
def shares (basePoints : Int) (n : Nat) (finders : List Id) : List (Id × Int) :=
  finders.zipIdx.map fun (user, i) => (user, basePoints * ((n / (i + 1) : Nat) : Int))

theorem shares_concat (basePoints : Int) (n : Nat) (finders : List Id) (user : Id) :
    shares basePoints n (finders ++ [user]) =
      shares basePoints n finders ++
        [(user, basePoints * ((n / (finders.length + 1) : Nat) : Int))] := by
  simp [shares, List.zipIdx_append]

theorem map_fst_shares (basePoints : Int) (n : Nat) (finders : List Id) :
    (shares basePoints n finders).map Prod.fst = finders := by
  unfold shares
  rw [List.map_map]
  exact List.zipIdx_map_fst 0 finders

/-- What has been earned in the turn of the game, and by whom, in the order of the awards. -/
def Service.earned (s : Service) (game turn : Id) : List (Id × Int) :=
  (s.books.ledger.awards.filter fun a => a.gameId == game && a.turnId == turn).map fun a =>
    (a.playerId, a.points)

namespace Service

variable {s t : Service} {game turn : Id}

theorem hasFound_iff_earned {user : Id} : s.books.ledger.hasFound game user turn = true ↔
    user ∈ (s.earned game turn).map Prod.fst := by
  rw [Ledger.hasFound_iff, earned, List.map_map, List.mem_map]
  simp only [List.mem_filter, Bool.and_eq_true, beq_iff_eq, Function.comp_apply]
  constructor
  · rintro ⟨a, mem, here, its, then_⟩
    exact ⟨a, ⟨mem, here, then_⟩, its⟩
  · rintro ⟨a, ⟨mem, here, then_⟩, its⟩
    exact ⟨a, mem, here, its, then_⟩

theorem earned_of_awards (same : t.books.ledger.awards = s.books.ledger.awards) :
    t.earned game turn = s.earned game turn := by
  unfold earned
  rw [same]

theorem earned_of_append {a : Award} (awards : t.books.ledger.awards = s.books.ledger.awards ++ [a]) :
    t.earned game turn = s.earned game turn ++
      if a.gameId = game ∧ a.turnId = turn then [(a.playerId, a.points)] else [] := by
  unfold earned
  rw [awards, List.filter_append, List.map_append]
  by_cases here : a.gameId = game ∧ a.turnId = turn
  · simp [here]
  · rw [if_neg here, List.filter_cons_of_neg (by simpa using here)]
    rfl

/-- The turn is the latest one of the game, the word is its word, and the users are those with an
active seat. -/
structure OnStage (s : Service) (game : Id) (turn : Turn) (word : Word) (users : List Id) : Prop where
  latest : s.books.store.latestTurn game = .ok (some turn)
  found : s.books.store.findWord turn.wordId = some word
  active : ∃ active, s.books.store.activePlayers game = .ok active ∧ (active.map (·.id)).Perm users

instance (game : Id) (turn : Turn) (word : Word) (users : List Id) :
    Decidable (s.OnStage game turn word users) :=
  let asked := s.books.store.latestTurn game = .ok (some turn) ∧
    s.books.store.findWord turn.wordId = some word
  match read : s.books.store.activePlayers game with
  | .ok active =>
    decidable_of_iff (asked ∧ (active.map (·.id)).Perm users)
      ⟨fun h => ⟨h.1.1, h.1.2, active, read, h.2⟩, fun h => ⟨⟨h.latest, h.found⟩, by
        obtain ⟨active', read', same⟩ := h.active
        obtain rfl := Except.ok.inj (read.symm.trans read')
        exact same⟩⟩
  | .error f => isFalse fun h => by
    obtain ⟨active, read', -⟩ := h.active
    cases read.symm.trans read'

end Service

/-! ## Finders -/

/-- The user who is right about the word in this moment, with a guess in the game. -/
def Moment.finder? (game : Id) (word : Word) (users : List Id) (m : Moment) : Option Id :=
  match m.deed with
  | .call (.guess g user content) =>
    if g = game ∧ user ∈ users ∧ Secret.sameWord content word.word = true then some user else none
  | _ => none

/-- The users who have been right about the word, in the order in which they first were. -/
def finders (game : Id) (word : Word) (users : List Id) (ms : List Moment) : List Id :=
  (ms.filterMap (Moment.finder? game word users)).eraseDups

theorem eraseDups_concat {α : Type} [DecidableEq α] (l : List α) (a : α) :
    (l ++ [a]).eraseDups = if a ∈ l.eraseDups then l.eraseDups else l.eraseDups ++ [a] := by
  rw [List.eraseDups_append]
  by_cases before : a ∈ l
  · have gone : [a].removeAll l = [] := by simp [List.removeAll, before]
    rw [gone, if_pos (List.mem_eraseDups.2 before), List.eraseDups_nil, List.append_nil]
  · have kept : [a].removeAll l = [a] := by simp [List.removeAll, before]
    rw [kept, if_neg fun mem => before (List.mem_eraseDups.1 mem)]
    rfl

section Finders

variable {game : Id} {word : Word} {users : List Id}

theorem finders_concat (ms : List Moment) (m : Moment) :
    finders game word users (ms ++ [m]) =
      match m.finder? game word users with
      | some user =>
        if user ∈ finders game word users ms then finders game word users ms
        else finders game word users ms ++ [user]
      | none => finders game word users ms := by
  unfold finders
  rw [List.filterMap_append]
  cases found : m.finder? game word users with
  | none => rw [List.filterMap_cons_none found, List.filterMap_nil, List.append_nil]
  | some user =>
    rw [List.filterMap_cons_some found, List.filterMap_nil]
    exact eraseDups_concat _ user

theorem mem_users_of_finder {m : Moment} {user : Id} (h : m.finder? game word users = some user) :
    user ∈ users := by
  unfold Moment.finder? at h
  split at h
  · split at h
    · rename_i right
      obtain rfl := Option.some.inj h
      exact right.2.1
    · cases h
  · cases h

theorem finders_subset (ms : List Moment) : finders game word users ms ⊆ users := by
  intro user mem
  obtain ⟨m, -, found⟩ := List.mem_filterMap.1 (List.mem_eraseDups.1 mem)
  exact mem_users_of_finder found

theorem nodup_finders (ms : List Moment) : (finders game word users ms).Nodup := by
  induction ms using List.reverseRecOn with
  | nil => exact .nil
  | append_singleton ms m ih =>
    rw [finders_concat]
    split
    · split
      · exact ih
      · rename_i new
        exact List.nodup_append_comm.1 (List.nodup_cons.2 ⟨new, ih⟩)
    · exact ih

theorem length_finders_le (ms : List Moment) : (finders game word users ms).length ≤ users.length :=
  ((nodup_finders ms).subperm (finders_subset ms)).length_le

end Finders

/-! ## A turn, moment by moment -/

/-- Whether with this moment, and not before, all of the users have been right. -/
def Moment.completes (game : Id) (word : Word) (users : List Id) (past : List Moment) (m : Moment) :
    Bool :=
  decide ((finders game word users past).length < users.length ∧
    (finders game word users (past ++ [m])).length = users.length)

/-- In the moment, which comes after those past, the score is as it should be. -/
structure Moment.KeepsScore (basePoints : Int) (game turn : Id) (word : Word) (users : List Id)
    (past : List Moment) (m : Moment) : Prop where
  before : m.before.earned game turn =
    shares basePoints users.length (finders game word users past)
  after : m.after.earned game turn =
    shares basePoints users.length (finders game word users (past ++ [m]))
  ends : ∀ user content, m.deed = .call (.guess game user content) →
    m.added.flatMap Job.endings = (if m.completes game word users past then [game] else []) ∧
    m.added.filterMap Job.advance? =
      if m.completes game word users past then
        [(m.before.now + m.before.settings.turnDelay, game)] else []

/-- Of those active, as many have found the word as have earned something, and the guesser. -/
theorem Service.foundCount_eq {s : Service} {game turn user : Id} {active : List Player}
    {users found : List Id} (distinct : users.Nodup) (same : (active.map (·.id)).Perm users)
    (once : found.Nodup) (among : found ⊆ users) (sofar : (s.earned game turn).map Prod.fst = found)
    (new : user ∉ found) :
    s.books.ledger.foundCount active game user turn = found.length + 1 := by
  have others : (users.filter fun v =>
      v != user && s.books.ledger.hasFound game v turn).Perm found := by
    refine (List.perm_ext_iff_of_nodup (distinct.filter _) once).2 fun v => ?_
    rw [List.mem_filter, Bool.and_eq_true, bne_iff_ne, hasFound_iff_earned, sofar]
    exact ⟨fun mem => mem.2.2, fun mem => ⟨among mem, fun own => new (own ▸ mem), mem⟩⟩
  rw [Ledger.foundCount_eq_map, (same.filter _).length_eq, others.length_eq, Nat.add_comm]

namespace Operation.Took

variable {game : Id} {u : User} {content : String} {turn : Turn} {word : Word} {active : List Player}
  {m : Message} {verdict : Verdict} {s t : Service}
  (h : Took game u content turn word active m verdict s t)
include h

/-- Something is earned in the game and the turn of the guess, and nowhere else. -/
theorem earned (g begun : Id) : t.earned g begun = s.earned g begun ++
    if game = g ∧ turn.id = begun then (verdict.points?.map (u.id, ·)).toList else [] := by
  have ledger := congrArg Ledger.awards h.judged.ledger_eq
  rw [h.line] at ledger
  cases points : verdict.points? with
  | none =>
    rw [points] at ledger
    rw [Service.earned_of_awards (ledger.trans (List.append_nil _))]
    simp
  | some p =>
    rw [points] at ledger
    exact Service.earned_of_append ledger

/-- The guess adds its player to those who have been right, and the share that is due, if it is right
and the first one to be so; the verdict ends the turn if all have been right then. -/
theorem keeps {users found : List Id} (distinct : users.Nodup) (few : users.length < 2 ^ 63)
    (same : (active.map (·.id)).Perm users) (once : found.Nodup) (among : found ⊆ users)
    (sofar : s.earned game turn.id = shares s.settings.basePoints users.length found) :
    let found' := if Secret.sameWord content word.word = true then
      if u.id ∈ found then found else found ++ [u.id] else found
    t.earned game turn.id = shares s.settings.basePoints users.length found' ∧
      (verdict.endsTurn = true ↔ found.length < users.length ∧ found'.length = users.length) := by
  intro found'
  have names : (s.earned game turn.id).map Prod.fst = found := by rw [sofar, map_fst_shares]
  have earned := h.earned game turn.id
  rw [if_pos ⟨rfl, rfl⟩, sofar] at earned
  have length : active.length = users.length := by rw [← same.length_eq, List.length_map]
  have lacking : s.books.ledger.hasFound game u.id turn.id = true ↔ u.id ∈ found := by
    rw [Service.hasFound_iff_earned, names]
  have unfinished : false = true ↔ found.length < users.length ∧
      found.length = users.length := by
    constructor
    · intro never
      cases never
    · omega
  have judged := h.judged
  rw [h.line] at judged
  generalize t.books.ledger = l' at judged
  cases judged with
  | miss other =>
    have same' : found' = found := if_neg (by rw [other]; decide)
    rw [same']
    exact ⟨earned.trans (List.append_nil _), unfinished⟩
  | again right found_ =>
    have same' : found' = found := (if_pos right).trans (if_pos (lacking.1 found_))
    rw [same']
    exact ⟨earned.trans (List.append_nil _), unfinished⟩
  | scored points turnOver right open_ worth ends =>
    have new : u.id ∉ found := fun mem => by
      rw [lacking.2 mem] at open_
      cases open_
    have longer : found' = found ++ [u.id] := (if_pos right).trans (if_neg new)
    have count := s.foundCount_eq distinct same once among names new
    rw [longer]
    constructor
    · rw [earned, shares_concat, worth, count, length]
      unfold Board.guessPoints
      rw [Board.signed64_of_lt ((Nat.div_le_self _ _).trans_lt few)]
      rfl
    · rw [show (Verdict.scored points turnOver).endsTurn = turnOver from rfl, ends, count, length,
        beq_iff_eq, List.length_append, List.length_singleton]
      omega

end Operation.Took

namespace Moment

variable {game : Id} {turn : Turn} {word : Word} {users : List Id} {past : List Moment}
  {basePoints : Int}

/-- A moment in which nobody is right and nothing is earned keeps the score. -/
theorem keepsScore_of_quiet {m : Moment} {begun : Id}
    (sofar : m.before.earned game begun =
      shares basePoints users.length (finders game word users past))
    (same : m.after.earned game begun = m.before.earned game begun)
    (nobody : m.finder? game word users = none)
    (other : ∀ user content, m.deed ≠ .call (.guess game user content)) :
    m.KeepsScore basePoints game begun word users past where
  before := sofar
  after := by
    rw [finders_concat, nobody, same]
    exact sofar
  ends user content asked := absurd asked (other user content)

theorem keepsScore_guess {s : Service} {user : Id} {content : String} (kept : s.WellKept)
    (stage : s.OnStage game turn word users) (distinct : users.Nodup) (few : users.length < 2 ^ 63)
    (sofar : s.earned game turn.id =
      shares s.settings.basePoints users.length (finders game word users past)) :
    KeepsScore s.settings.basePoints game turn.id word users past
      ⟨s, .call (.guess game user content), ((Operation.guess game user content).run s).2⟩ := by
  obtain ⟨active, read, same⟩ := stage.active
  generalize taken : (Operation.guess game user content).run s = result
  obtain ⟨r, t⟩ := result
  have ends := Operation.took_guess s game user content
  unfold Operation.Ends at ends
  rw [taken] at ends
  obtain ⟨x, failed, ledger, jobs⟩ | ⟨u, turn', word', active', m, verdict, rfl, -, took⟩ := ends
  · -- only someone who has no active seat can be refused
    have nobody : finder? game word users ⟨s, .call (.guess game user content), t⟩ = none := by
      refine if_neg fun ⟨_, seated, _⟩ => ?_
      obtain ⟨post, succeeds⟩ := Operation.guess_succeeds kept.books stage.latest stage.found read
        (same.mem_iff.2 seated) content
      rw [taken, failed] at succeeds
      cases succeeds
    have unfinished : completes game word users past
        ⟨s, .call (.guess game user content), t⟩ = false := by
      refine decide_eq_false fun ⟨less, all⟩ => ?_
      rw [finders_concat, nobody] at all
      exact less.ne all
    refine ⟨sofar, ?_, fun _ _ _ => ?_⟩
    · rw [finders_concat, nobody]
      exact (Service.earned_of_awards (congrArg Ledger.awards ledger)).trans sofar
    · rw [unfinished, added]
      dsimp only
      rw [jobs, List.drop_length]
      exact ⟨rfl, rfl⟩
  · obtain rfl := Option.some.inj (Except.ok.inj (stage.latest.symm.trans took.latest))
    obtain rfl := Option.some.inj (stage.found.symm.trans took.found)
    obtain rfl := Except.ok.inj (read.symm.trans took.read)
    have right : finder? game word users ⟨s, .call (.guess game u.id content), t⟩ =
        if Secret.sameWord content word.word = true then some u.id else none := by
      unfold finder?
      simp only [same.mem_iff.1 took.seated, true_and]
    have grown : finders game word users (past ++ [⟨s, .call (.guess game u.id content), t⟩]) =
        if Secret.sameWord content word.word = true then
          if u.id ∈ finders game word users past then finders game word users past
          else finders game word users past ++ [u.id]
        else finders game word users past := by
      rw [finders_concat, right]
      by_cases same : Secret.sameWord content word.word = true
      · rw [if_pos same, if_pos same]
      · rw [if_neg same, if_neg same]
    obtain ⟨earned, over_⟩ := took.keeps distinct few same (nodup_finders past) (finders_subset past)
      sofar
    rw [← grown] at earned over_
    refine ⟨sofar, earned, fun _ _ _ => ?_⟩
    have completed : completes game word users past ⟨s, .call (.guess game u.id content), t⟩ =
        verdict.endsTurn := Bool.eq_iff_iff.2 (decide_eq_true_iff.trans over_.symm)
    obtain ⟨jobs, queued, -, endings, advances⟩ := took.queued
    rw [completed, added]
    dsimp only
    rw [queued, List.drop_left]
    exact ⟨endings, advances⟩

/-- Guesses in other games are none of this game's business. -/
theorem earned_of_other_guess {s : Service} {other user : Id} (ne : other ≠ game) (content : String)
    (begun : Id) :
    ((Operation.guess other user content).run s).2.earned game begun = s.earned game begun := by
  obtain ⟨x, -, ledger, -⟩ | ⟨u, turn, word, active, m, verdict, -, -, took⟩ :=
    Operation.took_guess s other user content
  · exact Service.earned_of_awards (congrArg Ledger.awards ledger)
  · rw [took.earned, if_neg fun h => ne h.1, List.append_nil]

theorem keepsScore {m : Moment} (happens : m.Happens) (kept : m.before.WellKept)
    (stage : m.before.OnStage game turn word users) (distinct : users.Nodup)
    (few : users.length < 2 ^ 63) (sofar : m.before.earned game turn.id =
      shares m.before.settings.basePoints users.length (finders game word users past)) :
    m.KeepsScore m.before.settings.basePoints game turn.id word users past := by
  obtain ⟨s, deed, t⟩ := m
  have course := Books.SameAwards.isCourse
  cases deed with
  | call r =>
    obtain rfl : t = (r.operation.run s).2 := happens.2
    by_cases other : ∀ g u c, r ≠ .guess g u c
    · have awards := (Request.sameAwards other).run course s
      refine keepsScore_of_quiet sofar (Service.earned_of_awards awards) ?_ ?_
      · unfold finder?
        split
        · rename_i asked
          exact absurd (Deed.call.inj asked) (other _ _ _)
        · rfl
      · exact fun user content asked => other _ _ _ (Deed.call.inj asked)
    · push Not at other
      obtain ⟨g, user, content, rfl⟩ := other
      have after : ((Request.guess g user content).operation.run s).2 =
          ((Operation.guess g user content).run s).2 := Operation.run_map_snd _ _ s
      rw [after]
      by_cases here : g = game
      · subst here
        exact keepsScore_guess kept stage distinct few sofar
      · refine keepsScore_of_quiet sofar (earned_of_other_guess here content turn.id)
          (if_neg fun h => here h.1) ?_
        rintro user' content' ⟨⟩
        exact here rfl
  | due time e =>
    obtain rfl : t = ((Operation.ofEvent e).run (s.without (.timer time e))).2 := happens.2.2.2.2
    have awards := (Operation.along_ofEvent Books.SameAwards.carries.toCarriesRooms e).run course
      (s.without (.timer time e))
    exact keepsScore_of_quiet sofar (Service.earned_of_awards awards) rfl (by rintro _ _ ⟨⟩)
  | elsewhere =>
    have books : t.books = s.books := (show s.Elsewhere t from happens).books
    exact keepsScore_of_quiet sofar (Service.earned_of_awards (by rw [books])) rfl
      (by rintro _ _ ⟨⟩)

theorem Happens.settings {m : Moment} (happens : m.Happens) :
    m.after.settings = m.before.settings := by
  have asked (r : Request) (s : Service) : (r.operation.run s).2.settings = s.settings :=
    Script.Along.run (R := fun s t : Service => t.settings = s.settings) (fun _ => rfl)
      (fun h h' => h'.trans h) (r.strides.mono fun _ _ => Service.Stride.settings) s
  obtain ⟨s, deed, t⟩ := m
  cases deed with
  | call r =>
    obtain rfl : t = (r.operation.run s).2 := happens.2
    exact asked r s
  | due time e =>
    obtain rfl : t = ((Operation.ofEvent e).run (s.without (.timer time e))).2 := happens.2.2.2.2
    have same := asked (.event e) (s.without (.timer time e))
    rw [show ((Request.event e).operation.run (s.without (.timer time e))).2 = _ from
      Operation.run_map_snd _ _ _] at same
    exact same
  | elsewhere => exact (show s.Elsewhere t from happens).settings

end Moment

/-! ## A turn from its beginning -/

/-- Through all of a run the score is kept as it should be. -/
theorem Service.Run.keepsScore {game : Id} {turn : Turn} {word : Word} {users : List Id}
    (distinct : users.Nodup) (few : users.length < 2 ^ 63) {s : Service} {ms : List Moment}
    (run : s.Run ms) (kept : s.WellKept) (stage : ∀ m ∈ ms, m.before.OnStage game turn word users)
    (past : List Moment) (sofar : s.earned game turn.id =
      shares s.settings.basePoints users.length (finders game word users past)) :
    ∀ before m rest, ms = before ++ m :: rest →
      m.KeepsScore s.settings.basePoints game turn.id word users (past ++ before) := by
  induction ms generalizing s past with
  | nil => exact fun before m rest whole => absurd whole (by simp)
  | cons first ms ih =>
    obtain ⟨rfl, happens, run⟩ := run
    have now := Moment.keepsScore happens kept (stage first List.mem_cons_self) distinct few sofar
    intro before m rest whole
    cases before with
    | nil =>
      obtain ⟨rfl, -⟩ := List.cons.inj whole
      rw [List.append_nil]
      exact now
    | cons _ before =>
      obtain ⟨rfl, others⟩ := List.cons.inj whole
      have later := ih run (happens.wellKept kept) (fun m mem => stage m (List.mem_cons_of_mem _ mem))
        (past ++ [first]) (by rw [happens.settings]; exact now.after) before m rest others
      rw [happens.settings, List.append_assoc] at later
      exact later

/-- Whatever calls are carried out side by side, an award is the base times a share of the active
players of the moment, at least one and at most all of them. In a turn that begins without awards and
in which the active players of the game stay the same, whatever else goes on: those who are right get
their shares in the order in which they first are, the turn is announced to have ended, and an advance
scheduled, by the guess with which the last one is right and by no other, and nothing is earned after
that. -/
theorem scoring_law (s : Service) :
    (∀ (moves : List (Interleaving.Move Service Call Service.IsApart))
        (move : Interleaving.Move Service Call Service.IsApart),
      let w := (⟨s, []⟩ : Service.Calls).play Call.operation moves
      let w' := w.move Call.operation move
      w'.state.books.ledger.awards = w.state.books.ledger.awards ∨
        ∃ i e a active k, move = .step i ∧ w.errands[i]? = some e ∧
          e.task.Guesses a.gameId a.playerId ∧
          w'.state.books.ledger.awards = w.state.books.ledger.awards ++ [a] ∧
          w.state.books.store.activePlayers a.gameId = .ok active ∧
          1 ≤ k ∧ k ≤ active.length ∧ 1 ≤ active.length / k ∧ active.length / k ≤ active.length ∧
          a.points = s.settings.basePoints * Board.signed64 (active.length / k) ∧
          (active.length < 2 ^ 63 → Board.signed64 (active.length / k) = (active.length / k : Nat))) ∧
    ∀ (game : Id) (turn : Turn) (word : Word) (users : List Id) (ms : List Moment),
      s.WellKept → s.Run ms → users.Nodup → users.length < 2 ^ 63 → s.earned game turn.id = [] →
      (∀ m ∈ ms, m.before.OnStage game turn word users) →
      ∀ past m rest, ms = past ++ m :: rest →
        m.KeepsScore s.settings.basePoints game turn.id word users past ∧
        ((finders game word users past).length = users.length →
          m.after.earned game turn.id = m.before.earned game turn.id) := by
  refine ⟨fun moves move => ?_, fun game turn word users ms kept run distinct few none stage => ?_⟩
  · intro w w'
    obtain same | ⟨i, e, a, active, rfl, here, asked, earned, awards⟩ :=
      Service.award_change_of_move (Interleaving.traced_play Call.operation s moves) move
    · exact .inl same
    · rw [s.settings_play moves] at earned
      obtain ⟨k, one_le, le, share, most, points⟩ := earned.share
      exact .inr ⟨i, e, a, active, k, rfl, here, asked, awards, earned.read, one_le, le, share,
        most, points, fun few => Board.signed64_of_lt (most.trans_lt few)⟩
  · intro past m rest whole
    have keeps := run.keepsScore distinct few kept stage [] none past m rest whole
    rw [List.nil_append] at keeps
    refine ⟨keeps, fun all => ?_⟩
    -- there is nobody left to be right for the first time
    have same : finders game word users (past ++ [m]) = finders game word users past := by
      have le : (finders game word users (past ++ [m])).length ≤ users.length := length_finders_le _
      rw [finders_concat] at le ⊢
      split at le
      · split at le
        · rename_i _ mem
          rw [if_pos mem]
        · rw [List.length_append, List.length_singleton] at le
          omega
      · rfl
    rw [keeps.after, keeps.before, same]

/-! ## A turn of two -/

/-- Two users sit at a table, and nobody has guessed so far. -/
def Service.tableOfTwo : Service :=
  let s := Service.opening [⟨"w", "apple", "🍎"⟩]
  [Request.initUser, .initUser, .initGame "|", .join "||||||||||" "|||||"].foldl
    (fun s r => (r.operation.run s).2) s

/-- The second user is right at once, and again; the first one is right after a wrong guess, and
somebody who is not there takes part in vain. -/
def Service.turnOfTwo : List Moment :=
  let game := "||||||||||"
  Service.tableOfTwo.follow [.call (.guess game "|" "pear"), .call (.guess game "|||||" "Apple"),
    .call (.guess game "nobody" "apple"), .call (.guess game "|||||" "apple"),
    .call (.say game "|" "hm"), .call (.guess game "|" "apple"), .call (.guess game "|||||" "apple")]

theorem Service.wellKept_tableOfTwo : tableOfTwo.WellKept := by
  have start : (opening [⟨"w", "apple", "🍎"⟩]).WellKept :=
    .of_isBlank rfl rfl (by decide) (by decide) Supply.counting_injective rfl
  exact (((start.call (r := .initUser) (by rintro _ ⟨⟩)).call (r := .initUser) (by rintro _ ⟨⟩)).call
    (r := .initGame "|") (by rintro _ ⟨⟩)).call (r := .join "||||||||||" "|||||") (by rintro _ ⟨⟩)

theorem scoring_law_of_two :
    let game := "||||||||||"
    let turn : Turn := ⟨"||||||||||||", game, "w", Supply.tick 11⟩
    let word : Word := ⟨"w", "apple", "🍎"⟩
    Service.tableOfTwo.WellKept ∧ Service.tableOfTwo.Run Service.turnOfTwo ∧
      Service.tableOfTwo.earned game turn.id = [] ∧
      (∀ m ∈ Service.turnOfTwo, m.before.OnStage game turn word ["|", "|||||"]) ∧
      finders game word ["|", "|||||"] Service.turnOfTwo = ["|||||", "|"] ∧
      Service.turnOfTwo.getLast?.map (fun m => m.after.earned game turn.id) =
        some [("|||||", 20), ("|", 10)] ∧
      ∀ past m rest, Service.turnOfTwo = past ++ m :: rest →
        m.KeepsScore 10 game turn.id word ["|", "|||||"] past := by
  intro game turn word
  have run : Service.tableOfTwo.Run Service.turnOfTwo := Service.run_follow (by decide +kernel)
  have none : Service.tableOfTwo.earned game turn.id = [] := by decide +kernel
  have stage : ∀ m ∈ Service.turnOfTwo, m.before.OnStage game turn word ["|", "|||||"] := by
    decide +kernel
  have law := (scoring_law Service.tableOfTwo).2 game turn word ["|", "|||||"] Service.turnOfTwo
    Service.wellKept_tableOfTwo run (by decide) (by decide) none stage
  exact ⟨Service.wellKept_tableOfTwo, run, none, stage, by decide +kernel, by decide +kernel,
    fun past m rest whole => (law past m rest whole).1⟩

end GuessingRoom
