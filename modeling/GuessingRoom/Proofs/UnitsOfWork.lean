import GuessingRoom.Proofs.Course
import GuessingRoom.Proofs.Writes

/-!
# Units of work

A session makes writes on a store, some of them in units of work and any of them in vain. At every
point of it the store answers like one on which only those writes were made that have succeeded
outside of units and in committed ones, one after another and in no unit
(`Store.Recalls`); and the draft of an open unit answers like one on which the unit's own writes
were made as well. What a write has given back is found again as it was.

While a unit is open nobody else gets at the store: the writes of that time are the unit's own, and
whoever wants to begin another unit, or to put down a user, has to wait.
-/

namespace GuessingRoom

/-! ## Sessions -/

namespace Store

/-- Whatever is looked up of games in the store is as if just these writes had been made, beginning
with the first store; and what they gave back is in the store. -/
structure Recalls (start : Store) (puts : List Put) (s : Store) : Prop where
  replayed : ∃ t, (start.refusing false).Replays puts t ∧ s.ReadsAlike t
  games : ∀ g ∈ Put.games puts, s.findGame g.id = .ok (some g)
  latestTurn : ∀ game,
    s.latestTurn game = .ok ((Put.turns puts).filter (·.gameId == game)).getLast?
  messages : ∀ game, s.messages game = .ok ((Put.messages puts).filter (·.gameId == game))

end Store

/-- How a unit ends. One that is dropped was neither committed nor rolled back. -/
inductive Ending where
  | commit
  | rollback
  | drop
deriving DecidableEq, Repr

inductive Act where
  | write (w : Write)
  | begin
  | finish (e : Ending)
  /-- Scores are refused from now on, or not refused any more. -/
  | refuse (b : Bool)
deriving DecidableEq, Repr

structure Session where
  live : Store
  /-- The draft of the open unit. -/
  draft : Option Store := none
  /-- How many stamps have been used up. -/
  drawn : Nat := 0
  /-- The writes that have succeeded outside of units or in committed ones. -/
  kept : List Put := []
  /-- The writes that have succeeded in the open unit. -/
  staged : List Put := []
  /-- How the units have ended. -/
  ended : List Ending := []
deriving DecidableEq, Repr

namespace Session

/-- Notes a write that has succeeded and left a store. -/
def note (p : Put) (after : Store) (s : Session) : Session :=
  match s.draft with
  | some _ => { s with draft := some after, staged := s.staged ++ [p] }
  | none => { s with live := after, kept := s.kept ++ [p] }

/-- A write goes to the draft of the open unit, or else to the store. -/
def write (supply : Supply) (w : Write) (s : Session) : Session :=
  let stamp := supply.stamp s.drawn
  match w.make stamp (s.draft.getD s.live) with
  | .ok (made, after) => { s.note ⟨w, stamp, made⟩ after with drawn := s.drawn + 1 }
  | .error _ => { s with drawn := s.drawn + 1 }

/-- Ends the open unit, if there is one. -/
def finish (e : Ending) (s : Session) : Session :=
  match s.draft with
  | none => s
  | some draft =>
    let closed := { s with draft := none, staged := [], ended := s.ended ++ [e] }
    match e with
    | .commit => { closed with live := WorkUnit.commit ⟨s.live, draft⟩, kept := s.kept ++ s.staged }
    | .rollback | .drop => { closed with live := WorkUnit.abandon ⟨s.live, draft⟩ }

/-- Whether the act cannot be done while the unit is open. -/
def waits (s : Session) : Act → Bool
  | .write w => s.draft.isSome && w.isUpsert
  | .begin => s.draft.isSome
  | _ => false

def step (supply : Supply) (s : Session) (a : Act) : Session :=
  if s.waits a then s
  else match a with
    | .write w => s.write supply w
    | .begin => { s with draft := some s.live }
    | .finish e => s.finish e
    | .refuse b => { s with live := s.live.refusing b, draft := s.draft.map (Store.refusing b) }

def run (supply : Supply) (s : Session) (acts : List Act) : Session := acts.foldl (step supply) s

/-- What holds at every point of a session that has begun with the given store. -/
structure Lawful (start : Store) (s : Session) : Prop where
  live : start.Recalls s.kept s.live
  draft : ∀ draft, s.draft = some draft → start.Recalls (s.kept ++ s.staged) draft
  counts : ∀ m, start = .memory m → ∃ n, s.live = .memory n ∧
    n.commits = m.commits + s.ended.count .commit ∧
    n.rollbacks = m.rollbacks + (s.ended.count .rollback + s.ended.count .drop) ∧
    n.commits + n.rollbacks = m.commits + m.rollbacks + s.ended.length

end Session
/-! ## Stores that keep what was put down -/

theorem filterMap_snoc {α β : Type} (f : α → Option β) (l : List α) (a : α) :
    (l ++ [a]).filterMap f = l.filterMap f ++ (f a).toList := by
  rw [List.filterMap_append]
  cases h : f a <;> simp [h]

namespace Put

variable (puts : List Put) (p : Put)

theorem games_snoc : games (puts ++ [p]) = games puts ++ p.made.game?.toList :=
  filterMap_snoc _ _ _

theorem turns_snoc : turns (puts ++ [p]) = turns puts ++ p.made.turn?.toList :=
  filterMap_snoc _ _ _

theorem messages_snoc : messages (puts ++ [p]) = messages puts ++ p.made.message?.toList :=
  filterMap_snoc _ _ _

end Put

namespace Store

variable {supply : Supply} {drawn : Nat} {start s s' : Store} {puts : List Put}

/-- The writes have left the rows of the store, and what they gave back are its models. The games
among these were given the identifiers of different draws. -/
structure Keeps (supply : Supply) (drawn : Nat) (start : Store) (puts : List Put) (s : Store) :
    Prop where
  replayed : ∃ t, (start.refusing false).Replays puts t ∧ s.rows = t.rows ∧ t.refusing false = t
  holds : ∃ t, s.Holds supply drawn t ∧
    t.games = Put.games puts ∧ t.turns = Put.turns puts ∧ t.messages = Put.messages puts
  drawn : ∃ ns : List Nat, ns.Pairwise (· < ·) ∧ (∀ n ∈ ns, n < drawn) ∧
    (Put.games puts).map (·.id) = ns.map supply.id

namespace Keeps

theorem of_isBlank (blank : start.IsBlank) : start.Keeps supply 0 [] start := by
  refine ⟨⟨_, rfl, (rows_refusing false).symm, ?_⟩, ⟨{}, ?_, rfl, rfl, rfl⟩, ⟨[], .nil, ?_, rfl⟩⟩
  · cases start <;> rfl
  · exact .of_isBlank blank
  · simp

theorem later (h : start.Keeps supply drawn puts s) : start.Keeps supply (drawn + 1) puts s := by
  obtain ⟨t, holds, made⟩ := h.holds
  obtain ⟨ns, sorted, before, ids⟩ := h.drawn
  exact ⟨h.replayed, ⟨t, holds.later (Nat.le_succ _), made⟩,
    ⟨ns, sorted, fun n mem => (before n mem).trans (Nat.lt_succ_self _), ids⟩⟩

theorem of_rows (h : start.Keeps supply drawn puts s) (rows : s'.rows = s.rows) :
    start.Keeps supply drawn puts s' := by
  obtain ⟨r, replays, same, accepts⟩ := h.replayed
  obtain ⟨t, holds, made⟩ := h.holds
  exact ⟨⟨r, replays, rows.trans same, accepts⟩, ⟨t, holds.of_rows rows, made⟩, h.drawn⟩

/-- A write that succeeds is one more. -/
theorem write (h : start.Keeps supply drawn puts s) {w : Write} {made : Made}
    (succeeds : w.make (supply.stamp drawn) s = .ok (made, s')) :
    start.Keeps supply (drawn + 1) (puts ++ [⟨w, supply.stamp drawn, made⟩]) s' := by
  obtain ⟨r, replays, rows, accepts⟩ := h.replayed
  obtain ⟨r', again, rows', accepts'⟩ := Write.make_of_rows rows accepts succeeds
  obtain ⟨t, holds, games, turns, messages⟩ := h.holds
  obtain ⟨t', holds', adds⟩ := Write.make_holds holds succeeds
  refine ⟨⟨r', replays.snoc again, rows', accepts'⟩, ⟨t', holds', ?_, ?_, ?_⟩, ?_⟩
  · rw [adds.games, games, Put.games_snoc]
  · rw [adds.turns, turns, Put.turns_snoc]
  · rw [adds.messages, messages, Put.messages_snoc]
  · obtain ⟨ns, sorted, before, ids⟩ := h.drawn
    rw [Put.games_snoc, List.map_append, ids]
    cases game : made.game? with
    | none => exact ⟨ns, sorted, fun n mem => (before n mem).trans (Nat.lt_succ_self _), List.append_nil _⟩
    | some g =>
      refine ⟨ns ++ [drawn], ?_, ?_, ?_⟩
      · refine List.pairwise_append.2 ⟨sorted, List.pairwise_singleton _ _, fun n mem k last => ?_⟩
        exact List.mem_singleton.1 last ▸ before n mem
      · intro n mem
        rcases List.mem_append.1 mem with old | new
        · exact (before n old).trans (Nat.lt_succ_self _)
        · exact List.mem_singleton.1 new ▸ Nat.lt_succ_self _
      · rw [List.map_append]
        exact congrArg (_ ++ [·]) (adds.id g game)

theorem recalls (h : start.Keeps supply drawn puts s) (injective : Function.Injective supply.id)
    (clock : supply.RunsOn) : start.Recalls puts s := by
  obtain ⟨r, replays, rows, -⟩ := h.replayed
  obtain ⟨t, holds, games, turns, messages⟩ := h.holds
  obtain ⟨ns, sorted, -, ids⟩ := h.drawn
  refine ⟨⟨r, replays, readsAlike_of_rows rows⟩, fun g mem => ?_, fun game => ?_, fun game => ?_⟩
  · have nodup : (t.games.map (·.id)).Nodup := by
      rw [games, ids]
      exact (sorted.imp Nat.ne_of_lt).map _ fun _ _ => injective.ne
    rw [holds.findGame]
    exact congrArg Except.ok (MemoryTables.findGame_of_mem nodup (games ▸ mem))
  · rw [holds.latestTurn clock, MemoryTables.latestTurn, turns]
  · rw [holds.messages clock, MemoryTables.messagesOf, messages]

end Keeps

end Store

/-! ## Sessions keep what was put down -/

namespace Session

variable {supply : Supply} {start : Store} {s : Session}

/-- The counts of a store in memory tell how the units have ended. -/
def Counted (start : Store) (ended : List Ending) (s : Store) : Prop :=
  ∀ m, start = .memory m → ∃ n, s = .memory n ∧
    n.commits = m.commits + ended.count .commit ∧
    n.rollbacks = m.rollbacks + (ended.count .rollback + ended.count .drop)

/-- What carries the laws from act to act. The draft of a unit has the counts of its store. -/
structure Sound (supply : Supply) (start : Store) (s : Session) : Prop where
  live : start.Keeps supply s.drawn s.kept s.live
  draft : ∀ draft, s.draft = some draft → start.Keeps supply s.drawn (s.kept ++ s.staged) draft
  closed : s.draft = none → s.staged = []
  counted : Counted start s.ended s.live
  counted_draft : ∀ draft, s.draft = some draft → Counted start s.ended draft

theorem Sound.on (supply : Supply) (blank : start.IsBlank) :
    ({ live := start } : Session).Sound supply start where
  live := .of_isBlank blank
  draft := by rintro draft ⟨⟩
  closed := fun _ => rfl
  counted := fun m e => ⟨m, e, rfl, rfl⟩
  counted_draft := by rintro draft ⟨⟩

theorem Counted.write {ended : List Ending} {t t' : Store} (h : Counted start ended t) {w : Write}
    {stamp : Stamp} {made : Made} (succeeds : w.make stamp t = .ok (made, t')) :
    Counted start ended t' := by
  intro m e
  obtain ⟨n, rfl, counts⟩ := h m e
  obtain ⟨tables, rfl, -⟩ := Write.make_memory succeeds
  exact ⟨_, rfl, counts⟩

theorem Counted.refusing {ended : List Ending} {t : Store} (h : Counted start ended t) (b : Bool) :
    Counted start ended (t.refusing b) := by
  intro m e
  obtain ⟨n, rfl, counts⟩ := h m e
  exact ⟨_, rfl, counts⟩

theorem Counted.commit {ended : List Ending} {base draft : Store} (h : Counted start ended draft) :
    Counted start (ended ++ [.commit]) (WorkUnit.commit ⟨base, draft⟩) := by
  intro m e
  obtain ⟨n, rfl, commits, rollbacks⟩ := h m e
  refine ⟨_, rfl, ?_, ?_⟩
  · show n.commits + 1 = _
    rw [commits, List.count_append, List.count_singleton_self, Nat.add_assoc]
  · rw [List.count_append, List.count_append]
    exact rollbacks

theorem Counted.abandon {ended : List Ending} {base draft : Store} (h : Counted start ended base)
    {e : Ending} (given_up : e ≠ .commit) :
    Counted start (ended ++ [e]) (WorkUnit.abandon ⟨base, draft⟩) := by
  intro m start
  obtain ⟨n, rfl, commits, rollbacks⟩ := h m start
  refine ⟨_, rfl, ?_, ?_⟩
  · rw [List.count_append, List.count_singleton, if_neg (by simpa using given_up)]
    exact commits
  · show n.rollbacks + 1 = _
    rw [rollbacks, List.count_append, List.count_append]
    cases e with
    | commit => exact absurd rfl given_up
    | rollback => exact congrArg (m.rollbacks + ·) (Nat.add_right_comm _ _ 1)
    | drop => rfl

namespace Sound

theorem write (h : s.Sound supply start) (w : Write) : (s.write supply w).Sound supply start := by
  unfold Session.write
  dsimp only
  split
  · rename_i made after succeeds
    unfold note
    cases open_ : s.draft with
    | none =>
      rw [open_] at succeeds
      have kept := h.live.write succeeds
      exact {
        live := kept
        draft := by rintro draft ⟨⟩
        closed := fun _ => h.closed open_
        counted := h.counted.write succeeds
        counted_draft := by rintro draft ⟨⟩ }
    | some draft =>
      rw [open_] at succeeds
      have staged := (h.draft draft open_).write succeeds
      rw [List.append_assoc] at staged
      exact {
        live := h.live.later
        draft := by
          rintro draft ⟨⟩
          exact staged
        closed := by rintro ⟨⟩
        counted := h.counted
        counted_draft := by
          rintro draft ⟨⟩
          exact (h.counted_draft _ open_).write succeeds }
  · exact { h with live := h.live.later, draft := fun draft open_ => (h.draft draft open_).later }

theorem finish (h : s.Sound supply start) (e : Ending) : (s.finish e).Sound supply start := by
  unfold Session.finish
  cases open_ : s.draft with
  | none => exact h
  | some draft =>
    have given_up (not_kept : e ≠ .commit) : Sound supply start
        { s with
          live := WorkUnit.abandon ⟨s.live, draft⟩, draft := none, staged := []
          ended := s.ended ++ [e] } := {
      live := h.live.of_rows (WorkUnit.rows_abandon _)
      draft := by rintro draft ⟨⟩
      closed := fun _ => rfl
      counted := h.counted.abandon not_kept
      counted_draft := by rintro draft ⟨⟩ }
    cases e with
    | commit => exact {
        live := (h.draft draft open_).of_rows (WorkUnit.rows_commit _)
        draft := by rintro draft ⟨⟩
        closed := fun _ => rfl
        counted := (h.counted_draft draft open_).commit
        counted_draft := by rintro draft ⟨⟩ }
    | rollback => exact given_up (by decide)
    | drop => exact given_up (by decide)

theorem begin (h : s.Sound supply start) (free : s.draft = none) :
    Sound supply start { s with draft := some s.live } where
  live := h.live
  draft := by
    rintro draft ⟨⟩
    rw [h.closed free, List.append_nil]
    exact h.live
  closed := by rintro ⟨⟩
  counted := h.counted
  counted_draft := by
    rintro draft ⟨⟩
    exact h.counted

theorem refuse (h : s.Sound supply start) (b : Bool) : Sound supply start
    { s with live := s.live.refusing b, draft := s.draft.map (Store.refusing b) } where
  live := h.live.of_rows (Store.rows_refusing b)
  draft draft e := by
    obtain ⟨d, open_, rfl⟩ := Option.map_eq_some_iff.1 e
    exact (h.draft d open_).of_rows (Store.rows_refusing b)
  closed e := h.closed (Option.map_eq_none_iff.1 e)
  counted := h.counted.refusing b
  counted_draft draft e := by
    obtain ⟨d, open_, rfl⟩ := Option.map_eq_some_iff.1 e
    exact (h.counted_draft d open_).refusing b

theorem step (h : s.Sound supply start) (a : Act) : (s.step supply a).Sound supply start := by
  unfold Session.step
  split
  · exact h
  · rename_i free
    cases a with
    | write w => exact h.write w
    | begin => exact h.begin (by simpa [waits] using free)
    | finish e => exact h.finish e
    | refuse b => exact h.refuse b

theorem run (h : s.Sound supply start) (acts : List Act) :
    (s.run supply acts).Sound supply start := by
  induction acts generalizing s with
  | nil => exact h
  | cons a acts ih => exact ih (h.step a)

end Sound

end Session

theorem Ending.count_add (l : List Ending) :
    l.count .commit + (l.count .rollback + l.count .drop) = l.length := by
  induction l with
  | nil => rfl
  | cons e l ih =>
    rw [List.length_cons, ← ih]
    cases e <;> simp <;> omega

/-- Whatever is written on a blank store, outside of units and in units that end in whatever way,
with writes that fail among them: at the end, as at every point before, the store answers as if only
the writes that succeeded outside of units and in committed ones had been made, the draft of an open
unit as if its own writes had been made after them, and what these writes gave back is found as it
was given back. In memory every unit that has ended is counted once. -/
theorem units_keep_all_or_nothing (supply : Supply) (injective : Function.Injective supply.id)
    (clock : supply.RunsOn) (start : Store) (blank : start.IsBlank) (acts : List Act) :
    (Session.run supply { live := start } acts).Lawful start := by
  have sound := (Session.Sound.on supply blank).run acts
  refine ⟨sound.live.recalls injective clock,
    fun draft open_ => (sound.draft draft open_).recalls injective clock, fun m e => ?_⟩
  obtain ⟨n, live, commits, rollbacks⟩ := sound.counted m e
  refine ⟨n, live, commits, rollbacks, ?_⟩
  rw [← Ending.count_add, commits, rollbacks]
  omega

/-- A committed unit and a dropped one. A write of the first one fails, and the user who is to be put
down while it is open has to wait. -/
def Session.commitThenDrop : List Act :=
  [.write (.upsertUser "cat" "SillyCat"), .write .createGame, .begin,
    .write (.addPlayer "||" "cat"), .write (.addPlayer "||" "cat"), .write (.addTurn "||" "w"),
    .write (.upsertUser "owl" "WiseOwl"), .finish .commit, .begin,
    .write (.addMessage "||" "|||||" "cat" "hello"), .finish .drop]

theorem units_keep_all_or_nothing_in_rows :
    let start := Store.relational { words := [⟨"w", "apple", "🍎"⟩] }
    let s := Session.run .counting { live := start } Session.commitThenDrop
    Function.Injective Supply.counting.id ∧ Supply.counting.RunsOn ∧ start.IsBlank ∧
      s.Lawful start ∧ s.ended = [.commit, .drop] ∧ s.kept.map (·.write) =
        [.upsertUser "cat" "SillyCat", .createGame, .addPlayer "||" "cat", .addTurn "||" "w"] := by
  have blank : (Store.relational { words := [⟨"w", "apple", "🍎"⟩] }).IsBlank := rfl
  refine ⟨Supply.counting_injective, Supply.counting_runsOn, blank, ?_, ?_, ?_⟩
  · exact units_keep_all_or_nothing _ Supply.counting_injective Supply.counting_runsOn _ blank _
  · decide +kernel
  · decide +kernel

end GuessingRoom