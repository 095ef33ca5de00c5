import GuessingRoom.Script

/-!
# Scripts side by side

Tasks that share a state are carried out by scripts, one step of any of them at a time. What a task
ends with is secured by a discipline: an invariant of the state, a relation that no step leaves, and
for each task what is to hold at its end, whatever the others do meanwhile. A script secures its task
(`Discipline.Secures`) if each of its steps keeps to the discipline wherever the others have left
the state. If all scripts do, every interleaving of them keeps the invariant and every task ends as
it should (`Discipline.Sound.play`).
-/

namespace GuessingRoom

open Script

/-! ## Scripts along a relation -/

namespace Script

variable {σ α β : Type} {R : σ → σ → Prop}

/-- Every step goes along the relation, from whatever state it is taken. -/
def Along (R : σ → σ → Prop) : Script σ α → Prop
  | done _ => True
  | step effect next => ∀ s, R s (effect s) ∧ Along R (next s)

theorem Along.bind {x : Script σ α} {k : α → Script σ β} (hx : x.Along R)
    (hk : ∀ a, (k a).Along R) : (x >>= k).Along R := by
  show (x.bind k).Along R
  induction x with
  | done a => exact hk a
  | step effect next ih => exact fun s => ⟨(hx s).1, ih s (hx s).2⟩

theorem Along.mono {S : σ → σ → Prop} {x : Script σ α} (h : x.Along R) (imp : ∀ s t, R s t → S s t) :
    x.Along S := by
  induction x with
  | done a => trivial
  | step effect next ih => exact fun s => ⟨imp _ _ (h s).1, ih s (h s).2⟩

theorem Along.and {S : σ → σ → Prop} {x : Script σ α} (h : x.Along R) (h' : x.Along S) :
    x.Along fun s t => R s t ∧ S s t := by
  induction x with
  | done a => trivial
  | step effect next ih => exact fun s => ⟨⟨(h s).1, (h' s).1⟩, ih s (h s).2 (h' s).2⟩

/-- All steps in a row go along a relation that can be put together. -/
theorem Along.run {x : Script σ α} (refl : ∀ s, R s s) (trans : ∀ {s t u}, R s t → R t u → R s u)
    (h : x.Along R) (s : σ) : R s (x.run s).2 := by
  induction x generalizing s with
  | done a => exact refl s
  | step effect next ih => exact trans (h s).1 (ih s (h s).2 (effect s))

end Script

/-! ## Tasks side by side -/

/-- A task under way: the states that its steps have found, and what is left of its script. -/
structure Errand (σ τ α : Type) where
  task : τ
  found : List σ := []
  rest : Script σ α

/-- The state, and all tasks that were ever begun. -/
structure Interleaving (σ τ α : Type) where
  state : σ
  errands : List (Errand σ τ α) := []

namespace Errand

variable {σ τ α : Type}

/-- What the task has ended with. -/
def result? (e : Errand σ τ α) : Option α :=
  match e.rest with
  | .done a => some a
  | .step .. => none

theorem result?_eq_some_iff {e : Errand σ τ α} {a : α} : e.result? = some a ↔ e.rest = .done a := by
  unfold result?
  cases e.rest <;> simp

/-- The state and the errand after its next step. -/
def advance (e : Errand σ τ α) (s : σ) : σ × Errand σ τ α :=
  match e.rest with
  | .done _ => (s, e)
  | .step effect next => (effect s, { e with found := e.found ++ [s], rest := next s })

theorem task_advance (e : Errand σ τ α) (s : σ) : (e.advance s).2.task = e.task := by
  unfold advance
  cases e.rest <;> rfl

end Errand

namespace Interleaving

/-- The moves, among them the changes of the state that are idle as far as the scripts go. -/
inductive Move (σ τ : Type) (idle : (σ → σ) → Prop) where
  /-- A task begins; its script has taken no step. -/
  | begin (task : τ)
  /-- The script of the task with the given number takes its next step, if it has one. -/
  | step (errand : Nat)
  /-- The state changes by no step of a script. -/
  | elsewhere (change : σ → σ) (h : idle change)

variable {σ τ α : Type} {idle : (σ → σ) → Prop}

def move (script : τ → Script σ α) (w : Interleaving σ τ α) :
    Move σ τ idle → Interleaving σ τ α
  | .begin task => { w with errands := w.errands ++ [{ task, rest := script task }] }
  | .step i =>
    match w.errands[i]? with
    | some e => ⟨(e.advance w.state).1, w.errands.set i (e.advance w.state).2⟩
    | none => w
  | .elsewhere change _ => { w with state := change w.state }

/-- The moves one after another. -/
def play (script : τ → Script σ α) (w : Interleaving σ τ α) (moves : List (Move σ τ idle)) :
    Interleaving σ τ α :=
  moves.foldl (move script) w

theorem exists_errand {w : Interleaving σ τ α} {i : Nat} {task : τ} {a : α}
    (h : w.errands[i]?.map (fun e => (e.task, e.result?)) = some (task, some a)) :
    ∃ e ∈ w.errands, e.task = task ∧ e.result? = some a := by
  obtain ⟨e, here, both⟩ := Option.map_eq_some_iff.1 h
  rw [Prod.mk.injEq] at both
  exact ⟨e, List.mem_of_getElem? here, both⟩

end Interleaving

/-- What every step keeps to, and what holds at the end of a task of the states its steps found,
its value and the state as it is from then on. -/
structure Discipline (σ τ α : Type) where
  inv : σ → Prop
  rely : σ → σ → Prop
  post : τ → List σ → α → σ → Prop
  refl : ∀ s, rely s s
  trans : ∀ {s t u}, rely s t → rely t u → rely s u
  stable : ∀ {task found a s t}, rely s t → post task found a s → post task found a t

namespace Discipline

variable {σ τ α β : Type} (D : Discipline σ τ α)

/-- A change that keeps the invariant and does not leave the relation. -/
def Allows (s t : σ) : Prop := D.rely s t ∧ (D.inv s → D.inv t)

/-- What is left of a script leads to the end of its task as it should, from the given state or
from wherever the others may take it. -/
def Secures (task : τ) : List σ → Script σ α → σ → Prop
  | found, .done a, s => D.post task found a s
  | found, .step effect next, s => ∀ t, D.rely s t → D.inv t →
      D.Allows t (effect t) ∧ Secures task (found ++ [t]) (next t) (effect t)

variable {D}

theorem Secures.later {task : τ} {found : List σ} {script : Script σ α} {s t : σ}
    (h : D.Secures task found script s) (st : D.rely s t) : D.Secures task found script t := by
  cases script with
  | done a => exact D.stable st h
  | step effect next => exact fun u tu inv => h u (D.trans st tu) inv

/-! ## Whole runs -/

variable (D) in
/-- The invariant holds, and every task that was begun is on its way to the right end. -/
structure Sound (w : Interleaving σ τ α) : Prop where
  inv : D.inv w.state
  secured : ∀ e ∈ w.errands, D.Secures e.task e.found e.rest w.state

namespace Sound

variable {script : τ → Script σ α} {w : Interleaving σ τ α} {idle : (σ → σ) → Prop}

theorem start {s : σ} (inv : D.inv s) : D.Sound ⟨s, []⟩ :=
  ⟨inv, fun _ h => absurd h (List.not_mem_nil)⟩

theorem begin (h : D.Sound w) {task : τ} (secured : D.Secures task [] (script task) w.state) :
    D.Sound (w.move script (.begin task : Interleaving.Move σ τ idle)) := by
  refine ⟨h.inv, fun e mem => ?_⟩
  rcases List.mem_append.1 mem with old | new
  · exact h.secured e old
  · rw [List.mem_singleton] at new
    subst new
    exact secured

/-- A step of one script keeps the tasks of all others on their way, since it is allowed. -/
theorem step (h : D.Sound w) (i : Nat) :
    D.Sound (w.move script (.step i : Interleaving.Move σ τ idle)) := by
  unfold Interleaving.move
  dsimp only
  split
  · rename_i e here
    have secured := h.secured e (List.mem_of_getElem? here)
    obtain ⟨task, found, rest⟩ := e
    cases rest with
    | done a =>
      refine ⟨h.inv, fun e' mem => ?_⟩
      rcases List.mem_or_eq_of_mem_set mem with old | rfl
      · exact h.secured e' old
      · exact secured
    | step effect next =>
      obtain ⟨⟨rely, inv⟩, next_secured⟩ := secured w.state (D.refl _) h.inv
      refine ⟨inv h.inv, fun e' mem => ?_⟩
      rcases List.mem_or_eq_of_mem_set mem with old | rfl
      · exact (h.secured e' old).later rely
      · exact next_secured
  · exact h

theorem elsewhere (h : D.Sound w) {change : σ → σ} (is_idle : idle change)
    (allowed : D.Allows w.state (change w.state)) :
    D.Sound (w.move script (.elsewhere change is_idle)) :=
  ⟨allowed.2 h.inv, fun e mem => (h.secured e mem).later allowed.1⟩

/-- Every interleaving of scripts that secure their tasks is sound, if what may happen in between
is allowed. -/
theorem play (h : D.Sound w) (secured : ∀ task s, D.Secures task [] (script task) s)
    (allowed : ∀ change, idle change → ∀ s, D.Allows s (change s))
    (moves : List (Interleaving.Move σ τ idle)) : D.Sound (w.play script moves) := by
  induction moves generalizing w with
  | nil => exact h
  | cons m moves ih =>
    apply ih
    cases m with
    | begin task => exact h.begin (secured task _)
    | step i => exact h.step i
    | elsewhere change is_idle => exact h.elsewhere is_idle (allowed change is_idle _)

/-- What holds at the end of a task, at any time after that. -/
theorem ended (h : D.Sound w) {e : Errand σ τ α} (mem : e ∈ w.errands) {a : α}
    (ended : e.result? = some a) : D.post e.task e.found a w.state := by
  have secured := h.secured e mem
  rwa [Errand.result?_eq_some_iff.1 ended] at secured

end Sound

/-- A task at whose end nothing is to hold is secured by allowed steps. -/
theorem secures_of_along {task : τ} {script : Script σ α} (h : script.Along D.Allows)
    (free : ∀ found a s, D.post task found a s) (found : List σ) (s : σ) :
    D.Secures task found script s := by
  induction script generalizing found s with
  | done a => exact free found a s
  | step effect next ih => exact fun t _ _ => ⟨(h t).1, ih t (h t).2 _ _⟩

end Discipline

/-! ## What the steps have found -/

namespace Script

variable {σ α β : Type}

/-- What is left of the script once its steps have found the states, one after another. -/
def after : Script σ α → List σ → Script σ α
  | x, [] => x
  | done a, _ :: _ => done a
  | step _ next, s :: found => (next s).after found

@[simp] theorem after_nil (x : Script σ α) : x.after [] = x := by cases x <;> rfl

@[simp] theorem after_cons (effect : σ → σ) (next : σ → Script σ α) (s : σ) (found : List σ) :
    (step effect next).after (s :: found) = (next s).after found := rfl

@[simp] theorem after_done (a : α) (found : List σ) : (done a : Script σ α).after found = done a := by
  cases found <;> rfl

theorem after_concat (x : Script σ α) (found : List σ) (s : σ) :
    x.after (found ++ [s]) = (x.after found).after [s] := by
  induction found generalizing x with
  | nil => cases x <;> rfl
  | cons t found ih =>
    cases x with
    | done a => rw [after_done, after_done, after_done]
    | step effect next => exact ih (next t)

theorem Along.after {R : σ → σ → Prop} {x : Script σ α} (h : x.Along R) (found : List σ) :
    (x.after found).Along R := by
  induction found generalizing x with
  | nil => rwa [after_nil]
  | cons s found ih =>
    cases x with
    | done a => trivial
    | step effect next => exact ih (h s).2

/-- Every step goes along the relation, which depends on what the steps before it have found. -/
def Stepwise (R : List σ → σ → σ → Prop) : List σ → Script σ α → Prop
  | _, done _ => True
  | found, step effect next => ∀ s, R found s (effect s) ∧ Stepwise R (found ++ [s]) (next s)

theorem Stepwise.after {R : List σ → σ → σ → Prop} {x : Script σ α} {found : List σ}
    (h : x.Stepwise R found) (more : List σ) : (x.after more).Stepwise R (found ++ more) := by
  induction more generalizing x found with
  | nil => rwa [after_nil, List.append_nil]
  | cons s more ih =>
    cases x with
    | done a => trivial
    | step effect next =>
      rw [List.append_cons]
      exact ih (h s).2

theorem Stepwise.bind_done {R : List σ → σ → σ → Prop} {x : Script σ α} {found : List σ}
    (h : x.Stepwise R found) {k : α → Script σ β} (ends : ∀ a, ∃ b, k a = done b) :
    (x.bind k).Stepwise R found := by
  induction x generalizing found with
  | done a =>
    obtain ⟨b, e⟩ := ends a
    show (k a).Stepwise R found
    rw [e]
    trivial
  | step effect next ih => exact fun s => ⟨(h s).1, ih s (h s).2⟩

/-- Whatever its steps find, the script takes so many of them at most. -/
def AtMost : Nat → Script σ α → Prop
  | _, done _ => True
  | 0, step _ _ => False
  | n + 1, step _ next => ∀ s, AtMost n (next s)

theorem AtMost.mono {x : Script σ α} {m n : Nat} (h : x.AtMost m) (le : m ≤ n) : x.AtMost n := by
  induction x generalizing m n with
  | done a => cases n <;> trivial
  | step effect next ih =>
    obtain _ | m := m
    · exact absurd h id
    · obtain _ | n := n
      · exact absurd le (Nat.not_succ_le_zero m)
      · exact fun s => ih s (h s) (Nat.le_of_succ_le_succ le)

theorem AtMost.pos {effect : σ → σ} {next : σ → Script σ α} {n : Nat}
    (h : (step effect next).AtMost n) : 0 < n := by
  obtain _ | n := n
  · exact absurd h id
  · exact Nat.succ_pos n

theorem AtMost.bind {x : Script σ α} {k : α → Script σ β} {m n : Nat} (hx : x.AtMost m)
    (hk : ∀ a, (k a).AtMost n) : (x.bind k).AtMost (m + n) := by
  induction x generalizing m with
  | done a => exact (hk a).mono (Nat.le_add_left n m)
  | step effect next ih =>
    obtain _ | m := m
    · exact absurd hx id
    · rw [Nat.succ_add]
      exact fun s => ih s (hx s)

theorem AtMost.after {x : Script σ α} {n : Nat} (h : x.AtMost n) (found : List σ) :
    (x.after found).AtMost (n - found.length) := by
  induction found generalizing x n with
  | nil => rwa [after_nil]
  | cons s found ih =>
    cases x with
    | done a => cases n - (s :: found).length <;> trivial
    | step effect next =>
      obtain _ | n := n
      · exact absurd h id
      · rw [List.length_cons, Nat.succ_sub_succ]
        exact ih (h s)

/-- To put the value in another form takes no step. -/
theorem after_bind_done (x : Script σ α) (f : α → β) (found : List σ) :
    (x.bind fun a => done (f a)).after found = (x.after found).bind fun a => done (f a) := by
  induction found generalizing x with
  | nil => cases x <;> rfl
  | cons t found ih =>
    cases x with
    | done a => rfl
    | step effect next => exact ih (next t)

end Script

namespace Interleaving

variable {σ τ α : Type}

/-- Every errand has got as far in its script as the states go that it has found, all of which kept
to the invariant; and from each of them to all later ones the relation was not left. -/
structure Traced (script : τ → Script σ α) (inv : σ → Prop) (rely : σ → σ → Prop)
    (w : Interleaving σ τ α) : Prop where
  kept : inv w.state
  rest : ∀ e ∈ w.errands, e.rest = (script e.task).after e.found
  found : ∀ e ∈ w.errands, ∀ s ∈ e.found, inv s ∧ rely s w.state
  ordered : ∀ e ∈ w.errands, e.found.Pairwise rely

namespace Traced

variable {script : τ → Script σ α} {inv : σ → Prop} {rely : σ → σ → Prop} {w : Interleaving σ τ α}
  {idle : (σ → σ) → Prop}

theorem start {s : σ} (h : inv s) : Traced script inv rely (⟨s, []⟩ : Interleaving σ τ α) :=
  ⟨h, by simp, by simp, by simp⟩

theorem begin (h : Traced script inv rely w) (task : τ) :
    Traced script inv rely (w.move script (.begin task : Move σ τ idle)) := by
  have new : ∀ e ∈ w.errands ++ [{ task, rest := script task }],
      e ∈ w.errands ∨ e = { task, rest := script task } := by simp
  refine ⟨h.kept, fun e mem => ?_, fun e mem => ?_, fun e mem => ?_⟩ <;>
    rcases new e mem with old | rfl
  · exact h.rest e old
  · rw [Script.after_nil]
  · exact h.found e old
  · simp
  · exact h.ordered e old
  · exact .nil

/-- The state changes, and the errands have found no more of it. -/
theorem change (h : Traced script inv rely w) (trans : ∀ {s t u}, rely s t → rely t u → rely s u)
    {s : σ} (kept : inv s) (goes : rely w.state s) :
    Traced script inv rely { w with state := s } :=
  ⟨kept, h.rest, fun e mem t ht => ⟨(h.found e mem t ht).1, trans (h.found e mem t ht).2 goes⟩,
    h.ordered⟩

theorem step (h : Traced script inv rely w) (trans : ∀ {s t u}, rely s t → rely t u → rely s u)
    (along : ∀ task, (script task).Along fun s t => rely s t ∧ (inv s → inv t)) (i : Nat) :
    Traced script inv rely (w.move script (.step i : Move σ τ idle)) := by
  unfold move
  dsimp only
  split
  · rename_i e here
    have mem := List.mem_of_getElem? here
    unfold Errand.advance
    split
    · obtain ⟨lt, e⟩ := List.getElem?_eq_some_iff.1 here
      rw [← e, List.set_getElem_self]
      exact h
    · rename_i effect next rest
      have way := (along e.task).after e.found
      rw [← h.rest e mem, rest] at way
      obtain ⟨goes, kept⟩ := (way w.state).1
      have later := h.change trans (kept h.kept) goes
      refine ⟨later.kept, fun e' mem' => ?_, fun e' mem' => ?_, fun e' mem' => ?_⟩ <;>
        rcases List.mem_or_eq_of_mem_set mem' with old | rfl
      · exact later.rest e' old
      · show next w.state = _
        rw [Script.after_concat, ← h.rest e mem, rest, Script.after_cons, Script.after_nil]
      · exact later.found e' old
      · intro t ht
        rcases List.mem_append.1 ht with old | new
        · exact later.found e mem t old
        · rw [List.mem_singleton.1 new]
          exact ⟨h.kept, goes⟩
      · exact later.ordered e' old
      · refine List.pairwise_append.2 ⟨h.ordered e mem, List.pairwise_singleton _ _, ?_⟩
        intro t ht u hu
        rw [List.mem_singleton.1 hu]
        exact (h.found e mem t ht).2
  · exact h

/-- Whatever order the steps are taken in, the errands have found what they went by. -/
theorem play (h : Traced script inv rely w) (trans : ∀ {s t u}, rely s t → rely t u → rely s u)
    (along : ∀ task, (script task).Along fun s t => rely s t ∧ (inv s → inv t))
    (allowed : ∀ change, idle change → ∀ s, rely s (change s) ∧ (inv s → inv (change s)))
    (moves : List (Move σ τ idle)) : Traced script inv rely (w.play script moves) := by
  induction moves generalizing w with
  | nil => exact h
  | cons m moves ih =>
    apply ih
    cases m with
    | begin task => exact h.begin task
    | step i => exact h.step trans along i
    | elsewhere change is_idle =>
      obtain ⟨goes, kept⟩ := allowed change is_idle w.state
      exact h.change trans (kept h.kept) goes

/-- A move changes nothing, or it is the step of an errand and goes along what its script goes along,
or something else has changed the state. -/
theorem state_move (h : Traced script inv rely w) {R : τ → σ → σ → Prop}
    (along : ∀ task, (script task).Along (R task)) (m : Move σ τ idle) :
    (w.move script m).state = w.state ∨
      (∃ i e, m = .step i ∧ w.errands[i]? = some e ∧ R e.task w.state (w.move script m).state) ∨
      ∃ change apart, m = .elsewhere change apart ∧ (w.move script m).state = change w.state := by
  cases m with
  | begin task => exact .inl rfl
  | elsewhere change apart => exact .inr (.inr ⟨change, apart, rfl, rfl⟩)
  | step i =>
    unfold move
    dsimp only
    split
    · rename_i e here
      unfold Errand.advance
      split
      · exact .inl rfl
      · rename_i effect next rest
        have way := (along e.task).after e.found
        rw [← h.rest e (List.mem_of_getElem? here), rest] at way
        exact .inr (.inl ⟨i, e, rfl, here, (way w.state).1⟩)
    · exact .inl rfl

end Traced

section Play

variable {script : τ → Script σ α} {idle : (σ → σ) → Prop}

theorem play_append (w : Interleaving σ τ α) (before after : List (Move σ τ idle)) :
    w.play script (before ++ after) = (w.play script before).play script after := List.foldl_append

/-- Errands that are played from the start have got as far as what they have found. -/
theorem traced_play (script : τ → Script σ α) (s : σ) (moves : List (Move σ τ idle)) :
    Traced script (fun _ => True) (fun _ _ => True)
      ((⟨s, []⟩ : Interleaving σ τ α).play script moves) := by
  refine (Traced.start trivial).play (fun _ _ => trivial) (fun task => ?_)
    (fun _ _ _ => ⟨trivial, id⟩) moves
  generalize script task = x
  induction x with
  | done a => trivial
  | step effect next ih => exact fun s => ⟨⟨trivial, id⟩, ih s⟩

/-- All moves in a row go along a relation that can be put together, if every step and every change
does. -/
theorem along_play {R : σ → σ → Prop} (refl : ∀ s, R s s) (trans : ∀ {s t u}, R s t → R t u → R s u)
    (along : ∀ task, (script task).Along R) (apart : ∀ change, idle change → ∀ s, R s (change s))
    (s : σ) (before after : List (Move σ τ idle)) :
    R ((⟨s, []⟩ : Interleaving σ τ α).play script before).state
      ((⟨s, []⟩ : Interleaving σ τ α).play script (before ++ after)).state := by
  induction after generalizing before with
  | nil =>
    rw [List.append_nil]
    exact refl _
  | cons m after ih =>
    have rest := ih (before ++ [m])
    rw [List.append_cons]
    refine trans ?_ rest
    rw [play_append]
    obtain same | ⟨i, e, -, -, goes⟩ | ⟨change, is_idle, -, same⟩ :=
      (traced_play (α := α) script s before).state_move along m
    · exact same ▸ refl _
    · exact goes
    · exact same ▸ apart change is_idle _

end Play

end Interleaving

end GuessingRoom
