import Mathlib.Data.List.Basic
import GuessingRoom.Hub

/-!
# The log of a hub

Any number of publishers, readers and subscribers act on a hub, each act being one of the atomic
steps between which the others may take theirs: the snapshot of a delivery, one more step of a
delivery, one look into a channel. The log keeps what the acts came to, and `Justified` says what
each entry of it must rest on in the log before it.
-/

namespace GuessingRoom.Hub

/-- What can be done to a hub. Only who holds a reader of a channel can copy it, give it up or read
from it. -/
inductive Act where
  | subscribe (game player : Id) (now : Nat)
  | unsubscribe (player : Id)
  | copy (channel : ChannelId)
  | release (channel : ChannelId)
  | publish (game : Id) (excluded : Option Id) (notice : Notice)
  /-- The next step of the delivery with the given number. -/
  | advance (id : Nat) (now : Nat)
  | receive (channel : ChannelId)
deriving DecidableEq, Repr

/-- What an act came to. -/
inductive Happening where
  | opened (channel : ChannelId) (game player : Id)
  /-- A delivery began, with the connections registered at that moment. -/
  | began (id : Nat) (game : Id) (excluded : Option Id) (notice : Notice)
    (registry : List Subscription)
  /-- A channel took the notice of a delivery. -/
  | accepted (id : Nat) (channel : ChannelId) (notice : Notice)
  /-- A channel that nobody can read any more was passed over. -/
  | refused (id : Nat) (channel : ChannelId)
  /-- A delivery ended and told how many channels had taken its notice. -/
  | returned (id : Nat) (count : Nat)
  | read (channel : ChannelId) (notice : Notice)
deriving DecidableEq, Repr

/-- What becomes of the channel a delivery is at, unless it has to wait. -/
def attempt (h : Hub) (d : Delivery) : List Happening :=
  match d.targets with
  | [] => []
  | target :: _ =>
    if d.taken then []
    else if h.isReadable target.channel then [.accepted d.id target.channel d.notice]
    else [.refused d.id target.channel]

/-- The hub after an act, and what the act came to. -/
def act (h : Hub) : Act → Hub × List Happening
  | .subscribe game player now =>
    ((h.subscribe game player now).2,
      if (h.find? game player).isSome then [] else [.opened h.nextChannel game player])
  | .unsubscribe player => (h.unsubscribe player, [])
  | .copy channel =>
    (if channel ∈ h.readers then { h with readers := channel :: h.readers } else h, [])
  | .release channel => (h.release channel, [])
  | .publish game excluded notice =>
    ((h.publish game excluded notice).2,
      [.began h.nextDelivery game excluded notice h.subscriptions])
  | .advance id now =>
    match h.delivery? id with
    | none => (h, [])
    | some d =>
      match h.advance d now with
      | .waiting => (h, [])
      | .going after => (after, h.attempt d)
      | .finished count after => (after, [.returned id count])
  | .receive channel =>
    if channel ∈ h.readers then
      match h.receive channel with
      | (.notice n, after) => (after, [.read channel n])
      | (_, after) => (after, [])
    else (h, [])

/-- A hub and all that happened to it, oldest first. -/
structure Watched where
  hub : Hub := {}
  log : List Happening := []
deriving DecidableEq, Repr

/-- A hub on which the acts were done one after another, from the beginning. -/
def watch (acts : List Act) : Watched :=
  acts.foldl (fun w a => ⟨(w.hub.act a).1, w.log ++ (w.hub.act a).2⟩) {}

/-! ## What a log tells -/

/-- The channels that a delivery has been to, in the order in which it went. -/
def attempts (log : List Happening) (id : Nat) : List ChannelId :=
  log.filterMap fun
    | .accepted i c _ | .refused i c => if i = id then some c else none
    | _ => none

/-- How many channels have taken the notice of a delivery. -/
def acceptedBy (log : List Happening) (id : Nat) : Nat :=
  log.countP fun
    | .accepted i _ _ => i == id
    | _ => false

/-- The notices that a channel has taken, in that order. -/
def accepts (log : List Happening) (channel : ChannelId) : List Notice :=
  log.filterMap fun
    | .accepted _ c n => if c = channel then some n else none
    | _ => none

/-- The notices that were read from a channel, by whatever reader. -/
def reads (log : List Happening) (channel : ChannelId) : List Notice :=
  log.filterMap fun
    | .read c n => if c = channel then some n else none
    | _ => none

/-- The channels of a game but for those of the excluded player, as they stand in a registry. -/
def audience (registry : List Subscription) (game : Id) (excluded : Option Id) : List ChannelId :=
  (registry.filter fun s => s.game == game && excluded != some s.player).map (·.channel)

/-- What an entry of the log rests on in the log before it. -/
def Justified (past : List Happening) : Happening → Prop
  | .opened c _ _ => ∀ c' game player, .opened c' game player ∈ past → c' < c
  | .began id _ _ _ registry =>
    (∀ game excluded n r, .began id game excluded n r ∉ past) ∧
      (registry.map (·.channel)).Pairwise (· < ·) ∧
      ∀ s ∈ registry, .opened s.channel s.game s.player ∈ past
  | .accepted id c n => ∃ game excluded registry, .began id game excluded n registry ∈ past ∧
      attempts past id ++ [c] <+: audience registry game excluded
  | .refused id c => ∃ game excluded n registry, .began id game excluded n registry ∈ past ∧
      attempts past id ++ [c] <+: audience registry game excluded
  | .returned id count => ∃ game excluded n registry, .began id game excluded n registry ∈ past ∧
      attempts past id = audience registry game excluded ∧ count = acceptedBy past id
  | .read c n => reads past c ++ [n] <+: accepts past c

/-- Every entry of the log is justified by what stands before it. -/
def Grounded (log : List Happening) : Prop :=
  ∀ past e later, log = past ++ e :: later → Justified past e

/-! ## One more entry -/

section Append

variable (log : List Happening)

theorem grounded_nil : Grounded [] := by
  intro past e later h
  simp at h

/-- What holds of every entry and those before it holds on if it holds of the new one. -/
theorem split_append {P : List Happening → Happening → Prop} {log : List Happening}
    (h : ∀ past e later, log = past ++ e :: later → P past e) {e : Happening} (new : P log e) :
    ∀ past e' later, log ++ [e] = past ++ e' :: later → P past e' := by
  intro past e' later split
  rcases List.eq_nil_or_concat later with rfl | ⟨later, last, rfl⟩
  · obtain ⟨rfl, e⟩ := List.append_inj' split rfl
    obtain rfl : e' = _ := by simpa using e.symm
    exact new
  · have split : log ++ [e] = (past ++ e' :: later) ++ [last] := by simpa using split
    exact h past e' later (List.append_inj' split rfl).1

theorem Grounded.append {log : List Happening} (h : Grounded log) {e : Happening}
    (justified : Justified log e) : Grounded (log ++ [e]) := split_append h justified

theorem attempts_append (log' : List Happening) (id : Nat) :
    attempts (log ++ log') id = attempts log id ++ attempts log' id := List.filterMap_append

theorem acceptedBy_append (log' : List Happening) (id : Nat) :
    acceptedBy (log ++ log') id = acceptedBy log id + acceptedBy log' id := List.countP_append

theorem accepts_append (log' : List Happening) (c : ChannelId) :
    accepts (log ++ log') c = accepts log c ++ accepts log' c := List.filterMap_append

theorem reads_append (log' : List Happening) (c : ChannelId) :
    reads (log ++ log') c = reads log c ++ reads log' c := List.filterMap_append

/-- An entry by which no channel has taken a notice and none was read from. -/
def Silent (e : Happening) : Prop :=
  (∀ id, attempts [e] id = []) ∧ (∀ id, acceptedBy [e] id = 0) ∧ (∀ c, accepts [e] c = []) ∧
    ∀ c, reads [e] c = []

theorem silent_opened (c : ChannelId) (game player : Id) : Silent (.opened c game player) :=
  ⟨fun _ => rfl, fun _ => rfl, fun _ => rfl, fun _ => rfl⟩

theorem silent_began (id : Nat) (game : Id) (excluded : Option Id) (n : Notice)
    (registry : List Subscription) : Silent (.began id game excluded n registry) :=
  ⟨fun _ => rfl, fun _ => rfl, fun _ => rfl, fun _ => rfl⟩

theorem silent_returned (id count : Nat) : Silent (.returned id count) :=
  ⟨fun _ => rfl, fun _ => rfl, fun _ => rfl, fun _ => rfl⟩

theorem acceptedBy_le (id : Nat) : acceptedBy log id ≤ (attempts log id).length := by
  induction log with
  | nil => exact Nat.le_refl 0
  | cons e log ih =>
    rw [← List.singleton_append, acceptedBy_append, attempts_append, List.length_append]
    refine Nat.add_le_add ?_ ih
    cases e with
    | accepted i c n => by_cases same : i = id <;> simp [acceptedBy, attempts, same]
    | _ => exact Nat.zero_le _

end Append

/-- Whoever was attempted by a delivery was so after it had begun. -/
theorem Grounded.began_of_attempted {log : List Happening} (h : Grounded log) {id : Nat}
    {c : ChannelId} (mem : c ∈ attempts log id) :
    ∃ game excluded n registry, .began id game excluded n registry ∈ log := by
  obtain ⟨e, he, hc⟩ := List.mem_filterMap.1 mem
  obtain ⟨past, later, rfl⟩ := List.append_of_mem he
  have justified := h past e later rfl
  split at hc
  · rename_i i c' n
    split at hc
    · rename_i same
      subst same
      obtain ⟨game, excluded, registry, began, -⟩ := justified
      exact ⟨game, excluded, n, registry, List.mem_append_left _ began⟩
    · cases hc
  · rename_i i c'
    split at hc
    · rename_i same
      subst same
      obtain ⟨game, excluded, n, registry, began, -⟩ := justified
      exact ⟨game, excluded, n, registry, List.mem_append_left _ began⟩
    · cases hc
  · cases hc

end GuessingRoom.Hub
