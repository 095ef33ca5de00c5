import Mathlib.Algebra.GroupWithZero.Nat
import Mathlib.Data.List.TakeWhile
import GuessingRoom.Proofs.HubDelivery
import GuessingRoom.Service.Queue

/-!
# What players hear

A hub on which the deliveries to one game begin one after another, each when the one before it has
ended (`TurnByTurn`). There a connected player's channel takes, in order, whatever began to go out
to the game since the channel was opened, but for what the player is excluded from. What the channel
has not yet taken is on its way to it, with a delivery that has not ended (`Hears`).
-/

namespace GuessingRoom

namespace Outgoing

/-- The item that a delivery brings. -/
def of : Option Id → Notice → Outgoing
  | some sender, n => fromPlayer sender n
  | none, n => broadcast n

theorem of_excluded_notice (item : Outgoing) : of item.excluded item.notice = item := by
  cases item <;> rfl

theorem excluded_of (excluded : Option Id) (n : Notice) : (of excluded n).excluded = excluded := by
  cases excluded <;> rfl

theorem notice_of (excluded : Option Id) (n : Notice) : (of excluded n).notice = n := by
  cases excluded <;> rfl

/-- What a player hears of the items: all but the player's own. -/
def heardBy (player : Id) (items : List Outgoing) : List Notice :=
  (items.filter (·.excluded != some player)).map (·.notice)

theorem heardBy_append (player : Id) (items items' : List Outgoing) :
    heardBy player (items ++ items') = heardBy player items ++ heardBy player items' := by
  unfold heardBy
  rw [List.filter_append, List.map_append]

end Outgoing

namespace Hub

open Outgoing (heardBy)

/-- What began to go out to a game, in that order. -/
def begun (log : List Happening) (game : Id) : List Outgoing :=
  log.filterMap fun
    | .began _ g excluded n _ => if g = game then some (.of excluded n) else none
    | _ => none

/-- The log from the entry on that opens a channel. -/
def since (log : List Happening) (channel : ChannelId) : List Happening :=
  log.dropWhile fun
    | .opened c _ _ => c != channel
    | _ => true

/-- The log up to the entry that opens a channel. -/
def upTo (log : List Happening) (channel : ChannelId) : List Happening :=
  log.takeWhile fun
    | .opened c _ _ => c != channel
    | _ => true

/-- The notices that are still to be brought to a channel. -/
def coming (h : Hub) (channel : ChannelId) : List Notice :=
  h.deliveries.filterMap fun d => if channel ∈ left d then some d.notice else none

/-- The deliveries that have not ended, each with its game. -/
def places (h : Hub) : List (Nat × Id) := h.deliveries.map fun d => (d.id, d.game)

/-- A bound for the steps of a delivery: two at each channel it has not been to, one where it is and
one in the end. -/
def stepsOf (d : Delivery) : Nat := 2 * (left d).length + (if d.taken then 1 else 0) + 1

/-- A bound for the steps of the deliveries under way. -/
def steps (h : Hub) : Nat := (h.deliveries.map stepsOf).sum

/-- What a connected player's channel has taken, and what is coming, is what the player is to hear
since the channel was opened. -/
def Hears (h : Hub) (log : List Happening) (s : Subscription) : Prop :=
  accepts log s.channel ++ h.coming s.channel =
    heardBy s.player (begun (since log s.channel) s.game)

/-- A delivery that began has its place in the hub until it has ended. -/
def Answered (h : Hub) (log : List Happening) : Prop :=
  ∀ id game excluded n registry, .began id game excluded n registry ∈ log →
    ((id, game) ∈ h.places ↔ ∀ count, .returned id count ∉ log)

/-- A delivery begins when the earlier ones to the same game have ended. -/
def InTurn (past : List Happening) : Happening → Prop
  | .began _ game _ _ _ => ∀ id excluded n registry,
    .began id game excluded n registry ∈ past → ∃ count, .returned id count ∈ past
  | _ => True

/-- What a hub and its log have to do with each other if the deliveries to a game go out one after
another. -/
structure TurnByTurn (h : Hub) (log : List Happening) : Prop where
  sound : Sound h log
  in_turn : ∀ past e later, log = past ++ e :: later → InTurn past e
  answered : Answered h log
  hears : ∀ s ∈ h.subscriptions, Hears h log s

def Happening.begins : Happening → Bool
  | .began .. => true
  | _ => false

/-! ## Reading the log -/

theorem begun_append (log log' : List Happening) (game : Id) :
    begun (log ++ log') game = begun log game ++ begun log' game := List.filterMap_append

theorem begun_of_others {log : List Happening} (others : ∀ e ∈ log, e.begins = false)
    (game : Id) : begun log game = [] := by
  refine List.filterMap_eq_nil_iff.2 fun e mem => ?_
  cases e with
  | began id g excluded n registry => cases others _ mem
  | _ => rfl

theorem begun_began (id : Nat) (game : Id) (excluded : Option Id) (n : Notice)
    (registry : List Subscription) (other : Id) :
    begun [.began id game excluded n registry] other =
      if game = other then [.of excluded n] else [] := by
  by_cases own : game = other <;> simp [begun, own]

theorem upTo_append_since (log : List Happening) (c : ChannelId) : upTo log c ++ since log c = log :=
  List.takeWhile_append_dropWhile

theorem since_append {log : List Happening} {c : ChannelId} {game player : Id}
    (opened : .opened c game player ∈ log) (log' : List Happening) :
    since (log ++ log') c = since log c ++ log' := by
  unfold since
  rw [List.dropWhile_append, if_neg]
  intro empty
  have dropped := List.dropWhile_eq_nil_iff.1 (List.isEmpty_iff.1 empty) _ opened
  exact absurd dropped (by simp)

theorem since_split {past later : List Happening} {c : ChannelId} {game player : Id}
    (first : ∀ game player, .opened c game player ∉ past) :
    since (past ++ .opened c game player :: later) c = .opened c game player :: later := by
  unfold since
  rw [List.dropWhile_append_of_pos, List.dropWhile_cons_of_neg (by simp)]
  intro e mem
  cases e with
  | opened c' game' player' =>
    refine bne_iff_ne.2 fun same => ?_
    subst same
    exact first game' player' mem
  | _ => rfl

/-- A channel that has taken a notice was opened before. -/
theorem Grounded.opened_of_accepts {log : List Happening} (g : Grounded log) {c : ChannelId}
    {n : Notice} (mem : n ∈ accepts log c) : ∃ game player, .opened c game player ∈ log := by
  obtain ⟨e, there, taken⟩ := List.mem_filterMap.1 mem
  split at taken
  · rename_i id c' n'
    split at taken
    · rename_i same
      subst same
      obtain ⟨past, later, rfl⟩ := List.append_of_mem there
      obtain ⟨game, excluded, registry, began, goes⟩ := g past (.accepted id c' n') later rfl
      obtain ⟨s, hs, channel, -⟩ :=
        exists_of_mem_audience (goes.subset (List.mem_append_right _ (List.mem_singleton_self c')))
      obtain ⟨before, after, rfl⟩ := List.append_of_mem began
      obtain ⟨-, -, opened⟩ := g before (.began id game excluded n' registry)
        (after ++ .accepted id c' n' :: later) (by simp)
      exact ⟨s.game, s.player, by simp [channel ▸ opened s hs]⟩
    · cases taken
  · cases taken

section Owners

variable {h : Hub} {log : List Happening} (s : Sound h log)

include s

/-- The channels that a delivery has still to go to were opened for its game. -/
theorem Sound.opened_of_left {d : Delivery} (mem : d ∈ h.deliveries) {c : ChannelId}
    (here : c ∈ left d) : ∃ player, .opened c d.game player ∈ log := by
  obtain ⟨excluded, registry, began, whole⟩ := s.underway d mem
  obtain ⟨x, hx, rfl, game, -⟩ := exists_of_mem_audience (whole ▸ List.mem_append_right _ here)
  obtain ⟨past, later, rfl⟩ := List.append_of_mem began
  obtain ⟨-, -, opened⟩ := s.grounded past (.began d.id d.game excluded d.notice registry) later rfl
  exact ⟨x.player, List.mem_append_left _ (game ▸ opened x hx)⟩

theorem Sound.game_eq_of_left {d : Delivery} (mem : d ∈ h.deliveries) {c : ChannelId}
    (here : c ∈ left d) {game player : Id} (opened : .opened c game player ∈ log) :
    d.game = game := by
  obtain ⟨player', opened'⟩ := s.opened_of_left mem here
  exact (s.grounded.owner_eq opened' opened).1

/-- A delivery goes to no channel twice. -/
theorem Sound.left_nodup {d : Delivery} (mem : d ∈ h.deliveries) : (left d).Nodup := by
  obtain ⟨excluded, registry, began, whole⟩ := s.underway d mem
  obtain ⟨past, later, rfl⟩ := List.append_of_mem began
  obtain ⟨-, sorted, -⟩ := s.grounded past (.began d.id d.game excluded d.notice registry) later rfl
  have sorted : (audience registry d.game excluded).Pairwise (· < ·) :=
    sorted.sublist (List.Sublist.map _ List.filter_sublist)
  rw [← whole, List.pairwise_append] at sorted
  exact sorted.2.1.imp fun lt => Nat.ne_of_lt lt

theorem Sound.delivery_eq {d d' : Delivery} (mem : d ∈ h.deliveries) (mem' : d' ∈ h.deliveries)
    (same : d.id = d'.id) : d = d' := List.inj_on_of_nodup_map s.ids mem mem' same

theorem Sound.subscription_eq {x y : Subscription} (mem : x ∈ h.subscriptions)
    (mem' : y ∈ h.subscriptions) (same : x.channel = y.channel) : x = y :=
  List.inj_on_of_nodup_map (s.sorted.imp fun lt => Nat.ne_of_lt lt) mem mem' same

theorem Sound.accepts_next : accepts log h.nextChannel = [] := by
  refine List.eq_nil_iff_forall_not_mem.2 fun n mem => ?_
  obtain ⟨game, player, opened⟩ := s.grounded.opened_of_accepts mem
  exact Nat.lt_irrefl _ (s.known_channel _ _ _ opened)

theorem Sound.coming_next : h.coming h.nextChannel = [] := by
  refine List.filterMap_eq_nil_iff.2 fun d mem => if_neg fun here => ?_
  obtain ⟨player, opened⟩ := s.opened_of_left mem here
  exact Nat.lt_irrefl _ (s.known_channel _ _ _ opened)

end Owners

/-! ## The steps of a delivery -/

/-- What a delivery does when it goes on: it notes that the channel it is at took the notice, lets
the channel take it, or passes the channel over. -/
inductive Goes (h : Hub) (d t : Delivery) : Hub → List Happening → Prop where
  | notes (player : Id) (now : Nat) (stays : left t = left d) :
    Goes h d t ((h.touch d.game player now).setDelivery t) []
  | takes (c : ChannelId) (goes : left d = c :: left t) :
    Goes h d t ((h.fill c d.notice).setDelivery t) [.accepted d.id c d.notice]
  | passes (c : ChannelId) (goes : left d = c :: left t) (gone : h.isReadable c = false) :
    Goes h d t (h.setDelivery t) [.refused d.id c]

/-- What becomes of a delivery that takes a step. -/
inductive Advanced (h : Hub) (d : Delivery) : Progress → Prop where
  | waits (c : ChannelId) (there : c ∈ left d) (open_ : h.isReadable c = true)
    (full : h.isFull c = true) : Advanced h d .waiting
  | goes (t : Delivery) (id : t.id = d.id) (game : t.game = d.game) (notice : t.notice = d.notice)
    (less : stepsOf t < stepsOf d) (after : Hub) (hs : List Happening)
    (attempt : h.attempt d = hs) (goes : Goes h d t after hs) : Advanced h d (.going after)
  | ends (done : left d = []) :
    Advanced h d (.finished d.accepted { h with deliveries := h.deliveries.filter (·.id != d.id) })

theorem advanced (h : Hub) (d : Delivery) (now : Nat) : Advanced h d (h.advance d now) := by
  rcases targets : d.targets with _ | ⟨target, rest⟩
  · rw [advance_of_done now targets]
    exact .ends (by simp [left, targets])
  · by_cases taken : d.taken = true
    · obtain ⟨step, none⟩ := advance_of_taken (h := h) now targets taken
      rw [step]
      refine .goes (d := d) { d with targets := rest, taken := false } rfl rfl rfl ?_ _ _ none ?_
      · simp [stepsOf, left, targets, taken]
      · exact .notes target.player now (by simp [left, targets, taken])
    · rw [Bool.not_eq_true] at taken
      by_cases open_ : h.isReadable target.channel = true
      · rcases advance_of_readable now targets taken open_ with ⟨full, step⟩ | ⟨-, step, accepted⟩
        · rw [step]
          exact .waits target.channel (by simp [left, targets, taken]) open_ full
        · rw [step]
          refine .goes (d := d) { d with taken := true, accepted := d.accepted + 1 } rfl rfl rfl ?_
            _ _ accepted ?_
          · simp only [stepsOf, left, targets, taken, if_true, Bool.false_eq_true, if_false,
              List.tail_cons, List.map_cons, List.length_cons]
            omega
          · exact .takes target.channel (by simp [left, targets, taken])
      · rw [Bool.not_eq_true] at open_
        obtain ⟨step, refused⟩ := advance_of_unreadable now targets taken open_
        rw [step]
        refine .goes (d := d) { d with targets := rest } rfl rfl rfl ?_ _ _ refused ?_
        · simp [stepsOf, left, targets, taken]
        · exact .passes target.channel (by simp [left, targets, taken]) open_

theorem act_advance {h : Hub} {id : Nat} {d : Delivery} (found : h.delivery? id = some d)
    (now : Nat) : h.act (.advance id now) = match h.advance d now with
      | .waiting => (h, [])
      | .going after => (after, h.attempt d)
      | .finished count after => (after, [.returned id count]) := by
  unfold act
  dsimp only
  split
  · rename_i none
    rw [found] at none
    cases none
  · rename_i d' found'
    obtain rfl : d = d' := Option.some.inj (found.symm.trans found')
    rfl

theorem act_advance_of_none {h : Hub} {id : Nat} (found : h.delivery? id = none) (now : Nat) :
    h.act (.advance id now) = (h, []) := by
  unfold act
  dsimp only
  rw [found]

theorem mem_of_delivery? {h : Hub} {id : Nat} {d : Delivery} (found : h.delivery? id = some d) :
    d ∈ h.deliveries ∧ d.id = id :=
  ⟨List.mem_of_find?_eq_some found, by simpa using List.find?_some found⟩

section Numbers

variable {h : Hub}

theorem Sound.delivery?_of_mem {log : List Happening} (s : Sound h log) {d : Delivery}
    (mem : d ∈ h.deliveries) : h.delivery? d.id = some d := by
  obtain ⟨e, found⟩ := Option.isSome_iff_exists.1
    (List.find?_isSome (p := (·.id == d.id)) |>.2 ⟨d, mem, beq_self_eq_true _⟩)
  obtain ⟨mem', same⟩ := mem_of_delivery? found
  rw [delivery?, found, s.delivery_eq mem' mem same]

theorem delivery?_congr {h' : Hub} (same : h'.deliveries = h.deliveries) (id : Nat) :
    h'.delivery? id = h.delivery? id := by
  rw [delivery?, same, delivery?]

theorem delivery?_setDelivery {d t : Delivery} (found : h.delivery? d.id = some d)
    (id : t.id = d.id) : (h.setDelivery t).delivery? d.id = some t := by
  have kept : ((·.id == d.id) ∘ fun e : Delivery => if e.id == t.id then t else e) =
      (·.id == d.id) := by
    funext e
    by_cases own : e.id = d.id <;> simp [own, id]
  unfold delivery? at found ⊢
  rw [setDelivery, List.find?_map, kept, found]
  simp [id]

theorem delivery?_setDelivery_of_ne {t : Delivery} {id : Nat} (ne : id ≠ t.id) :
    (h.setDelivery t).delivery? id = h.delivery? id := by
  have kept : ((·.id == id) ∘ fun e : Delivery => if e.id == t.id then t else e) = (·.id == id) := by
    funext e
    by_cases own : e.id = t.id <;> simp [own]
  unfold delivery?
  rw [setDelivery, List.find?_map, kept]
  rcases found : h.deliveries.find? (·.id == id) with _ | d <;> rw [found]
  · rfl
  · have own : d.id = id := by simpa using List.find?_some found
    rw [Option.map_some, if_neg (by simpa [own] using ne)]

theorem delivery?_of_filter {d : Delivery} {id : Nat} (ne : id ≠ d.id) :
    (h.deliveries.filter (·.id != d.id)).find? (·.id == id) = h.delivery? id := by
  rw [List.find?_filter, delivery?]
  congr 1
  funext e
  by_cases own : e.id = id <;> simp [own, ne]

/-- The delivery that begins is found by the next number. -/
theorem Sound.delivery?_publish {log : List Happening} (s : Sound h log) (game : Id)
    (excluded : Option Id) (n : Notice) : (h.publish game excluded n).2.delivery? h.nextDelivery =
      some ⟨h.nextDelivery, game, n, h.targetsOf game excluded, false, 0⟩ := by
  have new : h.deliveries.find? (·.id == h.nextDelivery) = none := by
    refine List.find?_eq_none.2 fun d mem same => ?_
    obtain ⟨excluded, registry, began, -⟩ := s.underway d mem
    have new := s.known_delivery _ _ _ _ _ began
    rw [beq_iff_eq.1 same] at new
    exact absurd new (Nat.lt_irrefl _)
  show (h.deliveries ++ [_]).find? _ = _
  rw [List.find?_append, new]
  simp

theorem delivery?_publish_of_some {id : Nat} {game : Id} {excluded : Option Id} {n : Notice}
    (there : h.delivery? id ≠ none) :
    (h.publish game excluded n).2.delivery? id = h.delivery? id := by
  obtain ⟨d, found⟩ := Option.ne_none_iff_exists'.1 there
  show (h.deliveries ++ [_]).find? _ = _
  rw [List.find?_append, ← delivery?, found, Option.some_or]

end Numbers

/-! ## One act -/

/-- Acts of those who connect and read; the others are steps of deliveries. -/
def Act.isConnection : Act → Bool
  | .publish .. | .advance .. => false
  | _ => true

/-- What connecting and reading comes to. -/
inductive Connects (h : Hub) : Hub × List Happening → Prop where
  | opens (game player : Id) (now : Nat) :
    Connects h
      ({ h with
          subscriptions := h.subscriptions ++ [⟨game, player, h.nextChannel, now⟩]
          readers := h.nextChannel :: h.readers
          nextChannel := h.nextChannel + 1 },
        [.opened h.nextChannel game player])
  | reads (channel : ChannelId) (n : Notice) :
    Connects h ({ h with slots := h.slots.filter (·.channel != channel) }, [.read channel n])
  /-- The registry may only lose connections. -/
  | rests (subscriptions : List Subscription) (kept : subscriptions ⊆ h.subscriptions)
    (readers : List ChannelId) : Connects h ({ h with subscriptions, readers }, [])

theorem connects (h : Hub) {a : Act} (connection : a.isConnection = true) :
    Connects h (h.act a) := by
  have rests (readers : List ChannelId) : Connects h ({ h with readers }, []) :=
    .rests h.subscriptions (List.Subset.refl _) readers
  cases a with
  | subscribe game player now =>
    unfold act Hub.subscribe
    dsimp only
    rcases found : h.find? game player with _ | s
    · exact .opens game player now
    · exact rests _
  | unsubscribe player => exact .rests _ List.filter_sublist.subset h.readers
  | copy channel =>
    unfold act
    dsimp only
    split <;> exact rests _
  | release channel => exact rests _
  | receive channel =>
    unfold act
    dsimp only
    split
    · rcases found : h.slots.find? (·.channel == channel) with _ | slot
      · rw [receive_of_none found]
        cases h.isWritable channel <;> exact rests _
      · rw [receive_of_some found]
        exact .reads channel slot.notice
    · exact rests _
  | publish game excluded notice => cases connection
  | advance id now => cases connection

theorem deliveries_of_connection (h : Hub) {a : Act} (connection : a.isConnection = true) :
    (h.act a).1.deliveries = h.deliveries := by
  have connects := h.connects connection
  generalize h.act a = came at connects
  cases connects <;> rfl

theorem accepts_of_connection (h : Hub) {a : Act} (connection : a.isConnection = true)
    (c : ChannelId) : accepts (h.act a).2 c = [] := by
  have connects := h.connects connection
  generalize h.act a = came at connects
  cases connects <;> rfl

/-- Nothing begins but by a publication. -/
theorem begins_act (h : Hub) {a : Act}
    (other : ∀ game excluded n, a ≠ .publish game excluded n) :
    ∀ e ∈ (h.act a).2, e.begins = false := by
  by_cases connection : a.isConnection = true
  · have connects := h.connects connection
    generalize h.act a = came at connects
    cases connects <;> simp [Happening.begins]
  · cases a with
    | advance id now =>
      rcases found : h.delivery? id with _ | d
      · rw [act_advance_of_none found]
        simp
      · rw [act_advance found]
        have step := advanced h d now
        generalize h.advance d now = progress at step
        cases step with
        | waits => simp
        | goes t _ _ _ _ after hs attempt goes =>
          dsimp only
          rw [attempt]
          cases goes <;> simp [Happening.begins]
        | ends => simp [Happening.begins]
    | publish game excluded n => exact absurd rfl (other game excluded n)
    | _ => exact absurd rfl connection

/-- Whoever is connected after an act was so before, or has just connected. -/
theorem subscriptions_act (h : Hub) (a : Act) {y : Subscription}
    (mem : y ∈ (h.act a).1.subscriptions) :
    (∃ x ∈ h.subscriptions, x.channel = y.channel ∧ x.game = y.game ∧ x.player = y.player) ∨
      a.isConnection = true ∧ y.channel = h.nextChannel ∧
        (h.act a).2 = [.opened y.channel y.game y.player] := by
  have stays (there : y ∈ h.subscriptions) :
      ∃ x ∈ h.subscriptions, x.channel = y.channel ∧ x.game = y.game ∧ x.player = y.player :=
    ⟨y, there, rfl, rfl, rfl⟩
  by_cases connection : a.isConnection = true
  · have connects := h.connects connection
    generalize h.act a = came at connects mem
    cases connects with
    | opens game player now =>
      rcases List.mem_append.1 mem with old | new
      · exact .inl (stays old)
      · rw [List.mem_singleton.1 new]
        exact .inr ⟨connection, rfl, rfl⟩
    | reads => exact .inl (stays mem)
    | rests _ kept => exact .inl (stays (kept mem))
  · left
    cases a with
    | publish game excluded n => exact stays mem
    | advance id now =>
      rcases found : h.delivery? id with _ | d
      · rw [act_advance_of_none found] at mem
        exact stays mem
      · rw [act_advance found] at mem
        have step := advanced h d now
        generalize h.advance d now = progress at step mem
        cases step with
        | waits => exact stays mem
        | ends => exact stays mem
        | goes t _ _ _ _ after hs _ goes =>
          cases goes with
          | notes player now =>
            obtain ⟨x, there, rfl⟩ := List.mem_map.1 mem
            refine ⟨x, there, ?_⟩
            split <;> exact ⟨rfl, rfl, rfl⟩
          | takes => exact stays mem
          | passes => exact stays mem
    | _ => exact absurd rfl connection

/-! ## What is coming -/

section Coming

variable {h : Hub} {log : List Happening} (s : Sound h log)

include s

section Replaced

variable {d t : Delivery} (mem : d ∈ h.deliveries) (id : t.id = d.id)

include mem id

omit id in
theorem Sound.exists_split : ∃ before after, h.deliveries = before ++ d :: after ∧
    ∀ x ∈ before ++ after, x.id ≠ d.id := by
  obtain ⟨before, after, split⟩ := List.append_of_mem mem
  refine ⟨before, after, split, fun x there same => ?_⟩
  have distinct := s.ids
  rw [split, List.map_append, List.map_cons, List.nodup_middle, ← List.map_append,
    List.nodup_cons] at distinct
  exact distinct.1 (same ▸ List.mem_map_of_mem there)

/-- What is read of every delivery does not tell that one of them has changed if it is the same
for that one. -/
theorem Sound.map_setDelivery {α : Type} (f : Delivery → α) (same : f t = f d) :
    (h.setDelivery t).deliveries.map f = h.deliveries.map f := by
  unfold setDelivery
  rw [List.map_map]
  refine List.map_congr_left fun x there => ?_
  by_cases own : x.id = t.id
  · obtain rfl := s.delivery_eq there mem (own.trans id)
    simp [own, same]
  · simp [own]

theorem Sound.places_setDelivery (game : t.game = d.game) :
    (h.setDelivery t).places = h.places :=
  s.map_setDelivery mem id (fun x => (x.id, x.game)) (by rw [id, game])

/-- A delivery that goes on keeps its place. -/
theorem Sound.places_of_goes (game : t.game = d.game) {after : Hub} {hs : List Happening}
    (goes : Goes h d t after hs) : after.places = h.places := by
  cases goes <;> exact s.places_setDelivery mem id game

theorem Sound.coming_setDelivery (notice : t.notice = d.notice) {c : ChannelId}
    (stays : c ∈ left t ↔ c ∈ left d) : (h.setDelivery t).coming c = h.coming c := by
  have read (l : List Delivery) :
      (l.filterMap fun x => if c ∈ left x then some x.notice else none) =
        (l.map fun x => if c ∈ left x then some x.notice else none).filterMap fun x => x := by
    rw [List.filterMap_map]
    rfl
  unfold coming
  rw [read, read, s.map_setDelivery mem id _ (by simp only [notice, stays])]

end Replaced

omit s in
theorem places_publish (h : Hub) (game : Id) (excluded : Option Id) (n : Notice) :
    (h.publish game excluded n).2.places = h.places ++ [(h.nextDelivery, game)] := List.map_append

omit s in
/-- A delivery that ends gives its place up. -/
theorem places_of_ends (h : Hub) (d : Delivery) :
    places { h with deliveries := h.deliveries.filter (·.id != d.id) } =
      h.places.filter (·.1 != d.id) := by
  rw [places, places, List.filter_map]
  rfl

theorem Sound.places_of_going {d : Delivery} (mem : d ∈ h.deliveries) {now : Nat} {after : Hub}
    (step : h.advance d now = .going after) : after.places = h.places := by
  have moved := advanced h d now
  rw [step] at moved
  cases moved with
  | goes t id game _ _ _ _ _ goes => exact s.places_of_goes mem id game goes

omit s in
theorem places_of_finished {d : Delivery} {now count : Nat} {after : Hub}
    (step : h.advance d now = .finished count after) :
    after.places = h.places.filter (·.1 != d.id) := by
  have moved := advanced h d now
  rw [step] at moved
  cases moved with
  | ends => exact places_of_ends h d

theorem Sound.steps_setDelivery {d t : Delivery} (mem : d ∈ h.deliveries) (id : t.id = d.id) :
    (h.setDelivery t).steps + stepsOf d = h.steps + stepsOf t := by
  obtain ⟨before, after, split, others⟩ := s.exists_split mem
  have kept {l : List Delivery} (sub : l ⊆ before ++ after) :
      l.map (fun e => if e.id == t.id then t else e) = l := by
    refine (List.map_congr_left fun x there => if_neg ?_).trans (List.map_id l)
    rw [id, beq_iff_eq]
    exact others x (sub there)
  have changed : (h.setDelivery t).deliveries = before ++ t :: after := by
    show h.deliveries.map _ = _
    rw [split, List.map_append, List.map_cons, kept (List.subset_append_left ..),
      kept (List.subset_append_right ..), if_pos (beq_iff_eq.2 id.symm)]
  rw [steps, steps, changed, split]
  simp only [List.map_append, List.map_cons, List.sum_append, List.sum_cons]
  omega

theorem Sound.steps_of_ends {d : Delivery} (mem : d ∈ h.deliveries) :
    steps { h with deliveries := h.deliveries.filter (·.id != d.id) } + stepsOf d = h.steps := by
  obtain ⟨before, after, split, others⟩ := s.exists_split mem
  have kept {l : List Delivery} (sub : l ⊆ before ++ after) :
      l.filter (·.id != d.id) = l :=
    List.filter_eq_self.2 fun x there => bne_iff_ne.2 (others x (sub there))
  have changed : h.deliveries.filter (·.id != d.id) = before ++ after := by
    rw [split, List.filter_append, List.filter_cons_of_neg (by simp),
      kept (List.subset_append_left ..), kept (List.subset_append_right ..)]
  rw [steps, steps, changed, split]
  simp only [List.map_append, List.map_cons, List.sum_append, List.sum_cons]
  omega

/-- A step of a delivery uses something up, and leaves the number of those who are connected. -/
theorem Sound.steps_of_going {d : Delivery} (mem : d ∈ h.deliveries) {now : Nat} {after : Hub}
    (step : h.advance d now = .going after) :
    after.steps < h.steps ∧ after.subscriptions.length = h.subscriptions.length := by
  have moved := advanced h d now
  rw [step] at moved
  cases moved with
  | goes t id _ _ less _ _ _ goes =>
    have steps := s.steps_setDelivery mem id
    cases goes with
    | notes player now =>
      refine ⟨?_, List.length_map ..⟩
      show (h.setDelivery t).steps < h.steps
      omega
    | takes c =>
      refine ⟨?_, rfl⟩
      show (h.setDelivery t).steps < h.steps
      omega
    | passes c =>
      refine ⟨?_, rfl⟩
      omega

theorem Sound.steps_of_finished {d : Delivery} (mem : d ∈ h.deliveries) {now count : Nat}
    {after : Hub} (step : h.advance d now = .finished count after) :
    after.steps < h.steps ∧ after.subscriptions.length = h.subscriptions.length := by
  have moved := advanced h d now
  rw [step] at moved
  cases moved with
  | ends =>
    have steps := s.steps_of_ends mem
    have some_left : 0 < stepsOf d := Nat.succ_pos _
    exact ⟨by omega, rfl⟩

omit s in
/-- A delivery that begins has two steps at most for each of those who are connected. -/
theorem steps_publish_le (h : Hub) (game : Id) (excluded : Option Id) (n : Notice) :
    (h.publish game excluded n).2.steps ≤ h.steps + (2 * h.subscriptions.length + 1) := by
  have goes : left ⟨h.nextDelivery, game, n, h.targetsOf game excluded, false, 0⟩ =
      (h.targetsOf game excluded).map (·.channel) := rfl
  have few : (h.targetsOf game excluded).length ≤ h.subscriptions.length := by
    rw [targetsOf, List.length_map]
    exact List.length_filter_le ..
  unfold steps Hub.publish
  simp only [List.map_append, List.map_cons, List.map_nil, List.sum_append, List.sum_cons,
    List.sum_nil, stepsOf, goes, List.length_map, Bool.false_eq_true, if_false]
  omega

theorem Sound.coming_of_alone {d : Delivery} (mem : d ∈ h.deliveries) {c : ChannelId}
    (here : c ∈ left d) (alone : ∀ x ∈ h.deliveries, c ∈ left x → x = d) :
    h.coming c = [d.notice] := by
  obtain ⟨before, after, split, others⟩ := s.exists_split mem
  have nothing {x : Delivery} (there : x ∈ before ++ after) :
      (if c ∈ left x then some x.notice else none) = none := by
    refine if_neg fun same => others x there (congrArg Delivery.id (alone x ?_ same))
    rw [split]
    exact List.mem_append.2 ((List.mem_append.1 there).imp_right (List.mem_cons_of_mem d))
  unfold coming
  rw [split, List.filterMap_append, List.filterMap_cons, if_pos here,
    List.filterMap_eq_nil_iff.2 fun x there => nothing (List.mem_append_left _ there),
    List.filterMap_eq_nil_iff.2 fun x there => nothing (List.mem_append_right _ there)]
  rfl

/-- A delivery that begins goes to a connected player of the game unless the player is excluded. -/
theorem Sound.mem_audience {x : Subscription} (mem : x ∈ h.subscriptions) {game : Id}
    {excluded : Option Id} : x.channel ∈ audience h.subscriptions game excluded ↔
      x.game = game ∧ excluded ≠ some x.player := by
  constructor
  · intro there
    obtain ⟨y, hy, channel, meant⟩ := exists_of_mem_audience there
    obtain rfl := s.subscription_eq hy mem channel
    exact meant
  · rintro ⟨own, meant⟩
    exact List.mem_map_of_mem (List.mem_filter.2 ⟨mem, by simp [own, meant]⟩)

end Coming

/-! ## Who is under way -/

section Answers

variable {h : Hub} {log : List Happening} (s : Sound h log)

/-- What an act does to the places of the deliveries: nothing, or one begins, or one ends. -/
inductive Replaced (h : Hub) : List (Nat × Id) → List Happening → Prop where
  | stay (hs : List Happening) (none_begins : ∀ e ∈ hs, e.begins = false)
    (none_ends : ∀ id count, .returned id count ∉ hs) : Replaced h h.places hs
  | begins (game : Id) (excluded : Option Id) (n : Notice) :
    Replaced h (h.places ++ [(h.nextDelivery, game)])
      [.began h.nextDelivery game excluded n h.subscriptions]
  | ends (id count : Nat) : Replaced h (h.places.filter (·.1 != id)) [.returned id count]

theorem Answered.start : Answered {} [] := by simp [Answered]

/-- A delivery that is no longer under way has ended. -/
theorem Answered.exists_returned (answered : Answered h log) {id : Nat} {game : Id}
    {excluded : Option Id} {n : Notice} {registry : List Subscription}
    (began : .began id game excluded n registry ∈ log) (gone : (id, game) ∉ h.places) :
    ∃ count, .returned id count ∈ log := by
  by_contra none
  exact gone ((answered id game excluded n registry began).2 fun count there => none ⟨count, there⟩)

include s

/-- A delivery that has ended began before. -/
theorem Sound.lt_of_returned {id count : Nat} (returned : .returned id count ∈ log) :
    id < h.nextDelivery := by
  obtain ⟨past, later, rfl⟩ := List.append_of_mem returned
  obtain ⟨game, excluded, n, registry, began, -⟩ := s.grounded past (.returned id count) later rfl
  exact s.known_delivery _ _ _ _ _ (List.mem_append_left _ began)

theorem Sound.replaced (a : Act) : Replaced h (h.act a).1.places (h.act a).2 := by
  by_cases connection : a.isConnection = true
  · have connects := h.connects connection
    rw [places, h.deliveries_of_connection connection]
    generalize h.act a = came at connects
    cases connects <;> exact .stay _ (by simp [Happening.begins]) (by simp)
  · cases a with
    | publish game excluded n =>
      rw [show (h.act (.publish game excluded n)).1.places = _ from
        places_publish h game excluded n]
      exact .begins game excluded n
    | advance id now =>
      rcases found : h.delivery? id with _ | d
      · rw [act_advance_of_none found]
        exact .stay _ (by simp) (by simp)
      · obtain ⟨there, rfl⟩ := mem_of_delivery? found
        rw [act_advance found]
        have step := advanced h d now
        generalize h.advance d now = progress at step
        cases step with
        | waits => exact .stay _ (by simp) (by simp)
        | goes t id game _ _ after hs attempt goes =>
          dsimp only
          rw [attempt, s.places_of_goes there id game goes]
          cases goes <;> exact .stay _ (by simp [Happening.begins]) (by simp)
        | ends =>
          dsimp only
          rw [places_of_ends]
          exact .ends d.id d.accepted
    | _ => exact absurd rfl connection

theorem Sound.answered_act (answered : Answered h log) (a : Act) :
    Answered (h.act a).1 (log ++ (h.act a).2) := by
  have moved := s.replaced a
  intro id game excluded n registry began
  generalize (h.act a).1.places = places, (h.act a).2 = hs at moved began ⊢
  rcases List.mem_append.1 began with old | new
  · have before := answered id game excluded n registry old
    cases moved with
    | stay _ _ none_ends => simp [before, none_ends]
    | begins g e m =>
      have other : id ≠ h.nextDelivery := Nat.ne_of_lt (s.known_delivery _ _ _ _ _ old)
      simp [before, other]
    | ends i count => simp [before, forall_and]
  · cases moved with
    | stay _ none_begins => cases none_begins _ new
    | begins g e m =>
      cases List.mem_singleton.1 new
      have never (count : Nat) : .returned h.nextDelivery count ∉ log := fun there =>
        Nat.lt_irrefl _ (s.lt_of_returned there)
      simp [never]
    | ends i count => simp at new

end Answers

/-! ## What a player hears -/

section Flow

variable {h : Hub} {log : List Happening} (s : Sound h log) {x : Subscription}
  (mem : x ∈ h.subscriptions)

include s mem

/-- What begins to go out is coming to whom it is meant for. -/
theorem Sound.flow_publish (game : Id) (excluded : Option Id) (n : Notice) :
    (h.publish game excluded n).2.coming x.channel = h.coming x.channel ++
      heardBy x.player (begun [.began h.nextDelivery game excluded n h.subscriptions] x.game) := by
  have goes : left ⟨h.nextDelivery, game, n, h.targetsOf game excluded, false, 0⟩ =
      audience h.subscriptions game excluded := by
    show (h.targetsOf game excluded).map (·.channel) = _
    rw [targetsOf, List.map_map]
    rfl
  unfold coming Hub.publish
  rw [List.filterMap_append, begun_began]
  congr 1
  simp only [List.filterMap_cons, List.filterMap_nil, goes, s.mem_audience mem]
  by_cases own : game = x.game
  · by_cases meant : excluded = some x.player
    · simp [own, meant, heardBy, Outgoing.excluded_of]
    · simp [own, meant, heardBy, Outgoing.excluded_of, Outgoing.notice_of]
  · simp [own, Ne.symm own, heardBy]

/-- What a channel takes is what was coming first. -/
theorem Sound.flow_goes
    (alone : ∀ d ∈ h.deliveries, ∀ e ∈ h.deliveries, e.game = d.game → e = d) {d t : Delivery}
    (there : d ∈ h.deliveries) (id : t.id = d.id) (notice : t.notice = d.notice) {after : Hub}
    {hs : List Happening} (goes : Goes h d t after hs) :
    accepts hs x.channel ++ after.coming x.channel = h.coming x.channel := by
  cases goes with
  | notes player now stays => exact s.coming_setDelivery there id notice (by rw [stays])
  | takes c goes =>
    by_cases own : c = x.channel
    · subst own
      have here : x.channel ∈ left d := goes ▸ List.mem_cons_self
      have only : ∀ e ∈ h.deliveries, x.channel ∈ left e → e = d := by
        intro e he reached
        refine alone d there e he ?_
        rw [s.game_eq_of_left he reached (s.opened x mem),
          s.game_eq_of_left there here (s.opened x mem)]
      have nothing : (h.setDelivery t).coming x.channel = [] := by
        refine List.filterMap_eq_nil_iff.2 fun e he => if_neg fun reached => ?_
        rcases Sound.mem_setDelivery he with rfl | ⟨old, ne⟩
        · have nodup := s.left_nodup there
          rw [goes, List.nodup_cons] at nodup
          exact nodup.1 reached
        · exact ne ((congrArg Delivery.id (only e old reached)).trans id.symm)
      rw [s.coming_of_alone there here only]
      show accepts [.accepted d.id x.channel d.notice] x.channel ++
        (h.setDelivery t).coming x.channel = _
      rw [nothing]
      simp [accepts]
    · have others : x.channel ∈ left t ↔ x.channel ∈ left d := by
        rw [goes, List.mem_cons, or_iff_right (Ne.symm own)]
      have nothing : accepts [.accepted d.id c d.notice] x.channel = [] := by simp [accepts, own]
      rw [nothing]
      exact s.coming_setDelivery there id notice others
  | passes c goes gone =>
    have other : x.channel ≠ c := by
      rintro rfl
      have registered : h.isRegistered x.channel = true :=
        List.any_eq_true.2 ⟨x, mem, beq_self_eq_true _⟩
      rw [isReadable, registered] at gone
      cases gone
    have others : x.channel ∈ left t ↔ x.channel ∈ left d := by
      rw [goes, List.mem_cons, or_iff_right other]
    exact s.coming_setDelivery there id notice others

theorem Sound.flow_act
    (alone : ∀ d ∈ h.deliveries, ∀ e ∈ h.deliveries, e.game = d.game → e = d) (a : Act) :
    accepts (h.act a).2 x.channel ++ (h.act a).1.coming x.channel =
      h.coming x.channel ++ heardBy x.player (begun (h.act a).2 x.game) := by
  by_cases published : ∃ game excluded n, a = .publish game excluded n
  · obtain ⟨game, excluded, n, rfl⟩ := published
    exact s.flow_publish mem game excluded n
  · push Not at published
    rw [begun_of_others (h.begins_act published)]
    show _ = _ ++ []
    rw [List.append_nil]
    by_cases connection : a.isConnection = true
    · rw [h.accepts_of_connection connection, coming, h.deliveries_of_connection connection]
      rfl
    · cases a with
      | advance id now =>
        rcases found : h.delivery? id with _ | d
        · rw [act_advance_of_none found]
          rfl
        · obtain ⟨there, -⟩ := mem_of_delivery? found
          rw [act_advance found]
          have step := advanced h d now
          generalize h.advance d now = progress at step
          cases step with
          | waits => rfl
          | goes t id _ notice _ after hs attempt goes =>
            dsimp only
            rw [attempt]
            exact s.flow_goes mem alone there id notice goes
          | ends done =>
            show ([] ++ coming { h with deliveries := h.deliveries.filter (·.id != d.id) } _) = _
            rw [List.nil_append, coming, List.filterMap_filter]
            refine List.filterMap_congr fun e he => ?_
            by_cases own : e.id = d.id
            · obtain rfl := s.delivery_eq he there own
              simp [done]
            · simp [own]
      | publish game excluded n => exact absurd rfl (published game excluded n)
      | _ => exact absurd rfl connection

end Flow

/-! ## One act after another -/

/-- A connection hears on what it heard. -/
theorem Hears.append {h after : Hub} {log hs : List Happening} {x y : Subscription}
    (hears : Hears h log x) (opened : .opened x.channel x.game x.player ∈ log)
    (same : x.channel = y.channel ∧ x.game = y.game ∧ x.player = y.player)
    (flow : accepts hs x.channel ++ after.coming x.channel =
      h.coming x.channel ++ heardBy x.player (begun hs x.game)) : Hears after (log ++ hs) y := by
  unfold Hears at hears ⊢
  rw [← same.1, ← same.2.1, ← same.2.2, accepts_append, since_append opened, begun_append,
    Outgoing.heardBy_append, List.append_assoc, flow, ← List.append_assoc, hears]

/-- Who connects has heard nothing yet. -/
theorem Sound.hears_new {h after : Hub} {log : List Happening} (s : Sound h log)
    (deliveries : after.deliveries = h.deliveries) {y : Subscription}
    (new : y.channel = h.nextChannel) :
    Hears after (log ++ [.opened y.channel y.game y.player]) y := by
  have first : ∀ game player, .opened y.channel game player ∉ log := fun game player there =>
    Nat.lt_irrefl _ (new ▸ s.known_channel _ _ _ there)
  have nothing : after.coming y.channel = [] := by
    rw [coming, deliveries, new]
    exact s.coming_next
  unfold Hears
  rw [accepts_append, nothing, since_split first, new, s.accepts_next]
  rfl

theorem in_turn_of_other {e : Happening} (other : e.begins = false) (past : List Happening) :
    InTurn past e := by
  cases e with
  | began id game excluded n registry => cases other
  | _ => trivial

namespace TurnByTurn

theorem start : TurnByTurn {} [] where
  sound := Sound.start
  in_turn := by simp
  answered := Answered.start
  hears := by simp

variable {h : Hub} {log : List Happening} (w : TurnByTurn h log)

include w

theorem place_eq {p q : Nat × Id} (mem : p ∈ h.places) (mem' : q ∈ h.places) (same : p.1 = q.1) :
    p = q := by
  obtain ⟨d, there, rfl⟩ := List.mem_map.1 mem
  obtain ⟨e, there', rfl⟩ := List.mem_map.1 mem'
  rw [w.sound.delivery_eq there there' same]

theorem in_turn_append {hs : List Happening} (others : ∀ e ∈ hs, e.begins = false) :
    ∀ past e later, log ++ hs = past ++ e :: later → InTurn past e := by
  induction hs using List.reverseRecOn with
  | nil =>
    rw [List.append_nil]
    exact w.in_turn
  | append_singleton hs e ih =>
    rw [← List.append_assoc]
    refine split_append (ih fun x mem => others x (List.mem_append_left _ mem)) ?_
    exact in_turn_of_other (others e (List.mem_append_right _ (List.mem_singleton_self e))) _

/-- The hub goes on turn by turn if a delivery begins only where none is under way. -/
theorem act (a : Act)
    (alone : ∀ d ∈ h.deliveries, ∀ e ∈ h.deliveries, e.game = d.game → e = d)
    (turn : ∀ game excluded n, a = .publish game excluded n → ∀ p ∈ h.places, p.2 ≠ game) :
    TurnByTurn (h.act a).1 (log ++ (h.act a).2) where
  sound := w.sound.act a
  in_turn := by
    by_cases published : ∃ game excluded n, a = .publish game excluded n
    · obtain ⟨game, excluded, n, rfl⟩ := published
      refine split_append w.in_turn fun id excluded' n' registry began => ?_
      exact w.answered.exists_returned began fun there => turn game excluded n rfl _ there rfl
    · push Not at published
      exact w.in_turn_append (h.begins_act published)
  answered := w.sound.answered_act w.answered a
  hears y mem := by
    rcases h.subscriptions_act a mem with ⟨x, there, same⟩ | ⟨connection, new, opened⟩
    · exact (w.hears x there).append (w.sound.opened x there) same
        (w.sound.flow_act there alone a)
    · rw [opened]
      exact w.sound.hears_new (h.deliveries_of_connection connection) new

end TurnByTurn

end Hub

end GuessingRoom
