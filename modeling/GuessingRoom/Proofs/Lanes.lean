import GuessingRoom.Proofs.Ears
import GuessingRoom.Proofs.PublishLaw

/-!
# Lanes

All that a game has to do with its publication, without the numbers by which the hub and the queue
tell channels, deliveries and batches apart: who is connected, and what has become of its batches
(`Lane`). A batch that takes a step moves in the lane of its game, by what it finds there and nothing
else (`Lane.move`), and it leaves the lanes of all other games alone (`Traffic.Sound.lane_step`). So
it is held up by what is in its lane or not at all.
-/

namespace GuessingRoom

/-- A notice that is going out: the players to whom it has still to go, and how many took it. -/
structure Transit where
  notice : Notice
  audience : List Id
  taken : Bool := false
  accepted : Nat := 0
deriving DecidableEq, Repr

/-- What a batch has still to begin with, and what is going out. -/
structure Parcel where
  items : List Outgoing
  transit : Option Transit := none
  done : Bool := false
deriving DecidableEq, Repr

/-- The connected players of a game, and its batches in the order in which they were queued. A batch
that has left the queue keeps its place only. -/
structure Lane where
  ears : List Ear := []
  parcels : List (Option Parcel) := []
deriving DecidableEq, Repr

namespace Lane

def put (l : Lane) (i : Nat) (p : Option Parcel) : Lane := { l with parcels := l.parcels.set i p }

/-- Whether one of the batches queued before has not gone out. -/
def isHeldUp (l : Lane) (i : Nat) : Bool := (l.parcels.take i).any fun p => p.any (!·.done)

/-- A notice goes to the next player: it is noted that the player took it, or it waits as long as
another one does, or the player takes it. -/
def carry (l : Lane) (now i : Nat) (p : Parcel) (g : Transit) : Option Lane :=
  match g.audience with
  | [] => some (l.put i (some { p with transit := none }))
  | player :: rest =>
    if g.taken then
      some (put { l with ears := Ear.change player (.note now) l.ears } i
        (some { p with transit := some { g with audience := rest, taken := false } }))
    else if Ear.isFull l.ears player then none
    else
      some (put { l with ears := Ear.change player (.hold (some g.notice)) l.ears } i
        (some { p with transit := some { g with taken := true, accepted := g.accepted + 1 } }))

/-- The batch begins with its next item, to everyone but the one it is from. -/
def next (l : Lane) (p : Parcel) : Parcel :=
  match p.items with
  | [] => { p with done := true }
  | item :: items =>
    { p with items, transit := some ⟨item.notice, Ear.audience l.ears item.excluded, false, 0⟩ }

/-- The next step of a batch, unless there is none or it has to wait. -/
def move (l : Lane) (now i : Nat) : Option Lane :=
  match l.parcels[i]? with
  | some (some p) =>
    if p.done then some (l.put i none)
    else match p.transit with
      | some g => l.carry now i p g
      | none => if l.isHeldUp i then none else some (l.put i (some (l.next p)))
  | _ => none

def step (l : Lane) (now i : Nat) : Lane := (l.move now i).getD l

/-- A batch is queued behind all others. -/
def queue (l : Lane) (items : List Outgoing) : Lane :=
  { l with parcels := l.parcels ++ [some { items }] }

theorem move_of_gone {l : Lane} {i : Nat} (gone : ∀ p, l.parcels[i]? ≠ some (some p)) (now : Nat) :
    l.move now i = none := by
  unfold move
  split
  · rename_i p place
    exact absurd place (gone p)
  · rfl

section Move

variable {l : Lane} {i : Nat} {p : Parcel} (place : l.parcels[i]? = some (some p)) (now : Nat)
include place

theorem move_of_done (done : p.done = true) : l.move now i = some (l.put i none) := by
  rw [move, place]
  exact if_pos done

theorem move_of_transit (undone : p.done = false) {g : Transit} (transit : p.transit = some g) :
    l.move now i = l.carry now i p g := by
  rw [move, place]
  simp only [undone, Bool.false_eq_true, if_false, transit]

theorem move_of_idle (undone : p.done = false) (idle : p.transit = none) :
    l.move now i = if l.isHeldUp i then none else some (l.put i (some (l.next p))) := by
  rw [move, place]
  simp only [undone, Bool.false_eq_true, if_false, idle]

end Move

end Lane

/-! ## The lane of a game -/

namespace Hub

/-- The delivery of a batch, as the game sees it. -/
def transit? (h : Hub) (b : Batch) : Option Transit :=
  (b.delivery.bind h.delivery?).map fun d =>
    ⟨d.notice, d.targets.map (·.player), d.taken, d.accepted⟩

def parcel (h : Hub) (b : Batch) : Parcel := ⟨b.items, h.transit? b, b.done⟩

end Hub

namespace Service

/-- What has become of the batch of the given number. -/
def parcel? (s : Service) (number : Nat) : Option Parcel :=
  (s.batches.find? (·.number == number)).map s.hub.parcel

/-- The lane of a game for which the batches were queued. -/
def lane (s : Service) (queued : List Batch) (game : Id) : Lane where
  ears := s.hub.ears game
  parcels := (queued.filter (·.game == game)).map fun q => s.parcel? q.number

end Service

namespace Traffic

/-- The batches that were ever queued for a game. -/
def queuedFor (t : Traffic) (game : Id) : List Batch := t.queued.filter (·.game == game)

def lane (t : Traffic) (game : Id) : Lane := t.service.lane t.queued game

end Traffic

/-! ## Looking batches and deliveries up -/

/-- What is as it was for every game is so for the one that is spoken of. -/
theorem eq_ite_self {β : Type} (f : Id → β) (game other : Id) :
    f other = if other = game then f game else f other := by
  split
  · rename_i own
    rw [own]
  · rfl

theorem find?_number_iff {l : List Batch} (distinct : (l.map (·.number)).Nodup) {n : Nat}
    {x : Batch} : l.find? (·.number == n) = some x ↔ x ∈ l ∧ x.number = n := by
  constructor
  · intro found
    exact ⟨List.mem_of_find?_eq_some found, by simpa using List.find?_some found⟩
  · rintro ⟨mem, rfl⟩
    obtain ⟨y, found⟩ := Option.isSome_iff_exists.1
      (List.find?_isSome (p := (·.number == x.number)) |>.2 ⟨x, mem, beq_self_eq_true _⟩)
    have same : y.number = x.number := by simpa using List.find?_some found
    rw [found, List.inj_on_of_nodup_map distinct (List.mem_of_find?_eq_some found) mem same]

/-- In a list of different items one is replaced. -/
theorem map_eq_set {α β : Type} {l : List α} (distinct : l.Nodup) {i : Nat} {a : α}
    (here : l[i]? = some a) {f g : α → β} (others : ∀ x ∈ l, x ≠ a → g x = f x) :
    l.map g = (l.map f).set i (g a) := by
  refine List.ext_getElem? fun j => ?_
  rw [List.getElem?_map, List.getElem?_set, List.length_map, List.getElem?_map]
  obtain ⟨lt, e⟩ := List.getElem?_eq_some_iff.1 here
  by_cases same : i = j
  · subst same
    rw [if_pos rfl, if_pos lt, here]
    rfl
  · rw [if_neg same]
    rcases there : l[j]? with _ | x
    · rfl
    · refine congrArg some (others x (List.mem_of_getElem? there) ?_)
      rintro rfl
      obtain ⟨lt', e'⟩ := List.getElem?_eq_some_iff.1 there
      exact same ((distinct.getElem_inj_iff).1 (e.trans e'.symm))

namespace Hub

variable {h : Hub}

theorem transit?_of_delivery {b : Batch} {d : Delivery} (delivery : b.delivery = some d.id)
    (found : h.delivery? d.id = some d) :
    h.transit? b = some ⟨d.notice, d.targets.map (·.player), d.taken, d.accepted⟩ := by
  rw [transit?, delivery, Option.bind_some, found, Option.map_some]

theorem transit?_of_idle {b : Batch} (idle : b.delivery = none) : h.transit? b = none := by
  rw [transit?, idle]
  rfl

/-- What becomes of other deliveries does not concern a batch. -/
theorem parcel_congr {h' : Hub} {b : Batch}
    (same : ∀ id, b.delivery = some id → h'.delivery? id = h.delivery? id) :
    h'.parcel b = h.parcel b := by
  have transit : h'.transit? b = h.transit? b := by
    rcases delivery : b.delivery with _ | id
    · rw [transit?_of_idle delivery, transit?_of_idle delivery]
    · rw [transit?, transit?, delivery, Option.bind_some, Option.bind_some, same id delivery]
  rw [parcel, parcel, transit]

end Hub

/-! ## The step of a batch -/

namespace Traffic.Sound

open PublishQueue (InLine)

variable {t : Traffic} (s : t.Sound)
include s

theorem queued_nodup : t.queued.Nodup := by
  have distinct : (t.queued.map (·.number)).Nodup := by
    rw [s.line.numbers]
    exact List.nodup_range
  exact distinct.of_map

theorem parcel?_of_mem {b : Batch} (mem : b ∈ t.service.batches) :
    t.service.parcel? b.number = some (t.service.hub.parcel b) := by
  rw [Service.parcel?, (find?_number_iff s.line.distinct).2 ⟨mem, rfl⟩, Option.map_some]

/-- One batch has changed, so that the lane of its game differs in one place, and no other lane. -/
theorem lane_change {u : Service} {b q : Batch} {i : Nat}
    (here : (t.queuedFor b.game)[i]? = some q) (own : q.number = b.number) {p : Option Parcel}
    (changed : ∀ n, u.parcel? n = if n = b.number then p else t.service.parcel? n) (game : Id) :
    (u.lane t.queued game).parcels =
      if game = b.game then (t.lane game).parcels.set i p else (t.lane game).parcels := by
  have mem := List.mem_of_getElem? here
  obtain ⟨mem, game_q⟩ := List.mem_filter.1 mem
  have game_q : q.game = b.game := beq_iff_eq.1 game_q
  have others {x : Batch} (there : x ∈ t.queued) (ne : x ≠ q) :
      u.parcel? x.number = t.service.parcel? x.number := by
    rw [changed, if_neg fun same => ne (s.line.queued_eq there mem (same.trans own.symm))]
  split
  · rename_i at_home
    have new : u.parcel? q.number = p := by rw [changed, if_pos own]
    subst at_home
    rw [← new]
    exact map_eq_set (s.queued_nodup.filter _) here fun x there ne =>
      others (List.mem_filter.1 there).1 ne
  · rename_i away
    refine List.map_congr_left fun x there => ?_
    obtain ⟨there, game_x⟩ := List.mem_filter.1 there
    refine others there ?_
    rintro rfl
    exact away ((beq_iff_eq.1 game_x).symm.trans game_q)

/-- Only its own batch has to do with a delivery. -/
theorem delivery_ne {b x : Batch} (mem : b ∈ t.service.batches) (there : x ∈ t.service.batches)
    (ne : x.number ≠ b.number) {id id' : Nat} (its : b.delivery = some id)
    (its' : x.delivery = some id') : id' ≠ id := by
  rintro rfl
  have same := s.turns.place_eq (s.work.under_way x there id' its')
    (s.work.under_way b mem id' its) rfl
  exact ne (congrArg Batch.number (s.line.eq_of_delivery mem there (congrArg Prod.snd same)
    (by simp [its]) (by simp [its'])))

/-- A batch has become another one, by which no other batch was concerned. -/
theorem parcel?_put {b b' : Batch} (mem : b ∈ t.service.batches) (number : b'.number = b.number)
    {hub : Hub} (distinct : ((t.service.batches.erase b ++ [b']).map (·.number)).Nodup)
    (others : ∀ x ∈ t.service.batches, x.number ≠ b.number → hub.parcel x = t.service.hub.parcel x)
    (n : Nat) :
    ({ t.service.without (.batch b) with hub }.spawn (.batch b')).parcel? n =
      if n = b.number then some (hub.parcel b') else t.service.parcel? n := by
  have found : (t.service.batches.erase b ++ [b']).find? (·.number == n) =
      if n = b.number then some b' else t.service.batches.find? (·.number == n) := by
    refine Option.ext fun x => ?_
    rw [find?_number_iff distinct, s.line.mem_stepped mem]
    split
    · rename_i own
      constructor
      · rintro ⟨⟨-, ne⟩ | rfl, same⟩
        · exact absurd (same.trans own) ne
        · rfl
      · rintro ⟨⟩
        exact ⟨.inr rfl, number.trans own.symm⟩
    · rename_i other
      rw [find?_number_iff s.line.distinct]
      constructor
      · rintro ⟨⟨there, -⟩ | rfl, same⟩
        · exact ⟨there, same⟩
        · exact absurd (same.symm.trans number) other
      · rintro ⟨there, same⟩
        exact ⟨.inl ⟨there, same ▸ other⟩, same⟩
  unfold Service.parcel?
  rw [batches_put, found]
  split
  · rfl
  · rename_i other
    rcases there : t.service.batches.find? (·.number == n) with _ | x <;> rw [there]
    · rfl
    · obtain ⟨mem', same⟩ := (find?_number_iff s.line.distinct).1 there
      exact congrArg some (others x mem' (same ▸ other))

theorem parcel?_leave {b : Batch} (mem : b ∈ t.service.batches) (queue : PublishQueue) (n : Nat) :
    Service.parcel? { t.service.without (.batch b) with queue } n =
      if n = b.number then none else t.service.parcel? n := by
  have distinct : ((t.service.batches.erase b).map (·.number)).Nodup :=
    s.line.distinct.sublist (List.erase_sublist.map _)
  have found : (t.service.batches.erase b).find? (·.number == n) =
      if n = b.number then none else t.service.batches.find? (·.number == n) := by
    refine Option.ext fun x => ?_
    rw [find?_number_iff distinct, s.line.mem_erase mem]
    split
    · rename_i own
      constructor
      · rintro ⟨⟨-, ne⟩, same⟩
        exact absurd (same.trans own) ne
      · rintro ⟨⟩
    · rename_i other
      rw [find?_number_iff s.line.distinct]
      exact ⟨fun ⟨⟨there, _⟩, same⟩ => ⟨there, same⟩,
        fun ⟨there, same⟩ => ⟨⟨there, same ▸ other⟩, same⟩⟩
  unfold Service.parcel?
  rw [batches_leave, found]
  split <;> rfl

section Place

variable {b q : Batch} {i : Nat} (mem : b ∈ t.service.batches)
  (here : (t.queuedFor b.game)[i]? = some q) (own : q.number = b.number)
include here own

theorem exists_split : ∃ before after, t.queuedFor b.game = before ++ q :: after ∧
    before = (t.queuedFor b.game).take i ∧ (∀ x ∈ before, x.number < b.number) ∧
      ∀ x ∈ after, b.number < x.number := by
  obtain ⟨lt, e⟩ := List.getElem?_eq_some_iff.1 here
  have split : t.queuedFor b.game =
      (t.queuedFor b.game).take i ++ q :: (t.queuedFor b.game).drop (i + 1) := by
    rw [← e, ← List.drop_eq_getElem_cons lt, List.take_append_drop]
  have sorted : (t.queued.map (·.number)).Pairwise (· < ·) := by
    rw [s.line.numbers]
    exact List.pairwise_lt_range
  have sorted : (t.queuedFor b.game).Pairwise fun x y => x.number < y.number :=
    (List.pairwise_map.1 sorted).filter _
  rw [split, List.pairwise_append, List.pairwise_cons] at sorted
  obtain ⟨-, ⟨later, -⟩, earlier⟩ := sorted
  exact ⟨_, _, split, rfl, fun x there => own ▸ earlier x there q List.mem_cons_self,
    fun x there => own ▸ later x there⟩

/-- A batch is held up in its lane if one that was queued before has not gone out. -/
theorem isHeldUp_iff : (t.lane b.game).isHeldUp i = true ↔
    ∃ x ∈ t.service.batches, x.game = b.game ∧ x.number < b.number ∧ x.done = false := by
  obtain ⟨before, after, split, first, earlier, later⟩ := s.exists_split here own
  have taken : (t.lane b.game).parcels.take i = before.map fun x => t.service.parcel? x.number := by
    rw [first, List.map_take]
    rfl
  rw [Lane.isHeldUp, taken, List.any_map, List.any_eq_true]
  have stored {x : Batch} (there : x ∈ t.queuedFor b.game) : x ∈ t.queued ∧ x.game = b.game := by
    obtain ⟨there, game⟩ := List.mem_filter.1 there
    exact ⟨there, beq_iff_eq.1 game⟩
  constructor
  · rintro ⟨x, there, open_⟩
    rw [Function.comp_apply, Service.parcel?, Option.any_map, Option.any_eq_true] at open_
    obtain ⟨y, found, undone⟩ := open_
    obtain ⟨mem, same⟩ := (find?_number_iff s.line.distinct).1 found
    obtain ⟨queued, game⟩ := stored (split ▸ List.mem_append_left _ there)
    exact ⟨y, mem, (s.line.game_eq mem queued same.symm).symm.trans game, same ▸ earlier x there,
      by simpa [Hub.parcel] using undone⟩
  · rintro ⟨y, mem, game, lt, undone⟩
    obtain ⟨x, queued, number, game_x⟩ := s.line.known y mem
    have there : x ∈ t.queuedFor b.game :=
      List.mem_filter.2 ⟨queued, beq_iff_eq.2 (game_x.trans game)⟩
    rw [split, List.mem_append, List.mem_cons] at there
    have there : x ∈ before := by
      rcases there with there | rfl | there
      · exact there
      · exact absurd (number ▸ own ▸ lt) (Nat.lt_irrefl _)
      · exact absurd (later x there) (Nat.lt_asymm (number ▸ lt))
    refine ⟨x, there, ?_⟩
    rw [Function.comp_apply, number, s.parcel?_of_mem mem, Option.any_some]
    simp [Hub.parcel, undone]

include mem

theorem isHeldUp_of_free (free : ∀ p, b.previous = some p →
    (t.service.without (.batch b)).isPublishing p = false) :
    (t.lane b.game).isHeldUp i = false := by
  rw [← Bool.not_eq_true, s.isHeldUp_iff here own]
  rintro ⟨x, there, game, lt, undone⟩
  rw [s.isNext_of_free mem free x there game lt] at undone
  cases undone

theorem parcel_in_lane :
    (t.lane b.game).parcels[i]? = some (some (t.service.hub.parcel b)) := by
  show ((t.queuedFor b.game).map _)[i]? = _
  rw [List.getElem?_map, here, Option.map_some, own, s.parcel?_of_mem mem]

end Place

end Traffic.Sound

/-! ## Steps -/

namespace Traffic

/-- What a step of a batch comes to in the lanes: it waits, as it has to in its lane, or it moves
there, and the lanes of other games stay as they are. -/
inductive LaneMoves (t : Traffic) (b : Batch) (i : Nat) : Prop where
  | waits (waits : t.Waits b) (held : (t.lane b.game).move t.service.now i = none)
  | goes (goes : ¬ t.Waits b) (moored : (t.service.stepBatch b).hub.Moored) (l : Lane)
    (moves : (t.lane b.game).move t.service.now i = some l)
    (lanes : ∀ game, (t.service.stepBatch b).lane t.queued game =
      if game = b.game then l else t.lane game)

namespace Sound

variable {t : Traffic} (s : t.Sound) {b q : Batch} {i : Nat} (mem : b ∈ t.service.batches)
  (here : (t.queuedFor b.game)[i]? = some q) (own : q.number = b.number)
include s here own

theorem lane_eq {u : Service} {p : Option Parcel} {ears : List Ear}
    (changed : ∀ n, u.parcel? n = if n = b.number then p else t.service.parcel? n)
    (heard : ∀ game, u.hub.ears game = if game = b.game then ears else t.service.hub.ears game)
    (game : Id) : u.lane t.queued game =
      if game = b.game then ⟨ears, (t.lane b.game).parcels.set i p⟩ else t.lane game := by
  have parcels := s.lane_change here own changed game
  have heard := heard game
  have whole (l : Lane) : l = ⟨l.ears, l.parcels⟩ := rfl
  rw [whole (u.lane t.queued game), parcels]
  show Lane.mk (u.hub.ears game) _ = _
  rw [heard]
  split
  · rename_i at_home
    rw [at_home]
  · rfl

include mem

/-- A batch has become another one, and perhaps one of the connected players has changed. -/
theorem lane_put {b' : Batch} {hub : Hub} {ears : List Ear}
    (stepped : t.service.stepBatch b =
      { t.service.without (.batch b) with hub }.spawn (.batch b'))
    (number : b'.number = b.number)
    (others : ∀ x ∈ t.service.batches, x.number ≠ b.number → hub.parcel x = t.service.hub.parcel x)
    (heard : ∀ game, hub.ears game = if game = b.game then ears else t.service.hub.ears game)
    (game : Id) : (t.service.stepBatch b).lane t.queued game =
      if game = b.game then ⟨ears, (t.lane b.game).parcels.set i (some (hub.parcel b'))⟩
      else t.lane game := by
  have distinct := (s.step mem).line.distinct
  rw [stepped, batches_put] at distinct
  rw [stepped]
  exact s.lane_eq here own (s.parcel?_put mem number distinct others) heard game

/-- The delivery of a batch has gone on. -/
theorem lane_carry {d d' : Delivery} {hub : Hub} {ears : List Ear}
    (delivery : b.delivery = some d.id) (found : t.service.hub.delivery? d.id = some d)
    (deliveries : hub.deliveries = (t.service.hub.setDelivery d').deliveries) (id : d'.id = d.id)
    (heard : ∀ game, hub.ears game = if game = b.game then ears else t.service.hub.ears game)
    (stepped : t.service.stepBatch b = { t.service.without (.batch b) with hub }.spawn (.batch b))
    (game : Id) : (t.service.stepBatch b).lane t.queued game =
      if game = b.game then ⟨ears, (t.lane b.game).parcels.set i (some ⟨b.items,
        some ⟨d'.notice, d'.targets.map (·.player), d'.taken, d'.accepted⟩, b.done⟩)⟩
      else t.lane game := by
  have found' : hub.delivery? d'.id = some d' := by
    rw [Hub.delivery?_congr deliveries, id, Hub.delivery?_setDelivery found id]
  have parcel : hub.parcel b = ⟨b.items,
      some ⟨d'.notice, d'.targets.map (·.player), d'.taken, d'.accepted⟩, b.done⟩ := by
    rw [Hub.parcel, Hub.transit?_of_delivery (id ▸ delivery) found']
  rw [← parcel]
  refine s.lane_put mem here own stepped rfl (fun x there ne => ?_) heard game
  refine Hub.parcel_congr fun id' its => ?_
  rw [Hub.delivery?_congr deliveries]
  exact Hub.delivery?_setDelivery_of_ne (id ▸ s.delivery_ne mem there ne delivery its)

theorem laneMoves (m : t.service.hub.Moored) : t.LaneMoves b i := by
  have place := s.parcel_in_lane mem here own
  have moves := (t.service.without (.batch b)).batchMoves b
  generalize move : (t.service.without (.batch b)).moveBatch b = came,
    (t.service.without (.batch b)).happenings b = hs at moves
  have stays := eq_ite_self t.service.hub.ears b.game
  -- a batch with a delivery does what the delivery does, any other looks at those before it
  have goes {u : Service} {j : Job} (going : came = .going u j) :
      ¬ t.Waits b ∧ t.service.stepBatch b = u.spawn j := by
    unfold Traffic.Waits Service.stepBatch
    rw [move, going]
    exact ⟨by simp, rfl⟩
  cases moves with
  | follows p undone idle previous open_ =>
    refine .waits move ?_
    have held := (s.isHeldUp_iff here own).2 (s.exists_earlier mem previous open_)
    rw [Lane.move_of_idle place _ undone (Hub.transit?_of_idle idle), held]
    rfl
  | waits d undone delivery there step =>
    have there : d ∈ t.service.hub.deliveries := there
    have carried := m.carries s.turns.sound there t.service.now
    rw [show t.service.hub.advance d t.service.now = .waiting from step] at carried
    have transit := Hub.transit?_of_delivery delivery (s.turns.sound.delivery?_of_mem there)
    cases carried with
    | waits target rest targets taken full =>
      rw [s.game_eq_of_delivery mem delivery there] at full
      have full : Ear.isFull (t.lane b.game).ears target.player = true := full
      refine .waits move ?_
      rw [Lane.move_of_transit place _ undone transit, Lane.carry]
      simp only [targets, List.map_cons, taken, full, Bool.false_eq_true, if_false, if_true]
  | goes d undone delivery found hub step =>
    have found : t.service.hub.delivery? d.id = some d := found
    have there := (Hub.mem_of_delivery? found).1
    have game_d := s.game_eq_of_delivery mem delivery there
    have carried := m.carries s.turns.sound there t.service.now
    rw [show t.service.hub.advance d t.service.now = .going hub from step] at carried
    obtain ⟨goes, stepped⟩ := goes rfl
    have transit := Hub.transit?_of_delivery delivery found
    cases carried with
    | takes target rest targets taken free _ moored deliveries ears =>
      rw [game_d] at free ears
      have free : Ear.isFull (t.lane b.game).ears target.player = false := free
      refine .goes goes ?_ _ ?_
        (s.lane_carry mem here own delivery found deliveries rfl ears stepped)
      · rw [stepped]
        exact moored
      · rw [Lane.move_of_transit place _ undone transit, Lane.carry]
        simp only [targets, List.map_cons, taken, free, Bool.false_eq_true, if_false]
        rfl
    | notes target rest targets taken _ moored deliveries ears =>
      rw [game_d] at ears
      refine .goes goes ?_ _ ?_
        (s.lane_carry mem here own delivery found deliveries rfl ears stepped)
      · rw [stepped]
        exact moored
      · rw [Lane.move_of_transit place _ undone transit, Lane.carry]
        simp only [targets, List.map_cons, taken, if_true]
        rfl
  | delivers d undone delivery found count hub step =>
    have found : t.service.hub.delivery? d.id = some d := found
    have there := (Hub.mem_of_delivery? found).1
    have carried := m.carries s.turns.sound there t.service.now
    rw [show t.service.hub.advance d t.service.now = .finished count hub from step] at carried
    obtain ⟨goes, stepped⟩ := goes rfl
    have transit := Hub.transit?_of_delivery delivery found
    cases carried with
    | ends targets _ _ moored deliveries ears =>
      refine .goes goes ?_ _ ?_ (s.lane_put mem here own stepped rfl (fun x there ne => ?_)
        fun game => (congrFun ears game).trans (stays game))
      · rw [stepped]
        exact moored
      · rw [Lane.move_of_transit place _ undone transit, Lane.carry]
        simp only [targets, List.map_nil, Hub.parcel, Hub.transit?_of_idle]
        rfl
      · refine Hub.parcel_congr fun id its => ?_
        rw [Hub.delivery?, deliveries]
        exact Hub.delivery?_of_filter (s.delivery_ne mem there ne delivery its)
  | misses id undone delivery gone => exact absurd gone (s.found_of_delivery mem delivery)
  | ends undone idle free items =>
    obtain ⟨goes, stepped⟩ := goes rfl
    have first := s.isHeldUp_of_free mem here own free
    refine .goes goes ?_ _ ?_ (s.lane_put mem here own stepped rfl (fun _ _ _ => rfl) stays)
    · rw [stepped]
      exact m
    · rw [Lane.move_of_idle place _ undone (Hub.transit?_of_idle idle), first]
      simp only [Lane.next, Hub.parcel, items, Bool.false_eq_true, if_false]
      rfl
  | begins item items undone idle free begins =>
    obtain ⟨goes, stepped⟩ := goes rfl
    have first := s.isHeldUp_of_free mem here own free
    have delivery := s.turns.sound.delivery?_publish b.game item.excluded item.notice
    have transit : (t.service.hub.publish b.game item.excluded item.notice).2.transit?
        { b with items, delivery := some t.service.hub.nextDelivery, previous := none } =
          some ⟨item.notice, Ear.audience (t.service.hub.ears b.game) item.excluded, false, 0⟩ := by
      rw [Hub.transit?, Option.bind_some, delivery, Option.map_some, Hub.audience_ears]
    refine .goes goes ?_ _ ?_ (s.lane_put mem here own stepped rfl (fun x there _ => ?_) stays)
    · rw [stepped]
      exact m.publish b.game item.excluded item.notice
    · rw [Lane.move_of_idle place _ undone (Hub.transit?_of_idle idle), first]
      simp only [Lane.next, Hub.parcel, begins, Bool.false_eq_true, if_false]
      refine congrArg some (congrArg (Lane.put _ i) (congrArg some ?_))
      exact congrArg (fun p => Parcel.mk items p b.done) transit.symm
    · exact Hub.parcel_congr fun id its =>
        Hub.delivery?_publish_of_some (s.found_of_delivery there its)
  | leaves done =>
    have goes : ¬ t.Waits b ∧ t.service.stepBatch b =
        { t.service.without (.batch b) with queue := t.service.queue.leave b } := by
      unfold Traffic.Waits Service.stepBatch
      rw [move]
      exact ⟨by simp, rfl⟩
    obtain ⟨goes, stepped⟩ := goes
    refine .goes goes ?_ _ (Lane.move_of_done place _ done) fun game => ?_
    · rw [stepped]
      exact m
    · rw [stepped]
      exact s.lane_eq here own (s.parcel?_leave mem _) stays game

end Sound

/-- The batch that was queued for the game as the one of the given number has to wait. -/
def Stalls (t : Traffic) (game : Id) (i : Nat) : Prop :=
  ∃ q b, (t.queuedFor game)[i]? = some q ∧ b ∈ t.service.batches ∧ b.number = q.number ∧ t.Waits b

theorem queuedFor_eq {t : Traffic} {game : Id} {i : Nat} {q : Batch}
    (here : (t.queuedFor game)[i]? = some q) : q ∈ t.queued ∧ q.game = game := by
  obtain ⟨mem, own⟩ := List.mem_filter.1 (List.mem_of_getElem? here)
  exact ⟨mem, beq_iff_eq.1 own⟩

theorem stepBatch_of_waits {t : Traffic} {b : Batch} (waits : t.Waits b) :
    t.service.stepBatch b = t.service := by
  unfold Waits at waits
  rw [Service.stepBatch, waits]

theorem parcels_getElem? (t : Traffic) (game : Id) (i : Nat) : (t.lane game).parcels[i]? =
    (t.queuedFor game)[i]?.map fun q => t.service.parcel? q.number := List.getElem?_map ..

namespace Sound

variable {t : Traffic} (s : t.Sound) (m : t.service.hub.Moored) {game : Id} {i : Nat}
include s m

/-- A batch that has a step to take takes it in its lane. -/
theorem lane_step {q : Batch} (here : (t.queuedFor game)[i]? = some q) (other : Id) :
    (t.act (.step q.number)).lane other =
      if other = game then (t.lane game).step t.service.now i else t.lane other := by
  obtain ⟨queued, own⟩ := queuedFor_eq here
  have stays := eq_ite_self t.lane game other
  unfold Traffic.act
  dsimp only
  rcases found : t.service.batches.find? (·.number == q.number) with _ | b <;> rw [found]
  · have gone : (t.lane game).move t.service.now i = none := by
      refine Lane.move_of_gone (fun p place => ?_) _
      rw [parcels_getElem?, here, Option.map_some, Service.parcel?, found] at place
      cases place
    rw [Lane.step, gone, Option.getD_none]
    exact stays
  · obtain ⟨mem, number⟩ := (find?_number_iff s.line.distinct).1 found
    obtain rfl : b.game = game := (s.line.game_eq mem queued number.symm).symm.trans own
    show (t.service.stepBatch b).lane t.queued other = _
    cases s.laneMoves mem here number.symm m with
    | waits waits held =>
      rw [Lane.step, held, Option.getD_none, stepBatch_of_waits waits]
      exact stays
    | goes _ _ l moves lanes =>
      rw [Lane.step, moves, Option.getD_some]
      exact lanes other

theorem moored_step (number : Nat) : (t.act (.step number)).service.hub.Moored := by
  unfold Traffic.act
  dsimp only
  rcases found : t.service.batches.find? (·.number == number) with _ | b <;> rw [found]
  · exact m
  · obtain ⟨mem, -⟩ := (find?_number_iff s.line.distinct).1 found
    obtain ⟨q, queued, number, own⟩ := s.line.known b mem
    have there : q ∈ t.queuedFor b.game := List.mem_filter.2 ⟨queued, beq_iff_eq.2 own⟩
    obtain ⟨i, here⟩ := List.mem_iff_getElem?.1 there
    show (t.service.stepBatch b).hub.Moored
    cases s.laneMoves mem here number m with
    | waits waits _ =>
      rw [stepBatch_of_waits waits]
      exact m
    | goes _ moored => exact moored

/-- Whether a batch has to wait is told by its lane. -/
theorem stalls_iff : t.Stalls game i ↔
    (∃ p, (t.lane game).parcels[i]? = some (some p)) ∧
      (t.lane game).move t.service.now i = none := by
  constructor
  · rintro ⟨q, b, here, mem, number, waits⟩
    obtain ⟨queued, own⟩ := queuedFor_eq here
    obtain rfl : b.game = game := (s.line.game_eq mem queued number.symm).symm.trans own
    refine ⟨⟨_, s.parcel_in_lane mem here number.symm⟩, ?_⟩
    cases s.laneMoves mem here number.symm m with
    | waits _ held => exact held
    | goes goes => exact absurd waits goes
  · rintro ⟨⟨p, place⟩, held⟩
    rw [parcels_getElem?, Option.map_eq_some_iff] at place
    obtain ⟨q, here, found⟩ := place
    obtain ⟨queued, own⟩ := queuedFor_eq here
    obtain ⟨b, found, -⟩ := Option.map_eq_some_iff.1 found
    obtain ⟨mem, number⟩ := (find?_number_iff s.line.distinct).1 found
    obtain rfl : b.game = game := (s.line.game_eq mem queued number.symm).symm.trans own
    refine ⟨q, b, here, mem, number, ?_⟩
    cases s.laneMoves mem here number.symm m with
    | waits waits _ => exact waits
    | goes _ _ l moves _ =>
      rw [held] at moves
      cases moves

end Sound

/-! ## What else happens -/

/-- Batches are what they were if neither the batches nor the deliveries have changed. -/
theorem parcels_congr {s u : Service} (batches : u.batches = s.batches)
    (deliveries : u.hub.deliveries = s.hub.deliveries) (queued : List Batch) (game : Id) :
    (u.lane queued game).parcels = (s.lane queued game).parcels := by
  refine List.map_congr_left fun q _ => ?_
  rw [Service.parcel?, Service.parcel?, batches]
  refine congrArg (Option.map · _) (funext fun b => ?_)
  exact Hub.parcel_congr fun id _ => Hub.delivery?_congr deliveries id

theorem Sound.lane_queue {t : Traffic} (s : t.Sound) (game : Id) (items : List Outgoing)
    (other : Id) : (t.act (.queue game items)).lane other =
      if other = game then (t.lane game).queue items else t.lane other := by
  let u := t.service.publishLater game items
  have pushed : (t.service.queue.push game items).1 =
      ⟨game, t.service.queue.next, t.service.queue.tails.lookup game, items, none, false⟩ := rfl
  have batches : u.batches = t.service.batches ++ [(t.service.queue.push game items).1] :=
    Service.batches_publishLater ..
  have old {q : Batch} (mem : q ∈ t.queued) :
      u.parcel? q.number = t.service.parcel? q.number := by
    have ne : t.service.queue.next ≠ q.number := Nat.ne_of_gt (s.line.lt_next mem)
    have none : [(t.service.queue.push game items).1].find? (·.number == q.number) = none :=
      List.find?_eq_none.2 fun b mem => by
        rw [List.mem_singleton.1 mem]
        exact (beq_iff_eq.not.2 ne :)
    unfold Service.parcel?
    rw [batches, List.find?_append, none, Option.or_none]
    rfl
  have new : u.parcel? t.service.queue.next = some { items } := by
    have free : t.service.batches.find? (·.number == t.service.queue.next) = none :=
      List.find?_eq_none.2 fun b mem => by
        simpa using Nat.ne_of_lt (s.line.batch_lt_next mem)
    unfold Service.parcel?
    rw [batches, List.find?_append, free, Option.none_or, pushed, List.find?_singleton]
    simp [Hub.parcel, Hub.transit?]
  have kept (k : Id) : ((t.queued.filter (·.game == k)).map fun q => u.parcel? q.number) =
      (t.lane k).parcels :=
    List.map_congr_left fun q mem => old (List.mem_filter.1 mem).1
  show Lane.mk (t.service.hub.ears other)
    (((t.queued ++ [(t.service.queue.push game items).1]).filter (·.game == other)).map fun q =>
      u.parcel? q.number) = _
  rw [List.filter_append, List.map_append, kept, pushed]
  split
  · rename_i own
    subst own
    rw [List.filter_cons_of_pos (by simp), List.filter_nil, List.map_cons, List.map_nil]
    exact congrArg (fun p => Lane.mk _ (_ ++ [p])) new
  · rename_i ne
    rw [List.filter_cons_of_neg (by simpa using Ne.symm ne), List.filter_nil, List.map_nil,
      List.append_nil]
    rfl

/-- One of the connected players has changed, or another one has connected. -/
theorem lane_of_ears {s u : Service} (batches : u.batches = s.batches)
    (deliveries : u.hub.deliveries = s.hub.deliveries) {game : Id} {ears : List Ear}
    (heard : ∀ other, u.hub.ears other = if other = game then ears else s.hub.ears other)
    (queued : List Batch) (other : Id) : u.lane queued other =
      if other = game then { s.lane queued game with ears } else s.lane queued other := by
  have whole (l : Lane) : l = ⟨l.ears, l.parcels⟩ := rfl
  rw [whole (u.lane queued other), parcels_congr batches deliveries]
  show Lane.mk (u.hub.ears other) _ = _
  rw [heard]
  split
  · rename_i own
    rw [own]
  · rfl

theorem Sound.lane_subscribe {t : Traffic} (s : t.Sound) (game player : Id) (now : Nat)
    (other : Id) : (t.act (.connect (.subscribe game player now) rfl)).lane other =
      if other = game then { t.lane game with ears := Ear.connect player now (t.lane game).ears }
      else t.lane other :=
  lane_of_ears (s := t.service)
    (u := { t.service with hub := (t.service.hub.act (.subscribe game player now)).1 }) rfl
    (t.service.hub.deliveries_of_connection rfl) (Hub.ears_subscribe s.turns.sound now) t.queued
    other

theorem Sound.lane_receive {t : Traffic} (s : t.Sound) (m : t.service.hub.Moored)
    {game player : Id} {channel : ChannelId} (c : t.service.hub.Connected game player channel)
    (other : Id) : (t.act (.connect (.receive channel) rfl)).lane other =
      if other = game then
        { t.lane game with ears := Ear.change player (.hold none) (t.lane game).ears }
      else t.lane other :=
  lane_of_ears (s := t.service)
    (u := { t.service with hub := (t.service.hub.act (.receive channel)).1 }) rfl
    (t.service.hub.deliveries_of_connection rfl) (Hub.ears_receive m s.turns.sound c) t.queued other

end Traffic

end GuessingRoom
