import GuessingRoom.Proofs.Lanes
import GuessingRoom.Proofs.LiveTraffic
import GuessingRoom.Proofs.OwnGame

/-!
# Games side by side

Games of any number in one house (`House`). Calls take their steps one by one, games go on to their
next turns when the time has come, batches take steps, players connect and read, and time passes.
What there is of a game but for the books is its scene (`House.scene`). Whatever is done in a game
comes to what its scene tells, and the scenes of all other games stay as they are
(`House.Sound.scene_act`). As for the steps of calls, they queue notices of the game, schedule its
next turn, or work on the books (`House.Sound.scene_queues`, `House.scene_schedules`,
`House.scene_works`).
-/

namespace GuessingRoom

/-- A service with its traffic, and for each game the calls that were ever begun, what its players
have read, and the numbers of the draws that were made for it. -/
structure House extends Traffic where
  calls : Id → List (Errand Service Call (Except GameError Reply)) := fun _ => []
  heard : Id → List (Id × Notice) := fun _ => []
  draws : Id → List Nat := fun _ => []

namespace House

inductive Act where
  /-- A player asks for something in a game. -/
  | begin (game : Id) (play : Play)
  /-- The call of the given number in the game takes its next step, if it has one. -/
  | call (game : Id) (i : Nat)
  /-- The game goes on to its next turn, if the time for that has come. -/
  | turn (game : Id) (due : Nat)
  /-- The batch of the given number in the game takes a step, if it can. -/
  | batch (game : Id) (i : Nat)
  | connect (game player : Id)
  /-- A connected player reads what there is to read. -/
  | read (game player : Id)
  | wait (time : Nat)
deriving DecidableEq, Repr

/-- Whether the act has to do with the game, as the passing of time has with every game. -/
def Act.concerns (game : Id) : Act → Bool
  | begin other _ | call other _ | turn other _ | batch other _ | connect other _
  | read other _ => other == game
  | wait _ => true

def begin (w : House) (game : Id) (c : Call) : House :=
  { w with
    calls := Function.update w.calls game (w.calls game ++ [{ task := c, rest := c.operation }]) }

/-- The service has changed, by which notices may have been queued. -/
def goes (w : House) (after : Service) : House :=
  { w with service := after, queued := w.queued ++ after.batches.drop w.service.batches.length }

/-- A call of the game takes its next step, by which draws may be made. -/
def proceed (w : House) (game : Id) (i : Nat) (e : Errand Service Call (Except GameError Reply)) :
    House :=
  let after := (e.advance w.service).1
  let drawn := w.service.books.drawn
  { w.goes after with
    calls := Function.update w.calls game ((w.calls game).set i (e.advance w.service).2)
    draws := Function.update w.draws game
      (w.draws game ++ List.range' drawn (after.books.drawn - drawn)) }

def turn (w : House) (game : Id) (due : Nat) : House :=
  if .timer due (.nextTurn game) ∈ w.service.jobs ∧ due ≤ w.service.now then
    begin { w with service := w.service.without (.timer due (.nextTurn game)) } game
      (.request (.event (.nextTurn game)))
  else w

def batch (w : House) (game : Id) (i : Nat) : House :=
  match (w.queuedFor game)[i]? with
  | some q => { w with toTraffic := w.toTraffic.act (.step q.number) }
  | none => w

def connect (w : House) (game player : Id) : House :=
  { w with toTraffic := w.toTraffic.act (.connect (.subscribe game player w.service.now) rfl) }

def read (w : House) (game player : Id) : House :=
  match w.service.hub.find? game player with
  | some s =>
    { w with
      toTraffic := w.toTraffic.act (.connect (.receive s.channel) rfl)
      heard := Function.update w.heard game (w.heard game ++
        (Hub.reads (w.service.hub.act (.receive s.channel)).2 s.channel).map (player, ·)) }
  | none => w

def wait (w : House) (time : Nat) : House :=
  { w with service := { w.service with now := w.service.now + time } }

def act (w : House) : Act → House
  | .begin game play => w.begin game (play.call game)
  | .call game i => (w.calls game)[i]?.elim w (w.proceed game i)
  | .turn game due => w.turn game due
  | .batch game i => w.batch game i
  | .connect game player => w.connect game player
  | .read game player => w.read game player
  | .wait time => w.wait time

/-- What comes of a new service by the acts, one after another. -/
def run (settings : RoomSettings) (books : Books) (acts : List Act) : House :=
  acts.foldl act { service := { settings, books } }

end House

/-! ## Scenes -/

/-- What there is of a game in a house, but for the books. -/
structure Scene where
  settings : RoomSettings
  now : Nat
  lane : Lane
  /-- The notices of each batch as it was queued. -/
  queued : List (List Outgoing)
  /-- When the game goes on to its next turn. -/
  dues : List (Nat × Id)
  /-- The calls, and what is left of each. -/
  calls : List (Call × Operation Reply)
  heard : List (Id × Notice)

namespace Scene

def begin (c : Scene) (call : Call) : Scene :=
  { c with calls := c.calls ++ [(call, call.operation)] }

def queue (c : Scene) (items : List Outgoing) : Scene :=
  { c with lane := c.lane.queue items, queued := c.queued ++ [items] }

def schedule (c : Scene) (game : Id) (delay : Nat) : Scene :=
  { c with dues := c.dues ++ [(c.now + delay, game)] }

def turn (c : Scene) (game : Id) (due : Nat) : Scene :=
  if (due, game) ∈ c.dues ∧ due ≤ c.now then
    begin { c with dues := c.dues.erase (due, game) } (.request (.event (.nextTurn game)))
  else c

def batch (c : Scene) (i : Nat) : Scene := { c with lane := c.lane.step c.now i }

def connect (c : Scene) (player : Id) : Scene :=
  { c with lane := { c.lane with ears := Ear.connect player c.now c.lane.ears } }

def read (c : Scene) (player : Id) : Scene :=
  { c with
    lane := { c.lane with ears := Ear.change player (.hold none) c.lane.ears }
    heard := c.heard ++ (Ear.reads c.lane.ears player).map (player, ·) }

/-- What an act makes of the scene of a game that it concerns, if it is no step of a call. -/
def act (c : Scene) : House.Act → Scene
  | .begin game play => c.begin (play.call game)
  | .call .. => c
  | .turn game due => c.turn game due
  | .batch _ i => c.batch i
  | .connect _ player => c.connect player
  | .read _ player => c.read player
  | .wait time => { c with now := c.now + time }

theorem read_of_absent {c : Scene} {player : Id}
    (absent : c.lane.ears.any (·.player == player) = false) : c.read player = c := by
  unfold read
  rw [Ear.reads_of_absent absent, Ear.change_of_absent absent, List.map_nil, List.append_nil]

end Scene

/-- The turns of the game that are still to come. -/
def Service.dues (s : Service) (game : Id) : List (Nat × Id) := s.advances.filter (·.2 == game)

namespace House

def scene (w : House) (game : Id) : Scene where
  settings := w.service.settings
  now := w.service.now
  lane := w.lane game
  queued := (w.queuedFor game).map (·.items)
  dues := w.service.dues game
  calls := (w.calls game).map fun e => (e.task, e.rest)
  heard := w.heard game

variable (w : House) (game other : Id)

theorem scene_begin (c : Call) : (w.begin game c).scene other =
    if other = game then (w.scene game).begin c else w.scene other := by
  unfold begin Scene.begin scene
  dsimp only
  rw [Function.update_apply]
  split
  · rename_i own
    rw [own, List.map_append]
    rfl
  · rfl

/-- A step of a call, but for what it does to the service. -/
theorem scene_proceed (i : Nat) (e : Errand Service Call (Except GameError Reply)) :
    (w.proceed game i e).scene other =
      if other = game then
        { (w.goes (e.advance w.service).1).scene game with
          calls := (w.scene game).calls.set i (e.task, (e.advance w.service).2.rest) }
      else (w.goes (e.advance w.service).1).scene other := by
  unfold proceed scene
  dsimp only
  rw [Function.update_apply]
  split
  · rename_i own
    rw [own, List.map_set, Errand.task_advance]
  · rfl

/-- Where no batch is added nothing was queued. -/
theorem goes_of_batches {after : Service} (same : after.batches = w.service.batches) :
    w.goes after = { w with service := after } := by
  unfold goes
  rw [same, List.drop_length, List.append_nil]

theorem goes_publishLater (items : List Outgoing) : w.goes (w.service.publishLater game items) =
    { w with toTraffic := w.toTraffic.act (.queue game items) } := by
  unfold goes
  rw [Service.batches_publishLater, List.drop_left]
  rfl

theorem batches_schedule (s : Service) (delay : Nat) :
    (s.schedule delay (.nextTurn game)).batches = s.batches :=
  s.batches_spawn_of_none (j := .timer _ (.nextTurn game)) rfl

/-- Work on the books is not seen in any scene. -/
theorem scene_works (books : Books) :
    (w.goes { w.service with books }).scene other = w.scene other := by
  have same : Service.batches { w.service with books } = w.service.batches := rfl
  rw [w.goes_of_batches same]
  rfl

theorem dues_schedule (s : Service) (delay : Nat) :
    (s.schedule delay (.nextTurn game)).dues other =
      if other = game then s.dues game ++ [(s.now + delay, game)] else s.dues other := by
  have added : (s.schedule delay (.nextTurn game)).advances =
      s.advances ++ [(s.now + delay, game)] := by
    unfold Service.advances Service.schedule Service.spawn
    rw [List.filterMap_append]
    rfl
  unfold Service.dues
  rw [added, List.filter_append]
  split
  · rename_i own
    rw [own, List.filter_cons_of_pos (by simp), List.filter_nil]
  · rename_i ne
    rw [List.filter_cons_of_neg (by simpa using Ne.symm ne), List.filter_nil, List.append_nil]

theorem scene_schedules (delay : Nat) :
    (w.goes (w.service.schedule delay (.nextTurn game))).scene other =
      if other = game then (w.scene game).schedule game delay else w.scene other := by
  let after := w.service.schedule delay (.nextTurn game)
  have batches : after.batches = w.service.batches := batches_schedule game w.service delay
  have lane : after.lane w.queued other = w.lane other :=
    congrArg (Lane.mk _) (Traffic.parcels_congr batches rfl w.queued other)
  rw [w.goes_of_batches batches]
  unfold scene
  rw [dues_schedule]
  show Scene.mk _ _ (after.lane w.queued other) _ _ _ _ = _
  rw [lane]
  split
  · rename_i own
    rw [own]
    rfl
  · rfl

/-- The traffic goes on in the hub, by which a game's lane may have changed. -/
theorem scene_of_traffic {t : Traffic} (settings : t.service.settings = w.service.settings)
    (now : t.service.now = w.service.now) (queued : t.queued = w.queued)
    (advances : t.service.advances = w.service.advances) :
    scene { w with toTraffic := t } other = { w.scene other with lane := t.lane other } := by
  unfold scene Traffic.queuedFor Service.dues
  dsimp only
  rw [settings, now, queued, advances]

/-- The step of a batch has nothing to do with anything but batches and the hub. -/
theorem calm_step (number : Nat) : w.service.Elsewhere (w.toTraffic.act (.step number)).service ∧
    (w.toTraffic.act (.step number)).service.now = w.service.now ∧
      (w.toTraffic.act (.step number)).queued = w.queued := by
  unfold Traffic.act
  dsimp only
  rcases found : w.service.batches.find? (·.number == number) with _ | b <;> rw [found]
  · exact ⟨.refl _, rfl, rfl⟩
  · have calm := (w.service.without (.batch b)).calm_moveBatch b
    have moves := (w.service.without (.batch b)).batchMoves b
    show w.service.Elsewhere (w.service.stepBatch b) ∧ (w.service.stepBatch b).now = _ ∧ _
    unfold Service.stepBatch
    generalize (w.service.without (.batch b)).moveBatch b = move,
      (w.service.without (.batch b)).happenings b = hs at moves calm
    cases moves with
    | follows | waits => exact ⟨.refl _, rfl, rfl⟩
    | _ => exact ⟨calm.of_without rfl, rfl, rfl⟩

theorem scene_without (due : Nat) :
    scene { w with service := w.service.without (.timer due (.nextTurn game)) } other =
      { w.scene other with dues := (w.scene other).dues.erase (due, game) } := by
  let rest := w.service.without (.timer due (.nextTurn game))
  have lane : rest.lane w.queued other = w.service.lane w.queued other :=
    congrArg (Lane.mk _)
      (Traffic.parcels_congr (w.service.batches_without_of_none rfl) rfl w.queued other)
  have dues : rest.dues other = (w.service.dues other).erase (due, game) := by
    unfold Service.dues
    rw [Service.advances_without_advance, List.erase_filter]
  show Scene.mk _ _ (rest.lane w.queued other) _ (rest.dues other) _ _ = _
  rw [lane, dues]
  rfl

theorem scene_turn (due : Nat) : (w.turn game due).scene other =
    if other = game then (w.scene game).turn game due else w.scene other := by
  have come : (due, game) ∈ (w.scene game).dues ∧ due ≤ (w.scene game).now ↔
      Job.timer due (.nextTurn game) ∈ w.service.jobs ∧ due ≤ w.service.now := by
    show (due, game) ∈ w.service.advances.filter _ ∧ _ ↔ _
    rw [List.mem_filter, Service.mem_advances]
    simp [scene]
  unfold turn Scene.turn
  by_cases now : Job.timer due (.nextTurn game) ∈ w.service.jobs ∧ due ≤ w.service.now
  · rw [if_pos now, if_pos (come.2 now), scene_begin, scene_without, scene_without]
    split
    · rfl
    · rename_i ne
      -- no other game has the turn that was taken away
      have away : (due, game) ∉ (w.scene other).dues := fun mem =>
        ne (beq_iff_eq.1 (List.mem_filter.1 mem).2).symm
      rw [List.erase_of_not_mem away]
  · rw [if_neg now, if_neg (come.not.2 now)]
    exact eq_ite_self w.scene game other

/-- What is told of the game that an act concerns is told of the game that is looked at. -/
theorem scene_step {game other : Id} (f : Scene → Scene) {c : Scene} {w : House}
    (h : c = if other = game then f (w.scene game) else w.scene other) :
    c = if (game == other) = true then f (w.scene other) else w.scene other := by
  rw [h]
  by_cases own : other = game
  · subst own
    rw [if_pos rfl, if_pos (beq_self_eq_true other)]
  · rw [if_neg own, if_neg (by simpa using Ne.symm own)]

/-! ## Scenes of a sound house -/

/-- The traffic is sound, players stay connected, and every call stays in its game. -/
structure Sound (w : House) : Prop where
  traffic : w.toTraffic.Sound
  moored : w.service.hub.Moored
  calls : ∀ game, ∀ e ∈ w.calls game, e.rest.StaysIn game (w.service.books.HasTurn game)

namespace Sound

variable {w : House} (s : w.Sound)
include s

theorem scene_queues (items : List Outgoing) :
    (w.goes (w.service.publishLater game items)).scene other =
      if other = game then (w.scene game).queue items else w.scene other := by
  have queued : ((w.toTraffic.act (.queue game items)).queuedFor other).map (·.items) =
      if other = game then (w.queuedFor game).map (·.items) ++ [items]
      else (w.queuedFor other).map (·.items) := by
    show ((w.queued ++ [(w.service.queue.push game items).1]).filter (·.game == other)).map
      (·.items) = _
    rw [List.filter_append, List.map_append, eq_ite_self w.queuedFor game other]
    by_cases own : other = game
    · subst own
      simp [PublishQueue.push, Traffic.queuedFor]
    · simp [PublishQueue.push, Traffic.queuedFor, own, Ne.symm own]
  have dues : (w.toTraffic.act (.queue game items)).service.dues other = w.service.dues other :=
    congrArg (List.filter _) (Service.advances_spawn _ rfl)
  rw [w.goes_publishLater]
  unfold scene
  rw [s.traffic.lane_queue, queued, dues]
  split
  · rename_i own
    rw [own]
    rfl
  · rfl

theorem scene_batch (i : Nat) : (w.batch game i).scene other =
    if other = game then (w.scene game).batch i else w.scene other := by
  unfold batch
  rcases here : (w.queuedFor game)[i]? with _ | q
  · have gone : (w.lane game).move w.service.now i = none := by
      refine Lane.move_of_gone (fun p place => ?_) _
      rw [Traffic.parcels_getElem?, here] at place
      cases place
    have still : (w.scene game).batch i = w.scene game := by
      show { w.scene game with lane := (w.lane game).step w.service.now i } = _
      rw [Lane.step, gone]
      rfl
    rw [still]
    exact eq_ite_self w.scene game other
  · obtain ⟨calm, now, queued⟩ := w.calm_step q.number
    dsimp only
    rw [w.scene_of_traffic other calm.settings now queued calm.advances,
      s.traffic.lane_step s.moored here]
    split
    · rename_i own
      rw [own]
      rfl
    · rfl

theorem scene_connect (player : Id) : (w.connect game player).scene other =
    if other = game then (w.scene game).connect player else w.scene other := by
  unfold connect
  rw [w.scene_of_traffic (t := w.toTraffic.act _) other rfl rfl rfl rfl, s.traffic.lane_subscribe]
  split
  · rename_i own
    rw [own]
    rfl
  · rfl

theorem scene_read (player : Id) : (w.read game player).scene other =
    if other = game then (w.scene game).read player else w.scene other := by
  have known := Hub.any_ears w.service.hub game player
  unfold read
  rcases found : w.service.hub.find? game player with _ | x <;> rw [found] at known
  · have absent : (w.scene game).lane.ears.any (·.player == player) = false := known
    rw [Scene.read_of_absent absent]
    exact eq_ite_self w.scene game other
  · have connected := Hub.connected_of_find? found
    let heard := Function.update w.heard game (w.heard game ++
      (Hub.reads (w.service.hub.act (.receive x.channel)).2 x.channel).map (player, ·))
    have told : heard other = if other = game then
        w.heard game ++ (Ear.reads (w.service.hub.ears game) player).map (player, ·)
        else w.heard other := by
      unfold heard
      rw [Function.update_apply, Hub.reads_receive s.moored connected]
    refine (scene_of_traffic { w with heard := heard } other
      (t := w.toTraffic.act (.connect (.receive x.channel) rfl)) rfl rfl rfl rfl).trans ?_
    rw [s.traffic.lane_receive s.moored connected]
    unfold scene
    dsimp only
    rw [told]
    split
    · rename_i own
      rw [own]
      rfl
    · rfl

/-- What is done in a game is not seen in other games, and comes to what its scene tells. -/
theorem scene_act {a : Act} (still : ∀ game i, a ≠ .call game i) : (w.act a).scene other =
    if a.concerns other then (w.scene other).act a else w.scene other := by
  cases a with
  | begin game play => exact scene_step (·.begin (play.call game)) (w.scene_begin game other _)
  | call game i => exact absurd rfl (still game i)
  | turn game due => exact scene_step (·.turn game due) (w.scene_turn game other due)
  | batch game i => exact scene_step (·.batch i) (s.scene_batch game other i)
  | connect game player => exact scene_step (·.connect player) (s.scene_connect game other player)
  | read game player => exact scene_step (·.read player) (s.scene_read game other player)
  | wait time => rfl

/-! ### Whatever is done -/

omit s in
theorem start (settings : RoomSettings) (books : Books) :
    Sound { service := { settings, books } } where
  traffic := .start settings books
  moored := .start
  calls := by simp

/-- The books keep all turns, and what is done is of no concern to calls. -/
theorem of_traffic {t : Traffic} (traffic : t.Sound) (moored : t.service.hub.Moored)
    (books : t.service.books = w.service.books) : Sound { w with toTraffic := t } where
  traffic := traffic
  moored := moored
  calls other e mem := by
    show e.rest.StaysIn other (t.service.books.HasTurn other)
    rw [books]
    exact s.calls other e mem

variable {game}

theorem begin {c : Call} (stays : ∀ known, Script.StaysIn game known c.operation) :
    (w.begin game c).Sound where
  traffic := s.traffic
  moored := s.moored
  calls other e mem := by
    unfold House.begin at mem
    dsimp only at mem
    rw [Function.update_apply] at mem
    split at mem
    · rename_i own
      rcases List.mem_append.1 mem with old | new
      · exact s.calls other e (own ▸ old)
      · rw [List.mem_singleton.1 new, own]
        exact stays _
    · exact s.calls other e mem

/-- Whatever a step of a call does to the service leaves the traffic sound. -/
theorem goes {limit : Nat} {t after after' : Service}
    (h : w.service.GoAlike game limit t after after') :
    (w.goes after).toTraffic.Sound ∧ after.hub.Moored := by
  cases h with
  | works b c keeps =>
    have same : Service.batches { w.service with books := b } = w.service.batches := rfl
    rw [w.goes_of_batches same]
    exact ⟨s.traffic.calm rfl rfl rfl, s.moored⟩
  | queues items =>
    rw [w.goes_publishLater]
    exact ⟨s.traffic.queue game items, s.moored⟩
  | schedules delay =>
    have same := batches_schedule game w.service delay
    rw [w.goes_of_batches same]
    exact ⟨s.traffic.calm rfl rfl same, s.moored⟩

theorem proceed {i : Nat} {e : Errand Service Call (Except GameError Reply)}
    (here : (w.calls game)[i]? = some e) : (w.proceed game i e).Sound := by
  have stays := s.calls game e (List.mem_of_getElem? here)
  obtain ⟨alike, rest⟩ := stays.advance_self fun _ known => known
  obtain ⟨traffic, moored⟩ := s.goes alike
  have kept {other : Id} {x : Errand Service Call (Except GameError Reply)}
      (old : x ∈ w.calls other) :
      x.rest.StaysIn other ((e.advance w.service).1.books.HasTurn other) :=
    (s.calls other x old).mono fun _ known => alike.keeps.hasTurn known
  refine ⟨traffic, moored, fun other x mem => ?_⟩
  unfold House.proceed at mem
  dsimp only at mem
  rw [Function.update_apply] at mem
  split at mem
  · rename_i own
    rcases List.mem_or_eq_of_mem_set mem with old | rfl
    · exact kept (own ▸ old)
    · exact own ▸ rest
  · exact kept mem

theorem act (a : Act) : (w.act a).Sound := by
  cases a with
  | begin game play => exact s.begin (play.stays game)
  | call game i =>
    show ((w.calls game)[i]?.elim w (w.proceed game i)).Sound
    rcases here : (w.calls game)[i]? with _ | e
    · exact s
    · exact s.proceed here
  | turn game due =>
    show (w.turn game due).Sound
    unfold House.turn
    split
    · have rest : House.Sound { w with
          service := w.service.without (.timer due (.nextTurn game)) } :=
        ⟨s.traffic.calm rfl rfl (w.service.batches_without_of_none rfl), s.moored, s.calls⟩
      exact rest.begin (Call.stays_nextTurn game)
    · exact s
  | batch game i =>
    show (w.batch game i).Sound
    unfold House.batch
    split
    · rename_i q here
      exact s.of_traffic (s.traffic.act _) (s.traffic.moored_step s.moored q.number)
        (w.calm_step q.number).1.books
    · exact s
  | connect game player =>
    exact s.of_traffic (s.traffic.connect _ rfl) (s.moored.subscribe game player w.service.now) rfl
  | read game player =>
    show (w.read game player).Sound
    unfold House.read
    split
    · rename_i x found
      exact ⟨s.traffic.connect _ rfl, s.moored.receive x.channel, s.calls⟩
    · exact s
  | wait time => exact ⟨s.traffic.calm rfl rfl rfl, s.moored, s.calls⟩

end Sound

end House

end GuessingRoom
