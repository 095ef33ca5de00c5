import GuessingRoom.Proofs.DeliveryLaw
import GuessingRoom.Proofs.PublishOrder

/-!
# The law of publication

Whatever the order is in which batches are queued and take their steps, and in which players connect
and read, the batches of one game go out one after another, whole and as they were queued. A batch
waits only for an earlier one of its game or for a player of its game to read, and no step it takes
is in vain (`Traffic.OrderLaw`). What goes out is what was to be published, and a player who is
connected all the time hears everything of it but the player's own (`Traffic.publish_law_run`).
-/

namespace GuessingRoom

/-- A bound for the steps of a batch if every item has so many channels to go to. -/
def Batch.stepsWith (reach : Nat) (b : Batch) : Nat :=
  (if b.done then 1 else 2) + b.items.length * (2 * reach + 2)

/-- A bound for the steps that batches take before everything has gone out, if nobody connects and
nothing else is queued: a batch ends and leaves, and each of its items begins, goes to the channels
by two steps at each, and ends. -/
def Service.publishSteps (s : Service) : Nat :=
  (s.batches.map (Batch.stepsWith s.hub.subscriptions.length)).sum + s.hub.steps

namespace Traffic

open PublishQueue (leftOf itemsOf)

/-- The batch has begun to go out and has not yet gone out. -/
def IsOut (t : Traffic) (b : Batch) : Prop :=
  b.done = false ∧
    (b.delivery ≠ none ∨ ∀ q ∈ t.queued, q.number = b.number → b.items ≠ q.items)

/-- Every batch of the game has gone out. -/
def IsQuiet (t : Traffic) (game : Id) : Prop :=
  ∀ b ∈ t.service.batches, b.game = game → b.done = true

instance (t : Traffic) (game : Id) : Decidable (t.IsQuiet game) :=
  inferInstanceAs (Decidable (∀ b ∈ t.service.batches, b.game = game → b.done = true))

/-- The batch cannot take a step. -/
def Waits (t : Traffic) (b : Batch) : Prop :=
  (t.service.without (.batch b)).moveBatch b = .waiting

/-- The channel brings its player what the others sent of the items, in that order, and all of it
when the batches of the game have gone out. -/
def Brings (t : Traffic) (c : ChannelId) (game player : Id) (items : List Outgoing) : Prop :=
  Hub.reads t.log c <+: Outgoing.heardBy player items ∧
    (t.IsQuiet game →
      Hub.accepts t.log c = Outgoing.heardBy player items ∧
        (t.service.hub.isFull c = false → Hub.reads t.log c = Outgoing.heardBy player items))

/-- The law by which batches go out, of a service at any time. -/
structure OrderLaw (t : Traffic) : Prop where
  /-- Batches are numbered as they were queued, and those that are there are some of them. -/
  numbered : (t.queued.map (·.number)).Pairwise (· < ·) ∧
    (t.service.batches.map (·.number)).Nodup ∧
      ∀ b ∈ t.service.batches, ∃ q ∈ t.queued, q.number = b.number ∧ q.game = b.game
  /-- At most one batch of a game is out. -/
  alone : ∀ b ∈ t.service.batches, ∀ x ∈ t.service.batches, x.game = b.game →
    t.IsOut b → t.IsOut x → x = b
  /-- As long as a batch has not gone out those queued behind it in its game are as they were. -/
  whole : ∀ b ∈ t.service.batches, b.done = false → ∀ q ∈ t.queued, q.game = b.game →
    b.number < q.number → ∃ x ∈ t.service.batches,
      x.number = q.number ∧ x.items = q.items ∧ x.delivery = none ∧ x.done = false
  /-- What began to go out to a game, and then what is left, is what was queued for it. -/
  in_order : ∀ game, Hub.begun t.log game ++ leftOf t.queued t.service.batches game =
    itemsOf t.queued game
  /-- No item of a game begins to go out before those begun earlier have gone to everyone. -/
  item_by_item : ∀ past id game excluded n registry later,
    t.log = past ++ .began id game excluded n registry :: later →
      ∀ id' excluded' n' registry', .began id' game excluded' n' registry' ∈ past →
        ∃ count, .returned id' count ∈ past
  /-- When the batches of a game have gone out, all their items have gone to everyone. -/
  gone_out : ∀ game, t.IsQuiet game → Hub.begun t.log game = itemsOf t.queued game ∧
    ∀ id excluded n registry, .began id game excluded n registry ∈ t.log →
      ∃ count, .returned id count ∈ t.log
  /-- A batch waits for an earlier one of its game that has not gone out, or for a full channel of
  its game that may still be read. -/
  waits : ∀ b ∈ t.service.batches, t.Waits b →
    (∃ x ∈ t.service.batches, x.game = b.game ∧ x.number < b.number ∧ x.done = false) ∨
      ∃ c player, .opened c b.game player ∈ t.log ∧ t.service.hub.isFull c = true ∧
        t.service.hub.isReadable c = true
  /-- As long as a game is not quiet, and none of its channels waits to be read, one of its batches
  can go on. -/
  goes_on : ∀ game, ¬ t.IsQuiet game →
    (∀ c player, .opened c game player ∈ t.log → t.service.hub.isReadable c = true →
      t.service.hub.isFull c = false) →
    ∃ b ∈ t.service.batches, b.game = game ∧ b.done = false ∧ ¬ t.Waits b
  /-- Whatever step a batch takes brings it nearer to its end. -/
  uses_up : ∀ b ∈ t.service.batches, ¬ t.Waits b →
    (t.act (.step b.number)).service.publishSteps < t.service.publishSteps
  /-- The hub tells rightly which channels may still be read, and which hold a notice that nobody has
  read. -/
  channels : ∀ c, (t.service.hub.isReadable c = true ↔ t.service.hub.MayBeRead c) ∧
    (t.service.hub.isFull c = true ↔ ∃ n, Hub.Holds t.log c n)
  /-- Whoever has a reader finds the notice that the channel holds, and leaves room for another. -/
  found : ∀ c n, c ∈ t.service.hub.readers → Hub.Holds t.log c n →
    (t.act (.connect (.receive c) rfl)).log = t.log ++ [.read c n] ∧
      (t.act (.connect (.receive c) rfl)).service.hub.isFull c = false
  /-- A player who connected before anything went out to the game, and still is connected, reads
  what the others sent in the order in which it was queued, and in the end all of it. -/
  hears : ∀ past c game player later, t.log = past ++ .opened c game player :: later →
    Hub.begun past game = [] → t.service.hub.isRegistered c = true →
      t.Brings c game player (itemsOf t.queued game)
  /-- When every batch has left, the queue knows of no game. -/
  clean : t.service.batches = [] → t.service.queue.tails = []

/-- The batches that the acts are to publish: the game and the items of each. -/
def asked (acts : List Act) : List (Id × List Outgoing) :=
  acts.filterMap fun
    | .queue game items => some (game, items)
    | _ => none

/-- All that the acts are to publish in a game. -/
def askedFor (acts : List Act) (game : Id) : List Outgoing :=
  ((asked acts).filter (·.1 == game)).flatMap (·.2)

/-- The law of publication, of a service and all the acts that it comes of. -/
structure PublishLaw (acts : List Act) (t : Traffic) : Prop extends OrderLaw t where
  /-- The batches are queued that are to be published, with all their items and in that order. -/
  queues : (t.queued.map fun q => (q.game, q.items)) = asked acts
  /-- Nothing goes out to a game but what is to be published there, in that order and nothing
  twice. -/
  goes_out : ∀ game, Hub.begun t.log game <+: askedFor acts game
  /-- In the end nothing has been left out. -/
  all_out : ∀ game, t.IsQuiet game → Hub.begun t.log game = askedFor acts game
  /-- A player who connects before anything is to be published in the game, and does not leave, is
  brought all that is, but for the player's own. -/
  brings : ∀ past game player now since,
    acts = past ++ .connect (.subscribe game player now) rfl :: since →
    askedFor past game = [] → .connect (.unsubscribe player) rfl ∉ since →
      ∃ c, t.service.hub.Connected game player c ∧ t.Brings c game player (askedFor acts game)

namespace Sound

variable {t : Traffic} (s : Sound t)

include s

theorem game_eq_of_delivery {b : Batch} (mem : b ∈ t.service.batches) {d : Delivery}
    (delivery : b.delivery = some d.id) (there : d ∈ t.service.hub.deliveries) :
    d.game = b.game := by
  have place : (d.id, d.game) ∈ t.service.hub.places := List.mem_map_of_mem there
  exact congrArg Prod.snd (s.turns.place_eq place (s.work.under_way b mem d.id delivery) rfl)

/-- No delivery to a quiet game is under way. -/
theorem no_place {game : Id} (quiet : t.IsQuiet game) {p : Nat × Id}
    (place : p ∈ t.service.hub.places) : p.2 ≠ game := by
  rintro rfl
  obtain ⟨b, mem, delivery, own⟩ := s.work.owned p place
  rw [(s.line.ended b mem (quiet b mem own)).2] at delivery
  cases delivery

theorem begun_of_quiet {game : Id} (quiet : t.IsQuiet game) :
    Hub.begun t.log game = itemsOf t.queued game := by
  rw [← s.order game, s.line.leftOf_of_done quiet, List.append_nil]

/-- The batch behind which another one is queued has been queued for the same game before it. -/
theorem exists_earlier {b : Batch} (mem : b ∈ t.service.batches) {p : Nat}
    (previous : b.previous = some p)
    (open_ : (t.service.without (.batch b)).isPublishing p = true) :
    ∃ x ∈ t.service.batches, x.game = b.game ∧ x.number < b.number ∧ x.done = false := by
  obtain ⟨x, there, rfl, undone⟩ := Service.isPublishing_iff.1 open_
  rw [Service.batches_without] at there
  have there := List.mem_of_mem_erase there
  obtain ⟨⟨r, queued, number, game⟩, lt, -⟩ := s.line.previous b mem x.number previous
  exact ⟨x, there, (s.line.game_eq there queued number).symm.trans game, lt, undone⟩

theorem waits {b : Batch} (mem : b ∈ t.service.batches) (waiting : t.Waits b) :
    (∃ x ∈ t.service.batches, x.game = b.game ∧ x.number < b.number ∧ x.done = false) ∨
      ∃ c player, .opened c b.game player ∈ t.log ∧ t.service.hub.isFull c = true ∧
        t.service.hub.isReadable c = true := by
  have moves := (t.service.without (.batch b)).batchMoves b
  generalize (t.service.without (.batch b)).happenings b = hs at moves
  rw [show (t.service.without (.batch b)).moveBatch b = _ from waiting] at moves
  cases moves with
  | follows p undone idle previous open_ => exact .inl (s.exists_earlier mem previous open_)
  | waits d undone delivery there step =>
    have moved := Hub.advanced t.service.hub d t.service.now
    rw [show t.service.hub.advance d t.service.now = _ from step] at moved
    cases moved with
    | waits c here open_ full =>
      obtain ⟨player, opened⟩ := s.turns.sound.opened_of_left there here
      rw [s.game_eq_of_delivery mem delivery there] at opened
      exact .inr ⟨c, player, opened, full, open_⟩

/-- The first of the batches of a game that have not gone out does not wait for another. -/
theorem goes_on {game : Id}
    (free : ∀ c player, .opened c game player ∈ t.log → t.service.hub.isReadable c = true →
      t.service.hub.isFull c = false) {b : Batch} (mem : b ∈ t.service.batches)
    (own : b.game = game) (undone : b.done = false) :
    ∃ x ∈ t.service.batches, x.game = game ∧ x.done = false ∧ ¬ t.Waits x := by
  induction n : b.number using Nat.strong_induction_on generalizing b with
  | _ n ih =>
    by_cases waiting : t.Waits b
    · rcases s.waits mem waiting with
        ⟨x, there, game, lt, undone_x⟩ | ⟨c, player, opened, full, open_⟩
      · exact ih x.number (n ▸ lt) there (game.trans own) undone_x rfl
      · rw [own] at opened
        rw [free c player opened open_] at full
        cases full
    · exact ⟨b, mem, own, undone, waiting⟩

theorem act_step {b : Batch} (mem : b ∈ t.service.batches) :
    (t.act (.step b.number)).service = t.service.stepBatch b := by
  obtain ⟨x, found⟩ := Option.isSome_iff_exists.1
    (List.find?_isSome (p := (·.number == b.number)) |>.2 ⟨b, mem, beq_self_eq_true b.number⟩)
  have same : x.number = b.number := by simpa using List.find?_some found
  rw [s.line.batch_eq (List.mem_of_find?_eq_some found) mem same] at found
  unfold Traffic.act
  dsimp only
  rw [found]

omit s in
/-- What is used up when a batch has become another one. -/
theorem steps_put {b b' : Batch} (mem : b ∈ t.service.batches) {hub : Hub}
    (reach : hub.subscriptions.length = t.service.hub.subscriptions.length)
    (less : b'.stepsWith t.service.hub.subscriptions.length + hub.steps <
      b.stepsWith t.service.hub.subscriptions.length + t.service.hub.steps) :
    ({ t.service.without (.batch b) with hub }.spawn (.batch b')).publishSteps <
      t.service.publishSteps := by
  have whole := ((List.perm_cons_erase mem).map
    (Batch.stepsWith t.service.hub.subscriptions.length)).sum_nat
  unfold Service.publishSteps
  rw [batches_put, whole]
  show ((t.service.batches.erase b ++ [b']).map (Batch.stepsWith hub.subscriptions.length)).sum +
    hub.steps < _
  rw [reach]
  simp only [List.map_append, List.map_cons, List.map_nil, List.sum_append, List.sum_cons,
    List.sum_nil]
  omega

omit s in
theorem steps_leave {b : Batch} (mem : b ∈ t.service.batches) (queue : PublishQueue) :
    Service.publishSteps { t.service.without (.batch b) with queue } < t.service.publishSteps := by
  have whole := ((List.perm_cons_erase mem).map
    (Batch.stepsWith t.service.hub.subscriptions.length)).sum_nat
  have some_left : 0 < b.stepsWith t.service.hub.subscriptions.length := by
    unfold Batch.stepsWith
    split <;> omega
  unfold Service.publishSteps
  rw [batches_leave, whole, List.map_cons, List.sum_cons]
  show ((t.service.batches.erase b).map (Batch.stepsWith t.service.hub.subscriptions.length)).sum +
    t.service.hub.steps < _
  omega

theorem uses_up {b : Batch} (mem : b ∈ t.service.batches) (goes : ¬ t.Waits b) :
    (t.service.stepBatch b).publishSteps < t.service.publishSteps := by
  have moves := (t.service.without (.batch b)).batchMoves b
  unfold Service.stepBatch
  unfold Waits at goes
  generalize (t.service.without (.batch b)).moveBatch b = move,
    (t.service.without (.batch b)).happenings b = hs at moves goes
  cases moves with
  | follows | waits => exact absurd rfl goes
  | leaves done => exact steps_leave mem _
  | goes d undone delivery found hub step =>
    obtain ⟨less, reach⟩ := s.turns.sound.steps_of_going (Hub.mem_of_delivery? found).1 step
    exact steps_put mem reach (Nat.add_lt_add_left less _)
  | delivers d undone delivery found count hub step =>
    obtain ⟨less, reach⟩ := s.turns.sound.steps_of_finished (Hub.mem_of_delivery? found).1 step
    exact steps_put mem reach (Nat.add_lt_add_left less _)
  | misses id undone delivery gone => exact absurd gone (s.found_of_delivery mem delivery)
  | ends undone idle free items =>
    refine steps_put mem rfl ?_
    simp [Batch.stepsWith, undone]
  | begins item items undone idle free begins =>
    have few : ((t.service.without (.batch b)).hub.publish b.game item.excluded
        item.notice).2.steps ≤
        t.service.hub.steps + (2 * t.service.hub.subscriptions.length + 1) :=
      Hub.steps_publish_le ..
    refine steps_put mem rfl ?_
    simp only [Batch.stepsWith, begins, List.length_cons, Nat.add_mul, Nat.one_mul]
    omega

/-- What a player who connected in time has heard, and what is coming. -/
theorem accepts_eq {past later : List Hub.Happening} {c : ChannelId} {game player : Id}
    (split : t.log = past ++ .opened c game player :: later) (first : Hub.begun past game = [])
    (registered : t.service.hub.isRegistered c = true) :
    Hub.accepts t.log c ++ t.service.hub.coming c =
      Outgoing.heardBy player (Hub.begun t.log game) := by
  obtain ⟨x, mem, own⟩ := List.any_eq_true.1 registered
  obtain rfl : x.channel = c := by simpa using own
  have opened : .opened x.channel game player ∈ t.log := by simp [split]
  obtain ⟨rfl, rfl⟩ := s.turns.sound.grounded.owner_eq (s.turns.sound.opened x mem) opened
  have new : ∀ game player, .opened x.channel game player ∉ past := fun game player there =>
    Nat.lt_irrefl _ (s.turns.sound.grounded past _ later split _ _ _ there)
  have hears : _ = Outgoing.heardBy _ _ := s.turns.hears x mem
  rw [hears, split, Hub.since_split new, Hub.begun_append, first, List.nil_append]

/-- Nothing is on its way to a channel of a quiet game. -/
theorem coming_of_quiet {c : ChannelId} {game player : Id} (quiet : t.IsQuiet game)
    (opened : .opened c game player ∈ t.log) : t.service.hub.coming c = [] := by
  refine List.filterMap_eq_nil_iff.2 fun d mem => if_neg fun here => ?_
  have own := s.turns.sound.game_eq_of_left mem here opened
  exact s.no_place quiet (List.mem_map_of_mem mem) own

/-- Behind a batch that has not gone out no other of its game is out. -/
theorem not_isOut {b x : Batch} (mem : b ∈ t.service.batches) (undone : b.done = false)
    (there : x ∈ t.service.batches) (game : x.game = b.game) (lt : b.number < x.number) :
    ¬ t.IsOut x := by
  obtain ⟨q, queued, number, own⟩ := s.line.known x there
  obtain ⟨y, mem_y, same, -, idle, items, -⟩ :=
    s.line.behind b mem undone q queued (own.trans game) (number ▸ lt)
  obtain rfl := s.line.batch_eq mem_y there (same.trans number)
  rintro ⟨-, going | began⟩
  · exact going idle
  · exact began q queued number items

theorem law : OrderLaw t where
  numbered := ⟨s.line.numbers ▸ List.pairwise_lt_range, s.line.distinct, s.line.known⟩
  alone b mem x there game out out' := by
    refine s.line.batch_eq there mem ?_
    rcases Nat.lt_trichotomy x.number b.number with lt | same | lt
    · exact absurd out (s.not_isOut there out'.1 mem game.symm lt)
    · exact same
    · exact absurd out' (s.not_isOut mem out.1 there game lt)
  whole b mem undone q queued game lt := by
    obtain ⟨x, there, number, undone_x, idle, items, -⟩ :=
      s.line.behind b mem undone q queued game lt
    exact ⟨x, there, number, items, idle, undone_x⟩
  in_order := s.order
  item_by_item past id game excluded n registry later split :=
    s.turns.in_turn past (.began id game excluded n registry) later split
  gone_out game quiet := by
    refine ⟨s.begun_of_quiet quiet, fun id excluded n registry began => ?_⟩
    exact s.turns.answered.exists_returned began fun place => s.no_place quiet place rfl
  waits b mem waiting := s.waits mem waiting
  goes_on game busy free := by
    unfold IsQuiet at busy
    push Not at busy
    obtain ⟨b, mem, own, undone⟩ := busy
    exact s.goes_on free mem own (Bool.not_eq_true _ ▸ undone)
  uses_up b mem goes := by
    rw [s.act_step mem]
    exact s.uses_up mem goes
  channels c := ⟨Hub.isReadable_iff, s.turns.sound.isFull_iff⟩
  found c n reader holds := by
    have came : (t.service.hub.act (.receive c)).2 = [.read c n] :=
      s.turns.sound.read_of_holds reader holds
    have log : (t.act (.connect (.receive c) rfl)).log = t.log ++ [.read c n] :=
      congrArg (t.log ++ ·) came
    refine ⟨log, ?_⟩
    by_contra full
    rw [Bool.not_eq_false, (s.connect (.receive c) rfl).turns.sound.isFull_iff, log] at full
    obtain ⟨n', holds'⟩ := full
    exact holds'.ne holds.read
  hears past c game player later split first registered := by
    have told := s.accepts_eq split first registered
    have queued := s.turns.sound.queued c
    constructor
    · have read : Hub.reads t.log c <+: Hub.accepts t.log c := ⟨_, queued.symm⟩
      have begun : Outgoing.heardBy player (Hub.begun t.log game) <+:
          Outgoing.heardBy player (itemsOf t.queued game) := by
        rw [← s.order game, Outgoing.heardBy_append]
        exact List.prefix_append _ _
      exact (read.trans ⟨_, told⟩).trans begun
    · intro quiet
      rw [s.coming_of_quiet quiet (split ▸ List.mem_append_right _ List.mem_cons_self),
        s.begun_of_quiet quiet, List.append_nil] at told
      refine ⟨told, fun free => ?_⟩
      have none : t.service.hub.slots.filter (·.channel == c) = [] := by
        simpa [Hub.isFull] using free
      rw [queued, none, List.map_nil, List.append_nil] at told
      exact told
  clean empty := by
    refine List.eq_nil_iff_forall_not_mem.2 fun e mem => ?_
    obtain ⟨⟨b, there, -⟩, -⟩ := s.line.tails e mem
    rw [empty] at there
    cases there

end Sound

/-! ## What is to be published -/

theorem asked_append (acts acts' : List Act) : asked (acts ++ acts') = asked acts ++ asked acts' :=
  List.filterMap_append

theorem askedFor_append (acts acts' : List Act) (game : Id) :
    askedFor (acts ++ acts') game = askedFor acts game ++ askedFor acts' game := by
  unfold askedFor
  rw [asked_append, List.filter_append, List.flatMap_append]

theorem run_snoc (settings : RoomSettings) (books : Books) (acts : List Act) (a : Act) :
    run settings books (acts ++ [a]) = (run settings books acts).act a := List.foldl_append

/-- An act queues what it is to publish. -/
theorem queued_act (t : Traffic) (a : Act) : ((t.act a).queued.map fun q => (q.game, q.items)) =
    (t.queued.map fun q => (q.game, q.items)) ++ asked [a] := by
  have nothing (rest : asked [a] = []) (same : (t.act a).queued = t.queued) :
      ((t.act a).queued.map fun q => (q.game, q.items)) =
        (t.queued.map fun q => (q.game, q.items)) ++ asked [a] := by
    rw [rest, same, List.append_nil]
  cases a with
  | queue game items => exact List.map_append
  | connect a connection => exact nothing rfl rfl
  | step number =>
    refine nothing rfl ?_
    unfold act
    dsimp only
    split <;> rfl
  | elsewhere other =>
    refine nothing rfl ?_
    unfold act
    dsimp only
    split <;> rfl

section Run

variable (settings : RoomSettings) (books : Books)

theorem queued_run (acts : List Act) :
    ((run settings books acts).queued.map fun q => (q.game, q.items)) = asked acts := by
  induction acts using List.reverseRecOn with
  | nil => rfl
  | append_singleton acts a ih => rw [run_snoc, queued_act, ih, asked_append]

theorem itemsOf_run (acts : List Act) (game : Id) :
    itemsOf (run settings books acts).queued game = askedFor acts game := by
  unfold itemsOf askedFor
  rw [← queued_run settings books, List.filter_map, List.flatMap_map]
  rfl

theorem log_prefix_act (t : Traffic) (a : Act) : t.log <+: (t.act a).log := by
  cases a with
  | queue game items => exact List.prefix_rfl
  | connect a connection => exact List.prefix_append _ _
  | step number =>
    unfold act
    dsimp only
    split
    · exact List.prefix_append _ _
    · exact List.prefix_rfl
  | elsewhere other =>
    unfold act
    dsimp only
    split <;> exact List.prefix_rfl

theorem log_prefix_run (past since : List Act) :
    (run settings books past).log <+: (run settings books (past ++ since)).log := by
  induction since using List.reverseRecOn with
  | nil => rw [List.append_nil]
  | append_singleton since a ih =>
    rw [← List.append_assoc, run_snoc]
    exact ih.trans (log_prefix_act _ a)

/-- Who is connected stays connected until leaving. -/
theorem connected_act {t : Traffic} {game player : Id} {c : ChannelId}
    (connected : t.service.hub.Connected game player c) {a : Act}
    (stays : a ≠ .connect (.unsubscribe player) rfl) :
    (t.act a).service.hub.Connected game player c := by
  cases a with
  | queue game items => exact connected
  | connect a connection =>
    refine connected.act_of_ne ?_
    rintro rfl
    exact stays rfl
  | step number =>
    unfold act
    dsimp only
    split
    · rename_i b _
      rcases t.service.hub_stepBatch b with same | ⟨a, delivers, goes⟩
      · exact same ▸ connected
      · refine goes ▸ connected.act_of_ne ?_
        rintro rfl
        cases delivers
    · exact connected
  | elsewhere other =>
    unfold act
    dsimp only
    split <;> exact connected

theorem exists_connected (past : List Act) (game player : Id) (now : Nat) (since : List Act)
    (stays : .connect (.unsubscribe player) rfl ∉ since) : ∃ c,
    Hub.Connected (run settings books
      (past ++ [.connect (.subscribe game player now) rfl])).service.hub game player c ∧
    Hub.Connected (run settings books
      (past ++ .connect (.subscribe game player now) rfl :: since)).service.hub game player c := by
  induction since using List.reverseRecOn with
  | nil =>
    rw [run_snoc]
    have connected := Hub.Connected.subscribe (run settings books past).service.hub game player now
    exact ⟨_, connected, connected⟩
  | append_singleton since a ih =>
    rw [List.mem_append, not_or, List.mem_singleton] at stays
    obtain ⟨c, first, connected⟩ := ih stays.1
    refine ⟨c, first, ?_⟩
    rw [← List.cons_append, ← List.append_assoc, run_snoc]
    exact connected_act connected (Ne.symm stays.2)

theorem brings_run (past : List Act) (game player : Id) (now : Nat) (since : List Act)
    (first : askedFor past game = []) (stays : .connect (.unsubscribe player) rfl ∉ since)
    {acts : List Act} (split : acts = past ++ .connect (.subscribe game player now) rfl :: since) :
    ∃ c, (run settings books acts).service.hub.Connected game player c ∧
      (run settings books acts).Brings c game player (askedFor acts game) := by
  obtain ⟨c, connects, connected⟩ := exists_connected settings books past game player now since stays
  rw [← split] at connected
  refine ⟨c, connected, ?_⟩
  have joined := sound_run settings books (past ++ [.connect (.subscribe game player now) rfl])
  -- the channel is in the log before anything began to go out to the game
  obtain ⟨x, mem, rfl, rfl, rfl⟩ := connects
  obtain ⟨before, after, opened⟩ := List.append_of_mem (joined.turns.sound.opened x mem)
  have silent : Hub.begun before x.game = [] := by
    have nothing := joined.order x.game
    rw [itemsOf_run, askedFor_append, first, opened, Hub.begun_append] at nothing
    exact (List.append_eq_nil_iff.1 (List.append_eq_nil_iff.1 nothing).1).1
  obtain ⟨later, grown⟩ := log_prefix_run settings books
    (past ++ [.connect (.subscribe x.game x.player now) rfl]) since
  rw [List.append_assoc, List.singleton_append, ← split, opened, List.append_assoc,
    List.cons_append] at grown
  obtain ⟨y, there, -, -, own⟩ := connected
  have registered : (run settings books acts).service.hub.isRegistered x.channel = true :=
    List.any_eq_true.2 ⟨y, there, beq_iff_eq.2 own⟩
  rw [← itemsOf_run settings books acts]
  exact (sound_run settings books acts).law.hears before x.channel x.game x.player _ grown.symm silent
    registered

end Run

/-- Whatever is to be published, and in whatever order the steps of batches, of those who connect and
of those who read fall, the service keeps to the law of publication. -/
theorem publish_law_run (settings : RoomSettings) (books : Books) (acts : List Act) :
    PublishLaw acts (run settings books acts) where
  toOrderLaw := (sound_run settings books acts).law
  queues := queued_run settings books acts
  goes_out game := by
    rw [← itemsOf_run settings books, ← (sound_run settings books acts).order game]
    exact List.prefix_append _ _
  all_out game quiet := by
    rw [← itemsOf_run settings books]
    exact (sound_run settings books acts).begun_of_quiet quiet
  brings past game player now since split first stays :=
    brings_run settings books past game player now since first stays split

/-- The second batch waits behind the first one, and its second item for the reader; its first item
is the reader's own. -/
example (books : Books) :
    Hub.reads (run {} books [
      .connect (.subscribe "g" "reader" 0) rfl,
      .queue "g" [.fromPlayer "writer" (.left "a")],
      .queue "g" [.fromPlayer "reader" (.left "b"), .broadcast (.left "c")],
      .step 1, .step 0, .step 0, .step 0, .step 1, .step 0, .step 0,
      .step 1, .step 1, .step 1, .step 1, .connect (.receive 0) rfl,
      .step 1, .connect (.receive 0) rfl]).log 0 = [.left "a", .left "c"] := by
  cbv

end Traffic

end GuessingRoom
