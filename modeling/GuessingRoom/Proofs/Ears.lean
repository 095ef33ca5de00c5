import GuessingRoom.Proofs.FeedTraffic

/-!
# The connected players of one game

What a game knows of its connected players, without the channels through which they are connected
(`Hub.ears`). As long as nobody leaves, every delivery goes to players who are still connected
(`Hub.Moored`). Then whatever happens in the hub concerns the connected players of one game, and is
told by who they are: they are noted, they take a notice, they read it, or one more connects
(`Hub.ears_touch`, `Hub.ears_fill`, `Hub.ears_receive`, `Hub.ears_subscribe`).
-/

namespace GuessingRoom

/-- A connected player, with the notice that waits to be read. -/
structure Ear where
  player : Id
  lastActivity : Nat
  waiting : Option Notice := none
deriving DecidableEq, Repr

namespace Ear

/-- The player is changed, and all others stay as they are. -/
def change (player : Id) (f : Ear → Ear) (ears : List Ear) : List Ear :=
  ears.map fun e => if e.player = player then f e else e

def note (now : Nat) (e : Ear) : Ear := { e with lastActivity := now }

/-- A notice waits, or none. -/
def hold (n : Option Notice) (e : Ear) : Ear := { e with waiting := n }

/-- Whether a notice waits to be read by the player. -/
def isFull (ears : List Ear) (player : Id) : Bool :=
  ears.any fun e => e.player == player && e.waiting.isSome

/-- A player who is not yet connected connects. -/
def connect (player : Id) (now : Nat) (ears : List Ear) : List Ear :=
  if ears.any (·.player == player) then ears else ears ++ [{ player, lastActivity := now }]

/-- What the player reads, if there is anything to read. -/
def reads (ears : List Ear) (player : Id) : List Notice :=
  ((ears.find? (·.player == player)).bind (·.waiting)).toList

/-- The players but for the excluded one. -/
def audience (ears : List Ear) (excluded : Option Id) : List Id :=
  (ears.map (·.player)).filter (excluded != some ·)

variable {ears : List Ear} {player : Id} (absent : ears.any (·.player == player) = false)
include absent

/-- Who is not connected cannot be changed and reads nothing. -/
theorem change_of_absent (f : Ear → Ear) : change player f ears = ears := by
  rw [List.any_eq_false] at absent
  refine (List.map_congr_left fun e mem => ?_).trans (List.map_id ears)
  exact if_neg (by simpa using absent e mem)

theorem reads_of_absent : reads ears player = [] := by
  rw [reads, List.find?_eq_none.2 (List.any_eq_false.1 absent)]
  rfl

end Ear

namespace Hub

/-- The notice that waits in a channel. -/
def waitingIn (h : Hub) (channel : ChannelId) : Option Notice :=
  (h.slots.find? (·.channel == channel)).map (·.notice)

def ear (h : Hub) (s : Subscription) : Ear := ⟨s.player, s.lastActivity, h.waitingIn s.channel⟩

/-- The players connected to a game, in the order of registration. -/
def ears (h : Hub) (game : Id) : List Ear := (h.subscriptions.filter (·.game == game)).map h.ear

/-- Every player is connected to a game once at most and has a reader, and deliveries go to players
who are connected. -/
structure Moored (h : Hub) : Prop where
  single : (h.subscriptions.map fun s => (s.game, s.player)).Nodup
  bound : ∀ d ∈ h.deliveries, ∀ t ∈ d.targets, h.Connected d.game t.player t.channel
  held : ∀ s ∈ h.subscriptions, s.channel ∈ h.readers

variable {h : Hub} {log : List Happening} {game player : Id} {channel : ChannelId}

/-! ## Looks -/

theorem isFull_eq (h : Hub) (channel : ChannelId) :
    h.isFull channel = (h.waitingIn channel).isSome := by
  rw [waitingIn, Option.isSome_map, Bool.eq_iff_iff, isFull, List.any_eq_true, List.find?_isSome]

theorem subscribers_eq (h : Hub) (game : Id) :
    h.subscribers game = ((h.ears game).map (·.player)).eraseDups := by
  unfold subscribers ears
  rw [List.map_map]
  rfl

theorem audience_ears (h : Hub) (game : Id) (excluded : Option Id) :
    (h.targetsOf game excluded).map (·.player) = Ear.audience (h.ears game) excluded := by
  unfold targetsOf Ear.audience ears
  rw [List.map_map, List.map_map, List.filter_map, List.filter_filter]
  refine congrArg (List.map fun s : Subscription => s.player) (List.filter_congr fun s _ => ?_)
  exact Bool.and_comm _ _

theorem connected_of_find? {x : Subscription} (found : h.find? game player = some x) :
    h.Connected game player x.channel := by
  have own := List.find?_some found
  rw [Subscription.isFor, Bool.and_eq_true, beq_iff_eq, beq_iff_eq] at own
  exact ⟨x, List.mem_of_find?_eq_some found, own.1, own.2, rfl⟩

namespace Moored

theorem subscription_eq (m : h.Moored) {x y : Subscription} (mem : x ∈ h.subscriptions)
    (mem' : y ∈ h.subscriptions) (game : x.game = y.game) (player : x.player = y.player) : x = y :=
  List.inj_on_of_nodup_map m.single mem mem' (Prod.ext game player)

/-- The channel of a connected player is the player's alone. -/
theorem channel_iff (m : h.Moored) (s : Sound h log) (c : h.Connected game player channel)
    {x : Subscription} (mem : x ∈ h.subscriptions) :
    x.channel = channel ↔ x.game = game ∧ x.player = player := by
  obtain ⟨y, mem', rfl, rfl, rfl⟩ := c
  constructor
  · intro same
    rw [s.subscription_eq mem mem' same]
    exact ⟨rfl, rfl⟩
  · rintro ⟨game, player⟩
    rw [m.subscription_eq mem mem' game player]

theorem isReadable (_ : h.Moored) (c : h.Connected game player channel) :
    h.isReadable channel = true := by
  obtain ⟨y, mem, -, -, rfl⟩ := c
  have registered : h.isRegistered y.channel = true :=
    List.any_eq_true.2 ⟨y, mem, beq_self_eq_true _⟩
  rw [Hub.isReadable, registered]
  rfl

/-- A connected player's channel is full if a notice waits for the player. -/
theorem isFull_iff (m : h.Moored) (s : Sound h log) (c : h.Connected game player channel) :
    h.isFull channel = Ear.isFull (h.ears game) player := by
  rw [isFull_eq, Bool.eq_iff_iff, Ear.isFull, List.any_eq_true]
  constructor
  · intro full
    obtain ⟨y, mem, rfl, rfl, rfl⟩ := c
    refine ⟨h.ear y, List.mem_map_of_mem (List.mem_filter.2 ⟨mem, beq_self_eq_true _⟩), ?_⟩
    simpa [ear] using full
  · rintro ⟨e, there, full⟩
    obtain ⟨y, mem, rfl⟩ := List.mem_map.1 there
    obtain ⟨mem, own⟩ := List.mem_filter.1 mem
    rw [Bool.and_eq_true, beq_iff_eq] at full
    rw [← (m.channel_iff s c mem).2 ⟨beq_iff_eq.1 own, full.1⟩]
    exact full.2

end Moored

/-! ## What happens in the hub -/

/-- The connection of one player has changed, and that of nobody else. -/
theorem ears_change {h' : Hub} {f : Subscription → Subscription} {F : Ear → Ear}
    (registry : h'.subscriptions = h.subscriptions.map f) (stays : ∀ s, (f s).game = s.game)
    (changed : ∀ s ∈ h.subscriptions,
      h'.ear (f s) = if s.game = game ∧ s.player = player then F (h.ear s) else h.ear s)
    (other : Id) : h'.ears other =
      if other = game then Ear.change player F (h.ears game) else h.ears other := by
  have same : ((·.game == other) ∘ f : Subscription → Bool) = (·.game == other) := by
    funext s
    exact congrArg (· == other) (stays s)
  have told : ∀ s ∈ h.subscriptions.filter (·.game == other), h'.ear (f s) =
      if other = game ∧ s.player = player then F (h.ear s) else h.ear s := by
    intro s mem
    obtain ⟨mem, own⟩ := List.mem_filter.1 mem
    rw [changed s mem, beq_iff_eq.1 own]
  unfold ears Ear.change
  rw [registry, List.filter_map, same, List.map_map, List.map_map]
  split
  · rename_i own
    subst own
    refine List.map_congr_left fun s mem => (told s mem).trans ?_
    rw [Function.comp_apply, ear]
    simp only [true_and]
  · rename_i other
    refine List.map_congr_left fun s mem => (told s mem).trans ?_
    simp only [other, false_and, if_false]

theorem ears_touch (h : Hub) (game player : Id) (now : Nat) (other : Id) :
    (h.touch game player now).ears other =
      if other = game then Ear.change player (.note now) (h.ears game) else h.ears other := by
  refine ears_change rfl (fun s => ?_) (fun s _ => ?_) other
  · split <;> rfl
  · simp only [Subscription.isFor, Bool.and_eq_true, beq_iff_eq]
    split <;> rfl

theorem waitingIn_fill {c : ChannelId} (free : h.waitingIn c = none) (n : Notice) (x : ChannelId) :
    (h.fill c n).waitingIn x = if x = c then some n else h.waitingIn x := by
  unfold waitingIn fill at *
  rw [List.find?_append, Option.map_or]
  by_cases same : x = c
  · subst same
    rw [free, if_pos rfl]
    simp
  · simp [same, Ne.symm same]

theorem waitingIn_without (h : Hub) (c x : ChannelId) :
    waitingIn { h with slots := h.slots.filter (·.channel != c) } x =
      if x = c then none else h.waitingIn x := by
  unfold waitingIn
  rw [List.find?_filter]
  by_cases same : x = c
  · subst same
    simp
  · rw [if_neg same]
    congr 2
    funext slot
    by_cases here : slot.channel = x <;> simp [here, same]

/-- Who holds a reader takes out what waits in the channel. -/
theorem act_receive (held : channel ∈ h.readers) :
    (h.act (.receive channel)).1.subscriptions = h.subscriptions ∧
      (∀ x, (h.act (.receive channel)).1.waitingIn x =
        if x = channel then none else h.waitingIn x) ∧
      Hub.reads (h.act (.receive channel)).2 channel = (h.waitingIn channel).toList := by
  unfold act
  dsimp only
  rw [if_pos held]
  rcases found : h.slots.find? (·.channel == channel) with _ | slot
  · have none : h.waitingIn channel = none := by rw [waitingIn, found, Option.map_none]
    rw [receive_of_none found]
    cases h.isWritable channel
    all_goals
      refine ⟨rfl, fun x => ?_, ?_⟩
      · by_cases same : x = channel <;> simp [same, none]
      · rw [none]
        rfl
  · have some : h.waitingIn channel = some slot.notice := by rw [waitingIn, found, Option.map_some]
    rw [receive_of_some found]
    refine ⟨rfl, fun x => waitingIn_without h channel x, ?_⟩
    rw [some]
    simp [Hub.reads]

section Moored

variable (m : h.Moored) (s : Sound h log)
include m s

/-- One channel of a connected player has been filled or emptied. -/
theorem ears_hold (c : h.Connected game player channel) {h' : Hub} {n : Option Notice}
    (registry : h'.subscriptions = h.subscriptions)
    (waiting : ∀ x, h'.waitingIn x = if x = channel then n else h.waitingIn x) (other : Id) :
    h'.ears other =
      if other = game then Ear.change player (.hold n) (h.ears game) else h.ears other := by
  refine ears_change (f := id) (by rw [List.map_id, registry]) (fun _ => rfl) (fun x mem => ?_) other
  rw [id, ear, waiting, ear]
  by_cases own : x.channel = channel
  · rw [if_pos own, if_pos ((m.channel_iff s c mem).1 own)]
    rfl
  · rw [if_neg own, if_neg fun here => own ((m.channel_iff s c mem).2 here)]

theorem ears_fill (c : h.Connected game player channel) (free : h.isFull channel = false)
    (n : Notice) (other : Id) : (h.fill channel n).ears other =
      if other = game then Ear.change player (.hold (some n)) (h.ears game) else h.ears other := by
  have none : h.waitingIn channel = none := by simpa [isFull_eq] using free
  have registry : (h.fill channel n).subscriptions = h.subscriptions := rfl
  exact ears_hold m s c registry (fun x => waitingIn_fill none n x) other

theorem ears_receive (c : h.Connected game player channel) (other : Id) :
    (h.act (.receive channel)).1.ears other =
      if other = game then Ear.change player (.hold none) (h.ears game) else h.ears other := by
  obtain ⟨y, mem, -, -, own⟩ := id c
  obtain ⟨registry, waiting, -⟩ := act_receive (own ▸ m.held y mem)
  exact ears_hold m s c registry waiting other

omit s in
theorem reads_receive (c : h.Connected game player channel) :
    Hub.reads (h.act (.receive channel)).2 channel = Ear.reads (h.ears game) player := by
  obtain ⟨y, mem, rfl, rfl, rfl⟩ := c
  have here : y ∈ h.subscriptions.filter (·.game == y.game) :=
    List.mem_filter.2 ⟨mem, beq_self_eq_true _⟩
  obtain ⟨x, found⟩ := Option.isSome_iff_exists.1 (List.find?_isSome
    (p := fun x : Subscription => x.player == y.player) |>.2 ⟨y, here, beq_self_eq_true _⟩)
  obtain ⟨mem', game⟩ := List.mem_filter.1 (List.mem_of_find?_eq_some found)
  have player : x.player = y.player := by simpa using List.find?_some found
  obtain rfl := m.subscription_eq mem' mem (beq_iff_eq.1 game) player
  rw [(act_receive (m.held x mem)).2.2, Ear.reads, ears, List.find?_map]
  show _ = (((h.subscriptions.filter (·.game == x.game)).find?
    (fun s : Subscription => s.player == x.player)).map h.ear |>.bind (·.waiting)).toList
  rw [found]
  rfl

omit m in
/-- Nothing waits in a channel that is still to be opened. -/
theorem waitingIn_next : h.waitingIn h.nextChannel = none := by
  have queued := s.queued h.nextChannel
  rw [s.accepts_next] at queued
  have free : h.slots.filter (·.channel == h.nextChannel) = [] :=
    List.map_eq_nil_iff.1 (List.append_eq_nil_iff.1 queued.symm).2
  rw [waitingIn, List.find?_eq_none.2 (List.filter_eq_nil_iff.1 free), Option.map_none]

omit m s in
theorem any_ears (h : Hub) (game player : Id) :
    (h.ears game).any (·.player == player) = (h.find? game player).isSome := by
  unfold ears find?
  rw [List.any_map, List.any_filter, List.isSome_find?]
  rfl

omit m in
theorem ears_subscribe (now : Nat) (other : Id) : (h.subscribe game player now).2.ears other =
    if other = game then Ear.connect player now (h.ears game) else h.ears other := by
  have known := any_ears h game player
  unfold subscribe
  rcases found : h.find? game player with _ | x <;> rw [found] at known
  · have new : h.ear ⟨game, player, h.nextChannel, now⟩ = { player, lastActivity := now } := by
      rw [ear, waitingIn_next s]
    show ((h.subscriptions ++ [_]).filter _).map h.ear = _
    rw [List.filter_append, List.map_append]
    by_cases own : other = game
    · subst own
      rw [if_pos rfl, Ear.connect, known, if_neg (by simp)]
      simp [ears, new]
    · rw [if_neg own]
      simp [ears, Ne.symm own]
  · show h.ears other = _
    split
    · rename_i own
      rw [Ear.connect, known, own]
      rfl
    · rfl

end Moored

/-! ## As long as nobody leaves -/

namespace Moored

theorem start : Moored {} where
  single := List.nodup_nil
  bound := by simp
  held := by simp

theorem subscribe (m : h.Moored) (game player : Id) (now : Nat) :
    (h.subscribe game player now).2.Moored := by
  have bound : ∀ d ∈ h.deliveries, ∀ t ∈ d.targets,
      (h.subscribe game player now).2.Connected d.game t.player t.channel := fun d mem t there =>
    (m.bound d mem t there).act (a := .subscribe game player now) (by simp)
  unfold Hub.subscribe at *
  rcases found : h.find? game player with _ | x <;> rw [found] at bound
  · refine ⟨?_, bound, fun x mem => ?_⟩
    · show ((h.subscriptions ++ [_]).map _).Nodup
      rw [← List.concat_eq_append, List.map_concat, List.nodup_concat]
      refine ⟨fun there => ?_, m.single⟩
      obtain ⟨x, mem, same⟩ := List.mem_map.1 there
      rw [Prod.mk.injEq] at same
      exact absurd (List.find?_eq_none.1 found x mem) (by simp [Subscription.isFor, same])
    · rcases List.mem_append.1 mem with old | new
      · exact List.mem_cons_of_mem _ (m.held x old)
      · rw [List.mem_singleton.1 new]
        exact List.mem_cons_self
  · exact ⟨m.single, bound, fun x mem => List.mem_cons_of_mem _ (m.held x mem)⟩

theorem publish (m : h.Moored) (game : Id) (excluded : Option Id) (n : Notice) :
    (h.publish game excluded n).2.Moored where
  single := m.single
  bound d mem t there := by
    rcases List.mem_append.1 mem with old | new
    · exact m.bound d old t there
    · rw [List.mem_singleton.1 new] at there ⊢
      obtain ⟨x, mem, rfl⟩ := List.mem_map.1 there
      obtain ⟨mem, goes⟩ := List.mem_filter.1 mem
      rw [Bool.and_eq_true, beq_iff_eq] at goes
      exact ⟨x, mem, goes.1, rfl, rfl⟩
  held := m.held

theorem touch (m : h.Moored) (game player : Id) (now : Nat) :
    (h.touch game player now).Moored := by
  have same (s : Subscription) :
      (if s.isFor game player then { s with lastActivity := now } else s).game = s.game ∧
      (if s.isFor game player then { s with lastActivity := now } else s).player = s.player ∧
      (if s.isFor game player then { s with lastActivity := now } else s).channel = s.channel := by
    split <;> exact ⟨rfl, rfl, rfl⟩
  refine ⟨?_, fun d mem t there => ?_, fun x mem => ?_⟩
  · have kept : (h.touch game player now).subscriptions.map (fun s => (s.game, s.player)) =
        h.subscriptions.map fun s => (s.game, s.player) := by
      unfold Hub.touch
      rw [List.map_map]
      exact List.map_congr_left fun s _ => Prod.ext (same s).1 (same s).2.1
    rw [kept]
    exact m.single
  · obtain ⟨x, mem, game, player, channel⟩ := m.bound d mem t there
    exact ⟨_, List.mem_map_of_mem mem, (same x).1.trans game, (same x).2.1.trans player,
      (same x).2.2.trans channel⟩
  · obtain ⟨y, there, rfl⟩ := List.mem_map.1 mem
    rw [(same y).2.2]
    exact m.held y there

/-- A delivery goes on, to nobody to whom it was not going before. -/
theorem setDelivery (m : h.Moored) {d t : Delivery} (mem : d ∈ h.deliveries)
    (game : t.game = d.game) (less : t.targets ⊆ d.targets) : (h.setDelivery t).Moored where
  single := m.single
  bound x there target mem' := by
    rcases Sound.mem_setDelivery there with rfl | ⟨old, -⟩
    · rw [game]
      exact m.bound d mem target (less mem')
    · exact m.bound x old target mem'
  held := m.held

theorem receive (m : h.Moored) (channel : ChannelId) : (h.act (.receive channel)).1.Moored := by
  unfold Hub.act
  dsimp only
  split
  · rcases found : h.slots.find? (·.channel == channel) with _ | slot
    · rw [receive_of_none found]
      cases h.isWritable channel <;> exact m
    · rw [receive_of_some found]
      exact ⟨m.single, m.bound, m.held⟩
  · exact m

end Moored

/-! ## The steps of a delivery -/

/-- What a delivery to connected players does, as they see it. -/
inductive Carries (h : Hub) (d : Delivery) (now : Nat) : Progress → Prop where
  | waits (t : Target) (rest : List Target) (targets : d.targets = t :: rest)
    (taken : d.taken = false) (full : Ear.isFull (h.ears d.game) t.player = true) :
    Carries h d now .waiting
  | takes (t : Target) (rest : List Target) (targets : d.targets = t :: rest)
    (taken : d.taken = false) (free : Ear.isFull (h.ears d.game) t.player = false) (after : Hub)
    (moored : after.Moored)
    (deliveries : after.deliveries = (h.setDelivery
      { d with taken := true, accepted := d.accepted + 1 }).deliveries)
    (ears : ∀ game, after.ears game = if game = d.game then
      Ear.change t.player (.hold (some d.notice)) (h.ears d.game) else h.ears game) :
    Carries h d now (.going after)
  | notes (t : Target) (rest : List Target) (targets : d.targets = t :: rest)
    (taken : d.taken = true) (after : Hub) (moored : after.Moored)
    (deliveries : after.deliveries = (h.setDelivery
      { d with targets := rest, taken := false }).deliveries)
    (ears : ∀ game, after.ears game = if game = d.game then
      Ear.change t.player (.note now) (h.ears d.game) else h.ears game) :
    Carries h d now (.going after)
  | ends (targets : d.targets = []) (count : Nat) (after : Hub) (moored : after.Moored)
    (deliveries : after.deliveries = h.deliveries.filter (·.id != d.id))
    (ears : after.ears = h.ears) : Carries h d now (.finished count after)

theorem Moored.carries (m : h.Moored) (s : Sound h log) {d : Delivery} (mem : d ∈ h.deliveries)
    (now : Nat) : h.Carries d now (h.advance d now) := by
  rcases targets : d.targets with _ | ⟨t, rest⟩
  · rw [advance_of_done now targets]
    refine .ends targets _ _ ⟨m.single, fun x there => ?_, m.held⟩ rfl rfl
    exact m.bound x (List.mem_of_mem_filter there)
  · have connected : h.Connected d.game t.player t.channel :=
      m.bound d mem t (targets ▸ List.mem_cons_self)
    by_cases taken : d.taken = true
    · rw [(advance_of_taken (h := h) now targets taken).1]
      refine .notes t rest targets taken _ ?_ rfl fun game => ears_touch h d.game t.player now game
      refine (m.touch d.game t.player now).setDelivery (d := d) mem rfl ?_
      rw [targets]
      exact List.subset_cons_self _ _
    · rw [Bool.not_eq_true] at taken
      have full := m.isFull_iff s connected
      rcases advance_of_readable now targets taken (m.isReadable connected) with
        ⟨blocked, step⟩ | ⟨free, step, -⟩ <;> rw [step]
      · exact .waits t rest targets taken (full ▸ blocked)
      · refine .takes t rest targets taken (full ▸ free) _ ?_ rfl fun game =>
          ears_fill m s connected free d.notice game
        have filled : (h.fill t.channel d.notice).Moored := ⟨m.single, m.bound, m.held⟩
        exact filled.setDelivery (d := d) mem rfl (List.Subset.refl _)

end Hub

end GuessingRoom
