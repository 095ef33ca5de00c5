import GuessingRoom.Proofs.FeedTraffic

/-!
# Who is connected

Whatever is done to a hub, who is connected to a game can be told from the acts alone: the players who
have connected to it and not left since, each once, in the order in which they connected first
(`Hub.RegistryLaw`). Two who connect are given the same channel if and only if they connect as one
player to one game and the player does not leave in between.
-/

namespace GuessingRoom.Hub

/-! ## What is told of the acts -/

/-- Games and players of the connections, in the order of registration. -/
def roster (h : Hub) : List (Id × Id) := h.subscriptions.map fun s => (s.game, s.player)

/-- The channel that is given to a player who connects after the acts. -/
def handle (acts : List Act) (game player : Id) (now : Nat) : ChannelId :=
  ((watch acts).hub.subscribe game player now).1

/-- The player has connected to the game and not left since. -/
def Stays (acts : List Act) (game player : Id) : Prop :=
  ∃ past now since, acts = past ++ .subscribe game player now :: since ∧
    .unsubscribe player ∉ since

/-- With the act of the given number the player connected to the game, which the player had not done
before or not since leaving, and has not left since. -/
def JoinedAt (acts : List Act) (game player : Id) (i : Nat) : Prop :=
  ∃ past now since, acts = past ++ .subscribe game player now :: since ∧ past.length = i ∧
    .unsubscribe player ∉ since ∧ ¬ Stays past game player

/-- What the acts tell of the connections of the hub. -/
structure RegistryLaw (acts : List Act) : Prop where
  single : (watch acts).hub.roster.Nodup
  same_channel : ∀ past game player now since, acts = past ++ .subscribe game player now :: since →
    ∀ game' player' now', handle past game player now = handle acts game' player' now' ↔
      game' = game ∧ player' = player ∧ .unsubscribe player ∉ since
  connected : ∀ game player, (watch acts).hub.isSubscribed game player = true ↔ Stays acts game player
  listed : ∀ game player, player ∈ (watch acts).hub.subscribers game ↔ Stays acts game player
  once : ∀ game, ((watch acts).hub.subscribers game).Nodup
  in_order : ∀ game, ∃ numbers : List Nat, numbers.Pairwise (· < ·) ∧
    List.Forall₂ (JoinedAt acts game) ((watch acts).hub.subscribers game) numbers
  counted : ∀ game,
    (watch acts).hub.subscriberCount game = ((watch acts).hub.subscribers game).length
  /-- Who leaves is connected to no game, and leaving again changes nothing. -/
  leaves : ∀ game player, (watch (acts ++ [.unsubscribe player])).hub.isSubscribed game player = false ∧
    (watch (acts ++ [.unsubscribe player, .unsubscribe player])).hub =
      (watch (acts ++ [.unsubscribe player])).hub
  /-- The others stay connected as they were and in the order in which they were. -/
  others_stay : ∀ game player,
    (∀ other, other ≠ player → (watch (acts ++ [.unsubscribe player])).hub.find? game other =
      (watch acts).hub.find? game other) ∧
    (watch (acts ++ [.unsubscribe player])).hub.subscribers game =
      ((watch acts).hub.subscribers game).filter (· != player)

/-! ## The acts one after another -/

theorem watch_snoc (acts : List Act) (a : Act) : watch (acts ++ [a]) =
    ⟨((watch acts).hub.act a).1, (watch acts).log ++ ((watch acts).hub.act a).2⟩ :=
  List.foldl_append

theorem stays_snoc {acts : List Act} {a : Act} {game player : Id} : Stays (acts ++ [a]) game player ↔
    (∃ now, a = .subscribe game player now) ∨ Stays acts game player ∧ a ≠ .unsubscribe player := by
  constructor
  · rintro ⟨past, now, since, split, stays⟩
    rcases List.eq_nil_or_concat since with rfl | ⟨since, last, rfl⟩
    · obtain ⟨-, same⟩ := List.append_inj' split rfl
      exact .inl ⟨now, List.singleton_inj.1 same⟩
    · rw [List.concat_eq_append, ← List.cons_append, ← List.append_assoc] at split
      obtain ⟨rfl, same⟩ := List.append_inj' split rfl
      obtain rfl := List.singleton_inj.1 same
      rw [List.concat_eq_append, List.mem_append, not_or, List.mem_singleton] at stays
      exact .inr ⟨⟨past, now, since, rfl, stays.1⟩, Ne.symm stays.2⟩
  · rintro (⟨now, rfl⟩ | ⟨⟨past, now, since, rfl, stays⟩, other⟩)
    · exact ⟨acts, now, [], rfl, List.not_mem_nil⟩
    · refine ⟨past, now, since ++ [a], by simp, ?_⟩
      rw [List.mem_append, not_or, List.mem_singleton]
      exact ⟨stays, Ne.symm other⟩

namespace JoinedAt

variable {acts : List Act} {game player : Id} {i : Nat}

theorem lt_length (h : JoinedAt acts game player i) : i < acts.length := by
  obtain ⟨past, now, since, rfl, rfl, -⟩ := h
  simp

theorem snoc (h : JoinedAt acts game player i) {a : Act} (other : a ≠ .unsubscribe player) :
    JoinedAt (acts ++ [a]) game player i := by
  obtain ⟨past, now, since, rfl, length, stays, first⟩ := h
  refine ⟨past, now, since ++ [a], by simp, length, ?_, first⟩
  rw [List.mem_append, not_or, List.mem_singleton]
  exact ⟨stays, Ne.symm other⟩

theorem last (first : ¬ Stays acts game player) (now : Nat) :
    JoinedAt (acts ++ [.subscribe game player now]) game player acts.length :=
  ⟨acts, now, [], rfl, rfl, List.not_mem_nil, first⟩

end JoinedAt

/-! ## The connections after an act -/

section Roster

variable (h : Hub) {game player : Id}

theorem isSubscribed_iff : h.isSubscribed game player = true ↔ (game, player) ∈ h.roster := by
  simp [isSubscribed, Subscription.isFor, roster]

theorem isSome_find? (game player : Id) : (h.find? game player).isSome = h.isSubscribed game player := by
  rw [Bool.eq_iff_iff, find?, List.find?_isSome, isSubscribed, List.any_eq_true]

/-- The connections change only as players connect and leave and as deliveries go on. -/
theorem subscriptions_of_other {a : Act} (connects : ∀ game player now, a ≠ .subscribe game player now)
    (leaves : ∀ player, a ≠ .unsubscribe player) (steps : ∀ id now, a ≠ .advance id now) :
    (h.act a).1.subscriptions = h.subscriptions := by
  cases a with
  | subscribe game player now => exact absurd rfl (connects game player now)
  | unsubscribe player => exact absurd rfl (leaves player)
  | copy channel =>
    unfold act
    dsimp only
    split <;> rfl
  | release channel => rfl
  | publish game excluded n => rfl
  | advance id now => exact absurd rfl (steps id now)
  | receive channel =>
    unfold act
    dsimp only
    split
    · rcases found : h.slots.find? (·.channel == channel) with _ | slot
      · rw [receive_of_none found]
        cases h.isWritable channel <;> rfl
      · rw [receive_of_some found]
    · rfl

/-- Games and players of the connections change only as players connect and leave. -/
theorem roster_act (a : Act) : (h.act a).1.roster = match a with
    | .subscribe game player _ =>
      if h.isSubscribed game player then h.roster else h.roster ++ [(game, player)]
    | .unsubscribe player => h.roster.filter (·.2 != player)
    | _ => h.roster := by
  cases a with
  | subscribe game player now =>
    show (h.subscribe game player now).2.roster = _
    unfold Hub.subscribe
    dsimp only
    rw [← isSome_find?]
    cases h.find? game player with
    | none => exact List.map_append
    | some s => rfl
  | unsubscribe player =>
    show (h.unsubscribe player).roster = h.roster.filter (·.2 != player)
    rw [roster, roster, List.filter_map]
    rfl
  | advance id now =>
    dsimp only
    rcases found : h.delivery? id with _ | d
    · rw [act_advance_of_none found]
    · rw [act_advance found]
      have step := advanced h d now
      generalize h.advance d now = progress at step
      cases step with
      | waits => rfl
      | ends => rfl
      | goes t _ _ _ _ after hs _ goes =>
        cases goes with
        | notes player now =>
          refine List.map_map.trans (List.map_congr_left fun s _ => ?_)
          dsimp only [Function.comp]
          split <;> rfl
        | takes => rfl
        | passes => rfl
  | _ =>
    exact congrArg (List.map _)
      (h.subscriptions_of_other (by rintro _ _ _ ⟨⟩) (by rintro _ ⟨⟩) (by rintro _ _ ⟨⟩))

theorem eraseDups_of_nodup {l : List Id} (distinct : l.Nodup) : l.eraseDups = l := by
  induction l with
  | nil => exact List.eraseDups_nil
  | cons a l ih =>
    obtain ⟨fresh, distinct⟩ := List.nodup_cons.1 distinct
    have kept : (l.filter fun b => !b == a) = l :=
      List.filter_eq_self.2 fun b mem => by simpa using fun same : b = a => fresh (same ▸ mem)
    rw [List.eraseDups_cons, kept, ih distinct]

variable {h} (single : h.roster.Nodup)
include single

theorem nodup_roster_of (game : Id) : ((h.roster.filter (·.1 == game)).map (·.2)).Nodup := by
  refine List.Nodup.map_on (fun x hx y hy same => ?_) (single.filter _)
  have hx := beq_iff_eq.1 (List.mem_filter.1 hx).2
  have hy := beq_iff_eq.1 (List.mem_filter.1 hy).2
  exact Prod.ext (hx.trans hy.symm) same

theorem subscribers_eq_roster (game : Id) :
    h.subscribers game = (h.roster.filter (·.1 == game)).map (·.2) := by
  have players : (h.subscriptions.filter (·.game == game)).map (·.player) =
      (h.roster.filter (·.1 == game)).map (·.2) := by
    rw [roster, List.filter_map, List.map_map]
    rfl
  rw [subscribers, players, eraseDups_of_nodup (nodup_roster_of single game)]

theorem subscriberCount_eq (game : Id) : h.subscriberCount game = (h.subscribers game).length := by
  rw [subscribers_eq_roster single, List.length_map, roster, List.filter_map, List.length_map]
  rfl

theorem mem_subscribers_iff : player ∈ h.subscribers game ↔ h.isSubscribed game player = true := by
  rw [subscribers_eq_roster single, isSubscribed_iff, List.mem_map]
  constructor
  · rintro ⟨⟨g, p⟩, mem, rfl⟩
    obtain ⟨mem, own⟩ := List.mem_filter.1 mem
    rw [← beq_iff_eq.1 own]
    exact mem
  · exact fun mem => ⟨_, List.mem_filter.2 ⟨mem, beq_self_eq_true _⟩, rfl⟩

end Roster

/-! ## The connections after all acts -/

theorem connected_watch (acts : List Act) (game player : Id) :
    (watch acts).hub.isSubscribed game player = true ↔ Stays acts game player := by
  induction acts using List.reverseRecOn with
  | nil =>
    refine iff_of_false (by simp [watch, isSubscribed]) ?_
    rintro ⟨past, now, since, split, -⟩
    simp at split
  | append_singleton acts a ih =>
    rw [watch_snoc, stays_snoc, ← ih, isSubscribed_iff, roster_act, isSubscribed_iff]
    cases a with
    | subscribe g p now =>
      have same : (∃ now', Act.subscribe g p now = .subscribe game player now') ↔
          (game, player) = (g, p) := by
        simp [eq_comm]
      dsimp only
      rw [same, and_iff_left (by rintro ⟨⟩)]
      split
      · rename_i there
        refine (or_iff_right_of_imp fun own => ?_).symm
        exact own ▸ ((watch acts).hub.isSubscribed_iff).1 there
      · rw [List.mem_append, List.mem_singleton, or_comm]
    | unsubscribe p =>
      dsimp only
      rw [List.mem_filter, bne_iff_ne]
      simp [eq_comm (a := p)]
    | _ => simp

/-- Whoever is connected joined with an act of a number of its own, in the order of registration. -/
theorem exists_joined (acts : List Act) : ∃ l : List ((Id × Id) × Nat),
    l.map Prod.fst = (watch acts).hub.roster ∧ (l.map Prod.snd).Pairwise (· < ·) ∧
      ∀ e ∈ l, JoinedAt acts e.1.1 e.1.2 e.2 := by
  induction acts using List.reverseRecOn with
  | nil => exact ⟨[], rfl, List.Pairwise.nil, by simp⟩
  | append_singleton acts a ih =>
    obtain ⟨l, keys, sorted, joined⟩ := ih
    rw [watch_snoc]
    have kept (other : ∀ player, a ≠ .unsubscribe player)
        (same : ((watch acts).hub.act a).1.roster = (watch acts).hub.roster) :
        ∃ l : List ((Id × Id) × Nat), l.map Prod.fst = ((watch acts).hub.act a).1.roster ∧
          (l.map Prod.snd).Pairwise (· < ·) ∧ ∀ e ∈ l, JoinedAt (acts ++ [a]) e.1.1 e.1.2 e.2 :=
      ⟨l, keys.trans same.symm, sorted, fun e mem => (joined e mem).snoc (other _)⟩
    have roster := (watch acts).hub.roster_act a
    cases a with
    | subscribe game player now =>
      dsimp only at roster
      split at roster
      · exact kept (by rintro _ ⟨⟩) roster
      · rename_i absent
        have first := mt (connected_watch acts game player).2 absent
        refine ⟨l ++ [((game, player), acts.length)], ?_, ?_, fun e mem => ?_⟩
        · rw [List.map_append, keys]
          exact roster.symm
        · rw [List.map_append, List.pairwise_append]
          refine ⟨sorted, List.pairwise_singleton _ _, fun i mem j new => ?_⟩
          obtain ⟨e, there, rfl⟩ := List.mem_map.1 mem
          rw [List.mem_singleton.1 new]
          exact (joined e there).lt_length
        · rcases List.mem_append.1 mem with old | new
          · exact (joined e old).snoc (by rintro ⟨⟩)
          · rw [List.mem_singleton.1 new]
            exact JoinedAt.last first now
    | unsubscribe player =>
      refine ⟨l.filter (·.1.2 != player), ?_, ?_, fun e mem => ?_⟩
      · refine Eq.trans ?_ roster.symm
        dsimp only
        rw [← keys, List.filter_map]
        rfl
      · exact sorted.sublist (List.filter_sublist.map _)
      · obtain ⟨mem, other⟩ := List.mem_filter.1 mem
        refine (joined e mem).snoc ?_
        rintro ⟨⟩
        exact bne_iff_ne.1 other rfl
    | _ => exact kept (by rintro _ ⟨⟩) roster

theorem single_watch (acts : List Act) : (watch acts).hub.roster.Nodup := by
  induction acts using List.reverseRecOn with
  | nil => exact List.nodup_nil
  | append_singleton acts a ih =>
    rw [watch_snoc, roster_act]
    cases a with
    | subscribe game player now =>
      dsimp only
      split
      · exact ih
      · rename_i absent
        refine (List.perm_append_singleton _ _).nodup_iff.2 (List.nodup_cons.2 ⟨?_, ih⟩)
        exact mt ((watch acts).hub.isSubscribed_iff).2 absent
    | unsubscribe player => exact ih.filter _
    | _ => exact ih

theorem in_order_watch (acts : List Act) (game : Id) : ∃ numbers : List Nat,
    numbers.Pairwise (· < ·) ∧
      List.Forall₂ (JoinedAt acts game) ((watch acts).hub.subscribers game) numbers := by
  obtain ⟨l, keys, sorted, joined⟩ := exists_joined acts
  refine ⟨(l.filter (·.1.1 == game)).map Prod.snd, sorted.sublist (List.filter_sublist.map _), ?_⟩
  have players : (watch acts).hub.subscribers game = (l.filter (·.1.1 == game)).map (·.1.2) := by
    rw [subscribers_eq_roster (single_watch acts), ← keys, List.filter_map, List.map_map]
    rfl
  rw [players, List.forall₂_map_left_iff, List.forall₂_map_right_iff, List.forall₂_same]
  intro e mem
  obtain ⟨mem, own⟩ := List.mem_filter.1 mem
  exact beq_iff_eq.1 own ▸ joined e mem

/-! ## Channels -/

theorem Connected.act_of_ne {h : Hub} {game player : Id} {channel : ChannelId}
    (c : h.Connected game player channel) {a : Act} (other : a ≠ .unsubscribe player) :
    (h.act a).1.Connected game player channel := by
  by_cases leaves : ∃ p, a = .unsubscribe p
  · obtain ⟨p, rfl⟩ := leaves
    exact c.unsubscribe fun same => other (same ▸ rfl)
  · exact c.act fun p same => leaves ⟨p, same⟩

/-- Who connects and does not leave stays connected through the channel that was given then. -/
theorem connected_handle (past : List Act) (game player : Id) (now : Nat) (since : List Act)
    (stays : .unsubscribe player ∉ since) :
    (watch (past ++ .subscribe game player now :: since)).hub.Connected game player
      (handle past game player now) := by
  induction since using List.reverseRecOn with
  | nil =>
    rw [watch_snoc]
    exact Connected.subscribe _ game player now
  | append_singleton since a ih =>
    rw [List.mem_append, not_or, List.mem_singleton] at stays
    rw [← List.cons_append, ← List.append_assoc, watch_snoc]
    exact (ih stays.1).act_of_ne (Ne.symm stays.2)

theorem log_grows (past rest : List Act) : (watch past).log <+: (watch (past ++ rest)).log := by
  induction rest using List.reverseRecOn with
  | nil => rw [List.append_nil]
  | append_singleton rest a ih =>
    rw [← List.append_assoc, watch_snoc]
    exact ih.trans (List.prefix_append _ _)

/-- A channel through which somebody is connected was opened for that player. -/
theorem opened_of_connected {acts : List Act} {game player : Id} {channel : ChannelId}
    (c : (watch acts).hub.Connected game player channel) :
    .opened channel game player ∈ (watch acts).log := by
  obtain ⟨s, mem, rfl, rfl, rfl⟩ := c
  exact (sound_watch acts).opened s mem

theorem lt_nextChannel_of_connected {acts : List Act} {game player : Id} {channel : ChannelId}
    (c : (watch acts).hub.Connected game player channel) : channel < (watch acts).hub.nextChannel :=
  (sound_watch acts).known_channel _ _ _ (opened_of_connected c)

/-- Channels that are not yet opened get no smaller numbers. -/
theorem nextChannel_le_act (h : Hub) (a : Act) : h.nextChannel ≤ (h.act a).1.nextChannel := by
  by_cases connection : a.isConnection = true
  · have connects := h.connects connection
    generalize h.act a = came at connects
    cases connects with
    | opens => exact Nat.le_succ _
    | reads => exact Nat.le_refl _
    | rests => exact Nat.le_refl _
  · cases a with
    | publish => exact Nat.le_refl _
    | advance id now =>
      rcases found : h.delivery? id with _ | d
      · rw [act_advance_of_none found]
      · rw [act_advance found]
        have step := advanced h d now
        generalize h.advance d now = progress at step
        cases step with
        | waits => exact Nat.le_refl _
        | ends => exact Nat.le_refl _
        | goes t _ _ _ _ after hs _ goes => cases goes <;> exact Nat.le_refl _
    | _ => exact absurd rfl connection

theorem nextChannel_le_watch (past rest : List Act) :
    (watch past).hub.nextChannel ≤ (watch (past ++ rest)).hub.nextChannel := by
  induction rest using List.reverseRecOn with
  | nil => rw [List.append_nil]
  | append_singleton rest a ih =>
    rw [← List.append_assoc, watch_snoc]
    exact ih.trans (nextChannel_le_act _ a)

/-- A player who is not connected to a game connects to it through a new channel. -/
theorem nextChannel_le_of_connected {past : List Act} {game player : Id}
    (absent : (watch past).hub.isSubscribed game player = false) {rest : List Act}
    {channel : ChannelId} (c : (watch (past ++ rest)).hub.Connected game player channel) :
    (watch past).hub.nextChannel ≤ channel := by
  induction rest using List.reverseRecOn generalizing channel with
  | nil =>
    rw [List.append_nil] at c
    rw [c.isSubscribed] at absent
    cases absent
  | append_singleton rest a ih =>
    rw [← List.append_assoc, watch_snoc] at c
    obtain ⟨y, mem, rfl, rfl, rfl⟩ := c
    rcases subscriptions_act _ a mem with ⟨x, there, channel, game, player⟩ | ⟨-, channel, -⟩
    · exact ih ⟨x, there, game, player, channel⟩
    · exact channel ▸ nextChannel_le_watch past rest

/-- A connection is found by its game and player. -/
theorem find?_of_mem {h : Hub} (single : h.roster.Nodup) {s : Subscription} (mem : s ∈ h.subscriptions) :
    h.find? s.game s.player = some s := by
  obtain ⟨x, found⟩ := Option.isSome_iff_exists.1
    ((h.isSome_find? s.game s.player).trans (Connected.isSubscribed ⟨s, mem, rfl, rfl, rfl⟩))
  have own : x.game = s.game ∧ x.player = s.player := by
    simpa [Subscription.isFor] using List.find?_some found
  have same : x = s := List.inj_on_of_nodup_map single (List.mem_of_find?_eq_some found) mem
    (Prod.ext own.1 own.2)
  rw [found, same]

/-- Who is connected and connects once more is given the same channel. -/
theorem handle_eq_of_connected {acts : List Act} {game player : Id} {channel : ChannelId}
    (c : (watch acts).hub.Connected game player channel) (now : Nat) :
    handle acts game player now = channel := by
  obtain ⟨s, mem, rfl, rfl, rfl⟩ := c
  unfold handle Hub.subscribe
  rw [find?_of_mem (single_watch acts) mem]

theorem same_channel_watch (past : List Act) (game player : Id) (now : Nat) (since : List Act)
    (game' player' : Id) (now' : Nat) :
    handle past game player now =
        handle (past ++ .subscribe game player now :: since) game' player' now' ↔
      game' = game ∧ player' = player ∧ .unsubscribe player ∉ since := by
  constructor
  · intro same
    have first := connected_handle past game player now [] List.not_mem_nil
    have again := connected_handle (past ++ .subscribe game player now :: since) game' player' now' []
      List.not_mem_nil
    rw [← same, List.append_cons past, List.append_assoc] at again
    -- a channel has one owner for good
    obtain ⟨rfl, rfl⟩ := (sound_watch _).grounded.owner_eq (opened_of_connected again)
      ((log_grows (past ++ [.subscribe game player now]) _).subset (opened_of_connected first))
    refine ⟨rfl, rfl, fun left => ?_⟩
    -- who has left connects through a new channel only
    obtain ⟨before, after, rfl⟩ := List.append_of_mem left
    have gone : (watch ((past ++ [.subscribe game' player' now]) ++ (before ++
        [.unsubscribe player']))).hub.isSubscribed game' player' = false := by
      rw [← List.append_assoc, watch_snoc]
      exact not_isSubscribed_unsubscribe _ game' player'
    rw [List.append_cons before, List.append_assoc (before ++ _), ← List.append_assoc (past ++ _)]
      at again
    have new := nextChannel_le_of_connected gone again
    have grows := nextChannel_le_watch (past ++ [.subscribe game' player' now])
      (before ++ [.unsubscribe player'])
    have old := lt_nextChannel_of_connected first
    exact absurd (Nat.lt_of_lt_of_le old (grows.trans new)) (Nat.lt_irrefl _)
  · rintro ⟨rfl, rfl, stays⟩
    exact (handle_eq_of_connected (connected_handle past game' player' now _ stays) now').symm

/-! ## Who leaves -/

section Leaves

variable (h : Hub) (player : Id)

theorem unsubscribe_unsubscribe : (h.unsubscribe player).unsubscribe player = h.unsubscribe player := by
  unfold unsubscribe
  rw [List.filter_filter]
  simp only [Bool.and_self]

theorem find?_unsubscribe_of_ne (game : Id) {other : Id} (ne : other ≠ player) :
    (h.unsubscribe player).find? game other = h.find? game other := by
  unfold find? unsubscribe
  rw [List.find?_filter]
  refine congrArg (h.subscriptions.find? ·) (funext fun s => ?_)
  by_cases own : s.player = other
  · simp [own, ne]
  · simp [Subscription.isFor, own]

variable {h} in
theorem subscribers_unsubscribe (single : h.roster.Nodup) (game : Id) :
    (h.unsubscribe player).subscribers game = (h.subscribers game).filter (· != player) := by
  have roster : (h.unsubscribe player).roster = h.roster.filter (·.2 != player) :=
    h.roster_act (.unsubscribe player)
  have left : (h.unsubscribe player).roster.Nodup := roster ▸ single.filter _
  rw [subscribers_eq_roster left, subscribers_eq_roster single, roster, List.filter_map,
    List.filter_filter, List.filter_filter]
  refine congrArg (List.map _) (List.filter_congr fun s _ => ?_)
  exact Bool.and_comm _ _

end Leaves

/-- Who is connected to a hub can be told from what was done to it. -/
theorem registry_law_watch (acts : List Act) : RegistryLaw acts where
  single := single_watch acts
  same_channel past game player now since split := by
    subst split
    exact same_channel_watch past game player now since
  connected := connected_watch acts
  listed game player := (mem_subscribers_iff (single_watch acts)).trans (connected_watch ..)
  once game := by
    rw [subscribers_eq_roster (single_watch acts)]
    exact nodup_roster_of (single_watch acts) game
  in_order := in_order_watch acts
  counted := subscriberCount_eq (single_watch acts)
  leaves game player := by
    have twice : acts ++ [.unsubscribe player, .unsubscribe player] =
        acts ++ [.unsubscribe player] ++ [.unsubscribe player] := by simp
    rw [twice, watch_snoc (acts ++ _), watch_snoc]
    exact ⟨not_isSubscribed_unsubscribe _ game player, unsubscribe_unsubscribe _ player⟩
  others_stay game player := by
    rw [watch_snoc]
    exact ⟨fun other ne => find?_unsubscribe_of_ne _ player game ne,
      subscribers_unsubscribe player (single_watch acts) game⟩

/-- Connecting again keeps a player's place, and leaving loses it. -/
example : (watch [.subscribe "room" "ann" 0, .subscribe "room" "sam" 0, .subscribe "room" "eve" 0,
    .subscribe "room" "sam" 1, .unsubscribe "ann", .subscribe "room" "ann" 2]).hub.subscribers "room" =
      ["sam", "eve", "ann"] := by
  decide

end GuessingRoom.Hub
