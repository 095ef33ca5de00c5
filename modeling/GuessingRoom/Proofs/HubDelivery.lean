import Mathlib.Data.List.Induction
import Mathlib.Data.List.Nodup
import GuessingRoom.Proofs.HubLog

/-!
# Delivery by the hub

Whatever is done to a hub, and in whatever order, its log stays grounded: a delivery goes to the
channels registered when it began, each once and in the order of registration, and the readers of a
channel share among them what the channel has taken, each notice once and in that order. The
invariant `Sound` ties the hub to its log.
-/

namespace GuessingRoom.Hub

/-- The channels that a delivery has still to go to. -/
def left (d : Delivery) : List ChannelId :=
  (if d.taken then d.targets.tail else d.targets).map (·.channel)

/-- What the state of a hub has to do with its log. -/
structure Sound (h : Hub) (log : List Happening) : Prop where
  grounded : Grounded log
  known_channel : ∀ c game player, .opened c game player ∈ log → c < h.nextChannel
  known_delivery : ∀ id game excluded n registry,
    .began id game excluded n registry ∈ log → id < h.nextDelivery
  sorted : (h.subscriptions.map (·.channel)).Pairwise (· < ·)
  opened : ∀ s ∈ h.subscriptions, .opened s.channel s.game s.player ∈ log
  ids : (h.deliveries.map (·.id)).Nodup
  underway : ∀ d ∈ h.deliveries, ∃ excluded registry,
    .began d.id d.game excluded d.notice registry ∈ log ∧
      attempts log d.id ++ left d = audience registry d.game excluded
  counted : ∀ d ∈ h.deliveries, d.accepted = acceptedBy log d.id
  one_slot : (h.slots.map (·.channel)).Nodup
  queued : ∀ c, accepts log c = reads log c ++ (h.slots.filter (·.channel == c)).map (·.notice)

theorem receive_of_some {h : Hub} {channel : ChannelId} {slot : Slot}
    (found : h.slots.find? (·.channel == channel) = some slot) :
    h.receive channel =
      (.notice slot.notice, { h with slots := h.slots.filter (·.channel != channel) }) := by
  unfold receive
  rw [found]

theorem receive_of_none {h : Hub} {channel : ChannelId}
    (found : h.slots.find? (·.channel == channel) = none) :
    h.receive channel = (if h.isWritable channel then .empty else .closed, h) := by
  unfold receive
  rw [found]

section Advance

variable {h : Hub} {d : Delivery} {target : Target} {rest : List Target} (now : Nat)

theorem advance_of_done (targets : d.targets = []) :
    h.advance d now =
      .finished d.accepted { h with deliveries := h.deliveries.filter (·.id != d.id) } := by
  unfold advance
  rw [targets]

theorem advance_of_taken (targets : d.targets = target :: rest) (taken : d.taken = true) :
    h.advance d now = .going ((h.touch d.game target.player now).setDelivery
      { d with targets := rest, taken := false }) ∧ h.attempt d = [] := by
  unfold advance attempt
  rw [targets]
  exact ⟨if_pos taken, if_pos taken⟩

theorem advance_of_unreadable (targets : d.targets = target :: rest) (taken : d.taken = false)
    (gone : h.isReadable target.channel = false) :
    h.advance d now = .going (h.setDelivery { d with targets := rest }) ∧
      h.attempt d = [.refused d.id target.channel] := by
  unfold advance attempt
  rw [targets]
  simp only [taken, gone, Bool.false_eq_true, if_false, Bool.not_false, if_true, and_self]

theorem advance_of_readable (targets : d.targets = target :: rest) (taken : d.taken = false)
    (open_ : h.isReadable target.channel = true) :
    (h.isFull target.channel = true ∧ h.advance d now = .waiting) ∨
      h.isFull target.channel = false ∧
        h.advance d now = .going ((h.fill target.channel d.notice).setDelivery
          { d with taken := true, accepted := d.accepted + 1 }) ∧
        h.attempt d = [.accepted d.id target.channel d.notice] := by
  unfold advance attempt
  rw [targets]
  by_cases full : h.isFull target.channel = true
  · refine .inl ⟨full, ?_⟩
    simp only [taken, open_, full, Bool.false_eq_true, if_false, Bool.not_true, if_true]
  · rw [Bool.not_eq_true] at full
    refine .inr ⟨full, ?_, ?_⟩ <;>
      simp only [taken, open_, full, Bool.false_eq_true, if_false, Bool.not_true, if_true]

end Advance

namespace Sound

variable {h : Hub} {log : List Happening}

theorem start : Sound {} [] where
  grounded := grounded_nil
  known_channel := by simp
  known_delivery := by simp
  sorted := by simp
  opened := by simp
  ids := by simp
  underway := by simp
  counted := by simp
  one_slot := by simp
  queued := by simp [accepts, reads]

/-- No delivery that has still to begin has been anywhere. -/
theorem attempts_next (s : Sound h log) : attempts log h.nextDelivery = [] := by
  apply List.eq_nil_iff_forall_not_mem.2
  intro c mem
  obtain ⟨game, excluded, n, registry, began⟩ := s.grounded.began_of_attempted mem
  exact Nat.lt_irrefl _ (s.known_delivery _ _ _ _ _ began)

theorem acceptedBy_next (s : Sound h log) : acceptedBy log h.nextDelivery = 0 := by
  have le := acceptedBy_le log h.nextDelivery
  rw [s.attempts_next] at le
  exact Nat.le_zero.1 le

/-- A silent entry leaves the deliveries and the channels as they stand in the log. -/
theorem note (s : Sound h log) {e : Happening} (justified : Justified log e) (silent : Silent e)
    {nextChannel : ChannelId} {nextDelivery : Nat} (channels : h.nextChannel ≤ nextChannel)
    (deliveries : h.nextDelivery ≤ nextDelivery)
    (opens : ∀ c game player, e = .opened c game player → c < nextChannel)
    (begins : ∀ id game excluded n registry,
      e = .began id game excluded n registry → id < nextDelivery) :
    Sound { h with nextChannel, nextDelivery } (log ++ [e]) where
  grounded := s.grounded.append justified
  known_channel c game player mem := by
    rcases List.mem_append.1 mem with old | new
    · exact Nat.lt_of_lt_of_le (s.known_channel c game player old) channels
    · exact opens c game player (List.mem_singleton.1 new).symm
  known_delivery id game excluded n registry mem := by
    rcases List.mem_append.1 mem with old | new
    · exact Nat.lt_of_lt_of_le (s.known_delivery id game excluded n registry old) deliveries
    · exact begins id game excluded n registry (List.mem_singleton.1 new).symm
  sorted := s.sorted
  opened x mem := List.mem_append_left _ (s.opened x mem)
  ids := s.ids
  underway d mem := by
    obtain ⟨excluded, registry, began, rest⟩ := s.underway d mem
    refine ⟨excluded, registry, List.mem_append_left _ began, ?_⟩
    rw [attempts_append, silent.1, List.append_nil]
    exact rest
  counted d mem := by
    rw [acceptedBy_append, silent.2.1, Nat.add_zero]
    exact s.counted d mem
  one_slot := s.one_slot
  queued c := by
    rw [accepts_append, reads_append, silent.2.2.1, silent.2.2.2, List.append_nil, List.append_nil]
    exact s.queued c

/-! ## The registry -/

/-- The registry may lose connections, and readers may come and go. -/
theorem forget (s : Sound h log) {subscriptions : List Subscription}
    (sub : subscriptions.Sublist h.subscriptions) (readers : List ChannelId) :
    Sound { h with subscriptions, readers } log :=
  { s with
    sorted := s.sorted.sublist (sub.map _)
    opened := fun x mem => s.opened x (sub.subset mem) }

theorem subscribe (s : Sound h log) (game player : Id) (now : Nat) :
    Sound (h.act (.subscribe game player now)).1 (log ++ (h.act (.subscribe game player now)).2) := by
  unfold act Hub.subscribe
  dsimp only
  rcases found : h.find? game player with _ | old
  · have new : Justified log (.opened h.nextChannel game player) := s.known_channel
    have noted := s.note new (silent_opened _ _ _) (Nat.le_succ _) (Nat.le_refl _)
      (fun c g p e => by cases e; exact Nat.lt_succ_self _) (fun _ _ _ _ _ e => by cases e)
    exact { noted with
      sorted := by
        rw [List.map_append, List.map_singleton, List.pairwise_append]
        refine ⟨s.sorted, List.pairwise_singleton _ _, fun c mem c' mem' => ?_⟩
        obtain ⟨x, hx, rfl⟩ := List.mem_map.1 mem
        rw [List.mem_singleton.1 mem']
        exact s.known_channel _ _ _ (s.opened x hx)
      opened := by
        intro x mem
        rcases List.mem_append.1 mem with old | new
        · exact noted.opened x old
        · rw [List.mem_singleton.1 new]
          exact List.mem_append_right _ (List.mem_singleton_self _) }
  · rw [Option.isSome_some, if_pos rfl, List.append_nil]
    exact s.forget (List.Sublist.refl _) _

theorem unsubscribe (s : Sound h log) (player : Id) : Sound (h.unsubscribe player) log :=
  s.forget List.filter_sublist h.readers

/-! ## Reading -/

/-- A channel holds one notice at most. -/
theorem slots_of_find (s : Sound h log) {channel : ChannelId} {slot : Slot}
    (found : h.slots.find? (·.channel == channel) = some slot) :
    h.slots.filter (·.channel == channel) = [slot] := by
  have head : (h.slots.filter (·.channel == channel)).head? = _ := List.head?_filter
  have nodup := s.one_slot.sublist (List.Sublist.map Slot.channel
    (List.filter_sublist (p := fun x : Slot => x.channel == channel) (l := h.slots)))
  have all : ∀ x ∈ h.slots.filter (·.channel == channel), x.channel = channel := by
    intro x mem
    simpa using (List.mem_filter.1 mem).2
  rw [found] at head
  rcases e : h.slots.filter (·.channel == channel) with _ | ⟨x, _ | ⟨y, rest⟩⟩ <;> rw [e] at head
  · cases head
  · cases head
    exact e
  · rw [e] at nodup all
    rw [List.map_cons, List.map_cons, List.nodup_cons] at nodup
    have same : x.channel = y.channel := by
      rw [all x (by simp), all y (by simp)]
    exact absurd (same ▸ List.mem_cons_self) nodup.1

theorem read (s : Sound h log) {channel : ChannelId} {slot : Slot}
    (found : h.slots.find? (·.channel == channel) = some slot) :
    Sound { h with slots := h.slots.filter (·.channel != channel) }
      (log ++ [.read channel slot.notice]) where
  grounded := by
    apply s.grounded.append
    have queued := s.queued channel
    rw [s.slots_of_find found] at queued
    exact ⟨[], by rw [List.append_nil, queued]; rfl⟩
  known_channel c game player mem := by
    rw [List.mem_append, List.mem_singleton] at mem
    exact s.known_channel c game player (mem.resolve_right (by simp))
  known_delivery id game excluded n registry mem := by
    rw [List.mem_append, List.mem_singleton] at mem
    exact s.known_delivery id game excluded n registry (mem.resolve_right (by simp))
  sorted := s.sorted
  opened x mem := List.mem_append_left _ (s.opened x mem)
  ids := s.ids
  underway d mem := by
    obtain ⟨excluded, registry, began, rest⟩ := s.underway d mem
    refine ⟨excluded, registry, List.mem_append_left _ began, ?_⟩
    rw [attempts_append]
    exact (congrArg (· ++ left d) (List.append_nil _)).trans rest
  counted d mem := by
    rw [acceptedBy_append]
    exact s.counted d mem
  one_slot := s.one_slot.sublist (List.Sublist.map _ List.filter_sublist)
  queued c := by
    rw [accepts_append, reads_append, List.filter_filter]
    show accepts log c ++ [] = _
    rw [List.append_nil]
    by_cases same : channel = c
    · subst same
      rw [s.queued, s.slots_of_find found]
      simp [reads]
    · rw [s.queued]
      have kept : (h.slots.filter fun x => x.channel == c && x.channel != channel) =
          h.slots.filter (·.channel == c) := by
        apply List.filter_congr
        intro x _
        by_cases e : x.channel = c
        · simp [e, Ne.symm same]
        · simp [e]
      rw [kept]
      simp [reads, same]

theorem receive (s : Sound h log) (channel : ChannelId) :
    Sound (h.act (.receive channel)).1 (log ++ (h.act (.receive channel)).2) := by
  unfold act
  dsimp only
  split
  · rcases found : h.slots.find? (·.channel == channel) with _ | slot
    · rw [receive_of_none found]
      split
      · rename_i n after e
        split at e <;> cases e
      · rename_i after _ e
        cases e
        rw [List.append_nil]
        exact s
    · rw [receive_of_some found]
      exact s.read found
  · rw [List.append_nil]
    exact s

/-! ## Deliveries -/

theorem publish (s : Sound h log) (game : Id) (excluded : Option Id) (n : Notice) :
    Sound (h.publish game excluded n).2
      (log ++ [.began h.nextDelivery game excluded n h.subscriptions]) := by
  have new : Justified log (.began h.nextDelivery game excluded n h.subscriptions) :=
    ⟨fun g e m r mem => Nat.lt_irrefl _ (s.known_delivery _ g e m r mem), s.sorted, s.opened⟩
  have noted := s.note new (silent_began _ _ _ _ _) (Nat.le_refl _) (Nat.le_succ _)
    (fun _ _ _ e => by cases e) (fun _ _ _ _ _ e => by cases e; exact Nat.lt_succ_self _)
  have known : ∀ d ∈ h.deliveries, d.id < h.nextDelivery := by
    intro d mem
    obtain ⟨excluded, registry, began, -⟩ := s.underway d mem
    exact s.known_delivery _ _ _ _ _ began
  exact { noted with
    ids := by
      show ((h.deliveries ++ [_]).map Delivery.id).Nodup
      rw [← List.concat_eq_append, List.map_concat, List.nodup_concat]
      refine ⟨fun mem => ?_, s.ids⟩
      obtain ⟨d, hd, e⟩ := List.mem_map.1 mem
      exact absurd (known d hd) (by rw [e]; exact Nat.lt_irrefl _)
    underway := by
      intro d mem
      rcases List.mem_append.1 mem with old | new
      · exact noted.underway d old
      · rw [List.mem_singleton.1 new]
        refine ⟨excluded, h.subscriptions, List.mem_append_right _ (List.mem_singleton_self _), ?_⟩
        rw [attempts_append, s.attempts_next, List.nil_append]
        show [] ++ ((h.targetsOf game excluded).map (·.channel)) = _
        rw [List.nil_append, targetsOf, List.map_map]
        rfl
    counted := by
      intro d mem
      rcases List.mem_append.1 mem with old | new
      · exact noted.counted d old
      · rw [List.mem_singleton.1 new, acceptedBy_append, s.acceptedBy_next]
        rfl }

theorem mem_setDelivery {d x : Delivery} (mem : x ∈ (h.setDelivery d).deliveries) :
    x = d ∨ x ∈ h.deliveries ∧ x.id ≠ d.id := by
  obtain ⟨y, hy, rfl⟩ := List.mem_map.1 mem
  by_cases e : y.id = d.id
  · exact .inl (by simp [e])
  · exact .inr (by simpa [e] using hy)

theorem ids_setDelivery (h : Hub) (d : Delivery) :
    (h.setDelivery d).deliveries.map (·.id) = h.deliveries.map (·.id) := by
  unfold setDelivery
  rw [List.map_map]
  apply List.map_congr_left
  intro x _
  by_cases e : x.id = d.id <;> simp [e]

/-- Only the time of the last activity of a connection changes. -/
theorem touch (s : Sound h log) (game player : Id) (now : Nat) :
    Sound (h.touch game player now) log := by
  have same : ∀ x : Subscription, ∀ y, (if x.isFor game player then { x with lastActivity := now }
      else x) = y → y.channel = x.channel ∧ y.game = x.game ∧ y.player = x.player := by
    rintro x y rfl
    split <;> exact ⟨rfl, rfl, rfl⟩
  exact { s with
    sorted := by
      have channels : (h.touch game player now).subscriptions.map (·.channel) =
          h.subscriptions.map (·.channel) := by
        unfold Hub.touch
        rw [List.map_map]
        exact List.map_congr_left fun x _ => (same x _ rfl).1
      rw [channels]
      exact s.sorted
    opened := by
      intro y mem
      obtain ⟨x, hx, e⟩ := List.mem_map.1 mem
      obtain ⟨channel, game, player⟩ := same x y e
      rw [channel, game, player]
      exact s.opened x hx }

/-- A delivery changes without going anywhere. -/
theorem replace (s : Sound h log) {d d' : Delivery} (mem : d ∈ h.deliveries) (id : d'.id = d.id)
    (game : d'.game = d.game) (notice : d'.notice = d.notice) (stays : left d' = left d)
    (count : d'.accepted = d.accepted) : Sound (h.setDelivery d') log :=
  { s with
    ids := by
      rw [ids_setDelivery]
      exact s.ids
    underway := by
      intro x hx
      rcases mem_setDelivery hx with rfl | ⟨old, -⟩
      · rw [id, game, notice, stays]
        exact s.underway d mem
      · exact s.underway x old
    counted := by
      intro x hx
      rcases mem_setDelivery hx with rfl | ⟨old, -⟩
      · rw [id, count]
        exact s.counted d mem
      · exact s.counted x old }

/-- A delivery has been to the channel it is at, which took the notice or was passed over. -/
theorem attempted (s : Sound h log) {d t : Delivery} (mem : d ∈ h.deliveries) (id : t.id = d.id)
    (game : t.game = d.game) (notice : t.notice = d.notice) {c : ChannelId}
    (goes : left d = c :: left t) {e : Happening}
    (attempt : e = .accepted d.id c d.notice ∨ e = .refused d.id c)
    (count : t.accepted = d.accepted + acceptedBy [e] d.id) {slots : List Slot}
    (one_slot : (slots.map (·.channel)).Nodup)
    (queued : ∀ x, accepts (log ++ [e]) x =
      reads (log ++ [e]) x ++ (slots.filter (·.channel == x)).map (·.notice)) :
    Sound ({ h with slots }.setDelivery t) (log ++ [e]) := by
  obtain ⟨excluded, registry, began, whole⟩ := s.underway d mem
  have own : attempts [e] d.id = [c] := by
    rcases attempt with rfl | rfl <;> simp [attempts]
  have others : ∀ i, i ≠ d.id → attempts [e] i = [] ∧ acceptedBy [e] i = 0 := by
    intro i ne
    rcases attempt with rfl | rfl <;> simp [attempts, acceptedBy, Ne.symm ne]
  have grounds : Justified log e := by
    have goes : attempts log d.id ++ [c] <+: audience registry d.game excluded :=
      ⟨left t, by rw [List.append_assoc, List.singleton_append, ← goes, whole]⟩
    rcases attempt with rfl | rfl
    · exact ⟨d.game, excluded, registry, began, goes⟩
    · exact ⟨d.game, excluded, d.notice, registry, began, goes⟩
  have neither : (∀ c game player, e ≠ .opened c game player) ∧
      ∀ i game excluded n registry, e ≠ .began i game excluded n registry := by
    rcases attempt with rfl | rfl <;> simp
  refine {
    grounded := s.grounded.append grounds
    known_channel := fun x g p hx => ?_
    known_delivery := fun i g ex n r hi => ?_
    sorted := s.sorted
    opened := fun x hx => List.mem_append_left _ (s.opened x hx)
    ids := ?_
    underway := fun x hx => ?_
    counted := fun x hx => ?_
    one_slot := one_slot
    queued := queued }
  · rw [List.mem_append, List.mem_singleton] at hx
    exact s.known_channel x g p (hx.resolve_right (neither.1 x g p).symm)
  · rw [List.mem_append, List.mem_singleton] at hi
    exact s.known_delivery i g ex n r (hi.resolve_right (neither.2 i g ex n r).symm)
  · rw [ids_setDelivery]
    exact s.ids
  · rcases mem_setDelivery hx with rfl | ⟨old, ne⟩
    · refine ⟨excluded, registry, ?_, ?_⟩
      · rw [id, game, notice]
        exact List.mem_append_left _ began
      · rw [id, game, attempts_append, own, List.append_assoc, List.singleton_append, ← goes]
        exact whole
    · obtain ⟨ex, r, began', rest⟩ := s.underway x old
      refine ⟨ex, r, List.mem_append_left _ began', ?_⟩
      rw [attempts_append, (others x.id (id ▸ ne)).1, List.append_nil]
      exact rest
  · rcases mem_setDelivery hx with rfl | ⟨old, ne⟩
    · rw [id, count, acceptedBy_append, ← s.counted d mem]
    · rw [acceptedBy_append, (others x.id (id ▸ ne)).2, Nat.add_zero]
      exact s.counted x old

/-- A delivery that has been to every channel goes, and tells how many took its notice. -/
theorem finish (s : Sound h log) {d : Delivery} (mem : d ∈ h.deliveries) (done : left d = []) :
    Sound { h with deliveries := h.deliveries.filter (·.id != d.id) }
      (log ++ [.returned d.id d.accepted]) := by
  obtain ⟨excluded, registry, began, whole⟩ := s.underway d mem
  rw [done, List.append_nil] at whole
  have returned : Justified log (.returned d.id d.accepted) :=
    ⟨d.game, excluded, d.notice, registry, began, whole, s.counted d mem⟩
  have noted := s.note returned (silent_returned _ _) (Nat.le_refl _) (Nat.le_refl _)
    (fun _ _ _ e => by cases e) (fun _ _ _ _ _ e => by cases e)
  exact { noted with
    ids := noted.ids.sublist (List.Sublist.map _ List.filter_sublist)
    underway := fun x hx => noted.underway x (List.mem_filter.1 hx).1
    counted := fun x hx => noted.counted x (List.mem_filter.1 hx).1 }

/-- A channel that can be read and is not full takes the notice. -/
theorem accept (s : Sound h log) {d : Delivery} (mem : d ∈ h.deliveries) {target : Target}
    {rest : List Target} (targets : d.targets = target :: rest) (taken : d.taken = false)
    (free : h.isFull target.channel = false) :
    Sound ((h.fill target.channel d.notice).setDelivery
        { d with taken := true, accepted := d.accepted + 1 })
      (log ++ [.accepted d.id target.channel d.notice]) := by
  have free : ∀ x ∈ h.slots, x.channel ≠ target.channel := by simpa [isFull] using free
  refine s.attempted (t := { d with taken := true, accepted := d.accepted + 1 }) mem rfl rfl rfl
    ?_ (.inl rfl) ?_ ?_ fun x => ?_
  · simp [left, targets, taken]
  · simp [acceptedBy]
  · rw [← List.concat_eq_append, List.map_concat, List.nodup_concat]
    refine ⟨fun mem => ?_, s.one_slot⟩
    obtain ⟨slot, hs, e⟩ := List.mem_map.1 mem
    exact free slot hs e
  · rw [accepts_append, reads_append, List.filter_append, List.map_append, s.queued]
    by_cases same : target.channel = x
    · subst same
      simp [accepts, reads]
    · simp [accepts, reads, same]

/-- A channel that nobody can read is passed over. -/
theorem refuse (s : Sound h log) {d : Delivery} (mem : d ∈ h.deliveries) {target : Target}
    {rest : List Target} (targets : d.targets = target :: rest) (taken : d.taken = false) :
    Sound (h.setDelivery { d with targets := rest }) (log ++ [.refused d.id target.channel]) := by
  refine s.attempted (t := { d with targets := rest }) mem rfl rfl rfl ?_ (.inr rfl) ?_ s.one_slot
    fun x => ?_
  · simp [left, targets, taken]
  · simp [acceptedBy]
  · rw [accepts_append, reads_append, s.queued]
    simp [accepts, reads]

theorem advance (s : Sound h log) (id now : Nat) :
    Sound (h.act (.advance id now)).1 (log ++ (h.act (.advance id now)).2) := by
  unfold act
  dsimp only
  rcases found : h.delivery? id with _ | d
  · rw [List.append_nil]
    exact s
  · have mem : d ∈ h.deliveries := List.mem_of_find?_eq_some found
    obtain rfl : d.id = id := by simpa using List.find?_some found
    dsimp only
    rcases targets : d.targets with _ | ⟨target, rest⟩
    · rw [advance_of_done now targets]
      exact s.finish mem (by simp [left, targets])
    · by_cases taken : d.taken = true
      · obtain ⟨step, none⟩ := advance_of_taken (h := h) now targets taken
        rw [step]
        dsimp only
        rw [none, List.append_nil]
        refine (s.touch d.game target.player now).replace mem rfl rfl rfl ?_ rfl
        simp [left, targets, taken]
      · rw [Bool.not_eq_true] at taken
        by_cases open_ : h.isReadable target.channel = true
        · rcases advance_of_readable now targets taken open_ with ⟨-, step⟩ | ⟨free, step, taken_by⟩
          · rw [step, List.append_nil]
            exact s
          · rw [step]
            dsimp only
            rw [taken_by]
            exact s.accept mem targets taken free
        · rw [Bool.not_eq_true] at open_
          obtain ⟨step, passed⟩ := advance_of_unreadable now targets taken open_
          rw [step]
          dsimp only
          rw [passed]
          exact s.refuse mem targets taken

/-- Every act keeps the hub and its log together. -/
theorem act (s : Sound h log) (a : Act) : Sound (h.act a).1 (log ++ (h.act a).2) := by
  cases a with
  | subscribe game player now => exact s.subscribe game player now
  | unsubscribe player =>
    rw [show log ++ (h.act (.unsubscribe player)).2 = log from List.append_nil log]
    exact s.unsubscribe player
  | copy channel =>
    rw [show log ++ (h.act (.copy channel)).2 = log from List.append_nil log]
    unfold Hub.act
    dsimp only
    split
    · exact s.forget (List.Sublist.refl _) _
    · exact s
  | release channel =>
    rw [show log ++ (h.act (.release channel)).2 = log from List.append_nil log]
    exact s.forget (List.Sublist.refl _) _
  | publish game excluded notice => exact s.publish game excluded notice
  | advance id now => exact s.advance id now
  | receive channel => exact s.receive channel

end Sound

theorem sound_watch (acts : List Act) : Sound (watch acts).hub (watch acts).log := by
  unfold watch
  generalize start : ({} : Watched) = w
  have s : Sound w.hub w.log := start ▸ Sound.start
  clear start
  induction acts generalizing w with
  | nil => exact s
  | cons a acts ih => exact ih _ (s.act a)

/-! ## Grounded logs -/

/-- Of two entries of a log either one stands before the other or they are the same. -/
theorem same_or_before {log : List Happening} {e e' : Happening} (h : e ∈ log) (h' : e' ∈ log) :
    e = e' ∨ (∃ past later, log = past ++ e :: later ∧ e' ∈ past) ∨
      ∃ past later, log = past ++ e' :: later ∧ e ∈ past := by
  obtain ⟨past, later, rfl⟩ := List.append_of_mem h
  rcases List.mem_append.1 h' with before | rest
  · exact .inr (.inl ⟨past, later, rfl, before⟩)
  · rcases List.mem_cons.1 rest with same | after
    · exact .inl same.symm
    · obtain ⟨mid, later', rfl⟩ := List.append_of_mem after
      refine .inr (.inr ⟨past ++ e :: mid, later', ?_, List.mem_append_right _ List.mem_cons_self⟩)
      rw [List.append_assoc, List.cons_append]

/-- A channel belongs to one player in one game for good. -/
theorem Grounded.owner_eq {log : List Happening} (g : Grounded log) {c : ChannelId}
    {game player game' player' : Id} (h : .opened c game player ∈ log)
    (h' : .opened c game' player' ∈ log) : game = game' ∧ player = player' := by
  rcases same_or_before h h' with same | ⟨past, later, split, before⟩ | ⟨past, later, split, before⟩
  · cases same
    exact ⟨rfl, rfl⟩
  · exact absurd (g past (.opened c game player) later split c _ _ before) (Nat.lt_irrefl c)
  · exact absurd (g past (.opened c game' player') later split c _ _ before) (Nat.lt_irrefl c)

/-- A delivery begins once. -/
theorem Grounded.began_eq {log : List Happening} (g : Grounded log) {id : Nat} {game game' : Id}
    {excluded excluded' : Option Id} {n n' : Notice} {registry registry' : List Subscription}
    (h : .began id game excluded n registry ∈ log)
    (h' : .began id game' excluded' n' registry' ∈ log) :
    audience registry game excluded = audience registry' game' excluded' := by
  rcases same_or_before h h' with same | ⟨past, later, split, before⟩ | ⟨past, later, split, before⟩
  · cases same
    rfl
  · obtain ⟨new, -⟩ := g past (.began id game excluded n registry) later split
    exact absurd before (new game' excluded' n' registry')
  · obtain ⟨new, -⟩ := g past (.began id game' excluded' n' registry') later split
    exact absurd before (new game excluded n registry)

/-- A delivery keeps to its audience, from the first one on. -/
theorem Grounded.attempts_prefix {log : List Happening} (g : Grounded log) {id : Nat} {game : Id}
    {excluded : Option Id} {n : Notice} {registry : List Subscription}
    (h : .began id game excluded n registry ∈ log) :
    attempts log id <+: audience registry game excluded := by
  have all : ∀ past later, log = past ++ later →
      attempts past id <+: audience registry game excluded := by
    intro past
    induction past using List.reverseRecOn with
    | nil => exact fun _ _ => List.nil_prefix
    | append_singleton past e ih =>
      intro later split
      rw [List.append_assoc, List.singleton_append] at split
      have justified := g past e later split
      have inside : ∀ x ∈ past, x ∈ log := fun x hx => split ▸ List.mem_append_left _ hx
      rw [attempts_append]
      by_cases own : attempts [e] id = []
      · rw [own, List.append_nil]
        exact ih (e :: later) split
      · -- the entry is about this delivery, and its own justification says where it is
        cases e with
        | accepted i c n' =>
          obtain rfl : i = id := by
            by_contra other
            exact own (by simp [attempts, other])
          obtain ⟨game', excluded', registry', began, goes⟩ := justified
          rw [g.began_eq h (inside _ began)]
          simpa [attempts] using goes
        | refused i c =>
          obtain rfl : i = id := by
            by_contra other
            exact own (by simp [attempts, other])
          obtain ⟨game', excluded', n', registry', began, goes⟩ := justified
          rw [g.began_eq h (inside _ began)]
          simpa [attempts] using goes
        | _ => exact absurd rfl own
  exact all log [] (List.append_nil log).symm

theorem exists_of_mem_audience {registry : List Subscription} {game : Id} {excluded : Option Id}
    {c : ChannelId} (h : c ∈ audience registry game excluded) :
    ∃ s ∈ registry, s.channel = c ∧ s.game = game ∧ excluded ≠ some s.player := by
  obtain ⟨s, mem, rfl⟩ := List.mem_map.1 h
  obtain ⟨mem, meant⟩ := List.mem_filter.1 mem
  rw [Bool.and_eq_true, beq_iff_eq, bne_iff_ne] at meant
  exact ⟨s, mem, rfl, meant⟩

/-- A notice that was read comes from a delivery to the game of the channel's owner, which did not
exclude the owner and began after the channel was opened. -/
theorem Grounded.origin {log : List Happening} (g : Grounded log) {past later : List Happening}
    {c : ChannelId} {n : Notice} (h : log = past ++ .read c n :: later) :
    ∃ id game player excluded registry before after,
      past = before ++ .began id game excluded n registry :: after ∧ .accepted id c n ∈ after ∧
        .opened c game player ∈ before ∧ excluded ≠ some player := by
  have mem : n ∈ accepts past c := (g past _ later h).subset (by simp)
  obtain ⟨e, he, hn⟩ := List.mem_filterMap.1 mem
  split at hn
  · rename_i id c' n'
    split at hn
    · rename_i same
      cases hn
      subst same
      obtain ⟨p₁, p₂, rfl⟩ := List.append_of_mem he
      obtain ⟨game, excluded, registry, began, goes⟩ :=
        g p₁ (.accepted id c' n) (p₂ ++ .read c' n :: later)
          (by rw [h, List.append_assoc, List.cons_append])
      obtain ⟨s, hs, channel, itsGame, notExcluded⟩ :=
        exists_of_mem_audience (goes.subset (List.mem_append_right _ (List.mem_singleton_self c')))
      obtain ⟨before, q, rfl⟩ := List.append_of_mem began
      obtain ⟨-, -, registered⟩ := g before (.began id game excluded n registry)
        (q ++ .accepted id c' n :: (p₂ ++ .read c' n :: later)) (by rw [h]; simp)
      have opened := registered s hs
      rw [channel, itsGame] at opened
      refine ⟨id, game, s.player, excluded, registry, before, q ++ .accepted id c' n :: p₂, ?_, ?_,
        opened, notExcluded⟩
      · simp
      · exact List.mem_append_right _ List.mem_cons_self
    · cases hn
  · cases hn

end GuessingRoom.Hub
