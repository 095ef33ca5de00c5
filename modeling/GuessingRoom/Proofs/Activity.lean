import GuessingRoom.Proofs.Registry

/-!
# When a connection was last active

The hub keeps for each connection when it was made or last took a notice. A delivery has this noted once
a channel has taken its notice, and there it names the game and the player. If the player has left and
connected again in the meantime, it is the new connection that is found, whose channel has taken nothing
(`Hub.Misdates`). The hub tells when its connections were last active if and only if this does not happen
(`Hub.last_activity_tells_iff`).
-/

namespace GuessingRoom.Hub

/-! ## What there is to tell -/

/-- The channels that have taken the notice of a delivery, in that order. -/
def takenBy (log : List Happening) (id : Nat) : List ChannelId :=
  log.filterMap fun
    | .accepted i c _ => if i = id then some c else none
    | _ => none

/-- The channel that has taken the notice of a delivery without its being noted. -/
def unnoted (h : Hub) (id : Nat) : List ChannelId :=
  match h.delivery? id with
  | some d => if d.taken then (d.targets.take 1).map (·.channel) else []
  | none => []

/-- What happens to a channel at a time. -/
inductive Mark where
  /-- The channel is made for somebody who connects. -/
  | made (channel : ChannelId) (time : Nat)
  /-- A delivery notes that the channel has taken its notice. -/
  | noted (delivery : Nat) (channel : ChannelId) (time : Nat)
deriving DecidableEq, Repr

def Mark.channel : Mark → ChannelId
  | made c _ => c
  | noted _ c _ => c

def marksOf (h : Hub) : Act → List Mark
  | .subscribe game player now =>
    if h.isSubscribed game player then [] else [.made h.nextChannel now]
  | .advance id now => (h.unnoted id).map (.noted id · now)
  | _ => []

/-- A hub and the marks of all that was done to it, oldest first. -/
structure Dated where
  hub : Hub := {}
  marks : List Mark := []
deriving DecidableEq, Repr

/-- A hub on which the acts were done one after another, from the beginning. -/
def date (acts : List Act) : Dated :=
  acts.foldl (fun w a => ⟨(w.hub.act a).1, w.marks ++ w.hub.marksOf a⟩) {}

def madeAt (marks : List Mark) (channel : ChannelId) : Option Nat :=
  marks.findSome? fun
    | .made c time => if c = channel then some time else none
    | _ => none

/-- When it was noted that the channel has taken a notice. -/
def notedAt (marks : List Mark) (channel : ChannelId) : List Nat :=
  marks.filterMap fun
    | .noted _ c time => if c = channel then some time else none
    | _ => none

/-- The channels of which it was noted that they have taken the notice of a delivery. -/
def notedBy (marks : List Mark) (id : Nat) : List ChannelId :=
  marks.filterMap fun
    | .noted i c _ => if i = id then some c else none
    | _ => none

/-- When the channel last took a notice, or was made if it has taken none. -/
def activeAt (marks : List Mark) (channel : ChannelId) : Option Nat :=
  (notedAt marks channel).getLast?.or (madeAt marks channel)

/-- The hub tells of every connection when its own channel was last active. -/
def TellsTruth (w : Dated) : Prop :=
  ∀ game player channel, w.hub.Connected game player channel →
    w.hub.lastActivity game player = activeAt w.marks channel

/-- With the act a delivery has a time noted that is new to the connection found by game and player,
while the channel that took the notice belongs to no connection any more. -/
def Misdates (h : Hub) : Act → Prop
  | .advance id now => ∃ d target rest, h.delivery? id = some d ∧ d.targets = target :: rest ∧
      d.taken = true ∧ h.isRegistered target.channel = false ∧
        ∃ s ∈ h.subscriptions, s.isFor d.game target.player = true ∧ s.lastActivity ≠ now
  | _ => False

/-- What the acts tell of the times that the hub gives for its connections. -/
structure ActivityLaw (acts : List Act) : Prop where
  tells_iff : (∀ past, past <+: acts → TellsTruth (date past)) ↔
    ∀ past a, past ++ [a] <+: acts → ¬ (date past).hub.Misdates a
  /-- A delivery notes that a channel has taken its notice before it goes on, and it notes nothing else. -/
  noted : ∀ id, takenBy (watch acts).log id =
    notedBy (date acts).marks id ++ (watch acts).hub.unnoted id
  /-- Whose time is not told rightly was connected through the channel that took the notice, has left,
  and has connected again. -/
  comes_of_leaving : ∀ past id now, past ++ [.advance id now] <+: acts →
    (date past).hub.Misdates (.advance id now) →
      ∃ game player channel before since, past = before ++ .unsubscribe player :: since ∧
        channel ∈ (watch past).hub.unnoted id ∧
        (watch before).hub.Connected game player channel ∧
        ∃ new, (watch past).hub.Connected game player new ∧ channel < new

/-! ## The acts one after another -/

theorem date_snoc (acts : List Act) (a : Act) : date (acts ++ [a]) =
    ⟨((date acts).hub.act a).1, (date acts).marks ++ (date acts).hub.marksOf a⟩ := List.foldl_append

theorem hub_date (acts : List Act) : (date acts).hub = (watch acts).hub := by
  induction acts using List.reverseRecOn with
  | nil => rfl
  | append_singleton acts a ih => rw [date_snoc, watch_snoc, ih]

section Marks

variable (marks : List Mark) {channel : ChannelId}

theorem takenBy_append (log log' : List Happening) (id : Nat) :
    takenBy (log ++ log') id = takenBy log id ++ takenBy log' id := List.filterMap_append

theorem notedBy_append (marks' : List Mark) (id : Nat) :
    notedBy (marks ++ marks') id = notedBy marks id ++ notedBy marks' id := List.filterMap_append

theorem notedAt_append (marks' : List Mark) (channel : ChannelId) :
    notedAt (marks ++ marks') channel = notedAt marks channel ++ notedAt marks' channel :=
  List.filterMap_append

theorem activeAt_noted (id : Nat) (channel : ChannelId) (time : Nat) :
    activeAt (marks ++ [.noted id channel time]) channel = some time := by
  have here : notedAt [.noted id channel time] channel = [time] := by simp [notedAt]
  rw [activeAt, notedAt_append, here, List.getLast?_append]
  rfl

theorem activeAt_of_ne {m : Mark} (other : m.channel ≠ channel) :
    activeAt (marks ++ [m]) channel = activeAt marks channel := by
  have noted : notedAt [m] channel = [] := by
    cases m with
    | made => rfl
    | noted id c time => simpa [notedAt, Mark.channel] using other
  have made : madeAt (marks ++ [m]) channel = madeAt marks channel := by
    rw [madeAt, List.findSome?_append, ← madeAt]
    cases m with
    | made c time => simp [show c ≠ channel from other]
    | noted id c time => simp
  rw [activeAt, notedAt_append, noted, List.append_nil, made, ← activeAt]

variable {marks} in
/-- A channel that has just been made has taken nothing. -/
theorem activeAt_made (others : ∀ m ∈ marks, m.channel ≠ channel) (time : Nat) :
    activeAt (marks ++ [.made channel time]) channel = some time := by
  have noted : notedAt marks channel = [] := by
    refine List.filterMap_eq_nil_iff.2 fun m mem => ?_
    cases m with
    | made => rfl
    | noted id c time => exact if_neg (others _ mem)
  have made : madeAt marks channel = none := by
    refine List.findSome?_eq_none_iff.2 fun m mem => ?_
    cases m with
    | made c time => exact if_neg (others _ mem)
    | noted => rfl
  rw [activeAt, notedAt_append, noted, madeAt, List.findSome?_append, ← madeAt, made]
  simp [notedAt]

end Marks

/-! ## The steps of a delivery -/

theorem unnoted_of_some {h : Hub} {id : Nat} {d : Delivery} (found : h.delivery? id = some d) :
    h.unnoted id = if d.taken then (d.targets.take 1).map (·.channel) else [] := by
  rw [unnoted, found]

theorem unnoted_of_none {h : Hub} {id : Nat} (found : h.delivery? id = none) : h.unnoted id = [] := by
  rw [unnoted, found]

theorem unnoted_setDelivery {h : Hub} {d t : Delivery} (found : h.delivery? d.id = some d)
    (id : t.id = d.id) : (h.setDelivery t).unnoted d.id =
      if t.taken then (t.targets.take 1).map (·.channel) else [] :=
  unnoted_of_some (delivery?_setDelivery found id)

theorem unnoted_congr {h h' : Hub} {id : Nat} (same : h'.delivery? id = h.delivery? id) :
    h'.unnoted id = h.unnoted id := by
  rw [unnoted, same, unnoted]

/-- What a step of a delivery comes to, with all that it leaves of the delivery. -/
inductive Went (h : Hub) (id now : Nat) : Hub → List Happening → List Mark → Prop where
  | absent (none : h.delivery? id = none) : Went h id now h [] []
  | ends (d : Delivery) (found : h.delivery? id = some d) :
    Went h id now { h with deliveries := h.deliveries.filter (·.id != id) }
      [.returned id d.accepted] []
  | waits (d : Delivery) (found : h.delivery? id = some d) (taken : d.taken = false) :
    Went h id now h [] []
  | notes (d : Delivery) (found : h.delivery? id = some d) (target : Target) (rest : List Target)
      (targets : d.targets = target :: rest) (taken : d.taken = true) :
    Went h id now ((h.touch d.game target.player now).setDelivery
      { d with targets := rest, taken := false }) [] [.noted id target.channel now]
  | takes (d : Delivery) (found : h.delivery? id = some d) (target : Target) (rest : List Target)
      (targets : d.targets = target :: rest) (taken : d.taken = false) :
    Went h id now ((h.fill target.channel d.notice).setDelivery
      { d with taken := true, accepted := d.accepted + 1 })
      [.accepted id target.channel d.notice] []
  | passes (d : Delivery) (found : h.delivery? id = some d) (target : Target) (rest : List Target)
      (targets : d.targets = target :: rest) (taken : d.taken = false) :
    Went h id now (h.setDelivery { d with targets := rest }) [.refused id target.channel] []

theorem went (h : Hub) (id now : Nat) : Went h id now (h.act (.advance id now)).1
    (h.act (.advance id now)).2 (h.marksOf (.advance id now)) := by
  rcases found : h.delivery? id with _ | d
  · rw [act_advance_of_none found, marksOf, unnoted_of_none found]
    exact .absent found
  obtain ⟨-, rfl⟩ := mem_of_delivery? found
  rw [act_advance found, marksOf, unnoted_of_some found]
  rcases targets : d.targets with _ | ⟨target, rest⟩
  · rw [advance_of_done now targets]
    have ends : Went h d.id now _ [.returned d.id d.accepted] [] := .ends d found
    simpa using ends
  · by_cases taken : d.taken = true
    · obtain ⟨step, none⟩ := advance_of_taken (h := h) now targets taken
      rw [step, if_pos taken]
      dsimp only
      rw [none]
      exact .notes d found target rest targets taken
    · rw [if_neg taken]
      rw [Bool.not_eq_true] at taken
      by_cases open_ : h.isReadable target.channel = true
      · rcases advance_of_readable now targets taken open_ with ⟨-, step⟩ | ⟨-, step, accepted⟩
        · rw [step]
          exact .waits d found taken
        · rw [step]
          dsimp only
          rw [accepted]
          exact .takes d found target rest targets taken
      · rw [Bool.not_eq_true] at open_
        obtain ⟨step, refused⟩ := advance_of_unreadable now targets taken open_
        rw [step]
        dsimp only
        rw [refused]
        exact .passes d found target rest targets taken

/-- An act that is no step of a delivery takes nothing to a channel. -/
theorem takenBy_of_other (h : Hub) {a : Act} (other : ∀ id now, a ≠ .advance id now) (id : Nat) :
    takenBy (h.act a).2 id = [] := by
  by_cases connection : a.isConnection = true
  · have connects := h.connects connection
    generalize h.act a = came at connects
    cases connects <;> rfl
  · cases a with
    | publish => rfl
    | advance i now => exact absurd rfl (other i now)
    | _ => exact absurd rfl connection

theorem notedBy_of_other (h : Hub) {a : Act} (other : ∀ id now, a ≠ .advance id now) (id : Nat) :
    notedBy (h.marksOf a) id = [] := by
  cases a with
  | subscribe game player now =>
    unfold marksOf
    dsimp only
    split <;> rfl
  | advance i now => exact absurd rfl (other i now)
  | _ => rfl

theorem Sound.unnoted_of_other {h : Hub} {log : List Happening} (s : Sound h log) {a : Act}
    (other : ∀ id now, a ≠ .advance id now) (id : Nat) : (h.act a).1.unnoted id = h.unnoted id := by
  by_cases connection : a.isConnection = true
  · exact unnoted_congr (delivery?_congr (deliveries_of_connection h connection) id)
  · cases a with
    | publish game excluded n =>
      show (h.publish game excluded n).2.unnoted id = h.unnoted id
      rcases found : h.delivery? id with _ | d
      · rw [unnoted_of_none found]
        by_cases new : id = h.nextDelivery
        · rw [new, unnoted_of_some (s.delivery?_publish game excluded n)]
          rfl
        · refine unnoted_of_none ?_
          show (h.deliveries ++ [_]).find? _ = _
          rw [List.find?_append, ← delivery?, found]
          simpa using Ne.symm new
      · exact unnoted_congr (delivery?_publish_of_some (by simp [found]))
    | advance i now => exact absurd rfl (other i now)
    | _ => exact absurd rfl connection

/-- After a step of a delivery it is still to be noted what a channel took in the step, and nothing
else. -/
theorem unnoted_advance (h : Hub) (id now : Nat) :
    (h.act (.advance id now)).1.unnoted id = takenBy (h.act (.advance id now)).2 id := by
  have step := h.went id now
  generalize h.marksOf (.advance id now) = ms at step
  generalize (h.act (.advance id now)).1 = after at step ⊢
  generalize (h.act (.advance id now)).2 = hs at step ⊢
  cases step with
  | absent none => exact unnoted_of_none none
  | ends d found =>
    refine unnoted_of_none (List.find?_eq_none.2 fun e there => ?_)
    simpa using (List.mem_filter.1 there).2
  | waits d found taken => rw [unnoted_of_some found, if_neg (by simp [taken])]; rfl
  | notes d found target rest =>
    obtain ⟨-, rfl⟩ := mem_of_delivery? found
    exact unnoted_setDelivery (h := h.touch d.game target.player now)
      (t := { d with targets := rest, taken := false }) found rfl
  | takes d found target rest targets =>
    obtain ⟨-, rfl⟩ := mem_of_delivery? found
    refine (unnoted_setDelivery (h := h.fill target.channel d.notice)
      (t := { d with taken := true, accepted := d.accepted + 1 }) found rfl).trans ?_
    simp [takenBy, targets]
  | passes d found target rest targets taken =>
    obtain ⟨-, rfl⟩ := mem_of_delivery? found
    refine (unnoted_setDelivery (t := { d with targets := rest }) found rfl).trans ?_
    simp [takenBy, taken]

/-- A step of a delivery is nothing to the others. -/
theorem unnoted_advance_of_ne (h : Hub) {id other : Nat} (ne : other ≠ id) (now : Nat) :
    (h.act (.advance id now)).1.unnoted other = h.unnoted other ∧
      takenBy (h.act (.advance id now)).2 other = [] ∧
        notedBy (h.marksOf (.advance id now)) other = [] := by
  have step := h.went id now
  generalize h.marksOf (.advance id now) = ms at step ⊢
  generalize (h.act (.advance id now)).1 = after at step ⊢
  generalize (h.act (.advance id now)).2 = hs at step ⊢
  cases step with
  | absent => exact ⟨rfl, rfl, rfl⟩
  | ends d found =>
    obtain ⟨-, rfl⟩ := mem_of_delivery? found
    exact ⟨unnoted_congr (delivery?_of_filter ne), rfl, rfl⟩
  | waits => exact ⟨rfl, rfl, rfl⟩
  | notes d found =>
    obtain ⟨-, rfl⟩ := mem_of_delivery? found
    refine ⟨unnoted_congr (delivery?_setDelivery_of_ne ne), rfl, ?_⟩
    simp [notedBy, Ne.symm ne]
  | takes d found =>
    obtain ⟨-, rfl⟩ := mem_of_delivery? found
    refine ⟨unnoted_congr (delivery?_setDelivery_of_ne ne), ?_, rfl⟩
    simp [takenBy, Ne.symm ne]
  | passes d found =>
    obtain ⟨-, rfl⟩ := mem_of_delivery? found
    exact ⟨unnoted_congr (delivery?_setDelivery_of_ne ne), rfl, rfl⟩

/-! ## What holds of every run -/

/-- A delivery notes that a channel has taken its notice before it goes on, and it notes nothing else. -/
theorem noted_watch (acts : List Act) (id : Nat) : takenBy (watch acts).log id =
    notedBy (date acts).marks id ++ (watch acts).hub.unnoted id := by
  induction acts using List.reverseRecOn with
  | nil => rfl
  | append_singleton acts a ih =>
    rw [watch_snoc, date_snoc, hub_date, takenBy_append, notedBy_append, ih]
    dsimp only
    by_cases step : ∃ i now, a = .advance i now
    · obtain ⟨i, now, rfl⟩ := step
      by_cases own : id = i
      · subst own
        have notes : notedBy ((watch acts).hub.marksOf (.advance id now)) id =
            (watch acts).hub.unnoted id := by
          rw [marksOf, notedBy, List.filterMap_map]
          simp
        rw [notes, unnoted_advance, List.append_assoc]
      · obtain ⟨same, takes, notes⟩ := (watch acts).hub.unnoted_advance_of_ne own now
        rw [same, takes, notes, List.append_nil, List.append_nil]
    · have other : ∀ i now, a ≠ .advance i now := fun i now e => step ⟨i, now, e⟩
      rw [takenBy_of_other _ other, notedBy_of_other _ other, (sound_watch acts).unnoted_of_other other,
        List.append_nil, List.append_nil]

/-- The channels that a delivery has still to go to were made for the players that it names. -/
theorem addressed_watch (acts : List Act) : ∀ d ∈ (watch acts).hub.deliveries, ∀ t ∈ d.targets,
    .opened t.channel d.game t.player ∈ (watch acts).log := by
  induction acts using List.reverseRecOn with
  | nil => simp [watch]
  | append_singleton acts a ih =>
    rw [watch_snoc]
    intro d mem t there
    by_cases connection : a.isConnection = true
    · rw [deliveries_of_connection _ connection] at mem
      exact List.mem_append_left _ (ih d mem t there)
    · cases a with
      | publish game excluded n =>
        rcases List.mem_append.1 mem with old | new
        · exact List.mem_append_left _ (ih d old t there)
        · rw [List.mem_singleton.1 new] at there ⊢
          obtain ⟨s, connected, rfl⟩ := List.mem_map.1 there
          obtain ⟨connected, own⟩ := List.mem_filter.1 connected
          have own := beq_iff_eq.1 (Bool.and_eq_true_iff.1 own).1
          exact List.mem_append_left _ (own ▸ (sound_watch acts).opened s connected)
      | advance id now =>
        refine List.mem_append_left _ ?_
        have step := (watch acts).hub.went id now
        have of_set {e e' : Delivery} (mem : d ∈ ((watch acts).hub.setDelivery e').deliveries)
            (found : (watch acts).hub.delivery? id = some e) (game : e'.game = e.game)
            (fewer : e'.targets ⊆ e.targets) : .opened t.channel d.game t.player ∈ (watch acts).log := by
          rcases Sound.mem_setDelivery mem with rfl | ⟨old, -⟩
          · exact game ▸ ih e (mem_of_delivery? found).1 t (fewer there)
          · exact ih d old t there
        generalize ((watch acts).hub.act (.advance id now)).1 = after at step mem
        generalize ((watch acts).hub.act (.advance id now)).2 = hs at step
        generalize (watch acts).hub.marksOf (.advance id now) = ms at step
        cases step with
        | absent => exact ih d mem t there
        | ends => exact ih d (List.mem_filter.1 mem).1 t there
        | waits => exact ih d mem t there
        | notes e found target rest targets => exact of_set mem found rfl (by simp [targets])
        | takes e found => exact of_set mem found rfl (List.Subset.refl _)
        | passes e found target rest targets => exact of_set mem found rfl (by simp [targets])
      | _ => exact absurd rfl connection

/-- A channel that was made belongs to a connection, or to one that has been given up. -/
theorem left_of_opened {acts : List Act} {game player : Id} {channel : ChannelId}
    (opened : .opened channel game player ∈ (watch acts).log) :
    (watch acts).hub.Connected game player channel ∨
      ∃ before since, acts = before ++ .unsubscribe player :: since ∧
        (watch before).hub.Connected game player channel := by
  induction acts using List.reverseRecOn with
  | nil => cases opened
  | append_singleton acts a ih =>
    rw [watch_snoc] at opened ⊢
    rcases List.mem_append.1 opened with old | new
    · rcases ih old with there | ⟨before, since, rfl, there⟩
      · by_cases leaves : a = .unsubscribe player
        · exact .inr ⟨acts, [], by rw [leaves], there⟩
        · exact .inl (there.act_of_ne leaves)
      · exact .inr ⟨before, since ++ [a], by simp, there⟩
    · left
      by_cases connection : a.isConnection = true
      · have connects := (watch acts).hub.connects connection
        generalize (watch acts).hub.act a = came at connects new
        cases connects with
        | opens g p now =>
          cases List.mem_singleton.1 new
          exact ⟨_, List.mem_append_right _ (List.mem_singleton_self _), rfl, rfl, rfl⟩
        | reads => cases List.mem_singleton.1 new
        | rests => cases new
      · cases a with
        | publish => cases List.mem_singleton.1 new
        | advance id now =>
          have step := (watch acts).hub.went id now
          generalize ((watch acts).hub.act (.advance id now)).1 = after at step
          generalize ((watch acts).hub.act (.advance id now)).2 = hs at step new
          generalize (watch acts).hub.marksOf (.advance id now) = ms at step
          cases step <;> simp at new
        | _ => exact absurd rfl connection

theorem find?_of_absent {h : Hub} {game player : Id} (absent : ¬ h.isSubscribed game player = true) :
    h.find? game player = none := by
  rw [← isSome_find?] at absent
  simpa using absent

/-- Marks are of channels that have been made. -/
theorem lt_nextChannel_of_mark (acts : List Act) : ∀ m ∈ (date acts).marks,
    m.channel < (watch acts).hub.nextChannel := by
  induction acts using List.reverseRecOn with
  | nil => simp [date]
  | append_singleton acts a ih =>
    intro m mem
    rw [date_snoc] at mem
    rw [watch_snoc]
    have grows := nextChannel_le_act (watch acts).hub a
    rcases List.mem_append.1 mem with old | new
    · exact Nat.lt_of_lt_of_le (ih m old) grows
    · rw [hub_date] at new
      cases a with
      | subscribe game player now =>
        unfold marksOf at new
        dsimp only at new
        split at new
        · cases new
        · rename_i absent
          rw [List.mem_singleton.1 new]
          show (watch acts).hub.nextChannel < ((watch acts).hub.subscribe game player now).2.nextChannel
          unfold Hub.subscribe
          rw [find?_of_absent absent]
          exact Nat.lt_succ_self _
      | advance id now =>
        refine Nat.lt_of_lt_of_le ?_ grows
        obtain ⟨c, pending, rfl⟩ := List.mem_map.1 new
        rcases found : (watch acts).hub.delivery? id with _ | d
        · rw [unnoted_of_none found] at pending
          cases pending
        · rw [unnoted_of_some found] at pending
          split at pending
          · obtain ⟨t, there, rfl⟩ := List.mem_map.1 pending
            exact (sound_watch acts).known_channel _ _ _ (addressed_watch acts d
              (mem_of_delivery? found).1 t (List.mem_of_mem_take there))
          · cases pending
      | _ => cases new

/-! ## The times of the connections -/

/-- The times of the connections are those of their own channels. -/
def Told (subscriptions : List Subscription) (marks : List Mark) : Prop :=
  ∀ s ∈ subscriptions, activeAt marks s.channel = some s.lastActivity

theorem tellsTruth_iff (acts : List Act) : TellsTruth (date acts) ↔
    Told (watch acts).hub.subscriptions (date acts).marks := by
  have told {s : Subscription} (mem : s ∈ (watch acts).hub.subscriptions) :
      (watch acts).hub.lastActivity s.game s.player = some s.lastActivity := by
    rw [lastActivity, find?_of_mem (single_watch acts) mem]
    rfl
  unfold TellsTruth
  rw [hub_date]
  constructor
  · intro truth s mem
    rw [← truth s.game s.player s.channel ⟨s, mem, rfl, rfl, rfl⟩, told mem]
  · rintro truth game player channel ⟨s, mem, rfl, rfl, rfl⟩
    rw [truth s mem, told mem]

theorem told_subscribe {acts : List Act}
    (told : Told (watch acts).hub.subscriptions (date acts).marks) (game player : Id) (now : Nat) :
    Told ((watch acts).hub.subscribe game player now).2.subscriptions
      ((date acts).marks ++ (watch acts).hub.marksOf (.subscribe game player now)) := by
  unfold marksOf Hub.subscribe
  by_cases there : (watch acts).hub.isSubscribed game player = true
  · obtain ⟨x, found⟩ := Option.isSome_iff_exists.1
      (((watch acts).hub.isSome_find? game player).trans there)
    simp only [found, if_pos there, List.append_nil]
    exact told
  · simp only [find?_of_absent there, if_neg there]
    intro s mem
    rcases List.mem_append.1 mem with old | new
    · have known := lt_nextChannel_of_connected ⟨s, old, rfl, rfl, rfl⟩
      rw [activeAt_of_ne _ (Nat.ne_of_gt known)]
      exact told s old
    · rw [List.mem_singleton.1 new]
      exact activeAt_made (fun m old => Nat.ne_of_lt (lt_nextChannel_of_mark acts m old)) now

section Notes

variable {acts : List Act} {id : Nat} {d : Delivery} {target : Target} {rest : List Target}
  (found : (watch acts).hub.delivery? id = some d) (targets : d.targets = target :: rest)
include found targets

/-- The connection that is found by game and player is the one whose channel took the notice, if there
is such a connection. -/
theorem channel_eq_iff {s : Subscription} (mem : s ∈ (watch acts).hub.subscriptions) :
    s.channel = target.channel ↔
      s.isFor d.game target.player = true ∧ (watch acts).hub.isRegistered target.channel = true := by
  have owned {x : Subscription} (mem : x ∈ (watch acts).hub.subscriptions)
      (same : x.channel = target.channel) : x.game = d.game ∧ x.player = target.player :=
    (sound_watch acts).grounded.owner_eq ((sound_watch acts).opened x mem)
      (same ▸ addressed_watch acts d (mem_of_delivery? found).1 target (by simp [targets]))
  constructor
  · intro same
    obtain ⟨game, player⟩ := owned mem same
    exact ⟨by simp [Subscription.isFor, game, player],
      List.any_eq_true.2 ⟨s, mem, beq_iff_eq.2 same⟩⟩
  · rintro ⟨own, registered⟩
    obtain ⟨x, there, same⟩ := List.any_eq_true.1 registered
    have own : s.game = d.game ∧ s.player = target.player := by
      simpa [Subscription.isFor] using own
    obtain ⟨game, player⟩ := owned there (beq_iff_eq.1 same)
    have one : s = x := List.inj_on_of_nodup_map (single_watch acts) mem there
      (Prod.ext (own.1.trans game.symm) (own.2.trans player.symm))
    exact one ▸ beq_iff_eq.1 same

theorem told_touch (told : Told (watch acts).hub.subscriptions (date acts).marks)
    (taken : d.taken = true) {now : Nat} (right : ¬ (watch acts).hub.Misdates (.advance id now)) :
    Told ((watch acts).hub.touch d.game target.player now).subscriptions
      ((date acts).marks ++ [.noted id target.channel now]) := by
  intro y changed
  obtain ⟨s, mem, rfl⟩ := List.mem_map.1 changed
  have channel := channel_eq_iff found targets mem
  by_cases own : s.isFor d.game target.player = true
  · rw [if_pos own]
    dsimp only
    by_cases same : s.channel = target.channel
    · rw [same]
      exact activeAt_noted _ _ _ _
    · -- the channel that took the notice is not there, so that the time is no new one
      have gone : (watch acts).hub.isRegistered target.channel = false :=
        Bool.not_eq_true _ ▸ fun registered => same (channel.2 ⟨own, registered⟩)
      have old : s.lastActivity = now := by
        by_contra new
        exact right ⟨d, target, rest, found, targets, taken, gone, s, mem, own, new⟩
      rw [activeAt_of_ne _ (Ne.symm same), ← old]
      exact told s mem
  · rw [if_neg own, activeAt_of_ne _ fun same => own (channel.1 same.symm).1]
    exact told s mem

end Notes

theorem tellsTruth_snoc {acts : List Act} {a : Act} (truth : TellsTruth (date acts))
    (right : ¬ (date acts).hub.Misdates a) : TellsTruth (date (acts ++ [a])) := by
  rw [tellsTruth_iff] at truth ⊢
  rw [hub_date] at right
  rw [watch_snoc, date_snoc, hub_date]
  dsimp only
  cases a with
  | subscribe game player now => exact told_subscribe truth game player now
  | advance id now =>
    have step := (watch acts).hub.went id now
    generalize ((watch acts).hub.act (.advance id now)).1 = after at step ⊢
    generalize ((watch acts).hub.act (.advance id now)).2 = hs at step
    generalize (watch acts).hub.marksOf (.advance id now) = ms at step ⊢
    cases step with
    | notes d found target rest targets taken => exact told_touch found targets truth taken right
    | _ =>
      rw [List.append_nil]
      exact truth
  | unsubscribe player =>
    refine fun s mem => (congrArg (activeAt · s.channel) (List.append_nil _)).trans ?_
    exact truth s (List.mem_filter.1 mem).1
  | _ =>
    rw [subscriptions_of_other _ (by rintro _ _ _ ⟨⟩) (by rintro _ ⟨⟩) (by rintro _ _ ⟨⟩)]
    exact (List.append_nil _).symm ▸ truth

theorem not_tellsTruth_of_misdates {acts : List Act} {a : Act} (truth : TellsTruth (date acts))
    (wrong : (date acts).hub.Misdates a) : ¬ TellsTruth (date (acts ++ [a])) := by
  rw [tellsTruth_iff] at truth ⊢
  rw [hub_date] at wrong
  rw [watch_snoc, date_snoc, hub_date]
  cases a with
  | advance id now =>
    obtain ⟨d, target, rest, found, targets, taken, gone, s, mem, own, new⟩ := wrong
    obtain ⟨-, rfl⟩ := mem_of_delivery? found
    obtain ⟨step, -⟩ := advance_of_taken (h := (watch acts).hub) now targets taken
    rw [act_advance found, step, marksOf, unnoted_of_some found, if_pos taken, targets]
    intro told
    have there : { s with lastActivity := now } ∈
        ((watch acts).hub.touch d.game target.player now).subscriptions :=
      List.mem_map.2 ⟨s, mem, if_pos own⟩
    have other : target.channel ≠ s.channel := fun same => by
      rw [(channel_eq_iff found targets mem).1 same.symm |>.2] at gone
      cases gone
    have told : activeAt ((date acts).marks ++ [.noted d.id target.channel now]) s.channel = some now :=
      told _ there
    rw [activeAt_of_ne _ (m := .noted d.id target.channel now) other, truth s mem] at told
    exact new (Option.some.inj told)
  | _ => exact wrong.elim

theorem misdates_of_leaving {past : List Act} {id now : Nat}
    (wrong : (date past).hub.Misdates (.advance id now)) :
    ∃ game player channel before since, past = before ++ .unsubscribe player :: since ∧
      channel ∈ (watch past).hub.unnoted id ∧
      (watch before).hub.Connected game player channel ∧
      ∃ new, (watch past).hub.Connected game player new ∧ channel < new := by
  rw [hub_date] at wrong
  obtain ⟨d, target, rest, found, targets, taken, gone, s, mem, own, -⟩ := wrong
  have opened := addressed_watch past d (mem_of_delivery? found).1 target (by simp [targets])
  rcases left_of_opened opened with ⟨x, there, -, -, channel⟩ | ⟨before, since, rfl, there⟩
  · have registered : (watch past).hub.isRegistered target.channel = true :=
      List.any_eq_true.2 ⟨x, there, beq_iff_eq.2 channel⟩
    rw [gone] at registered
    cases registered
  · have own : s.game = d.game ∧ s.player = target.player := by
      simpa [Subscription.isFor] using own
    refine ⟨d.game, target.player, target.channel, before, since, rfl, ?_, there, s.channel,
      ⟨s, mem, own.1, own.2, rfl⟩, ?_⟩
    · rw [unnoted_of_some found, if_pos taken, targets]
      exact List.mem_singleton_self _
    · have left : (watch (before ++ [.unsubscribe target.player])).hub.isSubscribed d.game
          target.player = false := by
        rw [watch_snoc]
        exact not_isSubscribed_unsubscribe _ _ _
      have back : (watch (before ++ [.unsubscribe target.player] ++ since)).hub.Connected d.game
          target.player s.channel := by
        rw [List.append_assoc]
        exact ⟨s, mem, own.1, own.2, rfl⟩
      calc target.channel < (watch before).hub.nextChannel := lt_nextChannel_of_connected there
        _ ≤ (watch (before ++ [.unsubscribe target.player])).hub.nextChannel :=
          nextChannel_le_watch _ _
        _ ≤ s.channel := nextChannel_le_of_connected left back

/-- A hub tells when its connections were last active if and only if no delivery has a time noted for a
connection that was made after the one to whose channel it went. -/
theorem last_activity_tells_iff (acts : List Act) : ActivityLaw acts where
  tells_iff := by
    constructor
    · intro truth past a ends wrong
      have before := truth past ((List.prefix_append _ _).trans ends)
      exact not_tellsTruth_of_misdates before wrong (truth _ ends)
    · intro right past
      induction past using List.reverseRecOn with
      | nil => exact fun _ game player channel there => by simp [date, Connected] at there
      | append_singleton past a ih =>
        intro ends
        exact tellsTruth_snoc (ih ((List.prefix_append _ _).trans ends)) (right past a ends)
  noted := noted_watch acts
  comes_of_leaving past id now _ wrong := misdates_of_leaving wrong

/-- A player leaves while a notice waits at the player's full channel, and connects again before the
notice is taken. -/
def rejoined : List Act := [.subscribe "room" "sam" 0,
  .publish "room" none .turnEnded, .advance 0 0, .advance 0 0, .advance 0 0,
  .publish "room" none .turnEnded, .unsubscribe "sam", .subscribe "room" "sam" 5,
  .receive 0, .advance 1 9, .advance 1 9]

/-- The notice is taken by the channel of the connection that was given up, and it is the new connection,
whose channel took nothing since it was made, that is said to have been active then. -/
theorem old_channel_misdates : (watch rejoined).hub.Connected "room" "sam" 1 ∧
    accepts (watch rejoined).log 1 = [] ∧ madeAt (date rejoined).marks 1 = some 5 ∧
      (watch rejoined).hub.lastActivity "room" "sam" = some 9 ∧ ¬ TellsTruth (date rejoined) := by
  have there : (watch rejoined).hub.Connected "room" "sam" 1 :=
    ⟨⟨"room", "sam", 1, 9⟩, by decide, rfl, rfl, rfl⟩
  refine ⟨there, by decide, by decide, by decide, fun truth => ?_⟩
  have told := truth "room" "sam" 1 (hub_date rejoined ▸ there)
  revert told
  decide

end GuessingRoom.Hub
