import GuessingRoom.Proofs.Activity

/-!
# The law of delivery

What comes of all that is done to a hub, told from the acts and from the log of what happened
(`Hub.DeliveryLaw`). Every publication begins a delivery to those who are connected at that moment.
The delivery is under way until it returns, and by each of its steps it goes on (`Hub.GoesOn`): it
waits for nothing but a channel that holds a notice and may still be read, and returns if there is
none before it (`Hub.exists_returned`). What a channel has taken stays there until somebody reads
it, and is read once.
-/

namespace GuessingRoom.Hub

/-! ## The law -/

/-- Somebody may still read from the channel: it belongs to a connection, or somebody holds a reader
of it. -/
def MayBeRead (h : Hub) (channel : ChannelId) : Prop :=
  (∃ s ∈ h.subscriptions, s.channel = channel) ∨ channel ∈ h.readers

/-- The notice is all that the channel has taken and nobody has read. -/
def Holds (log : List Happening) (channel : ChannelId) (n : Notice) : Prop :=
  accepts log channel = reads log channel ++ [n]

/-- Whether somebody is given a reader of the channel by the act. -/
def handsOut (h : Hub) (channel : ChannelId) : Act → Bool
  | .subscribe game player now => (h.subscribe game player now).1 == channel
  | .copy c => c == channel && h.readers.contains c
  | _ => false

/-- What the next step of a delivery under way comes to. -/
structure GoesOn (w : Watched) (d : Delivery) (now : Nat) : Prop where
  /-- It waits where the next channel holds a notice and may still be read. -/
  waits : ∀ c rest n, d.taken = false → left d = c :: rest → w.hub.MayBeRead c → Holds w.log c n →
    w.hub.act (.advance d.id now) = (w.hub, [])
  /-- A channel that may be read and holds no notice takes the one that is brought. -/
  takes : ∀ c rest, d.taken = false → left d = c :: rest → w.hub.MayBeRead c →
    (∀ n, ¬ Holds w.log c n) →
      (w.hub.act (.advance d.id now)).2 = [.accepted d.id c d.notice]
  /-- Only a channel that nobody can read any more is passed over. -/
  passes : ∀ c rest, d.taken = false → left d = c :: rest → ¬ w.hub.MayBeRead c →
    (w.hub.act (.advance d.id now)).2 = [.refused d.id c]
  /-- That a channel has taken the notice is noted before the delivery goes on. -/
  notes : d.taken = true → (w.hub.act (.advance d.id now)).2 = [] ∧
    ∃ t ∈ (w.hub.act (.advance d.id now)).1.deliveries,
      t.id = d.id ∧ t.taken = false ∧ left t = left d
  /-- After the last channel it returns and tells how many of them have taken the notice. -/
  returns : d.taken = false → left d = [] →
    (w.hub.act (.advance d.id now)).2 = [.returned d.id (acceptedBy w.log d.id)]
  /-- Unless it waits, the step brings the deliveries under way nearer to their end. -/
  nears : w.hub.act (.advance d.id now) ≠ (w.hub, []) →
    (w.hub.act (.advance d.id now)).1.steps < w.hub.steps

/-- What the acts done to a hub come to. -/
structure DeliveryLaw (acts : List Act) : Prop where
  /-- Channels are numbered in the order of registration. -/
  order : ∀ past c game player later,
    (watch acts).log = past ++ .opened c game player :: later →
      ∀ c' game' player', .opened c' game' player' ∈ past → c' < c
  /-- A channel belongs to one player in one game. -/
  owner : ∀ c game player game' player', .opened c game player ∈ (watch acts).log →
    .opened c game' player' ∈ (watch acts).log → game = game' ∧ player = player'
  /-- Who connects is connected until leaving, and has a reader until giving it up. -/
  connects : ∀ past game player now since, acts = past ++ .subscribe game player now :: since →
    (.unsubscribe player ∉ since →
      (watch acts).hub.Connected game player (handle past game player now)) ∧
    (.release (handle past game player now) ∉ since →
      handle past game player now ∈ (watch acts).hub.readers)
  /-- Of a channel there are as many readers as were given out and not given up. -/
  readers : ∀ past a, past ++ [a] <+: acts → ∀ c,
    (watch (past ++ [a])).hub.readers.count c = (watch past).hub.readers.count c +
      (if (watch past).hub.handsOut c a then 1 else 0) - if a = .release c then 1 else 0
  /-- Those who are connected have connected and not left since. -/
  stays : ∀ s ∈ (watch acts).hub.subscriptions, Stays acts s.game s.player
  /-- Every publication begins a delivery, with the connections of that moment, and nothing else
  does. -/
  published : ∀ past game excluded n registry,
    (∃ id later, (watch acts).log = past ++ .began id game excluded n registry :: later) ↔
      ∃ before after, acts = before ++ .publish game excluded n :: after ∧
        (watch before).log = past ∧ (watch before).hub.subscriptions = registry
  /-- Deliveries are told apart by their numbers. -/
  once : ∀ past id game excluded n registry later,
    (watch acts).log = past ++ .began id game excluded n registry :: later →
      ∀ game' excluded' n' registry', .began id game' excluded' n' registry' ∉ past
  /-- A delivery that began goes to connected players of its game but the excluded one, each once
  and in the order of registration. -/
  audience : ∀ id game excluded n registry,
    .began id game excluded n registry ∈ (watch acts).log →
      (audience registry game excluded).Pairwise (· < ·) ∧
        attempts (watch acts).log id <+: audience registry game excluded
  /-- A delivery that began is under way until it has returned. -/
  answered : ∀ id game excluded n registry,
    .began id game excluded n registry ∈ (watch acts).log →
      ((∃ d ∈ (watch acts).hub.deliveries, d.id = id ∧ d.game = game) ↔
        ∀ count, .returned id count ∉ (watch acts).log)
  /-- A delivery under way is at the first of those it has not been to. -/
  underway : ∀ d ∈ (watch acts).hub.deliveries, ∃ excluded registry,
    .began d.id d.game excluded d.notice registry ∈ (watch acts).log ∧
      attempts (watch acts).log d.id ++ left d = Hub.audience registry d.game excluded
  /-- Whatever is under way goes on unless it waits for a reader. -/
  goes_on : ∀ d ∈ (watch acts).hub.deliveries, ∀ now, GoesOn (watch acts) d now
  /-- It returns by steps of its own if it need not wait at any of the channels before it. -/
  finishes : ∀ d ∈ (watch acts).hub.deliveries,
    (∀ c ∈ left d, (watch acts).hub.MayBeRead c → ∀ n, ¬ Holds (watch acts).log c n) → ∀ now,
      ∃ k count, .returned d.id count ∈
        (watch (acts ++ List.replicate k (.advance d.id now))).log
  /-- A delivery that has returned has been to all of them, and has counted those that took it. -/
  returned : ∀ id count, .returned id count ∈ (watch acts).log → ∃ game excluded n registry,
    .began id game excluded n registry ∈ (watch acts).log ∧
      attempts (watch acts).log id = Hub.audience registry game excluded ∧
        count = acceptedBy (watch acts).log id
  /-- All readers of a channel together read what it took, in that order and nothing twice. -/
  reads : ∀ c, reads (watch acts).log c <+: accepts (watch acts).log c
  /-- Of what a channel took, one notice at most is not read. -/
  kept : ∀ c, accepts (watch acts).log c = Hub.reads (watch acts).log c ∨
    ∃ n, Holds (watch acts).log c n
  /-- Whoever has a reader finds the notice that the channel holds. -/
  found : ∀ c n, c ∈ (watch acts).hub.readers → Holds (watch acts).log c n →
    ((watch acts).hub.act (.receive c)).2 = [.read c n]
  /-- What is read was sent to the owner of the channel, after it was opened. -/
  origin : ∀ past c n later, (watch acts).log = past ++ .read c n :: later →
    ∃ id game player excluded registry before after,
      past = before ++ .began id game excluded n registry :: after ∧ .accepted id c n ∈ after ∧
        .opened c game player ∈ before ∧ excluded ≠ some player
  /-- A channel is at its end for its readers when the connection is gone, no delivery has still to
  do with it, and everything it took was read. -/
  closed : ∀ c, ((watch acts).hub.receive c).1 = .closed ↔
    (∀ s ∈ (watch acts).hub.subscriptions, s.channel ≠ c) ∧
      (∀ d ∈ (watch acts).hub.deliveries, ∀ target ∈ d.targets, target.channel ≠ c) ∧
        Hub.reads (watch acts).log c = accepts (watch acts).log c

/-! ## Channels -/

theorem isReadable_iff {h : Hub} {c : ChannelId} : h.isReadable c = true ↔ h.MayBeRead c := by
  simp [isReadable, isRegistered, MayBeRead]

theorem Holds.ne {log : List Happening} {c : ChannelId} {n : Notice} (holds : Holds log c n) :
    accepts log c ≠ reads log c := by
  intro same
  have length := congrArg List.length (same.symm.trans holds)
  simp at length

theorem Holds.read {log : List Happening} {c : ChannelId} {n : Notice} (holds : Holds log c n) :
    accepts (log ++ [.read c n]) c = reads (log ++ [.read c n]) c := by
  have took : reads [.read c n] c = [n] := by simp [reads]
  rw [accepts_append, reads_append, took]
  exact (List.append_nil _).trans holds

section Channels

variable {h : Hub} {log : List Happening} (s : Sound h log)
include s

/-- A channel has been read to the end, or what it holds is in its slot. -/
theorem Sound.holding (c : ChannelId) :
    (h.slots.find? (·.channel == c) = none ∧ accepts log c = reads log c) ∨
      ∃ slot, h.slots.find? (·.channel == c) = some slot ∧ Holds log c slot.notice := by
  have queued := s.queued c
  rcases found : h.slots.find? (·.channel == c) with _ | slot
  · have none : h.slots.filter (·.channel == c) = [] :=
      List.filter_eq_nil_iff.2 (List.find?_eq_none.1 found)
    rw [none, List.map_nil, List.append_nil] at queued
    exact .inl ⟨found, queued⟩
  · rw [s.slots_of_find found] at queued
    exact .inr ⟨slot, found, queued⟩

theorem Sound.find?_of_holds {c : ChannelId} {n : Notice} (holds : Holds log c n) :
    ∃ slot, h.slots.find? (·.channel == c) = some slot ∧ slot.notice = n := by
  rcases s.holding c with ⟨-, same⟩ | ⟨slot, found, holds'⟩
  · exact absurd same holds.ne
  · refine ⟨slot, found, ?_⟩
    have same := List.append_cancel_left (Eq.trans (Eq.symm holds') holds)
    exact List.singleton_inj.1 same

theorem Sound.isFull_iff {c : ChannelId} : h.isFull c = true ↔ ∃ n, Holds log c n := by
  have full : h.isFull c = true ↔ (h.slots.find? (·.channel == c)).isSome = true := by
    rw [isFull, List.any_eq_true, List.find?_isSome]
  rw [full]
  rcases s.holding c with ⟨found, same⟩ | ⟨slot, found, holds⟩
  · refine iff_of_false (by simp [found]) ?_
    rintro ⟨n, holds⟩
    exact holds.ne same
  · exact iff_of_true (by simp [found]) ⟨_, holds⟩

theorem Sound.read_of_holds {c : ChannelId} {n : Notice} (reader : c ∈ h.readers)
    (holds : Holds log c n) : (h.act (.receive c)).2 = [.read c n] := by
  obtain ⟨slot, found, rfl⟩ := s.find?_of_holds holds
  unfold Hub.act
  dsimp only
  rw [if_pos reader, receive_of_some found]

theorem Sound.closed_iff {c : ChannelId} : (h.receive c).1 = .closed ↔
    (∀ x ∈ h.subscriptions, x.channel ≠ c) ∧
      (∀ d ∈ h.deliveries, ∀ target ∈ d.targets, target.channel ≠ c) ∧
        reads log c = accepts log c := by
  have writable : h.isWritable c = false ↔ (∀ x ∈ h.subscriptions, x.channel ≠ c) ∧
      ∀ d ∈ h.deliveries, ∀ target ∈ d.targets, target.channel ≠ c := by
    simp [isWritable, isRegistered]
  rw [← and_assoc, ← writable]
  rcases s.holding c with ⟨found, same⟩ | ⟨slot, found, holds⟩
  · rw [receive_of_none found]
    cases h.isWritable c <;> simp [same]
  · rw [receive_of_some found]
    exact iff_of_false (by simp) fun closed => holds.ne closed.2.symm

end Channels

/-! ## The next step of a delivery -/

theorem targets_of_left {d : Delivery} (idle : d.taken = false) {c : ChannelId}
    {rest : List ChannelId} (next : left d = c :: rest) :
    ∃ target others, d.targets = target :: others ∧ target.channel = c := by
  unfold left at next
  rw [if_neg (by simp [idle])] at next
  obtain ⟨target, others, targets, channel, -⟩ := List.map_eq_cons_iff.1 next
  exact ⟨target, others, targets, channel⟩

/-- A delivery of which a channel has just taken the notice is at that channel. -/
theorem targets_of_taken (acts : List Act) :
    ∀ d ∈ (watch acts).hub.deliveries, d.taken = true → d.targets ≠ [] := by
  induction acts using List.reverseRecOn with
  | nil => simp [watch]
  | append_singleton acts a ih =>
    rw [watch_snoc]
    intro d mem taken
    by_cases connection : a.isConnection = true
    · rw [deliveries_of_connection _ connection] at mem
      exact ih d mem taken
    · cases a with
      | publish game excluded n =>
        rcases List.mem_append.1 mem with old | new
        · exact ih d old taken
        · rw [List.mem_singleton.1 new] at taken
          cases taken
      | advance id now =>
        have step := (watch acts).hub.went id now
        generalize ((watch acts).hub.act (.advance id now)).1 = after at step mem
        generalize ((watch acts).hub.act (.advance id now)).2 = hs at step
        generalize (watch acts).hub.marksOf (.advance id now) = ms at step
        cases step with
        | absent => exact ih d mem taken
        | ends => exact ih d (List.mem_filter.1 mem).1 taken
        | waits => exact ih d mem taken
        | notes e found target rest =>
          rcases Sound.mem_setDelivery mem with rfl | ⟨old, -⟩
          · cases taken
          · exact ih d old taken
        | takes e found target rest targets =>
          rcases Sound.mem_setDelivery mem with rfl | ⟨old, -⟩
          · simp [targets]
          · exact ih d old taken
        | passes e found target rest targets idle =>
          rcases Sound.mem_setDelivery mem with rfl | ⟨old, -⟩
          · rw [idle] at taken
            cases taken
          · exact ih d old taken
      | _ => exact absurd rfl connection

theorem mem_setDelivery_self {h : Hub} {d t : Delivery} (mem : d ∈ h.deliveries)
    (id : t.id = d.id) : t ∈ (h.setDelivery t).deliveries :=
  List.mem_map.2 ⟨d, mem, if_pos (beq_iff_eq.2 id.symm)⟩

theorem Sound.goesOn {w : Watched} (s : Sound w.hub w.log) {d : Delivery}
    (mem : d ∈ w.hub.deliveries) (in_hand : d.taken = true → d.targets ≠ []) (now : Nat) :
    GoesOn w d now := by
  have came := act_advance (s.delivery?_of_mem mem) now
  constructor
  case waits =>
    intro c rest n idle next readable holds
    obtain ⟨target, others, targets, rfl⟩ := targets_of_left idle next
    have full := s.isFull_iff.2 ⟨n, holds⟩
    rcases advance_of_readable now targets idle (isReadable_iff.2 readable) with
      ⟨-, step⟩ | ⟨free, -⟩
    · rw [came, step]
    · rw [full] at free
      cases free
  case takes =>
    intro c rest idle next readable empty
    obtain ⟨target, others, targets, rfl⟩ := targets_of_left idle next
    rcases advance_of_readable now targets idle (isReadable_iff.2 readable) with
      ⟨full, -⟩ | ⟨-, step, accepted⟩
    · obtain ⟨n, holds⟩ := s.isFull_iff.1 full
      exact absurd holds (empty n)
    · rw [came, step]
      exact accepted
  case passes =>
    intro c rest idle next gone
    obtain ⟨target, others, targets, rfl⟩ := targets_of_left idle next
    rw [← isReadable_iff, Bool.not_eq_true] at gone
    obtain ⟨step, refused⟩ := advance_of_unreadable now targets idle gone
    rw [came, step]
    exact refused
  case notes =>
    intro taken
    obtain ⟨target, rest, targets⟩ := List.exists_cons_of_ne_nil (in_hand taken)
    obtain ⟨step, silent⟩ := advance_of_taken (h := w.hub) now targets taken
    rw [came, step]
    have stays : d ∈ (w.hub.touch d.game target.player now).deliveries := mem
    refine ⟨silent, _, mem_setDelivery_self stays rfl, rfl, rfl, ?_⟩
    simp [left, targets, taken]
  case returns =>
    intro idle done
    have targets : d.targets = [] := by simpa [left, idle] using done
    rw [came, advance_of_done now targets]
    dsimp only
    rw [s.counted d mem]
  case nears =>
    rw [came]
    intro moves
    rcases step : w.hub.advance d now with _ | after | ⟨count, after⟩ <;> rw [step] at moves
    · exact absurd rfl moves
    · exact (s.steps_of_going mem step).1
    · exact (s.steps_of_finished mem step).1

/-! ## Coming to an end -/

/-- None of the channels before the delivery has to be waited for. -/
def IsFree (h : Hub) (d : Delivery) : Prop :=
  ∀ c ∈ left d, h.isReadable c = true → h.isFull c = false

theorem isReadable_touch (h : Hub) (game player : Id) (now : Nat) (c : ChannelId) :
    (h.touch game player now).isReadable c = h.isReadable c := by
  have registered : (h.touch game player now).isRegistered c = h.isRegistered c := by
    unfold isRegistered touch
    rw [List.any_map]
    congr 1
    funext s
    dsimp only [Function.comp]
    split <;> rfl
  rw [isReadable, registered]
  rfl

theorem isFull_fill_of_ne (h : Hub) {c x : ChannelId} (n : Notice) (ne : x ≠ c) :
    (h.fill c n).isFull x = h.isFull x := by
  simp [isFull, fill, ne.symm]

/-- The channels that a delivery comes to after a step are as they were before. -/
theorem IsFree.goes {h after : Hub} {d t : Delivery} {hs : List Happening} (free : h.IsFree d)
    (apart : (left d).Nodup) (goes : Goes h d t after hs) : after.IsFree t := by
  cases goes with
  | notes player now stays =>
    intro c there readable
    have readable : (h.touch d.game player now).isReadable c = true := readable
    rw [isReadable_touch] at readable
    exact free c (stays ▸ there) readable
  | takes c next =>
    rw [next] at apart
    intro x there readable
    have ne : x ≠ c := fun same => (List.nodup_cons.1 apart).1 (same ▸ there)
    exact (h.isFull_fill_of_ne d.notice ne).trans
      (free x (next ▸ List.mem_cons_of_mem c there) readable)
  | passes c next =>
    intro x there readable
    exact free x (next ▸ List.mem_cons_of_mem c there) readable

theorem exists_returned (acts : List Act) {d : Delivery} (mem : d ∈ (watch acts).hub.deliveries)
    (free : (watch acts).hub.IsFree d) (now : Nat) : ∃ k count, .returned d.id count ∈
      (watch (acts ++ List.replicate k (.advance d.id now))).log := by
  induction n : stepsOf d using Nat.strong_induction_on generalizing acts d with
  | _ n ih =>
    have s := sound_watch acts
    have came := act_advance (s.delivery?_of_mem mem) now
    have next := watch_snoc acts (.advance d.id now)
    have moved := advanced (watch acts).hub d now
    generalize (watch acts).hub.advance d now = progress at moved came
    cases moved with
    | waits c there open_ full =>
      rw [free c there open_] at full
      cases full
    | ends =>
      refine ⟨1, d.accepted, ?_⟩
      rw [List.replicate_one, next, came]
      exact List.mem_append_right _ (List.mem_singleton_self _)
    | goes t id game notice less after hs attempt goes =>
      dsimp only at came
      rw [came] at next
      have there : t ∈ (watch (acts ++ [.advance d.id now])).hub.deliveries := by
        rw [next]
        cases goes <;> exact mem_setDelivery_self mem id
      have free' : (watch (acts ++ [.advance d.id now])).hub.IsFree t := by
        rw [next]
        exact free.goes (s.left_nodup mem) goes
      obtain ⟨k, count, returned⟩ :=
        ih (stepsOf t) (n ▸ less) (acts ++ [.advance d.id now]) there free' rfl
      rw [id, List.append_assoc, List.singleton_append, ← List.replicate_succ] at returned
      exact ⟨k + 1, count, returned⟩

/-! ## The acts and the log -/

/-- An act comes to one entry at most. -/
theorem act_entries (h : Hub) (a : Act) : (h.act a).2 = [] ∨ ∃ e, (h.act a).2 = [e] := by
  by_cases connection : a.isConnection = true
  · have connects := h.connects connection
    generalize h.act a = came at connects
    cases connects with
    | opens => exact .inr ⟨_, rfl⟩
    | reads => exact .inr ⟨_, rfl⟩
    | rests => exact .inl rfl
  · cases a with
    | publish game excluded n => exact .inr ⟨_, rfl⟩
    | advance id now =>
      have step := h.went id now
      generalize (h.act (.advance id now)).1 = after at step
      generalize (h.act (.advance id now)).2 = hs at step ⊢
      generalize h.marksOf (.advance id now) = ms at step
      cases step with
      | absent | waits | notes => exact .inl rfl
      | ends | takes | passes => exact .inr ⟨_, rfl⟩
    | _ => exact absurd rfl connection

/-- Every entry of the log is what one of the acts came to. -/
theorem exists_act (acts : List Act) : ∀ past e later, (watch acts).log = past ++ e :: later →
    ∃ before a after, acts = before ++ a :: after ∧ (watch before).log = past ∧
      ((watch before).hub.act a).2 = [e] := by
  induction acts using List.reverseRecOn with
  | nil => simp [watch]
  | append_singleton acts a ih =>
    rw [watch_snoc]
    have earlier : ∀ past e later, (watch acts).log = past ++ e :: later →
        ∃ before a' after, acts ++ [a] = before ++ a' :: after ∧ (watch before).log = past ∧
          ((watch before).hub.act a').2 = [e] := by
      intro past e later split
      obtain ⟨before, a', after, rfl, rest⟩ := ih past e later split
      exact ⟨before, a', after ++ [a], by simp, rest⟩
    dsimp only
    rcases (watch acts).hub.act_entries a with none | ⟨e, one⟩
    · rw [none, List.append_nil]
      exact earlier
    · rw [one]
      exact split_append earlier ⟨acts, a, [], rfl, rfl, one⟩

theorem published_iff (acts : List Act) (past : List Happening) (game : Id) (excluded : Option Id)
    (n : Notice) (registry : List Subscription) :
    (∃ id later, (watch acts).log = past ++ .began id game excluded n registry :: later) ↔
      ∃ before after, acts = before ++ .publish game excluded n :: after ∧
        (watch before).log = past ∧ (watch before).hub.subscriptions = registry := by
  constructor
  · rintro ⟨id, later, split⟩
    obtain ⟨before, a, after, rfl, log, came⟩ := exists_act acts past _ later split
    by_cases publishes : ∃ g e m, a = .publish g e m
    · obtain ⟨g, e, m, rfl⟩ := publishes
      cases came
      exact ⟨before, after, rfl, log, rfl⟩
    · push Not at publishes
      have begins := (watch before).hub.begins_act publishes
      rw [came] at begins
      cases begins _ (List.mem_singleton_self _)
  · rintro ⟨before, after, rfl, rfl, rfl⟩
    have grows := log_grows (before ++ [.publish game excluded n]) after
    rw [watch_snoc, List.append_assoc, List.singleton_append] at grows
    obtain ⟨later, grown⟩ := grows
    exact ⟨_, later, by rw [← grown, List.append_assoc]; rfl⟩

theorem answered_watch (acts : List Act) : Answered (watch acts).hub (watch acts).log := by
  induction acts using List.reverseRecOn with
  | nil => exact Answered.start
  | append_singleton acts a ih =>
    rw [watch_snoc]
    exact (sound_watch acts).answered_act ih a

theorem readers_of_other (h : Hub) {a : Act} (gives : ∀ game player now, a ≠ .subscribe game player now)
    (copies : ∀ c, a ≠ .copy c) (takes : ∀ c, a ≠ .release c) : (h.act a).1.readers = h.readers := by
  cases a with
  | subscribe game player now => exact absurd rfl (gives game player now)
  | copy channel => exact absurd rfl (copies channel)
  | release channel => exact absurd rfl (takes channel)
  | unsubscribe player => rfl
  | publish game excluded n => rfl
  | advance id now =>
    have step := h.went id now
    generalize (h.act (.advance id now)).1 = after at step ⊢
    generalize (h.act (.advance id now)).2 = hs at step
    generalize h.marksOf (.advance id now) = ms at step
    cases step <;> rfl
  | receive channel =>
    unfold act
    dsimp only
    split
    · rcases found : h.slots.find? (·.channel == channel) with _ | slot
      · rw [receive_of_none found]
        cases h.isWritable channel <;> rfl
      · rw [receive_of_some found]
    · rfl

/-- Readers of a channel are given out and given up one by one. -/
theorem count_readers_act (h : Hub) (a : Act) (c : ChannelId) :
    (h.act a).1.readers.count c = h.readers.count c + (if h.handsOut c a then 1 else 0) -
      if a = .release c then 1 else 0 := by
  cases a with
  | subscribe game player now =>
    have given : (h.subscribe game player now).2.readers =
        (h.subscribe game player now).1 :: h.readers := by
      unfold Hub.subscribe
      split <;> rfl
    show (h.subscribe game player now).2.readers.count c = _
    rw [given, List.count_cons]
    simp [handsOut]
  | copy channel =>
    by_cases there : channel ∈ h.readers <;> simp [act, handsOut, there, List.count_cons]
  | release channel =>
    show (h.readers.erase channel).count c = _
    rw [List.count_erase]
    simp [handsOut]
  | _ =>
    rw [h.readers_of_other (by rintro _ _ _ ⟨⟩) (by rintro _ ⟨⟩) (by rintro _ ⟨⟩)]
    simp [handsOut]

/-- A reader is there until it is given up. -/
theorem mem_readers_act {h : Hub} {c : ChannelId} (mem : c ∈ h.readers) {a : Act}
    (other : a ≠ .release c) : c ∈ (h.act a).1.readers := by
  rw [← List.count_pos_iff] at mem ⊢
  rw [count_readers_act, if_neg other]
  omega

/-- Who connects has a reader of the channel that was given then, until it is given up. -/
theorem mem_readers_handle (past : List Act) (game player : Id) (now : Nat) (since : List Act)
    (keeps : .release (handle past game player now) ∉ since) :
    handle past game player now ∈ (watch (past ++ .subscribe game player now :: since)).hub.readers := by
  induction since using List.reverseRecOn with
  | nil =>
    rw [watch_snoc]
    show handle past game player now ∈ ((watch past).hub.subscribe game player now).2.readers
    unfold handle Hub.subscribe
    split <;> exact List.mem_cons_self
  | append_singleton since a ih =>
    rw [List.mem_append, not_or, List.mem_singleton] at keeps
    rw [← List.cons_append, ← List.append_assoc, watch_snoc]
    exact mem_readers_act (ih keeps.1) (Ne.symm keeps.2)

/-- What a delivery that has returned has done. -/
theorem Sound.whole_of_returned {h : Hub} {log : List Happening} (s : Sound h log) {id count : Nat}
    (mem : .returned id count ∈ log) : ∃ game excluded n registry,
      .began id game excluded n registry ∈ log ∧
        attempts log id = Hub.audience registry game excluded ∧ count = acceptedBy log id := by
  obtain ⟨past, later, split⟩ := List.append_of_mem mem
  obtain ⟨game, excluded, n, registry, began, whole, counted⟩ :=
    s.grounded past (.returned id count) later split
  have inside : .began id game excluded n registry ∈ log := split ▸ List.mem_append_left _ began
  have goes := s.grounded.attempts_prefix inside
  -- it had been to everyone when it ended, so that nothing about it can follow
  have rest : attempts (.returned id count :: later) id = [] := by
    rw [split, attempts_append, whole] at goes
    have le := goes.length_le
    rw [List.length_append] at le
    exact List.length_eq_zero_iff.1 (by omega)
  have none : acceptedBy (.returned id count :: later) id = 0 := by
    have le := acceptedBy_le (.returned id count :: later) id
    rw [rest] at le
    exact Nat.le_zero.1 le
  refine ⟨game, excluded, n, registry, inside, ?_, ?_⟩
  · rw [split, attempts_append, whole, rest, List.append_nil]
  · rw [split, acceptedBy_append, none, Nat.add_zero]
    exact counted

/-- Whatever subscribers, publishers and readers do, in whatever order their steps fall, the hub
keeps to the law of delivery. -/
theorem delivery_law_watch (acts : List Act) : DeliveryLaw acts where
  order past c game player later :=
    (sound_watch acts).grounded past (.opened c game player) later
  owner c game player game' player' := (sound_watch acts).grounded.owner_eq
  connects past game player now since split := by
    subst split
    exact ⟨connected_handle past game player now since, mem_readers_handle past game player now since⟩
  readers past a _ c := by
    rw [watch_snoc]
    exact count_readers_act _ a c
  stays s mem :=
    (connected_watch acts s.game s.player).1 (Connected.isSubscribed ⟨s, mem, rfl, rfl, rfl⟩)
  published := published_iff acts
  once past id game excluded n registry later split :=
    ((sound_watch acts).grounded past (.began id game excluded n registry) later split).1
  audience id game excluded n registry began := by
    refine ⟨?_, (sound_watch acts).grounded.attempts_prefix began⟩
    obtain ⟨past, later, split⟩ := List.append_of_mem began
    obtain ⟨-, sorted, -⟩ :=
      (sound_watch acts).grounded past (.began id game excluded n registry) later split
    exact sorted.sublist (List.Sublist.map _ List.filter_sublist)
  answered id game excluded n registry began := by
    rw [← answered_watch acts id game excluded n registry began]
    simp [places]
  underway := (sound_watch acts).underway
  goes_on d mem now := (sound_watch acts).goesOn mem (targets_of_taken acts d mem) now
  finishes d mem clear := exists_returned acts mem fun c there readable => by
    by_contra full
    obtain ⟨n, holds⟩ := (sound_watch acts).isFull_iff.1 (Bool.not_eq_false _ ▸ full)
    exact clear c there (isReadable_iff.1 readable) n holds
  returned id count := (sound_watch acts).whole_of_returned
  reads c := by
    rw [(sound_watch acts).queued c]
    exact List.prefix_append _ _
  kept c := by
    rcases (sound_watch acts).holding c with ⟨-, same⟩ | ⟨slot, -, holds⟩
    · exact .inl same
    · exact .inr ⟨_, holds⟩
  found c n := (sound_watch acts).read_of_holds
  origin past c n later := (sound_watch acts).grounded.origin
  closed c := (sound_watch acts).closed_iff

/-- The second notice waits until the first one has been read, and then is not lost. -/
example : (watch [.subscribe "room" "ann" 0, .publish "room" none (.left "sam"),
    .publish "room" none (.left "eve"), .advance 0 1, .advance 1 1, .receive 0, .advance 1 2,
    .receive 0]).log.drop 3 =
      [.accepted 0 0 (.left "sam"), .read 0 (.left "sam"), .accepted 1 0 (.left "eve"),
        .read 0 (.left "eve")] := by
  decide

end GuessingRoom.Hub
