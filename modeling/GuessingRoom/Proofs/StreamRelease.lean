import GuessingRoom.Proofs.StreamTurns

/-!
# Streams are released

Requests come to a site, clients read from their streams and drop them, and feeds, batches and events
go on in between. Every request for events that was granted has its one feed for as long as the feed
runs, and after that its one delayed kick. The feed of a stream that was dropped goes on by itself until
it has ended, and on its way takes the player off the hub (`Visits.streams_are_released`).
-/

namespace GuessingRoom.Http

/-- A site, the requests and events that were ever begun on it, and for whom a kick was ever
scheduled. -/
structure Visits where
  site : Site
  calls : List (Errand Site Request Response) := []
  events : List (Errand Service Event (Except GameError Unit)) := []
  scheduled : List (Id × Id) := []

namespace Visits

inductive Act where
  /-- A request comes in. -/
  | request (r : Request)
  /-- The call with the given number takes its next step. -/
  | call (i : Nat)
  /-- The time of an event has come. -/
  | happen (due : Nat) (event : Event)
  /-- The event with the given number takes its next step. -/
  | event (i : Nat)
  /-- A job that is no feed goes on, if it can. -/
  | job (j : Job) (other : j.feed? = none)
  /-- The feed of the given number goes on, if it can. -/
  | feed (id : Nat)
  /-- A feed that has been told to end stops reading, whether or not there is more to read. -/
  | stop (id : Nat)
  /-- A client reads what there is to read from a stream. -/
  | read (id : Nat)
  | drop (id : Nat)
  /-- Some milliseconds pass. -/
  | wait (ms : Nat)

/-- The act is a step of the feed. -/
def Act.isOf (id : Nat) : Act → Bool
  | feed n => n == id
  | _ => false

/-- The site becomes another, by which kicks may be scheduled. -/
def turn (w : Visits) (site : Site) : Visits :=
  { w with site, scheduled := w.scheduled ++ site.service.kicks.diff w.site.service.kicks }

def serve (w : Visits) (service : Service) : Visits := w.turn { w.site with service }

def follow (w : Visits) : Job.Move → Visits
  | .waiting => w
  | .going s j => w.serve (s.spawn j)
  | .ended s => w.serve s

def moveFeed (w : Visits) (f : Feed) : Visits :=
  w.follow ((w.site.service.without (.feed f)).moveFeed f)

def stopFeed (w : Visits) (f : Feed) : Visits :=
  match f.phase with
  | .reading channel =>
    if w.site.service.stops f then
      w.serve ((w.site.service.without (.feed f)).spawn (.feed { f with phase := .leaving channel }))
    else w
  | _ => w

def feed? (w : Visits) (id : Nat) : Option Feed := w.site.service.feeds.find? (·.id == id)

def act (w : Visits) : Act → Visits
  | .request r =>
    { w with calls := w.calls ++ [{ task := r, rest := r.course w.site.secureCookies }] }
  | .call i =>
    match w.calls[i]? with
    | some e => { w.turn (e.advance w.site).1 with calls := w.calls.set i (e.advance w.site).2 }
    | none => w
  | .happen due event =>
    if .timer due event ∈ w.site.service.jobs ∧ due ≤ w.site.service.now then
      { w.serve (w.site.service.without (.timer due event)) with
        events := w.events ++ [{ task := event, rest := Operation.ofEvent event }] }
    else w
  | .event i =>
    match w.events[i]? with
    | some e =>
      { w.serve (e.advance w.site.service).1 with
        events := w.events.set i (e.advance w.site.service).2 }
    | none => w
  | .job j _ => if j ∈ w.site.service.jobs then w.follow ((w.site.service.without j).move j) else w
  | .feed id =>
    match w.feed? id with
    | some f => w.moveFeed f
    | none => w
  | .stop id =>
    match w.feed? id with
    | some f => w.stopFeed f
    | none => w
  | .read id => w.turn (w.site.readStream id).2.2
  | .drop id => w.turn (w.site.dropStream id)
  | .wait ms => w.serve { w.site.service with now := w.site.service.now + ms }

/-- What comes of a new site by the acts, one after another. -/
def run (settings : RoomSettings) (books : Books) (secureCookies : Bool) (acts : List Act) : Visits :=
  acts.foldl act { site := { service := { settings, books }, secureCookies } }

/-- For whom a call has opened a stream. -/
def openedBy (e : Errand Site Request Response) : List (Id × Id) :=
  match e.result? with
  | some response => e.task.opened response
  | none => []

/-- The game and the user of every request for events that was granted. -/
def opened (w : Visits) : List (Id × Id) := w.calls.flatMap openedBy

/-- The stream of this number was opened, and it has been dropped. -/
def Dropped (w : Visits) (id : Nat) : Prop :=
  id < w.site.service.nextFeed ∧ id ∉ w.site.streams.map (·.feed)

/-! ## What is kept -/

/-- Feeds are tended to, there is one of them or a kick for every stream that was opened, and calls go
on as they should. -/
structure Sound (w : Visits) : Prop where
  tended : w.site.Tended
  counted : (w.scheduled ++ w.site.service.feeds.map Feed.seat).Perm w.opened
  proceeds : ∀ e ∈ w.calls, e.task.Proceeds e.rest
  happens : ∀ e ∈ w.events, e.rest.Along fun s t : Service => s.Undisturbed t
  /-- The stream of a response goes by the number of its feed. -/
  own : ∀ e ∈ w.calls, ∀ response id, e.result? = some response → response.stream? = some id →
    id < w.site.service.nextFeed ∧
      ∀ f ∈ w.site.service.feeds, f.id = id → e.task.stream? = some f.seat

/-- The site has taken a turn, and all that is kept is kept. -/
structure Next (w after : Visits) : Prop where
  sound : after.Sound
  turn : ∃ opened scheduled, w.site.Turn after.site opened scheduled

theorem perm_flatMap_set {α β : Type} {l : List α} {i : Nat} {a : α} (here : l[i]? = some a) (b : α)
    {f : α → List β} (none : f a = []) : ((l.set i b).flatMap f).Perm (l.flatMap f ++ f b) := by
  induction l generalizing i with
  | nil => cases here
  | cons c l ih =>
    cases i with
    | zero =>
      cases here
      rw [List.set_cons_zero, List.flatMap_cons, List.flatMap_cons, none, List.nil_append]
      exact List.perm_append_comm
    | succ i =>
      rw [List.set_cons_succ, List.flatMap_cons, List.flatMap_cons, List.append_assoc]
      exact (ih here).append_left _

namespace Sound

variable {w : Visits} (h : w.Sound)
include h

/-- The site takes a turn, and with a call that was not at its end something may be opened. -/
theorem turn {site : Site} {opened scheduled : List (Id × Id)} (turn : w.site.Turn site opened scheduled)
    {calls : List (Errand Site Request Response)}
    {events : List (Errand Service Event (Except GameError Unit))}
    (counts : (calls.flatMap openedBy).Perm (w.opened ++ opened))
    (proceeds : ∀ e ∈ calls, e.task.Proceeds e.rest)
    (happens : ∀ e ∈ events, e.rest.Along fun s t : Service => s.Undisturbed t)
    (own : ∀ e ∈ calls, e ∈ w.calls ∨ ∀ response id, e.result? = some response →
      response.stream? = some id → id < site.service.nextFeed ∧
        ∀ f ∈ site.service.feeds, f.id = id → e.task.stream? = some f.seat) :
    w.Next { w.turn site with calls, events } := by
  refine ⟨⟨h.tended.turn turn, ?_, proceeds, happens, fun e mem => ?_⟩, _, _, turn⟩
  · show (w.scheduled ++ site.service.kicks.diff w.site.service.kicks ++ _).Perm _
    rw [turn.kicks, List.append_assoc]
    refine (turn.counted.append_left _).trans ?_
    rw [← List.append_assoc]
    exact (h.counted.append_right _).trans counts.symm
  · rcases own e mem with old | new
    · intro response id ended stream
      obtain ⟨known, its⟩ := h.own e old response id ended stream
      refine ⟨known.trans_le turn.nextFeed_le, fun g there of => ?_⟩
      rcases turn.older g there with ⟨f, older, becomes⟩ | ⟨new, -⟩
      · rw [becomes.seat]
        exact its f older (becomes.id.symm.trans of)
      · exact absurd (new.trans of) known.ne'
    · exact new

/-- The site takes a turn at which nothing is opened. -/
theorem quiet {site : Site} {scheduled : List (Id × Id)} (turn : w.site.Turn site [] scheduled) :
    w.Next (w.turn site) :=
  h.turn turn (by rw [List.append_nil]; rfl) h.proceeds h.happens fun e mem => .inl mem

end Sound

/-! ## Steps of calls -/

/-- What a step of a call comes to: nothing is scheduled and nobody connects, and there are new feeds
only if a stream is opened, which then has the number of its feed. -/
structure CallTurns (r : Request) (site after : Site) (rest : Script Site Response) : Prop where
  turn (found : List Site) : site.Turn after (openedBy ⟨r, found, rest⟩) []
  hub : after.service.hub = site.service.hub
  feeds (found : List Site) : openedBy ⟨r, found, rest⟩ = [] → after.service.feeds = site.service.feeds
  own : site.Tended → ∀ response id, rest = .done response → response.stream? = some id →
    id < after.service.nextFeed ∧ ∀ f ∈ after.service.feeds, f.id = id → r.stream? = some f.seat

theorem openedBy_of_silent {r : Request} {rest : Script Site Response} (silent : r.Silent rest)
    (found : List Site) : openedBy ⟨r, found, rest⟩ = [] := by
  cases rest with
  | done response => exact silent.1
  | step => rfl

theorem openedBy_of_granted {r : Request} {game user : Id} {response : Response}
    (asked : r.stream? = some (game, user)) (granted : response.status = 200) (found : List Site) :
    openedBy ⟨r, found, .done response⟩ = [(game, user)] := by
  show r.opened response = _
  unfold Request.opened
  rw [if_pos granted, asked]
  rfl

theorem callTurns {r : Request} {site after : Site} {rest : Script Site Response}
    (step : r.Step site after rest) : CallTurns r site after rest := by
  cases step with
  | works service _ stride silent =>
    have none := openedBy_of_silent silent
    refine ⟨fun found => ?_, stride.hub, fun _ _ => stride.feeds, fun _ response id ended stream => ?_⟩
    · rw [none]
      exact .rests service (.of_stride stride)
    · subst ended
      rw [silent.2] at stream
      cases stream
  | opens game user v response asked granted stream =>
    have one := openedBy_of_granted asked granted
    refine ⟨fun found => ?_, rfl, fun found none => ?_, fun tended response' id ended its => ?_⟩
    · rw [one]
      exact .opens game user v
    · rw [one] at none
      cases none
    · cases ended
      obtain rfl : site.service.nextFeed = id := Option.some.inj (stream.symm.trans its)
      refine ⟨Nat.lt_succ_self _, fun f mem of => ?_⟩
      rw [Site.feeds_openStream] at mem
      rcases List.mem_append.1 mem with old | new
      · exact absurd of (tended.known f old).ne
      · cases List.mem_singleton.1 new
        exact asked
  | drops game user v response asked granted stream =>
    have one := openedBy_of_granted asked granted
    obtain ⟨inboxes, same, -⟩ := (site.openStream game user v).2.dropStream_eq site.service.nextFeed
    refine ⟨fun found => ?_, ?_, fun found none => ?_, fun tended response' id ended its => ?_⟩
    · rw [one]
      exact .opensHead game user v
    · rw [same]
      rfl
    · rw [one] at none
      cases none
    · cases ended
      rw [stream] at its
      cases its

/-- A call is at its end, or takes one of these steps. -/
theorem call_cases {w : Visits} (h : w.Sound) {i : Nat} {e : Errand Site Request Response}
    (here : w.calls[i]? = some e) : w.act (.call i) = w.turn w.site ∨
      ∃ after rest, openedBy e = [] ∧ e.task.Proceeds rest ∧ CallTurns e.task w.site after rest ∧
        w.act (.call i) = { w.turn after with
          calls := w.calls.set i { e with found := e.found ++ [w.site], rest } } := by
  have goes : w.act (.call i) =
      { w.turn (e.advance w.site).1 with calls := w.calls.set i (e.advance w.site).2 } := by
    unfold act
    dsimp only
    rw [here]
  have proceeds := h.proceeds e (List.mem_of_getElem? here)
  rw [goes]
  obtain ⟨task, found, rest⟩ := e
  cases rest with
  | done response =>
    left
    obtain ⟨lt, same⟩ := List.getElem?_eq_some_iff.1 here
    show { w.turn w.site with calls := w.calls.set i ⟨task, found, .done response⟩ } = _
    rw [← same, List.set_getElem_self]
    rfl
  | step effect next =>
    obtain ⟨step, later⟩ := proceeds w.site
    exact .inr ⟨_, _, rfl, later, callTurns step, rfl⟩

namespace Sound

variable {w : Visits} (h : w.Sound)
include h

theorem stays : w.Next w := ⟨h, _, _, .rests w.site.service (.refl _)⟩

theorem still : w.Next (w.turn w.site) := h.quiet (.rests w.site.service (.refl _))

theorem call (i : Nat) : w.Next (w.act (.call i)) := by
  cases here : w.calls[i]? with
  | none =>
    unfold act
    dsimp only
    rw [here]
    exact h.stays
  | some e =>
    rcases call_cases h here with same | ⟨after, rest, none, proceeds, turns, same⟩
    · rw [same]
      exact h.still
    · have either {P : Errand Site Request Response → Prop} (old : ∀ x ∈ w.calls, P x)
          (new : P { e with found := e.found ++ [w.site], rest }) :
          ∀ x ∈ w.calls.set i { e with found := e.found ++ [w.site], rest }, P x := fun x mem => by
        rcases List.mem_or_eq_of_mem_set mem with there | rfl
        · exact old x there
        · exact new
      rw [same]
      refine h.turn (turns.turn _) (perm_flatMap_set here _ none) (either h.proceeds proceeds) h.happens
        (either (fun x there => .inl there) (.inr fun response id ended stream => ?_))
      exact turns.own h.tended response id (Errand.result?_eq_some_iff.1 ended) stream

theorem happening {service : Service} (same : w.site.service.Undisturbed service)
    {events : List (Errand Service Event (Except GameError Unit))}
    (happens : ∀ e ∈ events, e.rest.Along fun s t : Service => s.Undisturbed t) :
    w.Next { w.serve service with events } :=
  h.turn (.rests service same) (by rw [List.append_nil]; rfl) h.proceeds happens fun _ mem => .inl mem

theorem happen (due : Nat) (event : Event) : w.Next (w.act (.happen due event)) := by
  unfold act
  dsimp only
  split
  · refine h.happening (.without w.site.service rfl) (List.forall_mem_append.2 ⟨h.happens, ?_⟩)
    exact List.forall_mem_singleton.2 (Service.Undisturbed.along_ofEvent event)
  · exact h.stays

theorem event (i : Nat) : w.Next (w.act (.event i)) := by
  unfold act
  dsimp only
  split
  · rename_i e here
    have along := h.happens e (List.mem_of_getElem? here)
    have before : ∀ x ∈ w.events, x.rest.Along fun s t : Service => s.Undisturbed t := h.happens
    obtain ⟨task, found, rest⟩ := e
    cases rest with
    | done a =>
      refine h.happening (.refl _) fun x mem => ?_
      rcases List.mem_or_eq_of_mem_set mem with old | rfl
      · exact before x old
      · trivial
    | step effect next =>
      refine h.happening (along w.site.service).1 fun x mem => ?_
      rcases List.mem_or_eq_of_mem_set mem with old | rfl
      · exact before x old
      · exact (along w.site.service).2
  · exact h.stays

theorem job {j : Job} (other : j.feed? = none) : w.Next (w.act (.job j other)) := by
  unfold act
  dsimp only
  split
  · have spares := (w.site.service.without j).sparesFeeds_move other
    have same := Service.Undisturbed.without w.site.service other
    generalize (w.site.service.without j).move j = move at spares
    cases move with
    | waiting => exact h.stays
    | going t j =>
      obtain ⟨feed, kick, goes⟩ := spares
      exact h.quiet (.rests _ ((same.trans goes).spawn feed kick))
    | ended t => exact h.quiet (.rests t (same.trans spares))
  · exact h.stays

theorem moveFeed {f : Feed} (mem : f ∈ w.site.service.feeds) : w.Next (w.moveFeed f) := by
  have passes := Service.passes (s := w.site.service.without (.feed f)) (h.tended.kicks f mem)
  unfold Visits.moveFeed
  generalize (w.site.service.without (.feed f)).moveFeed f = move at passes
  cases passes with
  | waits => exact h.stays
  | goes t phase failure goes => exact h.quiet (.moves f mem t phase failure goes)
  | ends t ends => exact h.quiet (.ends f mem t ends)

theorem stopFeed {f : Feed} (mem : f ∈ w.site.service.feeds) : w.Next (w.stopFeed f) := by
  unfold Visits.stopFeed
  split
  · rename_i c reading
    split
    · have goes : (w.site.service.without (.feed f)).FeedGoes f _ (.leaving c) :=
        Service.feedGoes_reading reading (.of_inboxes rfl) rfl rfl rfl (.inl rfl)
      exact h.quiet (.moves f mem _ (.leaving c) f.failure goes)
    · exact h.stays
  · exact h.stays

theorem act (a : Act) : w.Next (w.act a) := by
  cases a with
  | request r =>
    refine ⟨⟨h.tended, ?_, List.forall_mem_append.2 ⟨h.proceeds, ?_⟩, h.happens, fun e mem => ?_⟩,
      h.stays.turn⟩
    · show (w.scheduled ++ _).Perm ((w.calls ++ _).flatMap openedBy)
      rw [List.flatMap_append, List.flatMap_singleton,
        openedBy_of_silent (r.proceeds_course _).1, List.append_nil]
      exact h.counted
    · exact List.forall_mem_singleton.2 (r.proceeds_course _).2
    · rcases List.mem_append.1 mem with old | new
      · exact h.own e old
      · intro response id ended stream
        rw [List.mem_singleton.1 new] at ended
        have silent := (r.proceeds_course w.site.secureCookies).1
        have atOnce : r.course w.site.secureCookies = .done response :=
          Errand.result?_eq_some_iff.1 ended
        rw [atOnce] at silent
        rw [silent.2] at stream
        cases stream
  | call i => exact h.call i
  | happen due event => exact h.happen due event
  | event i => exact h.event i
  | job j other => exact h.job other
  | feed id =>
    unfold Visits.act
    dsimp only
    split
    · rename_i f found
      exact h.moveFeed (List.mem_of_find?_eq_some found)
    · exact h.stays
  | stop id =>
    unfold Visits.act
    dsimp only
    split
    · rename_i f found
      exact h.stopFeed (List.mem_of_find?_eq_some found)
    · exact h.stays
  | read id => exact h.quiet (.reads id)
  | drop id => exact h.quiet (.drops id)
  | wait ms => exact h.quiet (.rests _ ⟨rfl, rfl, rfl, List.Sublist.refl _⟩)

end Sound

theorem start (settings : RoomSettings) (books : Books) (secureCookies : Bool) :
    (run settings books secureCookies []).Sound where
  tended := by
    constructor
    · exact List.nodup_nil
    all_goals nofun
  counted := .nil
  proceeds := nofun
  happens := nofun
  own := nofun

theorem Sound.later {w : Visits} (h : w.Sound) (later : List Act) :
    (later.foldl Visits.act w).Sound := by
  induction later generalizing w with
  | nil => exact h
  | cons a later ih => exact ih (h.act a).sound

theorem sound_run (settings : RoomSettings) (books : Books) (secureCookies : Bool)
    (acts : List Act) : (run settings books secureCookies acts).Sound :=
  (start settings books secureCookies).later acts

/-! ## Streams that were dropped -/

section Dropped

variable {w : Visits} {id : Nat}

theorem Dropped.act (dropped : w.Dropped id) (h : w.Sound) (a : Act) : (w.act a).Dropped id := by
  obtain ⟨opened, scheduled, turn⟩ := (h.act a).turn
  exact ⟨dropped.1.trans_le turn.nextFeed_le, turn.gone dropped.1 dropped.2⟩

theorem Dropped.later (dropped : w.Dropped id) (h : w.Sound) (later : List Act) :
    (later.foldl Visits.act w).Dropped id := by
  induction later generalizing w with
  | nil => exact dropped
  | cons a later ih => exact ih (dropped.act h a) (h.act a).sound

theorem dropped_drop (known : id < w.site.service.nextFeed) : (w.act (.drop id)).Dropped id := by
  obtain ⟨inboxes, same, -⟩ := w.site.dropStream_eq id
  have site : (w.act (.drop id)).site = w.site.dropStream id := rfl
  unfold Dropped
  rw [site, same]
  refine ⟨known, fun mem => ?_⟩
  obtain ⟨s, there, own⟩ := List.mem_map.1 mem
  exact bne_iff_ne.1 (List.mem_filter.1 there).2 own

/-- The feed of a stream that was dropped is ready to go on. -/
theorem isReady_of_dropped (h : w.Sound) (dropped : w.Dropped id) {f : Feed}
    (mem : f ∈ w.site.service.feeds) (own : f.id = id) :
    w.site.service.isReady (.feed f) = true := by
  have released := h.tended.released mem (own ▸ dropped.2)
  have passes : w.site.service.Passes f (w.site.service.move (.feed f)) :=
    Service.passes (h.tended.kicks f mem)
  unfold Service.isReady
  generalize w.site.service.move (.feed f) = move at passes
  cases passes with
  | waits held => exact absurd released held
  | goes => rfl
  | ends => rfl

/-- Each of its own steps brings it nearer to its end. -/
theorem nearer_of_dropped (h : w.Sound) (dropped : w.Dropped id) {g : Feed}
    (mem : g ∈ (w.act (.feed id)).site.service.feeds) (own : g.id = id) :
    ∃ f ∈ w.site.service.feeds, f.id = id ∧ g.phase.weight < f.phase.weight := by
  unfold Visits.act at mem
  dsimp only at mem
  split at mem
  · rename_i f found
    have there : f ∈ w.site.service.feeds := List.mem_of_find?_eq_some found
    have its : f.id = id := by simpa using List.find?_some found
    have released := h.tended.released there (its ▸ dropped.2)
    have passes := Service.passes (s := w.site.service.without (.feed f)) (h.tended.kicks f there)
    -- there is no other feed of the number
    have alone : g ∉ w.site.service.feeds.erase f := fun other => by
      have distinct := ((List.perm_cons_erase there).map (·.id)).nodup_iff.1 h.tended.ids
      exact (List.nodup_cons.1 distinct).1 (List.mem_map.2 ⟨g, other, own.trans its.symm⟩)
    unfold Visits.moveFeed at mem
    generalize (w.site.service.without (.feed f)).moveFeed f = move at passes mem
    cases passes with
    | waits held => exact absurd ⟨released.cancelled, released.received, released.gone⟩ held
    | goes t phase failure goes =>
      have mem : g ∈ (t.spawn (.feed { f with phase, failure })).feeds := mem
      rw [Site.feeds_moves goes] at mem
      rcases List.mem_append.1 mem with other | new
      · exact absurd other alone
      · cases List.mem_singleton.1 new
        exact ⟨f, there, its,
          goes.nearer ⟨released.cancelled, released.received, released.gone⟩⟩
    | ends t ends =>
      have mem : g ∈ t.feeds := mem
      rw [Site.feeds_ends ends] at mem
      exact absurd mem alone
  · rename_i none
    exact absurd own (by simpa using List.find?_eq_none.1 none g mem)

theorem weight_later (h : w.Sound) (dropped : w.Dropped id) (later : List Act) :
    ∀ f ∈ (later.foldl Visits.act w).site.service.feeds, f.id = id →
      f.phase.weight + later.countP (Act.isOf id) ≤ 4 := by
  induction later using List.reverseRecOn with
  | nil =>
    intro f _ _
    cases f.phase <;> simp [FeedPhase.weight]
  | append_singleton later a ih =>
    intro g mem own
    rw [List.foldl_append] at mem
    have sound := h.later later
    have still := dropped.later h later
    rw [List.countP_append, List.countP_singleton]
    obtain ⟨f, there, its, less⟩ : ∃ f ∈ (later.foldl Visits.act w).site.service.feeds, f.id = id ∧
        g.phase.weight + (if a.isOf id then 1 else 0) ≤ f.phase.weight := by
      by_cases steps : a.isOf id = true
      · obtain rfl : a = .feed id := by
          cases a with
          | feed n => exact congrArg Act.feed (beq_iff_eq.1 steps)
          | _ => cases steps
        rw [if_pos steps]
        exact nearer_of_dropped sound still mem own
      · obtain ⟨opened, scheduled, turn⟩ := (sound.act a).turn
        rcases turn.older g mem with ⟨f, there, becomes⟩ | ⟨new, -⟩
        · rw [if_neg steps]
          exact ⟨f, there, becomes.id.symm.trans own, becomes.onward⟩
        · exact absurd (new.trans own) still.1.ne'
    have before := ih f there its
    omega

end Dropped

/-! ## Players are taken off the hub -/

/-- A feed that has nothing before it but its end has taken its player off the hub. -/
def Left (w : Visits) (id : Nat) : Prop :=
  ∃ f ∈ w.site.service.feeds, f.id = id ∧ (∃ c, f.phase = .closing c) ∧
    ∀ game, w.site.service.hub.isSubscribed game f.player = false

theorem exists_left (settings : RoomSettings) (books : Books) (secureCookies : Bool)
    (acts : List Act) {id : Nat}
    (known : id < (run settings books secureCookies acts).site.service.nextFeed) :
    (∃ f ∈ (run settings books secureCookies acts).site.service.feeds, f.id = id ∧
      1 < f.phase.weight) ∨
    ∃ past, past <+: acts ∧ (run settings books secureCookies past).Left id := by
  induction acts using List.reverseRecOn with
  | nil => exact absurd known (Nat.not_lt_zero id)
  | append_singleton acts a ih =>
    have snoc : run settings books secureCookies (acts ++ [a]) =
        (run settings books secureCookies acts).act a := List.foldl_append
    obtain ⟨opened, scheduled, turn⟩ := ((sound_run settings books secureCookies acts).act a).turn
    rw [← snoc] at turn
    by_cases old : id < (run settings books secureCookies acts).site.service.nextFeed
    · rcases ih old with ⟨f, mem, own, stays⟩ | ⟨past, before, left⟩
      · obtain ⟨g, there, becomes, leaves⟩ := turn.leaves mem stays
        have its := becomes.id.trans own
        by_cases few : g.phase.weight ≤ 1
        · have player : g.player = f.player := congrArg Prod.snd becomes.seat
          refine .inr ⟨_, List.prefix_refl _, g, there, its, FeedPhase.exists_eq_closing few, ?_⟩
          rw [player]
          exact leaves few
        · exact .inl ⟨g, there, its, Nat.lt_of_not_le few⟩
      · exact .inr ⟨past, before.trans (List.prefix_append _ _), left⟩
    · rcases turn.begins with same | ⟨one, f, mem, its, opening⟩
      · exact absurd (same ▸ known) old
      · refine .inl ⟨f, mem, by omega, ?_⟩
        rw [opening]
        decide

/-! ## The law -/

/-- How streams are released. -/
structure Releases (w : Visits) : Prop where
  /-- There is a feed or a delayed kick for every request for events that was granted, and no other. -/
  counted : w.scheduled.length + w.site.service.feeds.length = w.opened.length
  seats : (w.scheduled ++ w.site.service.feeds.map Feed.seat).Perm w.opened
  /-- Calls schedule no kicks and connect nobody, and those that are answered otherwise start no
  feed. -/
  calls : ∀ i, (w.act (.call i)).scheduled = w.scheduled ∧
    (w.act (.call i)).site.service.hub = w.site.service.hub ∧
    ((w.act (.call i)).opened = w.opened →
      (w.act (.call i)).site.service.feeds = w.site.service.feeds)
  /-- The body of a response is a stream that was opened, whose feed is that of the request. -/
  bodies : ∀ e ∈ w.calls, ∀ response id, e.result? = some response → response.body = .events id →
    (w.act (.drop id)).Dropped id ∧
      ∀ f ∈ w.site.service.feeds, f.id = id → e.task.stream? = some f.seat
  /-- The feed of a stream that was dropped is always ready, and ends by four steps of its own. -/
  ends : ∀ id, w.Dropped id → ∀ later : List Act,
    (∀ f ∈ (later.foldl act w).site.service.feeds, f.id = id →
      (later.foldl act w).site.service.isReady (.feed f) = true) ∧
    (4 ≤ later.countP (Act.isOf id) → ∀ f ∈ (later.foldl act w).site.service.feeds, f.id ≠ id)
  /-- When everything waits, no feed is left whose stream was dropped. -/
  settled : (∀ j ∈ w.site.service.jobs, w.site.service.isReady j = false) →
    ∀ f ∈ w.site.service.feeds, ¬ w.Dropped f.id

theorem calls_connect_nobody {w : Visits} (h : w.Sound) (i : Nat) :
    (w.act (.call i)).scheduled = w.scheduled ∧
      (w.act (.call i)).site.service.hub = w.site.service.hub ∧
      ((w.act (.call i)).opened = w.opened →
        (w.act (.call i)).site.service.feeds = w.site.service.feeds) := by
  cases here : w.calls[i]? with
  | none =>
    have same : w.act (.call i) = w := by
      unfold act
      dsimp only
      rw [here]
    rw [same]
    exact ⟨rfl, rfl, fun _ => rfl⟩
  | some e =>
    rcases call_cases h here with same | ⟨after, rest, none, -, turns, same⟩
    · rw [same]
      have still : w.site.Turn w.site [] [] := .rests w.site.service (.refl _)
      refine ⟨?_, rfl, fun _ => rfl⟩
      show w.scheduled ++ _ = _
      rw [still.kicks, List.append_nil]
    · rw [same]
      refine ⟨?_, turns.hub, fun opened => turns.feeds (e.found ++ [w.site]) ?_⟩
      · show w.scheduled ++ _ = _
        rw [(turns.turn []).kicks, List.append_nil]
      · have more := (perm_flatMap_set here { e with found := e.found ++ [w.site], rest } none).length_eq
        rw [List.length_append, show (w.calls.set i _).flatMap openedBy = w.opened from opened] at more
        exact List.length_eq_zero_iff.1 (Nat.left_eq_add.1 more)

/-- Every stream is released: a request for events that is granted has a feed as long as the feed runs
and a delayed kick after that, and when the stream has been dropped the feed ends by itself. Before a
feed has ended it has taken its player off the hub. -/
theorem streams_are_released (settings : RoomSettings) (books : Books) (secureCookies : Bool)
    (acts : List Act) :
    let w := run settings books secureCookies acts
    w.Releases ∧
      ∀ id < w.site.service.nextFeed, (∀ f ∈ w.site.service.feeds, f.id ≠ id) →
        ∃ past, past <+: acts ∧ (run settings books secureCookies past).Left id := by
  intro w
  have h : w.Sound := sound_run settings books secureCookies acts
  refine ⟨⟨?_, h.counted, calls_connect_nobody h, ?_, ?_, ?_⟩, ?_⟩
  · have lengths := h.counted.length_eq
    rwa [List.length_append, List.length_map] at lengths
  · intro e mem response id ended body
    have stream : response.stream? = some id := by
      unfold Response.stream?
      rw [body]
    obtain ⟨known, its⟩ := h.own e mem response id ended stream
    exact ⟨dropped_drop known, its⟩
  · intro id dropped later
    refine ⟨fun f mem own => ?_, fun steps f mem own => ?_⟩
    · exact isReady_of_dropped (h.later later) (dropped.later h later) mem own
    · have few := weight_later h dropped later f mem own
      have some : 1 ≤ f.phase.weight := by
        cases f.phase <;> simp [FeedPhase.weight]
      omega
  · intro waits f mem dropped
    have ready := isReady_of_dropped h dropped mem rfl
    rw [waits _ (Service.mem_feeds.1 mem)] at ready
    cases ready
  · intro id known ended
    rcases exists_left settings books secureCookies acts known with ⟨f, mem, own, -⟩ | left
    · exact absurd own (ended f mem)
    · exact left

def asks (method target cookie : String) : Act :=
  .request { method, target, headers := [("cookie", cookie)], body := "" }

/-- Somebody opens a game, asks for its events, and has gone before a single byte was read. -/
def unread : List Act :=
  [asks "POST" "/session" ""] ++ List.replicate 5 (.call 0) ++
    [asks "POST" "/games" "userid=|"] ++ List.replicate 3 (.call 1) ++
    [asks "GET" "/games/||||||/events" "userid=|"] ++ List.replicate 8 (.call 2) ++
    [.drop 0, .feed 0, .feed 0, .feed 0, .feed 0]

example :
    let w := run {} (Service.opening [⟨"w", "cat", "pet"⟩]).books true unread
    (w.opened, w.scheduled, w.site.service.feeds) =
      ([("||||||", "|")], [("||||||", "|")], []) := by decide +kernel

end Visits

end GuessingRoom.Http
