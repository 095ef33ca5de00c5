import GuessingRoom.Http.Site
import GuessingRoom.Proofs.Kicks

/-!
# Requests to the site, step by step

What `Site.handle` does in one go is a course of steps on the service, between which others may take
theirs, and at the end of which stands the response (`Request.course`, `Request.run_course`). Every
step of it is a stride of the service, but for the last one of a request for events that succeeds,
which opens a stream (`Request.proceeds_course`).
-/

namespace GuessingRoom.Http

namespace Site

variable {α β : Type}

/-- A course of the service, taken on the site. -/
def onService : Script Service α → Script Site α
  | .done a => .done a
  | .step effect next =>
    .step (fun site => { site with service := effect site.service }) fun site =>
      onService (next site.service)

theorem run_onService (x : Script Service α) (site : Site) : (onService x).run site =
    ((x.run site.service).1, { site with service := (x.run site.service).2 }) := by
  induction x generalizing site with
  | done a => rfl
  | step effect next ih => exact ih site.service { site with service := effect site.service }

/-- The response without its body if only the head was asked for. -/
def headed (r : Request) (response : Response) : Response :=
  if r.method == "HEAD" then response.withoutBody else response

/-- The operation step by step, and the answer. -/
def performing (r : Request) (op : Operation α) (answer : α → Response) : Script Site Response :=
  (onService op).bind fun
    | .ok a => .done (headed r (answer a))
    | .error e => .done (headed r (ApiError.game e).response)

/-- The response to whoever may see the events of a game, and the site with the stream. -/
def opened (game user : Id) (v : View) (site : Site) : Response × Site :=
  match site.openStream game user v with
  | (stream, site) =>
    ({ status := 200, contentType := some "text/event-stream", body := .events stream }, site)

/-- The look at the game step by step, and the stream. -/
def opening (r : Request) (game user : Id) : Script Site Response :=
  (onService (Operation.view game user)).bind fun
    | .ok v => .act fun site => headOnly r (opened game user v site)
    | .error e => .done (headed r (ApiError.game e).response)

/-- What concerns one game, step by step. -/
def inGame (r : Request) (raw : List Char) (course : Id → Script Site Response) :
    Script Site Response :=
  match decodeText? raw with
  | some game => course game
  | none => .done (headed r (.ofText 400 "Invalid URL: Invalid UTF-8 in `game_id`"))

/-- What is posted in a game, step by step. -/
def posting (r : Request) (op : String → Operation Post) : Script Site Response :=
  match content r with
  | .ok text => performing r (op text) (.ofRecord 201)
  | .error response => .done (headed r response)

/-- The answer to a new session. -/
def welcome (secureCookies : Bool) (user : User) : Response :=
  { Response.ofRecord 201 (SessionAnswer.mk user.id user.nickname) with
    cookies := [writeCookie "userid" user.id secureCookies,
      writeCookie "nickname" user.nickname secureCookies] }

/-- The answer to a request by a method that the resource takes, step by step. -/
def answering (r : Request) (user : Id) (secureCookies : Bool) : Resource → Script Site Response
  | .health => .done (headed r (.ofText 200 "ok"))
  | .session => performing r Operation.initUser (welcome secureCookies)
  | .games => performing r (Operation.initGame user) fun game => .ofRecord 201 (GameAnswer.mk game.id)
  | .game id => inGame r id fun game => performing r (Operation.view game user) (.ofRecord 200)
  | .join id => inGame r id fun game =>
    performing r (Operation.join game user) fun _ => { status := 204 }
  | .leaderboard id => inGame r id fun game =>
    performing r (Operation.leaderboard game user) fun lines => .ofJson 200 (leaderboardJson lines)
  | .word id => inGame r id fun game =>
    performing r (Operation.word game user) fun word => .ofRecord 200 (WordAnswer.mk word)
  | .guess id => inGame r id fun game => posting r (Operation.guess game user)
  | .messages id => inGame r id fun game => posting r (Operation.say game user)
  | .events id => inGame r id fun game => opening r game user

end Site

open Site

/-- How a request is answered, step by step. -/
def Request.course (r : Request) (secureCookies : Bool) : Script Site Response :=
  match Resource.ofPath? r.path with
  | none =>
    match r.session? with
    | some _ => .done { status := 404 }
    | none => .done ApiError.unauthorized.response
  | some resource =>
    match r.session?, resource.needsSession, resource.takes r.method with
    | none, true, true => .done (headed r ApiError.unauthorized.response)
    | none, true, false => .done (headed r (refuseMethod resource ApiError.unauthorized.response))
    | _, _, false => .done (headed r (refuseMethod resource { status := 405 }))
    | user, _, true => answering r (user.getD "") secureCookies resource

/-! ## In one go -/

/-- The stream that the body of the response is, if it is one. -/
def Response.stream? (response : Response) : Option Nat :=
  match response.body with
  | .events stream => some stream
  | _ => none

namespace Site

variable {α : Type} (r : Request) (site : Site)

theorem headOnly_of_plain {response : Response} (plain : response.stream? = none) :
    headOnly r (response, site) = (headed r response, site) := by
  unfold headOnly headed
  dsimp only
  split
  · unfold Response.stream? at plain
    split
    · rename_i stream body
      rw [body] at plain
      cases plain
    · rfl
  · rfl

theorem stream?_headed {response : Response} (plain : response.stream? = none) :
    (headed r response).stream? = none := by
  unfold headed
  split
  · rfl
  · exact plain

theorem plain_of_content {response : Response} (refused : content r = .error response) :
    response.stream? = none := by
  unfold content at refused
  split at refused
  · cases refused
    rfl
  · split at refused
    · cases refused
      rfl
    · split at refused
      · cases refused
        rfl
      · cases refused
        rfl
      · split at refused
        · cases refused
          rfl
        · split at refused <;> cases refused
          rfl

theorem run_performing (op : Operation α) {answer : α → Response}
    (plain : ∀ a, (answer a).stream? = none) :
    (performing r op answer).run site = headOnly r (site.perform op answer) := by
  unfold performing perform Operation.run
  show (onService op >>= _).run site = _
  rw [Script.run_bind, run_onService]
  rcases Script.run op site.service with ⟨e | a, service⟩
  · exact (headOnly_of_plain r _ rfl).symm
  · exact (headOnly_of_plain r _ (plain a)).symm

theorem run_opening (game user : Id) :
    (opening r game user).run site = headOnly r (site.events game user) := by
  unfold opening events Operation.run
  show (onService (Operation.view game user) >>= _).run site = _
  rw [Script.run_bind, run_onService]
  rcases Script.run (Operation.view game user) site.service with ⟨e | v, service⟩
  · exact (headOnly_of_plain r _ rfl).symm
  · rfl

theorem run_inGame (raw : List Char) {course : Id → Script Site Response}
    (answer : Id → Site → Response × Site)
    (same : ∀ game, (course game).run site = headOnly r (answer game site)) :
    (inGame r raw course).run site = headOnly r (site.withGame raw answer) := by
  unfold inGame withGame
  cases decodeText? raw with
  | some game => exact same game
  | none => exact (headOnly_of_plain r site rfl).symm

/-- What is posted in a game, in one go. -/
def posted (op : String → Operation Post) (site : Site) : Response × Site :=
  match content r with
  | .ok text => site.perform (op text) (.ofRecord 201)
  | .error response => (response, site)

theorem run_posting (op : String → Operation Post) :
    (posting r op).run site = headOnly r (site.posted r op) := by
  unfold posting posted
  cases posted : content r with
  | ok text => exact run_performing r site _ fun _ => rfl
  | error response => exact (headOnly_of_plain r site (plain_of_content r posted)).symm

theorem run_answering (user : Id) (resource : Resource) :
    (answering r user site.secureCookies resource).run site =
      headOnly r (site.answer r user resource) := by
  cases resource with
  | health => exact (headOnly_of_plain r site rfl).symm
  | session => exact run_performing r site _ fun _ => rfl
  | games => exact run_performing r site _ fun _ => rfl
  | game id => exact run_inGame r site id _ fun game => run_performing r site _ fun _ => rfl
  | join id => exact run_inGame r site id _ fun game => run_performing r site _ fun _ => rfl
  | leaderboard id => exact run_inGame r site id _ fun game => run_performing r site _ fun _ => rfl
  | word id => exact run_inGame r site id _ fun game => run_performing r site _ fun _ => rfl
  | guess id =>
    exact run_inGame r site id (fun game => posted r (Operation.guess game user)) fun game =>
      run_posting r site _
  | messages id =>
    exact run_inGame r site id (fun game => posted r (Operation.say game user)) fun game =>
      run_posting r site _
  | events id => exact run_inGame r site id _ fun game => run_opening r site game user

end Site

/-- All steps in a row are what the site does with the request. -/
theorem Request.run_course (r : Request) (site : Site) :
    (r.course site.secureCookies).run site = site.handle r := by
  unfold course handle
  cases Resource.ofPath? r.path with
  | none => cases r.session? <;> rfl
  | some resource =>
    dsimp only
    cases r.session? <;> cases resource.needsSession <;> cases resource.takes r.method <;>
      first
        | exact run_answering r site _ resource
        | exact (headOnly_of_plain r site rfl).symm

/-! ## What the steps come to -/

/-- Whoever asks for the events of a game: the game, and the user of the session. -/
def Request.stream? (r : Request) : Option (Id × Id) :=
  match Resource.ofPath? r.path, r.session? with
  | some (.events raw), some user => (decodeText? raw).map fun game => (game, user)
  | _, _ => none

/-- Whom a response lets follow a game: those who asked for its events and have got them. -/
def Request.opened (r : Request) (response : Response) : List (Id × Id) :=
  if response.status = 200 then r.stream?.toList else []

/-- The course has not come to its end, or to one at which nothing was opened. -/
def Request.Silent (r : Request) : Script Site Response → Prop
  | .done response => r.opened response = [] ∧ response.stream? = none
  | .step .. => True

/-- A step of a request, and what is left to do after it. -/
inductive Request.Step (r : Request) (site : Site) : Site → Script Site Response → Prop where
  | works (service : Service) (rest : Script Site Response)
    (stride : site.service.Stride (fun _ _ => True) service) (silent : r.Silent rest) :
    Step r site { site with service } rest
  | opens (game user : Id) (v : View) (response : Response) (asked : r.stream? = some (game, user))
    (granted : response.status = 200) (stream : response.stream? = some site.service.nextFeed) :
    Step r site (site.openStream game user v).2 (.done response)
  /-- Only the head was asked for, and the stream is dropped at once. -/
  | drops (game user : Id) (v : View) (response : Response) (asked : r.stream? = some (game, user))
    (granted : response.status = 200) (stream : response.stream? = none) :
    Step r site ((site.openStream game user v).2.dropStream site.service.nextFeed) (.done response)

/-- Every step is one of these, wherever it is taken. -/
def Request.Proceeds (r : Request) : Script Site Response → Prop
  | .done _ => True
  | .step effect next => ∀ site, r.Step site (effect site) (next site) ∧ r.Proceeds (next site)

namespace Site

variable {α : Type} {r : Request}

/-- Nothing is opened by requests for anything but events. -/
theorem silent_of_unasked {response : Response} (unasked : r.stream? = none)
    (plain : response.stream? = none) : r.Silent (.done (headed r response)) := by
  refine ⟨?_, stream?_headed r plain⟩
  unfold Request.opened
  rw [unasked]
  split <;> rfl

theorem silent_of_refused {response : Response} (refused : response.status ≠ 200)
    (plain : response.stream? = none) : r.Silent (.done (headed r response)) := by
  refine ⟨if_neg ?_, stream?_headed r plain⟩
  unfold headed
  split <;> exact refused

theorem status_error_ne (e : ApiError) : e.response.status ≠ 200 := by
  show e.status ≠ 200
  unfold ApiError.status
  split
  · decide
  · decide
  · split <;> decide

/-- Whatever comes after a course of the service, the course itself is one of strides. -/
theorem proceeds_onService {x : Script Service α} {k : α → Script Site Response}
    (strides : x.Along fun s t => s.Stride (fun _ _ => True) t)
    (rest : ∀ a, r.Silent (k a) ∧ r.Proceeds (k a)) :
    r.Silent ((onService x).bind k) ∧ r.Proceeds ((onService x).bind k) := by
  induction x with
  | done a => exact rest a
  | step effect next ih =>
    refine ⟨trivial, fun site => ?_⟩
    obtain ⟨silent, proceeds⟩ := ih site.service (strides site.service).2
    exact ⟨.works _ _ (strides site.service).1 silent, proceeds⟩

theorem proceeds_performing {op : Operation α} {answer : α → Response}
    (unasked : r.stream? = none) (strides : op.Strides fun _ _ => True)
    (plain : ∀ a, (answer a).stream? = none) :
    r.Silent (performing r op answer) ∧ r.Proceeds (performing r op answer) := by
  refine proceeds_onService strides fun result => ?_
  cases result with
  | ok a => exact ⟨silent_of_unasked unasked (plain a), trivial⟩
  | error e => exact ⟨silent_of_refused (status_error_ne _) rfl, trivial⟩

theorem proceeds_opening {game user : Id} (asked : r.stream? = some (game, user)) :
    r.Silent (opening r game user) ∧ r.Proceeds (opening r game user) := by
  refine proceeds_onService (Operation.strides_view game user) fun result => ?_
  cases result with
  | error e => exact ⟨silent_of_refused (status_error_ne _) rfl, trivial⟩
  | ok v =>
    refine ⟨trivial, fun site => ⟨?_, trivial⟩⟩
    unfold headOnly
    dsimp only
    split
    · exact .drops game user v _ asked rfl rfl
    · exact .opens game user v _ asked rfl rfl

theorem proceeds_inGame {raw : List Char} {course : Id → Script Site Response}
    (proceeds : ∀ game, decodeText? raw = some game →
      r.Silent (course game) ∧ r.Proceeds (course game)) :
    r.Silent (inGame r raw course) ∧ r.Proceeds (inGame r raw course) := by
  unfold inGame
  cases decoded : decodeText? raw with
  | some game => exact proceeds game decoded
  | none =>
    have badRequest : (400 : Nat) ≠ 200 := by decide
    dsimp only
    exact ⟨silent_of_refused badRequest rfl, trivial⟩

theorem proceeds_posting {op : String → Operation Post} (unasked : r.stream? = none)
    (strides : ∀ text, (op text).Strides fun _ _ => True) :
    r.Silent (posting r op) ∧ r.Proceeds (posting r op) := by
  unfold posting
  cases posted : content r with
  | ok text => exact proceeds_performing unasked (strides text) fun _ => rfl
  | error response => exact ⟨silent_of_unasked unasked (plain_of_content r posted), trivial⟩

/-- Requests for anything but events open nothing, and those for events open one stream at most. -/
theorem proceeds_answering (user : Id) (secureCookies : Bool) {resource : Resource}
    (named : Resource.ofPath? r.path = some resource)
    (session : resource.needsSession = true → r.session? = some user) :
    r.Silent (answering r user secureCookies resource) ∧
      r.Proceeds (answering r user secureCookies resource) := by
  have unasked (other : ∀ raw, resource ≠ .events raw) : r.stream? = none := by
    unfold Request.stream?
    rw [named]
    cases resource with
    | events raw => exact absurd rfl (other raw)
    | _ => rfl
  have looks {β : Type} (game : Id) (f : View → β) :
      (f <$> Operation.view game user).Strides fun _ _ => True :=
    (Operation.strides_view game user).map f
  cases resource with
  | health => exact ⟨silent_of_unasked (unasked nofun) rfl, trivial⟩
  | session => exact proceeds_performing (unasked nofun) Operation.strides_initUser fun _ => rfl
  | games => exact proceeds_performing (unasked nofun) (Operation.strides_initGame user) fun _ => rfl
  | game id =>
    exact proceeds_inGame fun game _ =>
      proceeds_performing (unasked nofun) (Operation.strides_view game user) fun _ => rfl
  | join id =>
    exact proceeds_inGame fun game _ =>
      proceeds_performing (unasked nofun) (Operation.strides_join game user) fun _ => rfl
  | leaderboard id =>
    exact proceeds_inGame fun game _ =>
      proceeds_performing (unasked nofun) (looks game _) fun _ => rfl
  | word id =>
    exact proceeds_inGame fun game _ =>
      proceeds_performing (unasked nofun) (looks game _) fun _ => rfl
  | guess id =>
    exact proceeds_inGame fun game _ =>
      proceeds_posting (unasked nofun) fun text => Operation.strides_guess game user text
  | messages id =>
    exact proceeds_inGame fun game _ =>
      proceeds_posting (unasked nofun) fun text => Operation.strides_say game user text
  | events id =>
    refine proceeds_inGame fun game decoded => proceeds_opening ?_
    unfold Request.stream?
    rw [named, session rfl]
    dsimp only
    rw [decoded]
    rfl

end Site

theorem Request.proceeds_course (r : Request) (secureCookies : Bool) :
    r.Silent (r.course secureCookies) ∧ r.Proceeds (r.course secureCookies) := by
  unfold course
  cases named : Resource.ofPath? r.path with
  | none =>
    have unasked : r.stream? = none := by
      unfold stream?
      rw [named]
    have silent (response : Response) : r.opened response = [] := by
      unfold opened
      rw [unasked]
      split <;> rfl
    cases r.session? <;> exact ⟨⟨silent _, rfl⟩, trivial⟩
  | some resource =>
    have unauthorized : (401 : Nat) ≠ 200 := by decide
    have notAllowed : (405 : Nat) ≠ 200 := by decide
    have answered := proceeds_answering (r := r) (r.session?.getD "") secureCookies named
    dsimp only
    cases session : r.session? <;> cases needs : resource.needsSession <;>
      cases resource.takes r.method <;> rw [session, needs] at answered <;>
      first
        | exact answered fun h => absurd h Bool.false_ne_true
        | exact answered fun _ => rfl
        | exact ⟨silent_of_refused unauthorized rfl, trivial⟩
        | exact ⟨silent_of_refused notAllowed rfl, trivial⟩

end GuessingRoom.Http
