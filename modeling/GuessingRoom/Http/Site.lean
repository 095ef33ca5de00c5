import GuessingRoom.Game.Operation
import GuessingRoom.Http.EventStream
import GuessingRoom.Http.Route

/-!
# The site

How requests are answered. Whoever has no session gets no further than the health check and the
opening of a session.
-/

namespace GuessingRoom.Http

structure Site where
  service : Service
  /-- Whether cookies are for encrypted connections only. -/
  secureCookies : Bool := true
  streams : List EventStream := []

namespace Site

/-- Runs an operation and answers with its result or its error. -/
def perform {α : Type} (op : Operation α) (answer : α → Response) (site : Site) :
    Response × Site :=
  match op.run site.service with
  | (.ok a, service) => (answer a, { site with service })
  | (.error e, service) => ((ApiError.game e).response, { site with service })

/-! ## Bodies -/

/-- The largest body that is read, in bytes. -/
def maxBody : Nat := 2097152

def maxContent : Nat := 200

/-- The text that a request posts, unless there is something wrong with it. -/
def content (r : Request) : Except Response String :=
  if !r.hasJson then
    .error (.ofText 415 "Expected request with `Content-Type: application/json`")
  else if maxBody < r.body.utf8ByteSize then
    .error (.ofText 413 "Failed to buffer the request body: length limit exceeded")
  else match (Record.read r.body.toList : Except Json.Fault ContentRequest) with
    | .error .malformed => .error (.ofText 400 "Failed to parse the request body as JSON")
    | .error .mismatched =>
      .error (.ofText 422 "Failed to deserialize the JSON body into the target type")
    | .ok posted =>
      if (Text.trim posted.content.toList).isEmpty then
        .error (ApiError.badRequest "content must not be empty").response
      else if maxContent < posted.content.length then
        .error (ApiError.badRequest "content is too long").response
      else .ok posted.content

/-! ## Event streams -/

/-- Opens a stream with the given view of a game, and the feed behind it. -/
def openStream (game user : Id) (v : View) (site : Site) : Nat × Site :=
  match site.service.openFeed game user (fun f => { f with kicks := true }) id with
  | (feed, service) =>
    (feed,
      { site with
        service
        streams := site.streams ++ [⟨feed, user, some v, service.now⟩] })

/-- Drops a stream; its feed is told to end and its receiver is gone. -/
def dropStream (feed : Nat) (site : Site) : Site :=
  let service := site.service.cancelFeed feed
  let service :=
    match service.inbox? feed with
    | some i => service.setInbox { i with gone := true }
    | none => service
  { site with service, streams := site.streams.filter (·.feed != feed) }

/-- Everything that can be read from a stream, and whether it stays open. -/
def readStream (feed : Nat) (site : Site) : List String × Bool × Site :=
  match site.streams.find? (·.feed == feed), site.service.readInbox feed with
  | some stream, (some inbox, service) =>
    match stream.read inbox service.now with
    | (frames, isOpen, stream) =>
      (frames, isOpen,
        { site with
          service
          streams := site.streams.map fun s => if s.feed == feed then stream else s })
  | _, _ => ([], false, site)

def events (game user : Id) (site : Site) : Response × Site :=
  match (Operation.view game user).run site.service with
  | (.ok v, service) =>
    match { site with service }.openStream game user v with
    | (stream, site) =>
      ({ status := 200, contentType := some "text/event-stream", body := .events stream }, site)
  | (.error e, service) => ((ApiError.game e).response, { site with service })

/-! ## Answers -/

def createSession (site : Site) : Response × Site :=
  site.perform Operation.initUser fun user =>
    { Response.ofRecord 201 (SessionAnswer.mk user.id user.nickname) with
      cookies := [writeCookie "userid" user.id site.secureCookies,
        writeCookie "nickname" user.nickname site.secureCookies] }

/-- Answers what concerns one game, whose identifier is decoded first. -/
def withGame (raw : List Char) (answer : Id → Site → Response × Site) (site : Site) :
    Response × Site :=
  match decodeText? raw with
  | some game => answer game site
  | none => (.ofText 400 "Invalid URL: Invalid UTF-8 in `game_id`", site)

def leaderboardJson (lines : List Standing) : Json := .list (lines.map Record.toJson)

/-- The answer to a request by a method that the resource takes. -/
def answer (r : Request) (user : Id) (site : Site) : Resource → Response × Site
  | .health => (.ofText 200 "ok", site)
  | .session => site.createSession
  | .games =>
    site.perform (Operation.initGame user) fun game => .ofRecord 201 (GameAnswer.mk game.id)
  | .game id => site.withGame id fun game site =>
    site.perform (Operation.view game user) (.ofRecord 200)
  | .join id => site.withGame id fun game site =>
    site.perform (Operation.join game user) fun _ => { status := 204 }
  | .leaderboard id => site.withGame id fun game site =>
    site.perform (Operation.leaderboard game user) fun lines => .ofJson 200 (leaderboardJson lines)
  | .word id => site.withGame id fun game site =>
    site.perform (Operation.word game user) fun word => .ofRecord 200 (WordAnswer.mk word)
  | .guess id => site.withGame id fun game site =>
    match content r with
    | .ok text => site.perform (Operation.guess game user text) (.ofRecord 201)
    | .error response => (response, site)
  | .messages id => site.withGame id fun game site =>
    match content r with
    | .ok text => site.perform (Operation.say game user text) (.ofRecord 201)
    | .error response => (response, site)
  | .events id => site.withGame id fun game site => site.events game user

/-- Answers without the body if only the head was asked for; a stream is then dropped at once. -/
def headOnly (r : Request) : Response × Site → Response × Site
  | (response, site) =>
    if r.method == "HEAD" then
      match response.body with
      | .events stream => (response.withoutBody, site.dropStream stream)
      | _ => (response.withoutBody, site)
    else (response, site)

/-- The response that says which methods a resource takes. -/
def refuseMethod (resource : Resource) (response : Response) : Response :=
  { response with allow := some resource.allow }

/-- Answers a request. -/
def handle (r : Request) (site : Site) : Response × Site :=
  match Resource.ofPath? r.path with
  | none =>
    match r.session? with
    | some _ => ({ status := 404 }, site)
    | none => (ApiError.unauthorized.response, site)
  | some resource =>
    headOnly r <|
      match r.session?, resource.needsSession, resource.takes r.method with
      | none, true, true => (ApiError.unauthorized.response, site)
      | none, true, false => (refuseMethod resource ApiError.unauthorized.response, site)
      | _, _, false => (refuseMethod resource { status := 405 }, site)
      | user, _, true => site.answer r (user.getD "") resource

end Site

end GuessingRoom.Http
