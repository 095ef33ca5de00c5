import GuessingRoom.Http.Cookie
import GuessingRoom.Http.MediaType
import GuessingRoom.Model.Record

/-!
# Requests and responses
-/

namespace GuessingRoom.Http

structure Request where
  method : String
  /-- Path and query as they stand in the request. -/
  target : String
  /-- Names and values; names in any case. -/
  headers : List (String × String)
  body : String

namespace Request

/-- The values of the header fields with a name, which is given in lower case. -/
def header (r : Request) (name : String) : List String :=
  (r.headers.filter fun (n, _) => n.toLower == name).map (·.2)

/-- The target without the query. -/
def path (r : Request) : List Char := r.target.toList.takeWhile fun c => c ≠ '?' && c ≠ '#'

/-- The user that the session cookie names. -/
def session? (r : Request) : Option Id :=
  (cookie? (r.header "cookie") "userid").filter (!·.isEmpty)

/-- Whether the request says that its body is JSON. -/
def hasJson (r : Request) : Bool :=
  match r.header "content-type" with
  | value :: _ => value.toList.all isPlain && (MediaType.read? value.toList).any (·.isJson)
  | [] => false

end Request

inductive Body where
  | empty
  | text (s : String)
  | json (s : String)
  /-- The event stream with this number. -/
  | events (stream : Nat)
deriving DecidableEq, Repr

structure Response where
  status : Nat
  contentType : Option String := none
  /-- The methods that the path allows, if the request's method is none of them. -/
  allow : Option String := none
  cookies : List String := []
  body : Body := .empty
deriving DecidableEq, Repr

namespace Response

def ofText (status : Nat) (s : String) : Response :=
  { status, contentType := some "text/plain; charset=utf-8", body := .text s }

/-- A response whose body is a text of JSON. -/
def ofJson (status : Nat) (j : Json) : Response :=
  { status, contentType := some "application/json", body := .json j.render }

def ofRecord {α : Type} [Record α] (status : Nat) (a : α) : Response :=
  ofJson status (Record.toJson a)

/-- The response without its body. -/
def withoutBody (r : Response) : Response := { r with body := .empty }

end Response

/-! ## Errors -/

/-- Why a request is turned down. -/
inductive ApiError where
  | unauthorized
  | badRequest (text : String)
  | game (e : GameError)
deriving DecidableEq, Repr

namespace ApiError

def message : ApiError → String
  | unauthorized => "no session, call POST /session first"
  | badRequest text => text
  | game e => e.message

def status : ApiError → Nat
  | unauthorized => 401
  | badRequest _ => 400
  | game e =>
    match e with
    | .alreadyJoined | .roomFull => 409
    | .notInGame => 403
    | .gameNotFound _ | .userNotFound _ | .turnNotFound _ | .wordNotFound _ => 404
    | .noWords | .codec _ | .feed _ | .persistence _ => 500

/-- What the client is told; failures of the program are not its concern. -/
def shown (e : ApiError) : String :=
  if 500 ≤ e.status then "internal server error" else e.message

def response (e : ApiError) : Response := .ofRecord e.status (ErrorAnswer.mk e.shown)

end ApiError

end GuessingRoom.Http
