import GuessingRoom.Settings.Address
import GuessingRoom.Settings.Room
import GuessingRoom.Text.Blank

/-!
# Settings

What the program is told by its environment. Every setting has a default; of several invalid
settings the first one in the order of reading is reported.
-/

namespace GuessingRoom

structure Settings where
  address : Address
  databasePath : String
  /-- Whether cookies are for encrypted connections only. -/
  secureCookies : Bool
  room : RoomSettings
deriving DecidableEq, Repr

/-- Why the environment is refused. -/
inductive SettingsError where
  | invalidAddress (text : String)
  | invalidNumber (key raw : String) (fault : Text.Decimal.NumeralFault)
  | invalidFlag (key raw : String)
deriving DecidableEq, Repr

namespace SettingsError

def message : SettingsError → String
  | invalidAddress text => s!"invalid listen address {text}: invalid socket address syntax"
  | invalidNumber key raw fault => s!"{key} has invalid value '{raw}': {fault.message}"
  | invalidFlag key raw =>
    s!"{key} has invalid value '{raw}': provided string was not `true` or `false`"

end SettingsError

namespace Settings

/-- The values of the environment variables that are set. -/
abbrev Environment := String → Option String

/-- A number of at most `max`, with white space around it allowed. -/
def readNumber (env : Environment) (key : String) (max default : Nat) :
    Except SettingsError Nat :=
  match env key with
  | none => .ok default
  | some raw =>
    match Text.Decimal.readAtMost max (Text.trim raw.toList) with
    | .ok n => .ok n
    | .error fault => .error (.invalidNumber key raw fault)

def readFlag (env : Environment) (key : String) (default : Bool) : Except SettingsError Bool :=
  match env key with
  | none => .ok default
  | some raw =>
    if Text.trim raw.toList = ['t', 'r', 'u', 'e'] then .ok true
    else if Text.trim raw.toList = ['f', 'a', 'l', 's', 'e'] then .ok false
    else .error (.invalidFlag key raw)

/-- The address made of host and socket number. -/
def readAddress (host : String) (socket : Nat) : Except SettingsError Address :=
  let text := host.toList ++ ':' :: Text.Decimal.write socket
  match Address.read? text with
  | some address => .ok address
  | none => .error (.invalidAddress (String.ofList text))

/-- The number of 64 bits from which no higher one is possible. -/
def maxWord : Nat := 18446744073709551615

def read (env : Environment) : Except SettingsError Settings := do
  let socket ← readNumber env "EMOGUESS_PORT" 65535 9000
  let address ← readAddress ((env "EMOGUESS_HOST").getD "0.0.0.0") socket
  let capacity ← readNumber env "EMOGUESS_ROOM_CAPACITY" maxWord 10
  let turnSeconds ← readNumber env "EMOGUESS_TURN_DELAY_SECS" maxWord 5
  let kickSeconds ← readNumber env "EMOGUESS_KICK_DELAY_SECS" maxWord 5
  let secureCookies ← readFlag env "EMOGUESS_COOKIE_SECURE" true
  return {
    address
    databasePath := (env "EMOGUESS_DB_PATH").getD "emoguess.db"
    secureCookies
    room := {
      capacity
      turnDelay := 1000 * turnSeconds
      kickDelay := 1000 * kickSeconds } }

end Settings

end GuessingRoom
