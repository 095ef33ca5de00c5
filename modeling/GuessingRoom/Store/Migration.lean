import GuessingRoom.Store.Relational

/-!
# Setting up a database

A database is brought to the current version in two batches: one makes the tables, the other puts
the words in. A batch runs in a transaction, which stays open when the batch fails, and no further
batch can then begin. Which batches have run is told by the highest version number the database
holds.
-/

namespace GuessingRoom

/-- A database that may still be empty. -/
structure Database where
  /-- The version numbers recorded so far; none if there is no table for them. -/
  versions : Option (List Int) := none
  tables : Option RelationalTables := none
  inTransaction : Bool := false
deriving DecidableEq, Repr

namespace Database

/-- What a batch does: its failure, if there is one, and the database it leaves. -/
abbrev Batch := Database → Except Failure Unit × Database

/-- The highest version number, or zero if there is none. -/
def highest (versions : List Int) : Int :=
  match versions with
  | [] => 0
  | v :: vs => vs.foldl max v

def currentVersion (d : Database) : Int := highest (d.versions.getD [])

/-- Makes sure that there is a table for version numbers. -/
def withVersions (d : Database) : Database := { d with versions := some (d.versions.getD []) }

/-- Runs the changes of a batch in a transaction and records the version number. -/
def transaction (version : Int)
    (change : Option RelationalTables → Except Failure RelationalTables) : Batch := fun d =>
  if d.inTransaction then
    (.error (.other "cannot start a transaction within a transaction"), d)
  else match change d.tables with
    | .error f => (.error f, { d with inTransaction := true })
    | .ok tables =>
      (.ok (), { d with tables := some tables, versions := some (d.versions.getD [] ++ [version]) })

def makeTables : Batch := transaction 1 fun
  | none => .ok {}
  | some _ => .error (.other "table users already exists")

def addWords : Batch := transaction 2 fun
  | none => .error (.noSuchTable "words")
  | some t =>
    let words := t.words ++ corpus
    if (words.map (·.id)).Nodup then .ok { t with words } else .error (.duplicateKey "words.id")

/-- Brings the database to the current version. -/
def migrate (start : Database) : Except Failure Unit × Database :=
  let d := start.withVersions
  let version := d.currentVersion
  match if version < 1 then makeTables d else (.ok (), d) with
  | (.error f, d) => (.error f, d)
  | (.ok (), d) => if version < 2 then addWords d else (.ok (), d)

/-- The names of the tables in alphabetical order. -/
def tableNames (d : Database) : List String :=
  match d.tables, d.versions with
  | none, none => []
  | none, some _ => ["schema_version"]
  | some _, none => ["games", "messages", "players", "scores", "turns", "users", "words"]
  | some _, some _ =>
    ["games", "messages", "players", "schema_version", "scores", "turns", "users", "words"]

end Database

end GuessingRoom
