import GuessingRoom.Store.Relational
import GuessingRoom.Store.Relational.Cell

/-!
# Editing a column

One column of a table is set to a text, in one row or in all rows. The edit stands only if the
tables still keep their rules afterwards: states are known, keys unique and references lead to
rows.
-/

namespace GuessingRoom.RelationalTables

/-- Applies an edit to the row with the given number, counted from one, or to all rows. -/
def editRows {α : Type} (row : Option Nat) (edit : α → α) (rows : List α) : List α :=
  rows.mapIdx fun i r => if row.all (· == i + 1) then edit r else r

/-- How many rows such an edit concerns. -/
def editedCount {α : Type} (row : Option Nat) (rows : List α) : Nat :=
  match row with
  | some n => if 1 ≤ n ∧ n ≤ rows.length then 1 else 0
  | none => rows.length

/-! ## Columns -/

def userColumn? (column value : String) : Option (UserRow → UserRow) :=
  match column with
  | "id" => some fun r => { r with id := value }
  | "nickname" => some fun r => { r with nickname := value }
  | "created_at" => some fun r => { r with createdAt := value }
  | "updated_at" => some fun r => { r with updatedAt := value }
  | _ => none

def gameColumn? (column value : String) : Option (GameRow → GameRow) :=
  match column with
  | "id" => some fun r => { r with id := value }
  | "created_at" => some fun r => { r with createdAt := value }
  | "updated_at" => some fun r => { r with updatedAt := value }
  | _ => none

def memberColumn? (column value : String) : Option (MemberRow → MemberRow) :=
  match column with
  | "game_id" => some fun r => { r with gameId := value }
  | "user_id" => some fun r => { r with userId := value }
  | "state" => some fun r => { r with state := value }
  | "joined_at" => some fun r => { r with joinedAt := value }
  | _ => none

def wordColumn? (column value : String) : Option (Word → Word) :=
  match column with
  | "id" => some fun r => { r with id := value }
  | "word" => some fun r => { r with word := value }
  | "hint" => some fun r => { r with hint := value }
  | _ => none

def turnColumn? (column value : String) : Option (TurnRow → TurnRow) :=
  match column with
  | "id" => some fun r => { r with id := value }
  | "game_id" => some fun r => { r with gameId := value }
  | "word_id" => some fun r => { r with wordId := value }
  | "created_at" => some fun r => { r with createdAt := value }
  | _ => none

def messageColumn? (column value : String) : Option (MessageRow → MessageRow) :=
  match column with
  | "id" => some fun r => { r with id := value }
  | "game_id" => some fun r => { r with gameId := value }
  | "turn_id" => some fun r => { r with turnId := value }
  | "player_id" => some fun r => { r with playerId := value }
  | "content" => some fun r => { r with content := value }
  | "created_at" => some fun r => { r with createdAt := value }
  | _ => none

def scoreColumn? (column value : String) : Option (ScoreRow → ScoreRow) :=
  match column with
  | "game_id" => some fun r => { r with gameId := value }
  | "turn_id" => some fun r => { r with turnId := value }
  | "player_id" => some fun r => { r with playerId := value }
  | "message_id" => some fun r => { r with messageId := value }
  | "points" => some fun r => { r with points := Cell.ofText value }
  | "created_at" => some fun r => { r with createdAt := value }
  | _ => none

/-! ## Rules -/

def statesKnown (t : RelationalTables) : Bool :=
  t.members.all fun r => (PlayerState.ofName? r.state).isSome

/-- The columns of a key that two rows have in common. -/
def sharedKey? (t : RelationalTables) : Option String :=
  if ¬ (t.users.map (·.id)).Nodup then some "users.id"
  else if ¬ (t.games.map (·.id)).Nodup then some "games.id"
  else if ¬ (t.members.map fun r => (r.gameId, r.userId)).Nodup then
    some "players.game_id, players.user_id"
  else if ¬ (t.words.map (·.id)).Nodup then some "words.id"
  else if ¬ (t.turns.map (·.id)).Nodup then some "turns.id"
  else if ¬ (t.messages.map (·.id)).Nodup then some "messages.id"
  else none

/-- The tables, if they keep all rules. -/
def checked (t : RelationalTables) : Except Failure RelationalTables :=
  if !t.statesKnown then .error (.brokenCheck "state IN ('active', 'inactive')")
  else match t.sharedKey? with
    | some columns => .error (.duplicateKey columns)
    | none => if t.referencesHold then .ok t else .error .brokenReference

/-! ## The edit -/

/-- The tables after the edit, whether or not they keep the rules, and how many rows it concerns. -/
def edited (t : RelationalTables) (table column value : String) (row : Option Nat) :
    Except Failure (Nat × RelationalTables) :=
  let apply {α : Type} (edit? : Option (α → α)) (rows : List α)
      (put : List α → RelationalTables) : Except Failure (Nat × RelationalTables) :=
    match edit? with
    | some edit => .ok (editedCount row rows, put (editRows row edit rows))
    | none => .error (.noSuchColumn column)
  match table with
  | "users" => apply (userColumn? column value) t.users fun rows => { t with users := rows }
  | "games" => apply (gameColumn? column value) t.games fun rows => { t with games := rows }
  | "players" => apply (memberColumn? column value) t.members fun rows => { t with members := rows }
  | "words" => apply (wordColumn? column value) t.words fun rows => { t with words := rows }
  | "turns" => apply (turnColumn? column value) t.turns fun rows => { t with turns := rows }
  | "messages" =>
    apply (messageColumn? column value) t.messages fun rows => { t with messages := rows }
  | "scores" => apply (scoreColumn? column value) t.scores fun rows => { t with scores := rows }
  | _ => .error (.noSuchTable table)

/-- Sets a column to a text and tells how many rows that changed. -/
def setColumn (t : RelationalTables) (table column value : String) (row : Option Nat) :
    Except Failure (Nat × RelationalTables) := do
  let (count, after) ← t.edited table column value row
  if count = 0 then return (0, t)
  return (count, ← after.checked)

end GuessingRoom.RelationalTables
