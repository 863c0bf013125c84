import SqlMapper.Query.Clauses
import SqlMapper.Session.Database

namespace SqlMapper

/-- A source of rows that are read as `α`. -/
structure Relation (α : Type) where
  scope : Scope
  /-- The table that diagnostics name. -/
  tableName : String
  /-- `FROM` with the tables. -/
  origin : Except SchemaFault Fragment
  /-- What is selected for a whole row. -/
  projection : Fragment
  /-- What is selected for a column name. -/
  item : String → Fragment
  decode : Row → Except DecodeError α

/-- What decoding rows one by one hands over, and how it ends. -/
structure Received (α : Type) where
  /-- The decoded rows, up to the first that cannot be decoded. -/
  items : List α
  /-- The number of all rows, if all were decoded. -/
  outcome : Except DecodeError Nat

/-- Decode rows up to the first that fails. -/
def decodeRows {α : Type} (decode : Row → Except DecodeError α) :
    List Row → List α × Option DecodeError
  | [] => ([], none)
  | row :: rest =>
    match decode row with
    | .error e => ([], some e)
    | .ok a =>
      let (others, e) := decodeRows decode rest
      (a :: others, e)

namespace Relation

variable {σ α : Type} {stage : Stage}

/-- The query for a projection. -/
def query (r : Relation α) (projection : Fragment) (clauses : Clauses stage) :
    Except Error Fragment := do
  let tail ← (clauses.render r.scope).mapError .misplaced
  let origin ← r.origin.mapError .schema
  return .word "SELECT " :: projection ++ .word " " :: origin ++ tail

/-- The query for some columns, at least one. -/
def columnsQuery (r : Relation α) (names : List String) (clauses : Clauses stage) :
    Except Error Fragment :=
  if names.isEmpty then .error (.schema .noValue)
  else r.query (Fragment.joined "," (names.map r.item)) clauses

/-- What is counted for a column name; a star counts rows. -/
def countTarget (r : Relation α) (name : String) : Fragment :=
  if name = "*" then [.word "*"] else (r.scope.column name).reference

def countQuery (r : Relation α) (name : String) (clauses : Clauses stage) :
    Except Error Fragment :=
  r.query (.word "COUNT(" :: r.countTarget name ++ [.word ")"]) clauses

def prepare (r : Relation α) (db : Database σ) (f : Except Error Fragment) :
    Session σ Error Statement := do
  db.prepare "clause chain generated SQL" r.tableName (← Session.ofExcept f)

/-- The statement for whole rows, without running it. -/
def statement (r : Relation α) (db : Database σ) (clauses : Clauses stage) :
    Session σ Error Statement :=
  r.prepare db (r.query r.projection clauses)

/-- Query whole rows and decode them one by one. -/
def receive (r : Relation α) (db : Database σ) (clauses : Clauses stage) :
    Session σ Error (Received α) := do
  let rows ← db.query (← r.statement db clauses)
  let (items, failure) := decodeRows r.decode rows
  return ⟨items, match failure with
    | some e => .error e
    | none => .ok rows.length⟩

/-- Query whole rows, all or none. -/
def collect (r : Relation α) (db : Database σ) (clauses : Clauses stage) :
    Session σ Error (List α) := do
  let received ← r.receive db clauses
  match received.outcome with
  | .ok _ => return received.items
  | .error e => Session.fail (.decode e)

def pick (r : Relation α) (db : Database σ) (names : List String) (clauses : Clauses stage) :
    Session σ Error (List Row) := do
  db.query (← r.prepare db (r.columnsQuery names clauses))

/-- The count that a database answers: the first datum, or zero without one. -/
def countOf (rows : List Row) : Except DecodeError UInt64 :=
  match rows.head?.bind (·.datumAt? 0) with
  | some d => ScalarType.uint64.read d
  | none => .ok 0

/-- Count the rows that have a value in a column. -/
def count (r : Relation α) (db : Database σ) (name : String) (clauses : Clauses stage) :
    Session σ Error UInt64 := do
  let rows ← db.query (← r.prepare db (r.countQuery name clauses))
  Session.ofExcept ((countOf rows).mapError .decode)

end Relation
end SqlMapper
