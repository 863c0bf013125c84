import SqlMapper.Store.Engine

namespace SqlMapper

/-- A table without column types. -/
structure StoredTable where
  columns : List String
  rows : List (List Stored)
deriving DecidableEq

/-- What is kept of one table. -/
structure Contents where
  table : Option StoredTable
  /-- While a transaction is open, the table that stood when it began. -/
  saved : Option (Option StoredTable)
deriving DecidableEq

/-- An engine in memory for one table. -/
structure Store where
  contents : Contents
  /-- How many rows the last insert or deletion changed. -/
  changes : Nat
deriving DecidableEq

/-- A statement of the store. Its marks are its places for parameters. -/
inductive StoreStatement where
  /-- Select the parameters themselves. -/
  | echo (marks : Nat)
  /-- Select a text of some bytes. -/
  | echoText (bytes : List UInt8)
  | create (columns : Nat)
  | insert (marks : Nat)
  | select
  | clear
  | control (c : Control)
deriving DecidableEq

def StoreStatement.marks : StoreStatement → Nat
  | echo marks => marks
  | insert marks => marks
  | _ => 0

/-- A statement with the names of the columns that it selects. -/
structure PreparedStatement where
  statement : StoreStatement
  columns : List String
deriving DecidableEq

/-- A statement that has all its rows. -/
def Cursor.ofRows {σ : Type} (s : σ) : List (List Stored) → Cursor σ
  | [] => .done s
  | values :: rows => .row values s (ofRows s rows)

namespace Store

def empty : Store := ⟨⟨none, none⟩, 0⟩

/-- The largest number of columns of a table or a result. -/
def columnLimit : Nat := 2000

/-- The names of so many columns. -/
def columnNames (count : Nat) : List String := (List.range count).map fun i => "c" ++ toString i

/-- Whether the store understands a statement. -/
def prepares (s : Store) : StoreStatement → Bool
  | .echo marks => 0 < marks && marks ≤ columnLimit
  | .create columns => s.contents.table.isNone && 0 < columns && columns ≤ columnLimit
  | .insert marks => s.contents.table.any fun t => marks = t.columns.length
  | .select | .clear => s.contents.table.isSome
  | .echoText _ | .control _ => true

/-- The names of the columns of a result. -/
def resultColumns (s : Store) : StoreStatement → List String
  | .echo marks => columnNames marks
  | .echoText _ => columnNames 1
  | .select => (s.contents.table.map (·.columns)).getD []
  | _ => []

/-- Run a statement with a value for each mark: the rows that it returns and the store after it,
unless it fails. Transactions do not nest. -/
def perform (s : Store) (values : List Stored) :
    StoreStatement → Option (List (List Stored) × Store)
  | .echo _ => some ([values.map Stored.kept], s)
  | .echoText bytes => some ([[.text bytes]], s)
  | .create columns =>
    some ([], { s with contents.table := some ⟨columnNames columns, []⟩ })
  | .insert _ => s.contents.table.map fun t =>
    let rows := t.rows ++ [values.map Stored.kept]
    ([], { s with contents.table := some { t with rows := rows }, changes := 1 })
  | .select => s.contents.table.map fun t => (t.rows, s)
  | .clear => s.contents.table.map fun t =>
    ([], { s with contents.table := some { t with rows := [] }, changes := t.rows.length })
  | .control .start =>
    if s.contents.saved.isNone then
      some ([], { s with contents.saved := some s.contents.table })
    else none
  | .control .commit => s.contents.saved.map fun _ => ([], { s with contents.saved := none })
  | .control .rollback =>
    s.contents.saved.map fun table => ([], { s with contents := ⟨table, none⟩ })

def prepare (s : Store) (q : StoreStatement) : Option PreparedStatement :=
  if s.prepares q then some ⟨q, s.resultColumns q⟩ else none

def start (s : Store) (p : PreparedStatement) (values : List Stored) : Option (Cursor Store) :=
  if values.length = p.statement.marks then
    match s.perform values p.statement with
    | some (rows, t) => some (.ofRows t rows)
    | none => some (.failed s)
  else none

/-- A statement that returns rows cannot be executed. -/
def execute (s : Store) (p : PreparedStatement) (values : List Stored) : Option Nat × Store :=
  if values.length = p.statement.marks then
    match s.perform values p.statement with
    | some ([], t) => (some t.changes, t)
    | _ => (none, s)
  else (none, s)

/-- In a script, marks are `NULL`. -/
def script (s : Store) (q : StoreStatement) : Bool × Store :=
  if s.prepares q then
    match s.perform (List.replicate q.marks .null) q with
    | some (_, t) => (true, t)
    | none => (false, s)
  else (false, s)

def engine : Engine StoreStatement Store PreparedStatement where
  control := .control
  prepare := prepare
  columnNames := PreparedStatement.columns
  start := start
  execute := execute
  script := script

end Store

abbrev StoreCall := Engine.Call StoreStatement

namespace StoreCall

def echo (marks : Nat) (params : List Datum) : StoreCall := .query (.echo marks) params

def echoText (bytes : List UInt8) : StoreCall := .query (.echoText bytes) []

def executeEcho (marks : Nat) (params : List Datum) : StoreCall := .exec (.echo marks) params

def create (columns : Nat) : StoreCall := .batch (.create columns)

def insert (marks : Nat) (params : List Datum) : StoreCall := .exec (.insert marks) params

def select : StoreCall := .query .select []

def clear : StoreCall := .exec .clear []

def start : StoreCall := .control .start

def commit : StoreCall := .control .commit

def rollback : StoreCall := .control .rollback

end StoreCall
end SqlMapper
