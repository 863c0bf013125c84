import SqlMapper.Gateway.Table
import SqlMapper.Query.Relation
import SqlMapper.Text.Quoted

namespace SqlMapper

/-- A table of a database whose rows are read as `α`. -/
structure Gateway (σ α : Type) where
  database : Database σ
  schema : Schema
  decode : Row → Except DecodeError α

namespace Gateway

variable {σ α : Type}

/-- The gateway to a table with a schema, if that is consistent. -/
def ofSchema (db : Database σ) (schema : Schema) (decode : Row → Except DecodeError α) :
    Except Error (Gateway σ α) :=
  (schema.checked.mapError .schema).map fun schema => ⟨db, schema, decode⟩

def table (g : Gateway σ α) : Table := ⟨g.schema, g.database.delimiter⟩

def relation (g : Gateway σ α) : Relation α where
  scope := g.table.scope
  tableName := g.schema.table
  origin := .ok (.word "FROM " :: g.table.name)
  projection := [.word "*"]
  item name := (g.table.scope.column name).reference
  decode := g.decode

def describe (g : Gateway σ α) : String :=
  "Repository \x7b table: " ++ Text.quoted g.schema.table ++ ", dialect: " ++
    Text.quoted g.database.dialect.name ++ ", .. \x7d"

def prepare (g : Gateway σ α) (f : Fragment) : Session σ Error Statement :=
  g.database.prepare "repository generated SQL" g.schema.table f

def execute (g : Gateway σ α) (f : Fragment) : Session σ Error Nat := do
  g.database.execute (← g.prepare f)

def ofKey (g : Gateway σ α) (key : List Value) : Session σ Error (List α) := do
  let rows ← g.database.query (← g.prepare (g.table.lookup key))
  Session.ofExcept ((rows.mapM g.decode).mapError .decode)

def meeting (g : Gateway σ α) (condition : Condition) : Session σ Error (List α) :=
  g.relation.collect g.database (.filter condition)

def all (g : Gateway σ α) : Session σ Error (List α) := g.meeting .always

/-- The rows that look like the data in all columns that it sets. -/
def like (g : Gateway σ α) (data : Supply) : Session σ Error (List α) :=
  g.meeting (.fields (.ofSupply data g.schema.columns))

/-- The rows with the key of some data. -/
def ofKeyIn (g : Gateway σ α) (data : Supply) : Session σ Error (List α) := do
  g.ofKey (← Session.ofExcept (g.schema.keyIn data))

/-- The one row with an id, if there is one. -/
def byId (g : Gateway σ α) (id : RowId) : Session σ Error (Option α) := do
  match ← g.ofKey (← Session.ofExcept (g.schema.keyFromId id)) with
  | [] => return none
  | [a] => return some a
  | found => Session.fail (.sharedKey g.schema.table found.length)

/-- Remove the rows with the key of some data. -/
def remove (g : Gateway σ α) (data : Supply) : Session σ Error Nat := do
  match g.schema.keyIn data with
  | .ok key => g.execute (g.table.removal key)
  | .error (.missingKey table column) =>
    -- a part of a composite key is reported as such
    Session.fail <|
      if g.schema.primaryKey.length > 1 then .compositeKey table (.missingInInput column)
      else .missingKey table column
  | .error e => Session.fail e

def removeById (g : Gateway σ α) (id : RowId) : Session σ Error Nat := do
  g.execute (g.table.removal (← Session.ofExcept (g.schema.keyFromId id)))

/-- Change the row with the key of some data, and read it back. -/
def change (g : Gateway σ α) (data : Supply) (changes : Option Supply) :
    Session σ Error (Option α) := do
  let key ← Session.ofExcept (g.schema.keyIn data)
  -- changes that set no column beside the key give way to the data
  let changes := (changes.filter g.table.setsPlain).getD data
  let _ ← g.execute (← Session.ofExcept (g.table.change changes key))
  let found ← g.ofKey key
  if found.length ≠ 1 then
    Session.remark ⟨.warn, "updated row could not be read back by primary key",
      [("table", g.schema.table), ("count", toString found.length)]⟩
  return found.head?

def changeWhere (g : Gateway σ α) (condition : Condition) (data : Supply) :
    Session σ Error Nat := do
  let f ← Session.ofExcept (g.table.changeWhere condition data)
  g.database.execute (← g.database.prepare "conditional update" g.schema.table f)

def removeWhere (g : Gateway σ α) (condition : Condition) : Session σ Error Nat := do
  let f ← Session.ofExcept (g.table.removalWhere condition)
  g.database.execute (← g.database.prepare "conditional delete" g.schema.table f)

/-- The id that the last insert generated. -/
def generatedId (g : Gateway σ α) : Session σ Error Value := do
  let rows ← g.database.query ⟨g.database.dialect.generatedId, []⟩
  match rows.head?.bind (·.datumAt? 0) with
  | some d => if d.isNull then Session.fail .generatedIdNotFound else return d.toValue
  | none => Session.fail .generatedIdNotFound

/-- The id of an added row: the value supplied for the generated column, or else the one that was
generated. -/
def addedId (g : Gateway σ α) (generated : String) (data : Supply) : Session σ Error Value :=
  match data generated with
  | some (.value v) => return v
  | _ => g.generatedId

/-- The row that was added for some data. -/
def added (g : Gateway σ α) (data : Supply) : Session σ Error α :=
  match g.schema.autoIncrement with
  | [generated] => do
    -- with one generated column it is found by its id
    match ← g.byId (.scalar (← g.addedId generated data)) with
    | some a => return a
    | none => Session.fail (.addedRowNotFound g.schema.table)
  | _ => do
    -- and otherwise by its plain values
    match ← g.meeting (.fields (g.table.plainValues data)) with
    | [] => Session.fail (.addedRowNotFound g.schema.table)
    | [a] => return a
    | found => Session.fail (.ambiguous g.schema.table found.length)

/-- Insert the set fields of some data and read the row back, unless no row was inserted. -/
def insert (g : Gateway σ α) (mode : InsertMode) (data : Supply) (onConflict : Option Supply) :
    Session σ Error (Option α) := do
  let f ← Session.ofExcept (g.table.insertion g.database.dialect mode data onConflict)
  if (← g.execute f) = 0 then return none
  return some (← g.added data)

def add (g : Gateway σ α) (data : Supply) : Session σ Error (Option α) :=
  g.insert .plain data none

/-- Add a row unless its key is taken. -/
def addOrSkip (g : Gateway σ α) (data : Supply) : Session σ Error (Option α) :=
  g.insert .ignore data none

/-- Add a row in place of one with its key. -/
def addOrReplace (g : Gateway σ α) (data : Supply) : Session σ Error (Option α) :=
  g.insert .overwrite data none

/-- Add a row, or change the one with its key by other data; by the same data if no other is given.
-/
def addOrChange (g : Gateway σ α) (data : Supply) (changes : Option Supply) :
    Session σ Error (Option α) :=
  g.insert .plain data (some (changes.getD data))

/-- Run a unit of work on the gateway in a transaction. -/
def transaction {β : Type} (g : Gateway σ α) (unit : Gateway σ α → Session σ UnitFailure β) :
    Session σ Error β :=
  g.database.transaction (unit g)

end Gateway
end SqlMapper
