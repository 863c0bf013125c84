import SqlMapper.Failure
import SqlMapper.Supply.Basic
import SqlMapper.Query.Clauses

namespace SqlMapper

/-- The key of a row, given as an id. -/
inductive RowId where
  /-- The value of a key of one column. -/
  | scalar (v : Value)
  /-- Values by column name. -/
  | named (pairs : List (String × Value))
deriving DecidableEq

namespace Schema

/-- The key values that the data supplies, in the order of the key. -/
def keyIn (s : Schema) (data : Supply) : Except Error (List Value) :=
  s.primaryKey.mapM fun column =>
    match data column with
    | some (.value v) => .ok v
    | _ => .error (.missingKey s.table column)

/-- The first pair of a name taken out of a list, the last pair put into its place. -/
def takeNamed? (name : String) (pairs : List (String × Value)) :
    Option (Value × List (String × Value)) :=
  match pairs.findIdx? (·.1 = name), pairs.getLast? with
  | some i, some last => pairs[i]?.map fun p => (p.2, (pairs.set i last).dropLast)
  | _, _ => none

/-- The values of the columns, each taken out of the pairs in turn. -/
def namedKey (table : String) :
    (columns : List String) → List (String × Value) → Except Error (List Value)
  | [], _ => .ok []
  | column :: rest, pairs =>
    match takeNamed? column pairs with
    | some (v, pairs) => do
      let values ← namedKey table rest pairs
      return v :: values
    | none => .error (.compositeKey table (.missingInId column))

/-- The key values of an id. -/
def keyFromId (s : Schema) : RowId → Except Error (List Value)
  | .scalar v =>
    match s.primaryKey with
    | [_] => .ok [v]
    | _ => .error (.compositeKey s.table .notNamed)
  | .named pairs =>
    match s.primaryKey with
    -- a key of one column takes a scalar only
    | [_] => .error (.simpleKey s.table)
    | columns => namedKey s.table columns pairs

end Schema
/-- A table as statements refer to it. -/
structure Table where
  schema : Schema
  delimiter : String
deriving DecidableEq

namespace Table

/-- The columns of the table, read without an outer alias. -/
def columns (t : Table) : List Column :=
  t.schema.columns.map fun c => Column.read c "" t.delimiter

/-- What criteria on the table are rendered against. -/
def scope (t : Table) : Scope := ⟨t.columns, "", t.delimiter⟩

def name (t : Table) : Fragment := [.name t.schema.table]

/-- A condition of the table as a fragment with its keyword. -/
def filter (t : Table) (condition : Condition) : Except Error Fragment :=
  (Clauses.filter condition).render t.scope |>.mapError .misplaced

/-- The assignments of an update to some columns, at least one. -/
def assignmentsTo (columns : List Column) (data : Supply) : Except Error Fragment := do
  let slots ← (data.slots .update columns).mapError .misplaced
  if slots.isEmpty then throw (.schema .noValue)
  return Fragment.joined ", " (slots.map Slot.fragment)

/-- The columns that are not of the key. -/
def plainColumns (t : Table) : List Column := t.columns.filter fun c => !t.schema.isKey c.name

/-- The assignments of all set fields that are not of the key. -/
def assignments (t : Table) (data : Supply) : Except Error Fragment :=
  assignmentsTo t.plainColumns data

/-- Whether the data sets a column that is not of the key. -/
def setsPlain (t : Table) (data : Supply) : Bool :=
  t.schema.columns.any fun c => !t.schema.isKey c && (data c).isSome

/-- The insert of all set fields. With changes, a row whose key is taken is updated by them. -/
def insertion (t : Table) (d : Dialect) (mode : InsertMode) (data : Supply)
    (onConflict : Option Supply) : Except Error Fragment := do
  let slots ← (data.slots .insert t.columns).mapError .misplaced
  if slots.isEmpty then throw (.schema .noValue)
  let front : Fragment :=
    .word (d.insertVerb mode) :: .word " INTO " :: t.name ++
      .word " (" :: Fragment.joined "," ((data.assigned t.columns).map fun (c, _) => c.reference) ++
      .word ") VALUES (" :: Fragment.joined "," (slots.map Slot.fragment) ++ [.word ")"]
  match onConflict with
  | none => return front
  | some changes =>
    let assignments ← t.assignments changes
    return front ++ .word " " :: d.onConflict t.schema.primaryKey ++ .word " " :: assignments

def keyPredicate (t : Table) (key : List Value) : Fragment :=
  Fragment.joined " AND "
    ((t.schema.primaryKey.zip key).map fun (c, v) => [.name c, .word "=", .slot v])

/-- The update of the row with a key from the set fields of some data. -/
def change (t : Table) (changes : Supply) (key : List Value) : Except Error Fragment := do
  let assignments ← t.assignments changes
  return .word "UPDATE " :: t.name ++ .word " SET " :: assignments ++
    .word " WHERE " :: t.keyPredicate key

def lookup (t : Table) (key : List Value) : Fragment :=
  .word "SELECT * FROM " :: t.name ++ .word " WHERE " :: t.keyPredicate key

def removal (t : Table) (key : List Value) : Fragment :=
  .word "DELETE FROM " :: t.name ++ .word " WHERE " :: t.keyPredicate key

def changeWhere (t : Table) (condition : Condition) (data : Supply) : Except Error Fragment := do
  let assignments ← assignmentsTo t.columns data
  let filter ← t.filter condition
  return .word "UPDATE " :: t.name ++ .word " SET " :: assignments ++ filter

def removalWhere (t : Table) (condition : Condition) : Except Error Fragment := do
  let filter ← t.filter condition
  return .word "DELETE FROM " :: t.name ++ filter

/-- The plain values that the data supplies for the columns: what an inserted row looks like. -/
def plainValues (t : Table) (data : Supply) : FieldMap :=
  .ofList <| t.schema.columns.filterMap fun c =>
    match data c with
    | some (.value v) => some (c, .value v)
    | _ => none

end Table
end SqlMapper
