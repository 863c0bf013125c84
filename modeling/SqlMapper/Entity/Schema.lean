namespace SqlMapper

/-- What is wrong with a schema, or with a statement composed against one. -/
inductive SchemaFault where
  | noTable
  | noColumns (table : String)
  | noPrimaryKey (table : String)
  | repeatedColumn (table column : String)
  | unknownColumn (table column : String)
  /-- A statement that has nothing to insert, assign or select. -/
  | noValue
  | invalidAlias (name : String)
  | takenAlias (name : String)
  /-- A join condition that names another table than the two adjacent ones. -/
  | distantAlias (raw found expected : String)
deriving DecidableEq, Repr

def SchemaFault.message : SchemaFault → String
  | noTable => "entity has no table name"
  | noColumns table => "table \x60" ++ table ++ "\x60 has no columns"
  | noPrimaryKey table => "table \x60" ++ table ++ "\x60 did not have primary key"
  | repeatedColumn table column =>
    "table \x60" ++ table ++ "\x60 declares column \x60" ++ column ++ "\x60 twice"
  | unknownColumn table column =>
    "table \x60" ++ table ++ "\x60 has no column \x60" ++ column ++ "\x60"
  | noValue => "no value"
  | invalidAlias name => "\x60" ++ name ++ "\x60 is not a valid table alias"
  | takenAlias name => "alias \x60" ++ name ++ "\x60 is already joined"
  | distantAlias raw found expected =>
    "join condition \x60" ++ raw ++ "\x60 references alias \x60" ++ found ++
      "\x60, expected \x60" ++ expected ++ "\x60: joins can only relate adjacent aliases"

/-- The schema of a table. -/
structure Schema where
  table : String
  columns : List String
  /-- The key columns in the order of the key. -/
  primaryKey : List String
  /-- The columns that the database generates on insert. -/
  autoIncrement : List String
deriving DecidableEq, Repr

namespace Schema

/-- Whether a column belongs to the key. -/
def isKey (s : Schema) (column : String) : Bool := s.primaryKey.contains column

/-- The first element that stands in the list before. -/
def firstRepeated? : (seen : List String) → List String → Option String
  | _, [] => none
  | seen, c :: rest => if c ∈ seen then some c else firstRepeated? (c :: seen) rest

/-- The first fault of the schema. -/
def fault? (s : Schema) : Option SchemaFault :=
  if s.table.isEmpty then some .noTable
  else if s.columns.isEmpty then some (.noColumns s.table)
  else if s.primaryKey.isEmpty then some (.noPrimaryKey s.table)
  else
    match firstRepeated? [] s.columns with
    | some c => some (.repeatedColumn s.table c)
    | none =>
      -- the key and the generated columns have to be declared
      ((s.primaryKey ++ s.autoIncrement).find? fun c => c ∉ s.columns).map
        (.unknownColumn s.table)

/-- The schema itself, if it is consistent. -/
def checked (s : Schema) : Except SchemaFault Schema :=
  match s.fault? with
  | some f => .error f
  | none => .ok s

end Schema
/-- The schemas in force, for the types that have one so far. -/
structure Registry (κ : Type) where
  entries : List (κ × Schema)

namespace Registry

variable {κ : Type} [DecidableEq κ]

def empty : Registry κ := ⟨[]⟩

def get? (r : Registry κ) (key : κ) : Option Schema := r.entries.lookup key

/-- Put a schema in force. -/
def enter (r : Registry κ) (key : κ) (s : Schema) : Registry κ := ⟨(key, s) :: r.entries⟩

/-- Put a consistent schema in force for a type; an inconsistent one changes nothing. -/
def put (r : Registry κ) (key : κ) (s : Schema) : Except SchemaFault Schema × Registry κ :=
  match s.checked with
  | .ok s => (.ok s, r.enter key s)
  | .error f => (.error f, r)

/-- The schema of a type: the one in force, or else the declared one, which comes into force if it
is consistent. -/
def schemaFor (r : Registry κ) (key : κ) (declared : Schema) :
    Except SchemaFault Schema × Registry κ :=
  match r.get? key with
  | some s => (.ok s, r)
  | none => r.put key declared

end Registry
end SqlMapper
