import SqlMapper.Query.Relation

namespace SqlMapper

inductive JoinKind where
  | inner
  | left
deriving DecidableEq, Repr

def JoinKind.keyword : JoinKind → String
  | .inner => " JOIN "
  | .left => " LEFT JOIN "

structure AliasedTable where
  schema : Schema
  qualifier : String
deriving DecidableEq, Repr

/-- A further table of a join. -/
structure JoinStep where
  kind : JoinKind
  table : AliasedTable
  /-- Pairs of equal columns, of the table before and of this one. -/
  pairs : List (String × String)
deriving DecidableEq, Repr

/-- A chain of tables. -/
structure Join where
  delimiter : String
  first : AliasedTable
  steps : List JoinStep
deriving DecidableEq, Repr

namespace AliasedTable

def columns (t : AliasedTable) (delimiter : String) : List Column :=
  t.schema.columns.map fun c => Column.read c t.qualifier delimiter

def fragment (t : AliasedTable) : Fragment := [.name t.schema.table, .word (" " ++ t.qualifier)]

end AliasedTable

namespace Join

def tables (j : Join) : List AliasedTable := j.first :: j.steps.map JoinStep.table

def start (schema : Schema) (qualifier delimiter : String) : Except SchemaFault Join :=
  if isTableAlias qualifier.toList then .ok ⟨delimiter, ⟨schema, qualifier⟩, []⟩
  else .error (.invalidAlias qualifier)

/-- Join a further table under an alias of its own. -/
def add (j : Join) (kind : JoinKind) (schema : Schema) (qualifier : String)
    (pairs : List (String × String)) : Except SchemaFault Join :=
  if !isTableAlias qualifier.toList then .error (.invalidAlias qualifier)
  else if j.tables.any (·.qualifier = qualifier) then .error (.takenAlias qualifier)
  else .ok { j with steps := j.steps ++ [⟨kind, ⟨schema, qualifier⟩, pairs⟩] }

def columns (j : Join) : List Column := j.tables.flatMap (·.columns j.delimiter)

/-- A column of a join condition, which has to be of the expected table. -/
def conditionColumn (delimiter raw expected : String) : Except SchemaFault Fragment :=
  let column := Column.read raw expected delimiter
  if column.qualifier = expected then .ok column.reference
  else .error (.distantAlias raw column.qualifier expected)

def conditionPair (delimiter previous qualifier : String) (pair : String × String) :
    Except SchemaFault Fragment := do
  let left ← conditionColumn delimiter pair.1 previous
  let right ← conditionColumn delimiter pair.2 qualifier
  return left ++ .word " = " :: right

/-- A step with its condition, after the table of the alias `previous`. -/
def stepFragment (delimiter previous : String) (step : JoinStep) :
    Except SchemaFault Fragment := do
  let front : Fragment := .word step.kind.keyword :: step.table.fragment
  if step.pairs.isEmpty then return front
  let pairs ← step.pairs.mapM (conditionPair delimiter previous step.table.qualifier)
  return front ++ .word " ON " :: Fragment.joined " AND " pairs

/-- The steps after the table of the alias `previous`. -/
def stepFragments (delimiter : String) :
    (previous : String) → List JoinStep → Except SchemaFault Fragment
  | _, [] => .ok []
  | previous, step :: rest => do
    let f ← stepFragment delimiter previous step
    let g ← stepFragments delimiter step.table.qualifier rest
    return f ++ g

/-- `FROM` with the tables of the chain and their conditions. -/
def origin (j : Join) : Except SchemaFault Fragment := do
  let rest ← stepFragments j.delimiter j.first.qualifier j.steps
  return .word "FROM " :: j.first.fragment ++ rest

/-- What criteria on the join are rendered against. Names without an alias are of the first table.
-/
def scope (j : Join) : Scope := ⟨j.columns, j.first.qualifier, j.delimiter⟩

/-- The join as a source of rows, whose names are the labels of the columns. -/
def relation (j : Join) : Relation Row where
  scope := j.scope
  tableName := j.first.schema.table
  origin := j.origin
  projection := Fragment.joined "," (j.columns.map Column.item)
  item name := (j.scope.column name).item
  decode row := .ok row

end Join
end SqlMapper
