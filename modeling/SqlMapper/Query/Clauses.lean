import SqlMapper.Supply.Expression
import SqlMapper.Query.Condition

namespace SqlMapper

inductive Direction where
  | ascending
  | descending
deriving DecidableEq, Repr

def Direction.label : Direction → String
  | .ascending => "ASC"
  | .descending => "DESC"

inductive SortItem where
  /-- A column in the direction of the database's choice. -/
  | column (name : String)
  /-- Columns in one direction. -/
  | directed (names : List String) (direction : Direction)
  /-- An expression applied to a column. -/
  | expression (name : String) (e : Expression)
deriving DecidableEq

/-- The item as a fragment. It binds nothing. -/
def SortItem.render (s : Scope) : SortItem → Except Misplaced Fragment
  | .column name => .ok (s.column name).reference
  | .directed names direction =>
    .ok (Fragment.joined "," (names.map fun name =>
      (s.column name).reference ++ [.word (" " ++ direction.label)]))
  | .expression name e => e.render .order (s.column name)

/-- The last clause of a chain. -/
inductive Stage where
  | filtered
  | grouped
  | restricted
  | ordered
  | limited
deriving DecidableEq, Repr

def Stage.canOrder : Stage → Bool
  | .filtered | .grouped | .restricted => true
  | .ordered | .limited => false

def Stage.canLimit : Stage → Bool
  | .limited => false
  | _ => true

/-- A chain of clauses. -/
inductive Clauses : Stage → Type where
  | filter (condition : Condition) : Clauses .filtered
  | groupBy (clauses : Clauses .filtered) (names : List String) : Clauses .grouped
  | having (clauses : Clauses .grouped) (condition : Condition) : Clauses .restricted
  | orderBy {s : Stage} (clauses : Clauses s) (h : s.canOrder) (items : List SortItem) :
    Clauses .ordered
  /-- Rows to skip and rows to return; without rows to return, the first number is a count. -/
  | limit {s : Stage} (clauses : Clauses s) (h : s.canLimit) (offset count : Int64) :
    Clauses .limited

namespace Clauses

/-- A condition after a keyword, or nothing for a blank one. -/
def conditional (keyword : String) (f : Fragment) : Fragment :=
  if f.isBlank then [] else .word keyword :: f

def columnReference (s : Scope) (name : String) : Fragment := (s.column name).reference

/-- The clauses as a fragment. Blank conditions and empty lists leave their clause out. -/
def render (s : Scope) {stage : Stage} : Clauses stage → Except Misplaced Fragment
  | filter condition => do
    let f ← condition.render s
    return conditional " WHERE " f
  | groupBy clauses names => do
    let front ← clauses.render s
    if names.isEmpty then return front
    return front ++ .word " GROUP BY " :: Fragment.joined ", " (names.map (columnReference s))
  | having clauses condition => do
    let front ← clauses.render s
    let f ← condition.render s
    return front ++ conditional " HAVING " f
  | orderBy clauses _ items => do
    let front ← clauses.render s
    if items.isEmpty then return front
    let parts ← items.mapM (SortItem.render s)
    return front ++ .word " ORDER BY " :: Fragment.joined "," parts
  | limit clauses _ offset count => do
    let front ← clauses.render s
    if count ≤ 0 then return front ++ [.word " LIMIT ", .word (toString offset.toInt)]
    return front ++
      [.word " LIMIT ", .word (toString offset.toInt), .word ",", .word (toString count.toInt)]

end Clauses
end SqlMapper
