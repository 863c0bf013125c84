import SqlMapper.Supply.FieldMap

namespace SqlMapper

/-- A predicate of rows. -/
inductive Condition where
  /-- All fields of a map; the empty map filters nothing. -/
  | fields (map : FieldMap)
  | all (conditions : List Condition)
  | any (conditions : List Condition)
  | not (condition : Condition)
  /-- A predicate written out, without bound values. -/
  | raw (text : String)

namespace Condition

def always : Condition := .fields .empty

/-- The condition that a row looks like some data, in those of the columns that the data sets. -/
def ofSupply (columns : List String) (data : Supply) : Condition :=
  .fields (.ofSupply data columns)

mutual

/-- The condition as a fragment: combined conditions stand in parentheses. -/
def render (s : Scope) : Condition → Except Misplaced Fragment
  | fields map => map.supply.predicate s.columns
  | all conditions => do
    let parts ← renderAll s conditions
    return Fragment.joined " AND " parts
  | any conditions => do
    let parts ← renderAll s conditions
    return Fragment.joined " OR " parts
  | not condition => do
    let inner ← render s condition
    return .word "(NOT " :: inner ++ [.word ")"]
  | raw text => .ok [.word text]

/-- Each condition in parentheses. -/
def renderAll (s : Scope) : List Condition → Except Misplaced (List Fragment)
  | [] => .ok []
  | condition :: rest => do
    let part ← render s condition
    let parts ← renderAll s rest
    return part.inParens :: parts

end

end Condition
end SqlMapper
