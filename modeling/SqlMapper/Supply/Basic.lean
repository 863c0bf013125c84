import SqlMapper.Sql.Fragment
import SqlMapper.Supply.Expression

namespace SqlMapper

/-- What stands in a field map to ask for something else than equality. -/
inductive Comparison where
  | notNull
  | isNull
  | like (pattern : Value)
  /-- One of several values; no value is one of none. -/
  | among (values : List Value)
  | less (bound : Value)
  | lessEqual (bound : Value)
  | greater (bound : Value)
  | greaterEqual (bound : Value)
  | notEqual (value : Value)
  /-- The time in the column has passed. -/
  | passed
  /-- The time in the column is still to come. -/
  | toCome
deriving DecidableEq

/-- What follows the column. -/
def Comparison.fragment : Comparison → Fragment
  | notNull => [.word "IS NOT NULL"]
  | isNull => [.word "IS NULL"]
  | like v => [.word "LIKE ", .slot v]
  | among [] => [.word "IN (NULL)"]
  | among values =>
    .word "IN (" :: Fragment.joined "," (values.map fun v => [.slot v]) ++ [.word ")"]
  | less v => [.word "< ", .slot v]
  | lessEqual v => [.word "<= ", .slot v]
  | greater v => [.word "> ", .slot v]
  | greaterEqual v => [.word ">= ", .slot v]
  | notEqual v => [.word "!= ", .slot v]
  | passed => [.word "< NOW()"]
  | toCome => [.word "> NOW()"]

/-- What is supplied for a column. -/
inductive Supplied where
  | value (v : Value)
  | expression (e : Expression)
  | comparison (c : Comparison)
deriving DecidableEq

/-- Data with named fields: what is supplied for each name, if anything. -/
abbrev Supply := String → Option Supplied

/-- One column's part of an insert or an update. -/
inductive Slot where
  /-- A placeholder alone. -/
  | placeholder (v : Value)
  /-- A text of its own. -/
  | written (f : Fragment)
deriving DecidableEq

def Slot.fragment : Slot → Fragment
  | placeholder v => [.slot v]
  | written f => f

namespace Supplied

/-- The field of a value; a `NULL` supplies nothing. -/
def ofValue? (v : Value) : Option Supplied := if v.isNull then none else some (.value v)

/-- Whether the field counts as set: only the `NULL` of a type that travels does not. -/
def isSet : Supplied → Bool
  | value v => !v.isNull
  | _ => true

/-- Equality of what is supplied, with floating-point numbers compared as numbers. -/
def same : Supplied → Supplied → Bool
  | value v, value w => v.same w
  | expression (.add v), expression (.add w) => v.same w
  | expression (.subtract v), expression (.subtract w) => v.same w
  | expression (.bitwiseAnd v), expression (.bitwiseAnd w) => v.same w
  | expression (.bitwiseOr v), expression (.bitwiseOr w) => v.same w
  | expression (.numberToAddress v), expression (.numberToAddress w) => v.same w
  | comparison (.like v), comparison (.like w) => v.same w
  | comparison (.among vs), comparison (.among ws) =>
    vs.length = ws.length && (vs.zip ws).all fun (v, w) => v.same w
  | comparison (.less v), comparison (.less w) => v.same w
  | comparison (.lessEqual v), comparison (.lessEqual w) => v.same w
  | comparison (.greater v), comparison (.greater w) => v.same w
  | comparison (.greaterEqual v), comparison (.greaterEqual w) => v.same w
  | comparison (.notEqual v), comparison (.notEqual w) => v.same w
  | a, b => a = b

/-- The term of a predicate: equality to a plain value, or the comparison. -/
def term (c : Column) : Supplied → Except Misplaced Fragment
  | value v => .ok (c.reference ++ [.word "=", .slot v])
  | comparison q => .ok (c.reference ++ .word " " :: q.fragment)
  | expression e => .error ⟨.expression e, .filter⟩

def insertSlot (c : Column) : Supplied → Except Misplaced Slot
  | value v => .ok (.placeholder v)
  | expression e => (e.render .insert c).map .written
  | comparison _ => .error ⟨.comparison, .insert⟩

def updateSlot (c : Column) : Supplied → Except Misplaced Slot
  | value v => .ok (.written (c.reference ++ [.word "=", .slot v]))
  | expression e => (e.render .update c).map .written
  | comparison _ => .error ⟨.comparison, .update⟩

/-- The slot in a position. Only inserts and updates have slots. -/
def slot (position : Position) (c : Column) (v : Supplied) : Except Misplaced Slot :=
  match position with
  | .insert => v.insertSlot c
  | .update => v.updateSlot c
  | .order | .filter => .error ⟨.field, position⟩

end Supplied

namespace Supply

/-- The columns that the data sets, with what it supplies for them. -/
def assigned (data : Supply) (columns : List Column) : List (Column × Supplied) :=
  columns.filterMap fun c => (data c.label).map fun v => (c, v)

/-- The conjunction of the terms of all set columns; without any it is blank. -/
def predicate (data : Supply) (columns : List Column) : Except Misplaced Fragment := do
  let terms ← (data.assigned columns).mapM fun (c, v) => v.term c
  return Fragment.joined " AND " terms

/-- The slots of all set columns in a position. -/
def slots (data : Supply) (position : Position) (columns : List Column) :
    Except Misplaced (List Slot) :=
  (data.assigned columns).mapM fun (c, v) => v.slot position c

end Supply
end SqlMapper
