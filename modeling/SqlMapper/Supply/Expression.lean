import SqlMapper.Sql.Scope

namespace SqlMapper

inductive Position where
  /-- The values of an insert. -/
  | insert
  /-- The assignments of an update. -/
  | update
  /-- The items of an ordering. -/
  | order
  /-- A predicate. -/
  | filter
deriving DecidableEq, Repr

/-- The keyword that names the position. -/
def Position.label : Position → String
  | .insert => "INSERT"
  | .update => "UPDATE"
  | .order => "ORDER"
  | .filter => "WHERE"

inductive Expression where
  | increment
  | decrement
  | add (amount : Value)
  | subtract (amount : Value)
  | bitwiseAnd (mask : Value)
  | bitwiseOr (mask : Value)
  | currentDate
  | currentTime
  | now
  | null
  | daysFromNow (days : Int64)
  | hoursFromNow (hours : Int64)
  /-- The number of a dotted network address. -/
  | addressToNumber (address : String)
  /-- The dotted form of a network address. -/
  | numberToAddress (number : Value)
deriving DecidableEq

/-- A field value that its position does not take. -/
inductive Operand where
  | expression (e : Expression)
  | comparison
  | field
deriving DecidableEq

/-- A field value in a position that does not take it. -/
structure Misplaced where
  operand : Operand
  position : Position
deriving DecidableEq

namespace Expression

def name : Expression → String
  | increment => "increment"
  | decrement => "decrement"
  | add _ => "add"
  | subtract _ => "subtract"
  | bitwiseAnd _ => "bitwise-and"
  | bitwiseOr _ => "bitwise-or"
  | currentDate => "current-date"
  | currentTime => "current-time"
  | now => "now"
  | null => "null"
  | daysFromNow _ => "days-from-now"
  | hoursFromNow _ => "hours-from-now"
  | addressToNumber _ => "inet-aton"
  | numberToAddress _ => "inet-ntoa"

/-- Arithmetic on the column only updates it, a value of its own is inserted as well, and an address
function also orders. -/
def positions : Expression → List Position
  | increment | decrement | add _ | subtract _ | bitwiseAnd _ | bitwiseOr _ => [.update]
  | currentDate | currentTime | now | null | daysFromNow _ | hoursFromNow _ => [.insert, .update]
  | addressToNumber _ | numberToAddress _ => [.insert, .update, .order]

/-- What an update appends to the column itself. -/
def change? : Expression → Option Fragment
  | increment => some [.word "+1"]
  | decrement => some [.word "-1"]
  | add v => some [.word "+", .slot v]
  | subtract v => some [.word "-", .slot v]
  | bitwiseAnd v => some [.word " & ", .slot v]
  | bitwiseOr v => some [.word " | ", .slot v]
  | _ => none

/-- The address function of an expression, with its argument. -/
def function? : Expression → Option (String × Value)
  | addressToNumber address => some ("INET_ATON", .text (some address))
  | numberToAddress v => some ("INET_NTOA", v)
  | _ => none

/-- A moment some units from now. -/
def later (amount : Int64) (unit : String) : Fragment :=
  [.word "DATE_ADD(NOW(), INTERVAL ", .word (toString amount.toInt), .word (" " ++ unit ++ ")")]

def standalone : Expression → Fragment
  | currentDate => [.word "CURDATE()"]
  | currentTime => [.word "CURTIME()"]
  | now => [.word "NOW()"]
  | null => [.word "NULL"]
  | daysFromNow n => later n "DAY"
  | hoursFromNow n => later n "HOUR"
  | e =>
    match e.function? with
    | some (f, v) => [.word (f ++ "("), .slot v, .word ")"]
    | none => []

def assignment (e : Expression) (column : Fragment) : Fragment :=
  match e.change? with
  | some f => column ++ .word "=" :: column ++ f
  | none => column ++ .word "=" :: e.standalone

def applied (e : Expression) (column : Fragment) : Fragment :=
  match e.function? with
  | some (f, _) => .word (f ++ "(") :: column ++ [.word ")"]
  | none => []

/-- The expression in a position: by itself in an insert, assigned to the column in an update, and
applied to the column in an ordering. -/
def render (e : Expression) (position : Position) (column : Column) : Except Misplaced Fragment :=
  if position ∈ e.positions then
    match position with
    | .insert => .ok e.standalone
    | .update => .ok (e.assignment column.reference)
    | .order => .ok (e.applied column.reference)
    | .filter => .ok []
  else .error ⟨.expression e, position⟩

end Expression

def Operand.name : Operand → String
  | .expression e => e.name
  | .comparison => "comparator"
  | .field => "field value"

end SqlMapper
