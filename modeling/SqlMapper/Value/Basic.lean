import SqlMapper.Calendar.Basic
import SqlMapper.Number.Binary

namespace SqlMapper

/-- A typed value; `none` is the `NULL` of the type. -/
inductive Value where
  | bool (value : Option Bool)
  | int8 (value : Option Int8)
  | int16 (value : Option Int16)
  | int32 (value : Option Int32)
  | int64 (value : Option Int64)
  | uint8 (value : Option UInt8)
  | uint16 (value : Option UInt16)
  | uint32 (value : Option UInt32)
  | uint64 (value : Option UInt64)
  | single (value : Option Single)
  | double (value : Option Double)
  | text (value : Option String)
  | char (value : Option Char)
  | bytes (value : Option (List UInt8))
  | date (value : Option Date)
  | clock (value : Option Clock)
  | dateTime (value : Option DateTime)
  /-- A moment, as Greenwich's clock shows it. -/
  | instant (value : Option DateTime)
  | zoned (value : Option ZonedDateTime)
  /-- A time in the zone of the machine; only its `NULL` is kept. -/
  | machineTime
deriving DecidableEq

/-- Equality of values as numbers and texts: floating-point numbers compare as numbers, so the zeros
are equal and a NaN differs from itself. -/
def Value.same : Value → Value → Bool
  | .single (some x), .single (some y) => x.same y
  | .double (some x), .double (some y) => x.same y
  | v, w => v = w

/-- A value on the wire; `none` is the `NULL` of the variant. -/
inductive Datum where
  | boolean (value : Option Bool)
  | int32 (value : Option Int32)
  | int64 (value : Option Int64)
  | uint32 (value : Option UInt32)
  | uint64 (value : Option UInt64)
  | single (value : Option Single)
  | double (value : Option Double)
  | text (value : Option String)
  | binary (value : Option (List UInt8))
  | date (value : Option String)
  | time (value : Option String)
  | timestamp (value : Option String)
deriving DecidableEq

def Datum.isNull : Datum → Bool
  | .boolean v => v.isNone
  | .int32 v => v.isNone
  | .int64 v => v.isNone
  | .uint32 v => v.isNone
  | .uint64 v => v.isNone
  | .single v => v.isNone
  | .double v => v.isNone
  | .text v => v.isNone
  | .binary v => v.isNone
  | .date v => v.isNone
  | .time v => v.isNone
  | .timestamp v => v.isNone

/-- A row: named data in the order of the projection. Names may repeat. -/
structure Row where
  fields : List (String × Datum)
deriving DecidableEq

namespace Row

/-- The datum of a name. Of several the first counts. -/
def get? (row : Row) (name : String) : Option Datum := row.fields.lookup name

/-- The datum at a place of the projection. -/
def datumAt? (row : Row) (index : Nat) : Option Datum := row.fields[index]?.map (·.2)

end Row
/-- The datum of a value. Zoned and machine times have none: they need a conversion first. -/
def Value.toDatum? : Value → Option Datum
  | .bool v => some (.boolean v)
  | .int8 v => some (.int32 (v.map Int8.toInt32))
  | .int16 v => some (.int32 (v.map Int16.toInt32))
  | .int32 v => some (.int32 v)
  | .int64 v => some (.int64 v)
  | .uint8 v => some (.uint32 (v.map UInt8.toUInt32))
  | .uint16 v => some (.uint32 (v.map UInt16.toUInt32))
  | .uint32 v => some (.uint32 v)
  | .uint64 v => some (.uint64 v)
  | .single v => some (.single v)
  | .double v => some (.double v)
  | .text v => some (.text v)
  | .char v => some (.text (v.map String.singleton))
  | .bytes v => some (.binary v)
  | .date v => some (.date (v.map fun d => String.ofList (Calendar.date d)))
  | .clock v => some (.time (v.map fun c => String.ofList (Calendar.clock c)))
  | .dateTime v => some (.timestamp (v.map fun t => String.ofList (Calendar.dateTime t)))
  | .instant v => some (.timestamp (v.map fun t => String.ofList (Calendar.instant t)))
  | .zoned _ => none
  | .machineTime => none

/-- The value of a datum. A date or time stays the text that it is. -/
def Datum.toValue : Datum → Value
  | .boolean v => .bool v
  | .int32 v => .int32 v
  | .int64 v => .int64 v
  | .uint32 v => .uint32 v
  | .uint64 v => .uint64 v
  | .single v => .single v
  | .double v => .double v
  | .text v => .text v
  | .binary v => .bytes v
  | .date v => .text v
  | .time v => .text v
  | .timestamp v => .text v

/-- Whether a value travels as `NULL`. A value that cannot travel is not `NULL`. -/
def Value.isNull (v : Value) : Bool := v.toDatum?.any Datum.isNull

end SqlMapper
