import SqlMapper.Calendar.Read
import SqlMapper.Supply.Basic
import SqlMapper.Json.Basic
import SqlMapper.Json.Read

namespace SqlMapper

/-- The type of a field that is always there. -/
inductive ScalarType where
  | bool
  | int32
  | int64
  | uint32
  | uint64
  | single
  | double
  | text
  | bytes
  /-- A moment, as Greenwich's clock shows it. -/
  | instant
  | dateTime
  | date
  | clock
  | json
deriving DecidableEq, Repr

/-- Why a row does not hold what is read from it. -/
inductive DecodeError where
  | missing (column : String)
  | expected (type : ScalarType)
  | outOfRange
  | timestamp (raw : String)
  | date (raw : String)
  | clock (raw : String)
  | json (fault : Json.Fault)
  /-- A reader of a program's own refused. -/
  | own (message : String)
deriving DecidableEq, Repr

namespace ScalarType

@[reducible] def Carrier : ScalarType → Type
  | bool => Bool
  | int32 => Int32
  | int64 => Int64
  | uint32 => UInt32
  | uint64 => UInt64
  | single => Single
  | double => Double
  | text => String
  | bytes => List UInt8
  | instant => DateTime
  | dateTime => DateTime
  | date => Date
  | clock => Clock
  | json => Json

/-- The value that a field binds. JSON is bound as its text. -/
def toValue : (t : ScalarType) → t.Carrier → Value
  | bool, v => .bool (some v)
  | int32, v => .int32 (some v)
  | int64, v => .int64 (some v)
  | uint32, v => .uint32 (some v)
  | uint64, v => .uint64 (some v)
  | single, v => .single (some v)
  | double, v => .double (some v)
  | text, v => .text (some v)
  | bytes, v => .bytes (some v)
  | instant, v => .instant (some v)
  | dateTime, v => .dateTime (some v)
  | date, v => .date (some v)
  | clock, v => .clock (some v)
  | json, v => .text (some v.toText)

/-- What a datum has to be for the type. -/
def datumName : ScalarType → String
  | bool => "boolean"
  | int32 => "int32"
  | int64 => "int64"
  | uint32 => "uint32"
  | uint64 => "uint64"
  | single => "float"
  | double => "double"
  | text => "string"
  | bytes => "binary"
  | instant => "timestamp"
  | dateTime => "timestamp"
  | date => "date"
  | clock => "time"
  | json => "json compatible"

end ScalarType

def DecodeError.message : DecodeError → String
  | missing column => "missing column '" ++ column ++ "'"
  | expected type => "expected " ++ type.datumName ++ " data type"
  | outOfRange => "integer out of range"
  | timestamp raw =>
    "unsupported timestamp: " ++ raw ++
      "; expected RFC3339 or \"%Y-%m-%d %H:%M:%S%.f\" format"
  | date raw => "unsupported date: " ++ raw ++ "; expected \"%Y-%m-%d\" format"
  | clock raw => "unsupported time: " ++ raw ++ "; expected \"%H:%M:%S%.f\" format"
  | json .malformed => "json syntax"
  | json .truncated => "json eof"
  | own message => message

namespace Decode

def int32 (n : Int) : Except DecodeError Int32 :=
  if -2147483648 ≤ n ∧ n ≤ 2147483647 then .ok (Int32.ofInt n) else .error .outOfRange

def int64 (n : Int) : Except DecodeError Int64 :=
  if -9223372036854775808 ≤ n ∧ n ≤ 9223372036854775807 then .ok (Int64.ofInt n)
  else .error .outOfRange

def uint32 (n : Int) : Except DecodeError UInt32 :=
  if 0 ≤ n ∧ n ≤ 4294967295 then .ok (UInt32.ofNat n.toNat) else .error .outOfRange

def uint64 (n : Int) : Except DecodeError UInt64 :=
  if 0 ≤ n ∧ n ≤ 18446744073709551615 then .ok (UInt64.ofNat n.toNat) else .error .outOfRange

/-- The day and time of a text, on the clock of Greenwich. -/
def moment (raw : String) : Except DecodeError DateTime :=
  match Calendar.readMoment? raw.toList with
  | some t => .ok t
  | none => .error (.timestamp raw)

def date (raw : String) : Except DecodeError Date :=
  match Calendar.readDate? raw.toList with
  | some d => .ok d
  | none => .error (.date raw)

def clock (raw : String) : Except DecodeError Clock :=
  match Calendar.readClock? raw.toList with
  | some c => .ok c
  | none => .error (.clock raw)

def json (s : Json.Bytes) : Except DecodeError Json := (Json.ofBytes s).mapError .json

end Decode

/-- What a datum is as a field of the type. No type is read from a `NULL`. -/
def ScalarType.read : (t : ScalarType) → Datum → Except DecodeError t.Carrier
  | .bool, .boolean (some v) => .ok v
  | .bool, .int32 (some v) => .ok (v != 0)
  | .bool, .int64 (some v) => .ok (v != 0)
  | .int32, .int32 (some v) => .ok v
  | .int32, .int64 (some v) => Decode.int32 v.toInt
  | .int32, .uint32 (some v) => Decode.int32 v.toNat
  | .int64, .int64 (some v) => .ok v
  | .int64, .int32 (some v) => .ok v.toInt64
  | .int64, .uint32 (some v) => Decode.int64 v.toNat
  | .int64, .uint64 (some v) => Decode.int64 v.toNat
  | .uint32, .uint32 (some v) => .ok v
  | .uint32, .int64 (some v) => Decode.uint32 v.toInt
  | .uint32, .int32 (some v) => Decode.uint32 v.toInt
  | .uint64, .uint64 (some v) => .ok v
  | .uint64, .uint32 (some v) => .ok v.toUInt64
  | .uint64, .int64 (some v) => Decode.uint64 v.toInt
  | .uint64, .int32 (some v) => Decode.uint64 v.toInt
  | .single, .single (some v) => .ok v
  | .single, .double (some v) => .ok v.toSingle
  | .double, .double (some v) => .ok v
  | .double, .single (some v) => .ok v.toDouble
  | .text, .text (some raw) => .ok raw
  | .text, .date (some raw) => .ok raw
  | .text, .time (some raw) => .ok raw
  | .text, .timestamp (some raw) => .ok raw
  | .bytes, .binary (some v) => .ok v
  | .instant, .timestamp (some raw) => Decode.moment raw
  | .instant, .text (some raw) => Decode.moment raw
  | .dateTime, .timestamp (some raw) => Decode.moment raw
  | .dateTime, .text (some raw) => Decode.moment raw
  | .date, .date (some raw) => Decode.date raw
  | .date, .text (some raw) => Decode.date raw
  | .clock, .time (some raw) => Decode.clock raw
  | .clock, .text (some raw) => Decode.clock raw
  | .json, .text (some raw) => Decode.json raw.toUTF8.toList
  | .json, .binary (some v) => Decode.json v
  | t, _ => .error (.expected t)

/-- A type of fields that a program brings along: what a field holds, what it supplies, and how it
is read from the column of its name. -/
structure OwnType where
  Carrier : Type
  supplied : Carrier → Option Supplied
  readField : Row → String → Except DecodeError Carrier

inductive FieldType : Type 1 where
  | required (type : ScalarType)
  /-- The field may be unset. -/
  | optional (type : FieldType)
  | own (type : OwnType)

instance : Coe ScalarType FieldType := ⟨FieldType.required⟩

namespace FieldType

@[reducible] def Carrier : FieldType → Type
  | required t => t.Carrier
  | optional t => Option t.Carrier
  | own t => t.Carrier

/-- What a field supplies for its column; an unset one nothing. -/
def supplied : (t : FieldType) → t.Carrier → Option Supplied
  | required t, v => some (.value (t.toValue v))
  | optional t, v => v.bind t.supplied
  | own t, v => t.supplied v

/-- Read a field from the column of its name. An optional field is unset where the column is missing
or `NULL`. -/
def readField (row : Row) (name : String) : (t : FieldType) → Except DecodeError t.Carrier
  | required t =>
    match row.get? name with
    | some d => t.read d
    | none => .error (.missing name)
  | optional t =>
    match row.get? name with
    | some d => if d.isNull then .ok none else (readField row name t).map some
    | none => .ok none
  | own t => t.readField row name

end FieldType
end SqlMapper
