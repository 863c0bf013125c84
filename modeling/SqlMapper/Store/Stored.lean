import SqlMapper.Value.Basic

namespace SqlMapper

/-- Why the store refuses a call. -/
inductive StoreFault where
  /-- The statement cannot be understood. -/
  | prepare
  /-- An unsigned number is beyond the signed ones. -/
  | unsignedRange
  | query
  /-- A query fails while it runs. -/
  | fetch
  /-- A row without a value for one of its columns. -/
  | column
  | statement
  | batch
  /-- A text that is not UTF-8. -/
  | invalidText
deriving DecidableEq, Repr

def StoreFault.message : StoreFault → String
  | prepare => "failed to prepare statement"
  | unsignedRange => "unsigned value out of range for SQLite"
  | query => "failed to execute query"
  | fetch => "failed to fetch row"
  | column => "failed to get column value"
  | statement => "failed to execute statement"
  | batch => "failed to execute batch"
  | invalidText => "invalid UTF-8 in text value"

/-- A value of the store. Numbers are integers of 64 bits or in double precision. -/
inductive Stored where
  | null
  | integer (value : Int64)
  | real (value : Double)
  /-- A text by its bytes. -/
  | text (bytes : List UInt8)
  | blob (bytes : List UInt8)
deriving DecidableEq

/-- What is kept of a value: all but a NaN, which becomes `NULL`. -/
def Stored.kept : Stored → Stored
  | real x => if x.isNaN then null else real x
  | v => v

def Stored.ofText (s : String) : Stored := .text s.toUTF8.toList

def Datum.toStored : Datum → Except StoreFault Stored
  | .boolean (some v) => .ok (.integer (if v then 1 else 0))
  | .int32 (some v) => .ok (.integer v.toInt64)
  | .int64 (some v) => .ok (.integer v)
  | .uint32 (some v) => .ok (.integer (Int64.ofNat v.toNat))
  | .uint64 (some v) =>
    if v.toNat ≤ 9223372036854775807 then .ok (.integer (Int64.ofNat v.toNat))
    else .error .unsignedRange
  | .single (some v) => .ok (.real v.toDouble)
  | .double (some v) => .ok (.real v)
  | .text (some s) => .ok (.ofText s)
  | .date (some s) => .ok (.ofText s)
  | .time (some s) => .ok (.ofText s)
  | .timestamp (some s) => .ok (.ofText s)
  | .binary (some v) => .ok (.blob v)
  | _ => .ok .null

/-- What a value of the store is on the wire. -/
def Stored.toDatum : Stored → Except StoreFault Datum
  | null => .ok (.text none)
  | integer v => .ok (.int64 (some v))
  | real v => .ok (.double (some v))
  | text bytes =>
    match String.fromUTF8? ⟨bytes.toArray⟩ with
    | some s => .ok (.text (some s))
    | none => .error .invalidText
  | blob bytes => .ok (.binary (some bytes))

end SqlMapper
