import SqlMapper.Json.Basic
import SqlMapper.Text.Quoted

namespace SqlMapper.Json
open SqlMapper.Text

/-- Why a text is no JSON value. -/
inductive Fault where
  /-- A byte that cannot stand where it does. -/
  | malformed
  /-- The text ends too early. -/
  | truncated
deriving DecidableEq, Repr

/-- The bytes of a text still to be read. -/
abbrev Bytes := List UInt8

def byte (c : Char) : UInt8 := c.toNat.toUInt8

def skipSpace (s : Bytes) : Bytes :=
  s.dropWhile fun b => b = 0x20 || b = 0x0a || b = 0x09 || b = 0x0d

def encoded (code : Nat) : Bytes := (String.singleton (Char.ofNat code)).toUTF8.toList

def fourHex : Bytes → Except Fault (Nat × Bytes)
  | a :: b :: c :: d :: rest =>
    match hexValue? a.toNat, hexValue? b.toNat, hexValue? c.toNat, hexValue? d.toNat with
    | some a, some b, some c, some d => .ok (((a * 16 + b) * 16 + c) * 16 + d, rest)
    | _, _, _, _ => .error .malformed
  | _ => .error .truncated

/-- What stands after `\u`: one code, or the two halves of a pair beyond the basic plane. -/
def unicodeEscape (s : Bytes) : Except Fault (Bytes × Bytes) := do
  let (first, rest) ← fourHex s
  -- a second half cannot come first
  if 0xdc00 ≤ first ∧ first ≤ 0xdfff then throw .malformed
  else if first < 0xd800 ∨ 0xdbff < first then return (encoded first, rest)
  else
    -- and a first half needs its second one
    match rest with
    | [] => throw .truncated
    | a :: rest =>
      if a ≠ byte '\\' then throw .malformed
      match rest with
      | [] => throw .truncated
      | b :: rest =>
        if b ≠ byte 'u' then throw .malformed
        let (second, rest) ← fourHex rest
        if second < 0xdc00 ∨ 0xdfff < second then throw .malformed
        return (encoded ((first - 0xd800) * 0x400 + (second - 0xdc00) + 0x10000), rest)

/-- What stands after a backslash. -/
def escape : Bytes → Except Fault (Bytes × Bytes)
  | [] => .error .truncated
  | b :: rest =>
    if b = byte '"' ∨ b = byte '\\' ∨ b = byte '/' then .ok ([b], rest)
    else if b = byte 'b' then .ok ([0x08], rest)
    else if b = byte 'f' then .ok ([0x0c], rest)
    else if b = byte 'n' then .ok ([0x0a], rest)
    else if b = byte 'r' then .ok ([0x0d], rest)
    else if b = byte 't' then .ok ([0x09], rest)
    else if b = byte 'u' then unicodeEscape rest
    else .error .malformed

/-- The rest of a string after its opening quote; `seen` holds its bytes in reverse. -/
def stringRest (seen : Bytes) : (fuel : Nat) → Bytes → Except Fault (String × Bytes)
  | 0, _ | _, [] => .error .truncated
  | fuel + 1, b :: rest =>
    if b = byte '"' then
      -- only now it is checked that the bytes are a text
      match String.fromUTF8? ⟨seen.reverse.toArray⟩ with
      | some s => .ok (s, rest)
      | none => .error .malformed
    else if b = byte '\\' then
      match escape rest with
      | .ok (bytes, rest) => stringRest (bytes.reverse ++ seen) fuel rest
      | .error e => .error e
    else if b < 0x20 then .error .malformed
    else stringRest (b :: seen) fuel rest

def isDigit (b : UInt8) : Bool := 0x30 ≤ b && b ≤ 0x39

def powerOfTen (n : Nat) : Float := Float.ofScientific 1 false n

/-- Divide by `10 ^ 308` while the exponent is below -308 and something is left. -/
def scaledDown (f : Float) (exponent : Int) : Float :=
  if -308 ≤ exponent then f / powerOfTen (-exponent).toNat
  else if f == 0.0 then f
  else scaledDown (f / powerOfTen 308) (exponent + 308)
termination_by (-exponent).toNat
decreasing_by omega

/-- A significand times a power of ten, computed in doubles: the significand is rounded first, and
multiplied or divided by the rounded power. A result beyond the doubles is a fault. -/
def scaled (positive : Bool) (significand : Nat) (exponent : Int) : Except Fault Json :=
  let f := significand.toUInt64.toFloat
  let signed (f : Float) : Json := .double ⟨(if positive then f else -f).toBits⟩
  if 308 < exponent then
    if significand = 0 then .ok (signed f) else .error .malformed
  else if 0 ≤ exponent then
    let product := f * powerOfTen exponent.toNat
    if product.isInf then .error .malformed else .ok (signed product)
  else .ok (signed (scaledDown f exponent))

def significandLimit : Nat := 18446744073709551616

/-- The largest magnitude of a written exponent that is computed with. -/
def exponentLimit : Nat := 2147483647

def clampExponent (n : Int) : Int := max (-2147483648) (min 2147483647 n)

/-- Take digits into a significand as long as it stays below the limit; also how many were taken. -/
def takeSignificand (limit : Nat) (significand count : Nat) : Bytes → Nat × Nat × Bytes
  | [] => (significand, count, [])
  | b :: rest =>
    let next := significand * 10 + (b.toNat - 0x30)
    if isDigit b && next < limit then takeSignificand limit next (count + 1) rest
    else (significand, count, b :: rest)

/-- The exponent of a number, after its `e`. -/
def exponentPart (positive : Bool) (significand : Nat) (start : Int) (s : Bytes) :
    Except Fault (Json × Bytes) :=
  let (up, s) : Bool × Bytes :=
    match s with
    | b :: rest => if b = byte '+' then (true, rest) else if b = byte '-' then (false, rest)
      else (true, s)
    | [] => (true, [])
  match s with
  | [] => .error .truncated
  | b :: _ =>
    if !isDigit b then .error .malformed
    else
      let (exponent, _, rest) := takeSignificand (exponentLimit + 1) 0 0 s
      match rest with
      | c :: _ =>
        if isDigit c then
          -- the exponent does not fit: too much is left, or nothing
          if significand ≠ 0 && up then .error .malformed
          else .ok (.double ⟨(if positive then (0.0 : Float) else -0.0).toBits⟩,
            rest.dropWhile isDigit)
        else finish up exponent rest
      | [] => finish up exponent rest
where
  finish (up : Bool) (exponent : Nat) (rest : Bytes) : Except Fault (Json × Bytes) := do
    let total := clampExponent (if up then start + exponent else start - exponent)
    let j ← scaled positive significand total
    return (j, rest)

/-- What follows the digits of a number's fraction. -/
def afterFraction (positive : Bool) (significand : Nat) (exponent : Int) (s : Bytes) :
    Except Fault (Json × Bytes) :=
  match s with
  | b :: rest =>
    if b = byte 'e' ∨ b = byte 'E' then exponentPart positive significand exponent rest
    else (scaled positive significand exponent).map fun j => (j, s)
  | [] => (scaled positive significand exponent).map fun j => (j, s)

/-- The fraction of a number, after its point. -/
def fractionPart (positive : Bool) (significand : Nat) (start : Int) (s : Bytes) :
    Except Fault (Json × Bytes) :=
  let (significand, count, rest) := takeSignificand significandLimit significand 0 s
  let exponent := start - count
  match rest with
  | b :: _ =>
    -- digits that no longer fit are dropped
    if isDigit b then afterFraction positive significand exponent (rest.dropWhile isDigit)
    else if count = 0 then .error .malformed
    else afterFraction positive significand exponent rest
  | [] => if count = 0 then .error .truncated else afterFraction positive significand exponent rest

/-- What follows the integer digits of a number; `dropped` of them did not fit. -/
def afterInteger (positive : Bool) (significand dropped : Nat) (s : Bytes) :
    Except Fault (Json × Bytes) :=
  let plain : Except Fault (Json × Bytes) :=
    if dropped ≠ 0 then (scaled positive significand dropped).map fun j => (j, s)
    else if positive then .ok (.integer significand, s)
    else if 0 < significand ∧ significand ≤ 9223372036854775808 then
      .ok (.integer (-significand), s)
    -- zero with a sign is no integer, nor is a number beyond 64 bits
    else .ok (.double ⟨(-significand.toUInt64.toFloat).toBits⟩, s)
  match s with
  | b :: rest =>
    if b = byte '.' then fractionPart positive significand dropped rest
    else if b = byte 'e' ∨ b = byte 'E' then exponentPart positive significand dropped rest
    else plain
  | [] => plain

/-- A number after its sign. -/
def number (positive : Bool) : Bytes → Except Fault (Json × Bytes)
  | [] => .error .truncated
  | b :: rest =>
    if b = byte '0' then
      -- no digit may follow a zero
      match rest with
      | c :: _ => if isDigit c then .error .malformed else afterInteger positive 0 0 rest
      | [] => afterInteger positive 0 0 rest
    else if isDigit b then
      let (significand, _, rest) := takeSignificand significandLimit 0 0 (b :: rest)
      let tail := rest.dropWhile isDigit
      afterInteger positive significand (rest.length - tail.length) tail
    else .error .malformed

def word (value : Json) : (letters : List Char) → Bytes → Except Fault (Json × Bytes)
  | [], s => .ok (value, s)
  | _ :: _, [] => .error .truncated
  | c :: cs, b :: rest => if b = byte c then word value cs rest else .error .malformed

mutual

/-- A value; `depth` lists and objects may still be opened. -/
def value (depth : Nat) : (fuel : Nat) → Bytes → Except Fault (Json × Bytes)
  | 0, _ => .error .truncated
  | fuel + 1, s =>
    match skipSpace s with
    | [] => .error .truncated
    | b :: rest =>
      if b = byte 'n' then word .null ['u', 'l', 'l'] rest
      else if b = byte 't' then word (.bool true) ['r', 'u', 'e'] rest
      else if b = byte 'f' then word (.bool false) ['a', 'l', 's', 'e'] rest
      else if b = byte '-' then number false rest
      else if isDigit b then number true (b :: rest)
      else if b = byte '"' then
        (stringRest [] (rest.length + 1) rest).map fun (s, rest) => (.text s, rest)
      else if b = byte '[' then
        match depth with
        | 0 => .error .malformed
        | depth + 1 => items depth true [] fuel rest
      else if b = byte '\x7b' then
        match depth with
        | 0 => .error .malformed
        | depth + 1 => fields depth true [] fuel rest
      else .error .malformed
termination_by structural fuel => fuel

/-- The rest of a list; `seen` holds its items in reverse. -/
def items (depth : Nat) (first : Bool) (seen : List Json) :
    (fuel : Nat) → Bytes → Except Fault (Json × Bytes)
  | 0, _ => .error .truncated
  | fuel + 1, s =>
    match skipSpace s with
    | [] => .error .truncated
    | b :: rest =>
      if b = byte ']' then .ok (.list seen.reverse, rest)
      else if first then
        match value depth fuel (b :: rest) with
        | .ok (item, rest) => items depth false (item :: seen) fuel rest
        | .error e => .error e
      else if b = byte ',' then
        match skipSpace rest with
        | [] => .error .truncated
        | c :: rest =>
          -- the last comma needs an item after it
          if c = byte ']' then .error .malformed
          else
            match value depth fuel (c :: rest) with
            | .ok (item, rest) => items depth false (item :: seen) fuel rest
            | .error e => .error e
      else .error .malformed
termination_by structural fuel => fuel

/-- The rest of an object. The last value given for a name is kept. -/
def fields (depth : Nat) (first : Bool) (seen : List (String × Json)) :
    (fuel : Nat) → Bytes → Except Fault (Json × Bytes)
  | 0, _ => .error .truncated
  | fuel + 1, s =>
    match skipSpace s with
    | [] => .error .truncated
    | b :: rest =>
      if b = byte '\x7d' then .ok (.object seen, rest)
      else if first then
        if b = byte '"' then field depth seen fuel rest else .error .malformed
      else if b = byte ',' then
        match skipSpace rest with
        | [] => .error .truncated
        | c :: rest => if c = byte '"' then field depth seen fuel rest else .error .malformed
      else .error .malformed
termination_by structural fuel => fuel

/-- A field after the opening quote of its name, and the rest of the object. -/
def field (depth : Nat) (seen : List (String × Json)) :
    (fuel : Nat) → Bytes → Except Fault (Json × Bytes)
  | 0, _ => .error .truncated
  | fuel + 1, s =>
    match stringRest [] (s.length + 1) s with
    | .error e => .error e
    | .ok (name, rest) =>
      match skipSpace rest with
      | [] => .error .truncated
      | b :: rest =>
        if b = byte ':' then
          match value depth fuel rest with
          | .ok (v, rest) => fields depth false (insertField name v seen) fuel rest
          | .error e => .error e
        else .error .malformed
termination_by structural fuel => fuel

end

/-- The value that a whole text stands for. Of two nested steps of reading at least one takes a
byte, so the fuel never runs out. -/
def ofBytes (s : Bytes) : Except Fault Json := do
  let (j, rest) ← value 127 (3 * s.length + 3) s
  if (skipSpace rest).isEmpty then return j else throw .malformed

end SqlMapper.Json
