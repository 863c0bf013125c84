import SqlMapper.Number.Binary
import SqlMapper.Text.Quoted

namespace SqlMapper

/-- A JSON value. The fields of an object are in the order of their names by code point, each name
once. -/
inductive Json where
  | null
  | bool (value : Bool)
  | integer (value : Int)
  | double (value : Double)
  | text (value : String)
  | list (items : List Json)
  | object (fields : List (String × Json))
deriving Inhabited

/-- Put a field in its place; the value of a name that is there already is replaced. -/
def Json.insertField (name : String) (value : Json) : List (String × Json) → List (String × Json)
  | [] => [(name, value)]
  | (n, v) :: rest =>
    if name = n then (name, value) :: rest
    else if name < n then (name, value) :: (n, v) :: rest
    else (n, v) :: insertField name value rest

end SqlMapper

namespace SqlMapper.Json
open SqlMapper.Text

/-- The layout of a decimal number: positional for exponents from -5 to 15, and always with a
fraction there; otherwise one digit before the point and an exponent with its sign. -/
def layout (digits : List Char) (power : Int) : List Char :=
  let point : Int := digits.length + power
  if 0 ≤ power ∧ point ≤ 16 then
    digits ++ List.replicate power.toNat '0' ++ ['.', '0']
  else if 0 < point ∧ point ≤ 16 then
    digits.take point.toNat ++ ['.'] ++ digits.drop point.toNat
  else if -5 < point ∧ point ≤ 0 then
    ['0', '.'] ++ List.replicate (-point).toNat '0' ++ digits
  else
    let exponent := (if 0 < point then '+' else '-') :: Nat.toDigits 10 (point - 1).natAbs
    match digits with
    | [] => []
    | [d] => [d, 'e'] ++ exponent
    | d :: ds => [d, '.'] ++ ds ++ ['e'] ++ exponent

/-- A finite double in its fewest digits. -/
def doubleText (x : Double) : List Char :=
  let magnitude := x.bits.toNat % 9223372036854775808
  let unsigned :=
    if magnitude = 0 then ['0', '.', '0']
    else
      let (n, power) := Decimal.shortest magnitude
      layout (Nat.toDigits 10 n) power
  if x.isNegative then '-' :: unsigned else unsigned

def escapedChar (c : Char) : List Char :=
  if c = '"' then ['\\', '"']
  else if c = '\\' then ['\\', '\\']
  else if c = '\x08' then ['\\', 'b']
  else if c = '\x0c' then ['\\', 'f']
  else if c = '\n' then ['\\', 'n']
  else if c = '\r' then ['\\', 'r']
  else if c = '\t' then ['\\', 't']
  else if c.toNat < 0x20 then ['\\', 'u'] ++ hexPadded 4 c.toNat
  else [c]

def stringText (s : String) : List Char :=
  '"' :: s.toList.flatMap escapedChar ++ ['"']

mutual

def render : Json → List Char
  | .null => ['n', 'u', 'l', 'l']
  | .bool true => ['t', 'r', 'u', 'e']
  | .bool false => ['f', 'a', 'l', 's', 'e']
  | .integer n => (toString n).toList
  | .double x => doubleText x
  | .text s => stringText s
  | .list items => '[' :: renderItems items ++ [']']
  | .object fields => '\x7b' :: renderFields fields ++ ['\x7d']

def renderItems : List Json → List Char
  | [] => []
  | [item] => render item
  | item :: rest => render item ++ ',' :: renderItems rest

def renderFields : List (String × Json) → List Char
  | [] => []
  | [(name, value)] => stringText name ++ ':' :: render value
  | (name, value) :: rest => stringText name ++ ':' :: render value ++ ',' :: renderFields rest

end

def toText (j : Json) : String := String.ofList j.render

end SqlMapper.Json
