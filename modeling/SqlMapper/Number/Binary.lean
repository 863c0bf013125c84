namespace SqlMapper

structure Single where
  bits : UInt32
deriving DecidableEq

structure Double where
  bits : UInt64
deriving DecidableEq

namespace Single

def toFloat32 (x : Single) : Float32 := Float32.ofBits x.bits

def toDouble (x : Single) : Double := ⟨x.toFloat32.toFloat.toBits⟩

def isNaN (x : Single) : Bool := (x.bits &&& 0x7fffffff) > 0x7f800000

/-- Equality of numbers: the two zeros are equal, and no NaN equals anything. -/
def same (x y : Single) : Bool := x.toFloat32 == y.toFloat32

end Single

namespace Double

def toFloat (x : Double) : Float := Float.ofBits x.bits

/-- The nearest number in single precision, a tie going to the even one. -/
def toSingle (x : Double) : Single := ⟨x.toFloat.toFloat32.toBits⟩

def isNaN (x : Double) : Bool := (x.bits &&& 0x7fffffffffffffff) > 0x7ff0000000000000

def isNegative (x : Double) : Bool := x.bits ≥ 0x8000000000000000

/-- Equality of numbers: the two zeros are equal, and no NaN equals anything. -/
def same (x y : Double) : Bool := x.toFloat == y.toFloat

end Double
end SqlMapper

/-! The fewest decimal digits that read back as a given finite double. For one digit, two digits
and so on, the two neighbours of the number on that decimal grid are tested; the first grid with
a neighbour that rounds to the number wins. -/
namespace SqlMapper.Decimal

/-- A finite positive number `significand * 2 ^ exponent`, with what lies between it and its
neighbours: numerators over one common denominator. -/
structure Interval where
  value : Nat
  low : Nat
  high : Nat
  denominator : Nat
  /-- Whether the ends round to the number. -/
  closed : Bool

/-- The bit above the stored ones of a normal double, the 52nd power of two. -/
def hiddenBit : Nat := 4503599627370496

/-- The reals that round to a positive finite double, from its bits without the sign. -/
def Interval.ofBits (bits : Nat) : Interval :=
  let field := bits / hiddenBit
  let mantissa := bits % hiddenBit
  let significand := if field = 0 then mantissa else mantissa + hiddenBit
  -- the exponent of a quarter of the last place
  let exponent := (if field = 0 then (1 : Int) else Int.ofNat field) - 1077
  let scale := Nat.pow 2 exponent.toNat
  -- at a power of two the numbers below lie closer
  let below := if mantissa = 0 ∧ 1 < field then 1 else 2
  { value := 4 * significand * scale
    low := (4 * significand - below) * scale
    high := (4 * significand + 2) * scale
    denominator := Nat.pow 2 (-exponent).toNat
    closed := significand % 2 = 0 }

/-- How many times a fraction below one can be multiplied by ten and stay below one. -/
def leadingZeros (value denominator : Nat) : (fuel : Nat) → Nat
  | 0 => 0
  | fuel + 1 =>
    if value * 10 < denominator then leadingZeros (value * 10) denominator fuel + 1 else 0

/-- The exponent `k` with `10 ^ (k - 1) ≤ value < 10 ^ k`. -/
def Interval.magnitude (i : Interval) : Int :=
  if i.denominator ≤ i.value then (Nat.toDigits 10 (i.value / i.denominator)).length
  else -(leadingZeros i.value i.denominator 400 : Int)

/-- The neighbour of the value among the multiples of `10 ^ unit` that rounds to it. -/
def Interval.onGrid? (i : Interval) (unit : Int) : Option Nat :=
  let up := Nat.pow 10 (-unit).toNat
  let denominator := i.denominator * Nat.pow 10 unit.toNat
  let value := i.value * up
  let accepts (n : Nat) : Bool :=
    if i.closed then i.low * up ≤ n * denominator && n * denominator ≤ i.high * up
    else i.low * up < n * denominator && n * denominator < i.high * up
  let floor := value / denominator
  let rest := value % denominator
  match accepts floor, accepts (floor + 1) with
  | true, true =>
    -- the nearer of two, a tie going to the even multiple
    if 2 * rest < denominator then some floor
    else if denominator < 2 * rest then some (floor + 1)
    else if floor % 2 = 0 then some floor else some (floor + 1)
  | true, false => some floor
  | false, true => some (floor + 1)
  | false, false => none

/-- The first grid of `digits` digits or more that has an accepted neighbour. -/
def Interval.firstGrid (i : Interval) (digits : Nat) : (fuel : Nat) → Nat × Int
  | 0 => (0, 0)
  | fuel + 1 =>
    let unit := i.magnitude - digits
    match i.onGrid? unit with
    | some n => (n, unit)
    | none => i.firstGrid (digits + 1) fuel

/-- A number without its trailing zeros, and the power of ten for them. -/
def dropZeros (n : Nat) (power : Int) : (fuel : Nat) → Nat × Int
  | 0 => (n, power)
  | fuel + 1 => if n ≠ 0 ∧ n % 10 = 0 then dropZeros (n / 10) (power + 1) fuel else (n, power)

/-- Digits `n` and a power `p` with `n * 10 ^ p` the shortest decimal that reads back as the
positive finite double with these bits. -/
def shortest (bits : Nat) : Nat × Int :=
  let (n, power) := (Interval.ofBits bits).firstGrid 1 17
  dropZeros n power 18

end SqlMapper.Decimal
