import SqlMapper.Calendar.Basic

namespace SqlMapper.Text

/-- Ranges of code points with the property `White_Space`, both ends included. -/
def blankRanges : List (Nat × Nat) :=
  [(0x9, 0xd), (0x20, 0x20), (0x85, 0x85), (0xa0, 0xa0), (0x1680, 0x1680), (0x2000, 0x200a),
   (0x2028, 0x2029), (0x202f, 0x202f), (0x205f, 0x205f), (0x3000, 0x3000)]

def isBlank (c : Char) : Bool :=
  blankRanges.any fun (low, high) => low ≤ c.toNat && c.toNat ≤ high

def skipBlanks (s : List Char) : List Char := s.dropWhile isBlank

end SqlMapper.Text

namespace SqlMapper.Calendar
open SqlMapper.Text

abbrev Reader (α : Type) := List Char → Option (α × List Char)

/-- The value of a run of decimal digits. -/
def digitsValue (digits : List Char) : Nat :=
  digits.foldl (fun n c => n * 10 + (c.toNat - '0'.toNat)) 0

/-- The longest run of digits with at most `limit` of them, and the rest. -/
def takeDigits : (limit : Nat) → List Char → List Char × List Char
  | 0, s => ([], s)
  | _ + 1, [] => ([], [])
  | limit + 1, c :: cs =>
    if c.isDigit then
      let (digits, rest) := takeDigits limit cs
      (c :: digits, rest)
    else ([], c :: cs)

/-- A number of `least` to `most` digits. -/
def number (least most : Nat) : Reader Nat := fun s =>
  let (digits, rest) := takeDigits most s
  if digits.length < least then none else some (digitsValue digits, rest)

def exactly (c : Char) : Reader Unit
  | [] => none
  | d :: rest => if d = c then some ((), rest) else none

/-- Blanks, and then a number of one or two digits. -/
def looseNumber : Reader Nat := fun s => number 1 2 (skipBlanks s)

/-- Blanks, and then a year of one to four digits, or of any number of digits after a sign. -/
def looseYear : Reader Int := fun s =>
  match skipBlanks s with
  | '-' :: rest => (number 1 rest.length rest).map fun (n, rest) => (-(n : Int), rest)
  | '+' :: rest => (number 1 rest.length rest).map fun (n, rest) => ((n : Int), rest)
  | rest => (number 1 4 rest).map fun (n, rest) => ((n : Int), rest)

/-- The digits of a fraction as nanoseconds: nine count, further ones are dropped. -/
def nanoseconds : Reader Nat := fun s => do
  let (digits, rest) := takeDigits 9 s
  if digits.isEmpty then none
  else
    some (digitsValue digits * Nat.pow 10 (9 - digits.length), rest.dropWhile Char.isDigit)

/-- A fraction of a second, if there is one: a point and at least one digit. -/
def optionalFraction : Reader Nat
  | '.' :: rest => nanoseconds rest
  | s => some (0, s)

/-- The time of day with a second up to 60, the leap second. -/
def clockOfParts? (hour minute second nano : Nat) : Option Clock :=
  if second = 60 then Clock.ofParts? hour minute 59 (nano + 1000000000)
  else if nano < 1000000000 then Clock.ofParts? hour minute second nano
  else none

def looseDate : Reader Date := fun s => do
  let (y, s) ← looseYear s
  let (_, s) ← exactly '-' s
  let (m, s) ← looseNumber s
  let (_, s) ← exactly '-' s
  let (d, s) ← looseNumber s
  let date ← Date.ofParts? y m d
  some (date, s)

def looseClock : Reader Clock := fun s => do
  let (h, s) ← looseNumber s
  let (_, s) ← exactly ':' s
  let (m, s) ← looseNumber s
  let (_, s) ← exactly ':' s
  let (sec, s) ← looseNumber s
  let (nano, s) ← optionalFraction s
  let clock ← clockOfParts? h m sec nano
  some (clock, s)

/-- The value of a reader that takes the whole text. -/
def whole {α : Type} (r : Reader α) (s : List Char) : Option α :=
  match r s with
  | some (a, []) => some a
  | _ => none

def readDate? (s : List Char) : Option Date := whole looseDate s

def readClock? (s : List Char) : Option Clock := whole looseClock s

def readDateTime? (s : List Char) : Option DateTime :=
  whole (fun s => do
    let (d, s) ← looseDate s
    let (c, s) ← looseClock (skipBlanks s)
    some (⟨d, c⟩, s)) s

/-- Hours and minutes of an offset in minutes, the minutes below 60. -/
def offsetMinutes : Reader Nat := fun s => do
  let (h, s) ← number 2 2 s
  let (_, s) ← exactly ':' s
  let (m, s) ← number 2 2 s
  if m < 60 ∧ h < 24 then some (h * 60 + m, s) else none

/-- An offset east of Greenwich in minutes: `Z`, or a sign with hours and minutes. -/
def offset : Reader Int
  | 'Z' :: rest | 'z' :: rest => some (0, rest)
  | '+' :: rest => (offsetMinutes rest).map fun (n, rest) => ((n : Int), rest)
  | '-' :: rest | '\u2212' :: rest =>
    (offsetMinutes rest).map fun (n, rest) => (-(n : Int), rest)
  | _ => none

/-- The letter or space between the day and the time. -/
def separator : Reader Unit
  | 'T' :: rest | 't' :: rest | ' ' :: rest => some ((), rest)
  | _ => none

/-- A moment in the form of RFC 3339, on the clock of Greenwich. -/
def readInstant? (s : List Char) : Option DateTime :=
  whole (fun s => do
    let (y, s) ← number 4 4 s
    let (_, s) ← exactly '-' s
    let (m, s) ← number 2 2 s
    let (_, s) ← exactly '-' s
    let (d, s) ← number 2 2 s
    let (_, s) ← separator s
    let (h, s) ← number 2 2 s
    let (_, s) ← exactly ':' s
    let (min, s) ← number 2 2 s
    let (_, s) ← exactly ':' s
    let (sec, s) ← number 2 2 s
    let (nano, s) ← optionalFraction s
    let (off, s) ← offset s
    let date ← Date.ofParts? y m d
    let clock ← clockOfParts? h min sec nano
    let t ← DateTime.toGreenwich? ⟨date, clock⟩ off
    some (t, s)) s

/-- A moment in the form of RFC 3339, or else a day and time taken as Greenwich's. -/
def readMoment? (s : List Char) : Option DateTime :=
  (readInstant? s).orElse fun _ => readDateTime? s

end SqlMapper.Calendar
