namespace SqlMapper

/-- Years divisible by 4 are leap years, of the centuries only those divisible by 400. -/
def isLeapYear (year : Int) : Bool :=
  year % 4 = 0 && (year % 100 ≠ 0 || year % 400 = 0)

def monthLength (year : Int) (month : Nat) : Nat :=
  if month = 2 then if isLeapYear year then 29 else 28
  else if month = 4 ∨ month = 6 ∨ month = 9 ∨ month = 11 then 30
  else 31

/-- A day of the proleptic Gregorian calendar. -/
structure Date where
  year : Int
  month : Nat
  day : Nat
  year_range : -262143 ≤ year ∧ year ≤ 262142
  month_range : 1 ≤ month ∧ month ≤ 12
  day_range : 1 ≤ day ∧ day ≤ monthLength year month
deriving DecidableEq

namespace Date

/-- The date with these parts, if there is one. -/
def ofParts? (year : Int) (month day : Nat) : Option Date :=
  if hy : -262143 ≤ year ∧ year ≤ 262142 then
    if hm : 1 ≤ month ∧ month ≤ 12 then
      if hd : 1 ≤ day ∧ day ≤ monthLength year month then
        some ⟨year, month, day, hy, hm, hd⟩
      else none
    else none
  else none

/-- The day after, if the calendar has one. -/
def next? (d : Date) : Option Date :=
  if d.day < monthLength d.year d.month then ofParts? d.year d.month (d.day + 1)
  else if d.month < 12 then ofParts? d.year (d.month + 1) 1
  else ofParts? (d.year + 1) 1 1

def previous? (d : Date) : Option Date :=
  if 1 < d.day then ofParts? d.year d.month (d.day - 1)
  else if 1 < d.month then ofParts? d.year (d.month - 1) (monthLength d.year (d.month - 1))
  else ofParts? (d.year - 1) 12 31

@[simp] theorem ofParts?_parts (d : Date) : ofParts? d.year d.month d.day = some d := by
  simp only [ofParts?, d.year_range, d.month_range, d.day_range, and_self, dite_true]

end Date

/-- A time of day. A leap second is the second before it with 1000000000 or more nanoseconds. -/
structure Clock where
  hour : Nat
  minute : Nat
  second : Nat
  nano : Nat
  hour_lt : hour < 24
  minute_lt : minute < 60
  second_lt : second < 60
  nano_lt : nano < 2000000000
deriving DecidableEq

/-- A leap second follows the last second of a minute only. -/
def Clock.LeapsLast (c : Clock) : Prop := 1000000000 ≤ c.nano → c.second = 59

instance (c : Clock) : Decidable c.LeapsLast := inferInstanceAs (Decidable (_ → _))

/-- A day and a time of it. -/
@[ext] structure DateTime where
  date : Date
  clock : Clock
deriving DecidableEq

/-- A local day and time with its offset east of Greenwich in seconds. -/
structure ZonedDateTime where
  wall : DateTime
  offset : Int
deriving DecidableEq

/-- The time with these parts, if there is one. A leap second has to follow the last second of a
minute here. -/
def Clock.ofParts? (hour minute second nano : Nat) : Option Clock :=
  if hh : hour < 24 then
    if hm : minute < 60 then
      if hs : second < 60 then
        if hn : nano < 2000000000 then
          if 1000000000 ≤ nano → second = 59 then
            some ⟨hour, minute, second, nano, hh, hm, hs, hn⟩
          else none
        else none
      else none
    else none
  else none

theorem Clock.ofParts?_parts {c : Clock} (h : c.LeapsLast) :
    ofParts? c.hour c.minute c.second c.nano = some c := by
  simp only [ofParts?, c.hour_lt, c.minute_lt, c.second_lt, c.nano_lt, dite_true]
  exact if_pos h

/-- The whole minutes since midnight. -/
def Clock.minutes (c : Clock) : Nat := c.hour * 60 + c.minute

/-- The time at the same second of another minute of the day. -/
def Clock.atMinute (c : Clock) (minutes : Nat) (h : minutes < 1440) : Clock where
  hour := minutes / 60
  minute := minutes % 60
  second := c.second
  nano := c.nano
  hour_lt := by omega
  minute_lt := by omega
  second_lt := c.second_lt
  nano_lt := c.nano_lt

/-- The moment that an offset of so many minutes east of Greenwich shows as `t`, on the clock of
Greenwich. The offset is less than a day, and the second is kept, a leap second too. -/
def DateTime.toGreenwich? (t : DateTime) (offset : Int) : Option DateTime :=
  let shifted : Int := t.clock.minutes - offset
  if h : 0 ≤ shifted ∧ shifted < 1440 then
    some ⟨t.date, t.clock.atMinute shifted.toNat (by omega)⟩
  else if h : shifted < 0 ∧ -1440 ≤ shifted then
    t.date.previous?.map fun d => ⟨d, t.clock.atMinute (shifted + 1440).toNat (by omega)⟩
  else if h : 1440 ≤ shifted ∧ shifted < 2880 then
    t.date.next?.map fun d => ⟨d, t.clock.atMinute (shifted - 1440).toNat (by omega)⟩
  else none

namespace Calendar

/-- Decimal digits, with zeros in front up to `width`. -/
def padded (width n : Nat) : List Char :=
  let digits := Nat.toDigits 10 n
  List.replicate (width - digits.length) '0' ++ digits

/-- Four digits for the years 0 to 9999, all others with their sign and at least four digits. -/
def year (y : Int) : List Char :=
  if 0 ≤ y ∧ y ≤ 9999 then padded 4 y.toNat
  else (if y < 0 then '-' else '+') :: padded 4 y.natAbs

def date (d : Date) : List Char :=
  year d.year ++ ['-'] ++ padded 2 d.month ++ ['-'] ++ padded 2 d.day

/-- The fraction of a second with 0, 3, 6 or 9 digits, the fewest that are exact. -/
def fraction (nano : Nat) : List Char :=
  if nano = 0 then []
  else if nano % 1000000 = 0 then '.' :: padded 3 (nano / 1000000)
  else if nano % 1000 = 0 then '.' :: padded 6 (nano / 1000)
  else '.' :: padded 9 nano

/-- A time of day. A leap second is written as the second after, the last one of a minute as 60. -/
def clock (c : Clock) : List Char :=
  padded 2 c.hour ++ [':'] ++ padded 2 c.minute ++ [':'] ++
    if c.nano < 1000000000 then padded 2 c.second ++ fraction c.nano
    else padded 2 (c.second + 1) ++ fraction (c.nano - 1000000000)

def dateTime (t : DateTime) : List Char := date t.date ++ [' '] ++ clock t.clock

/-- A moment on the clock of Greenwich, in the form of RFC 3339. -/
def instant (t : DateTime) : List Char :=
  date t.date ++ ['T'] ++ clock t.clock ++ ['+', '0', '0', ':', '0', '0']

end Calendar
end SqlMapper
