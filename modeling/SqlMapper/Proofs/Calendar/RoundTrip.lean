import SqlMapper.Proofs.Calendar.Digits

namespace SqlMapper

theorem Date.month_lt_hundred (d : Date) : d.month < 100 := by
  have hmonth := d.month_range
  omega

theorem monthLength_le (year : Int) (month : Nat) : monthLength year month ≤ 31 := by
  unfold monthLength
  split_ifs <;> omega

theorem Date.day_lt_hundred (d : Date) : d.day < 100 := by
  have hday := d.day_range
  have hlength := monthLength_le d.year d.month
  omega

theorem Clock.hour_lt_hundred (c : Clock) : c.hour < 100 := Nat.lt_trans c.hour_lt (by decide)

theorem Clock.minute_lt_hundred (c : Clock) : c.minute < 100 :=
  Nat.lt_trans c.minute_lt (by decide)

/-- The time that a written time is read as. A leap second is written as the second after, and if
that is a second of the minute, it is read as this one. -/
def Clock.shown (c : Clock) : Clock :=
  if h : 1000000000 ≤ c.nano ∧ c.second < 59 then
    { c with
      second := c.second + 1
      nano := c.nano - 1000000000
      second_lt := by omega
      nano_lt := Nat.lt_of_le_of_lt (Nat.sub_le ..) c.nano_lt }
  else c

theorem Clock.shown_eq_self_iff {c : Clock} : c.shown = c ↔ c.LeapsLast := by
  have hsecond := c.second_lt
  unfold shown LeapsLast
  split_ifs with h
  · constructor
    · intro heq
      have hlater : c.second + 1 = c.second := congrArg Clock.second heq
      omega
    · intro hlast
      exact absurd (hlast h.1) (Nat.ne_of_lt h.2)
  · exact iff_of_true rfl (by omega)

def DateTime.shown (t : DateTime) : DateTime := ⟨t.date, t.clock.shown⟩

theorem DateTime.shown_eq_self_iff {t : DateTime} : t.shown = t ↔ t.clock.LeapsLast := by
  rw [← Clock.shown_eq_self_iff, DateTime.ext_iff]
  exact and_iff_right rfl

/-- The time on the clock of Greenwich is the one that was read there. -/
theorem DateTime.toGreenwich?_zero (t : DateTime) : t.toGreenwich? 0 = some t := by
  obtain ⟨d, c⟩ := t
  obtain ⟨hour, minute, second, nano, hh, hm, hs, hn⟩ := c
  -- the minutes of the day are not shifted, so the date stays and the time is put together again
  unfold toGreenwich?
  simp only [Clock.minutes, Int.sub_zero]
  rw [dif_pos (by omega)]
  have hhour : ((hour * 60 + minute : Nat) : Int).toNat / 60 = hour := by omega
  have hminute : ((hour * 60 + minute : Nat) : Int).toNat % 60 = minute := by omega
  simp only [Clock.atMinute, hhour, hminute]

namespace Calendar
open SqlMapper.Text

variable {rest : List Char}

theorem exactly_cons (c : Char) (rest : List Char) : exactly c (c :: rest) = some ((), rest) := by
  simp [exactly]

/-- After its sign a year may have any number of digits, so what follows must not be one. -/
theorem number_signed (n : Nat) (hrest : NoDigitAhead rest) :
    number 1 (padded 4 n ++ rest).length (padded 4 n ++ rest) = some (n, rest) := by
  obtain ⟨c, cs, hc, -⟩ := exists_padded_eq_cons 4 n
  have hpos : 1 ≤ (padded 4 n).length := by simp [hc]
  rw [number_append (fun _ => isDigit_of_mem_padded) hpos (by simp) (.inr hrest),
    digitsValue_padded]

theorem looseYear_year (y : Int) (hrest : NoDigitAhead rest) :
    looseYear (year y ++ rest) = some (y, rest) := by
  unfold year looseYear
  split_ifs with hfour hneg
  · -- four digits and no sign in front
    have hpad : y.toNat < 10 ^ 4 := by omega
    obtain ⟨c, cs, hc, hdigit⟩ := exists_padded_eq_cons 4 y.toNat
    have hnumber : number 1 4 (padded 4 y.toNat ++ rest) = some (y.toNat, rest) :=
      number_padded (by decide) (by decide) hpad rest
    rw [skipBlanks_padded]
    split
    · rename_i tail hs
      rw [hc] at hs
      cases hs
      cases hdigit
    · rename_i tail hs
      rw [hc] at hs
      cases hs
      cases hdigit
    · rw [hnumber]
      simp [Int.toNat_of_nonneg hfour.1]
  · -- below zero the absolute value follows the sign
    have hblank : isBlank '-' = false := by decide
    have hvalue : -(y.natAbs : Int) = y := by omega
    rw [List.cons_append, skipBlanks_cons_of_isBlank_eq_false _ hblank]
    simp only [number_signed _ hrest, Option.map_some, hvalue]
  · have hblank : isBlank '+' = false := by decide
    have hvalue : (y.natAbs : Int) = y := by omega
    rw [List.cons_append, skipBlanks_cons_of_isBlank_eq_false _ hblank]
    simp only [number_signed _ hrest, Option.map_some, hvalue]

theorem looseDate_date (d : Date) (rest : List Char) :
    looseDate (date d ++ rest) = some (d, rest) := by
  have hdash (s : List Char) : NoDigitAhead ('-' :: s) := noDigitAhead_cons s rfl
  simp only [date, looseDate, List.append_assoc, List.cons_append, List.nil_append,
    looseYear_year d.year (hdash _), exactly_cons, looseNumber_padded d.month_lt_hundred,
    looseNumber_padded d.day_lt_hundred, Date.ofParts?_parts, Option.bind_eq_bind, Option.bind_some]

theorem clockOfParts?_parts {c : Clock} (h : c.nano < 1000000000) :
    clockOfParts? c.hour c.minute c.second c.nano = some c := by
  have hsecond := c.second_lt
  have hlast : c.LeapsLast := fun hle => absurd h (Nat.not_lt.2 hle)
  unfold clockOfParts?
  rw [if_neg (by omega), if_pos h, Clock.ofParts?_parts hlast]

theorem clockOfParts?_leap {c : Clock} (h : ¬c.nano < 1000000000) :
    clockOfParts? c.hour c.minute (c.second + 1) (c.nano - 1000000000) = some c.shown := by
  have hsecond := c.second_lt
  have hnano := c.nano_lt
  have hle : 1000000000 ≤ c.nano := Nat.not_lt.1 h
  by_cases hlast : c.second = 59
  · -- second 60 is kept as more than a second after second 59
    have hleaps : c.LeapsLast := fun _ => hlast
    have hsum : c.nano - 1000000000 + 1000000000 = c.nano := Nat.sub_add_cancel hle
    unfold clockOfParts?
    rw [if_pos (by omega), hsum, ← hlast, Clock.ofParts?_parts hleaps,
      Clock.shown_eq_self_iff.2 hleaps]
  · have hshown : c.shown.second = c.second + 1 ∧ c.shown.nano = c.nano - 1000000000 ∧
        c.shown.hour = c.hour ∧ c.shown.minute = c.minute := by
      rw [Clock.shown, dif_pos ⟨hle, by omega⟩]
      exact ⟨rfl, rfl, rfl, rfl⟩
    obtain ⟨hs, hn, hh, hm⟩ := hshown
    have hread := clockOfParts?_parts (c := c.shown) (by omega)
    rwa [hs, hn, hh, hm] at hread

/-- The parts that are written for a time of day, and what is read for them. -/
theorem exists_clock_eq (c : Clock) : ∃ second nano,
    clock c = padded 2 c.hour ++ ':' :: (padded 2 c.minute ++ ':' ::
      (padded 2 second ++ fraction nano)) ∧
    second < 100 ∧ nano < 1000000000 ∧
      clockOfParts? c.hour c.minute second nano = some c.shown := by
  have hsecond := c.second_lt
  have hnano := c.nano_lt
  unfold clock
  split_ifs with hleap
  · have hshown : c.shown = c := Clock.shown_eq_self_iff.2 fun hle => by omega
    refine ⟨c.second, c.nano, ?_, by omega, hleap, ?_⟩
    · simp only [List.append_assoc, List.cons_append, List.nil_append]
    · rw [hshown]
      exact clockOfParts?_parts hleap
  · refine ⟨c.second + 1, c.nano - 1000000000, ?_, by omega, by omega, clockOfParts?_leap hleap⟩
    simp only [List.append_assoc, List.cons_append, List.nil_append]

/-- What may follow a time of day: no digit, and no point before more digits. -/
def EndsClock (s : List Char) : Prop := NoDigitAhead s ∧ s.head? ≠ some '.'

theorem endsClock_nil : EndsClock [] := ⟨noDigitAhead_nil, by simp⟩

theorem looseClock_clock (c : Clock) (hrest : EndsClock rest) :
    looseClock (clock c ++ rest) = some (c.shown, rest) := by
  obtain ⟨second, nano, hclock, hsecond, hnano, hc⟩ := exists_clock_eq c
  simp only [hclock, looseClock, List.append_assoc, List.cons_append, exactly_cons,
    looseNumber_padded c.hour_lt_hundred, looseNumber_padded c.minute_lt_hundred,
    looseNumber_padded hsecond, optionalFraction_fraction hnano hrest.1 hrest.2, hc,
    Option.bind_eq_bind, Option.bind_some]

theorem whole_eq_some {α : Type} {r : Reader α} {s : List Char} {a : α} (h : r s = some (a, [])) :
    whole r s = some a := by
  simp only [whole, h]

theorem whole_eq_whole {α : Type} {r r' : Reader α} {s s' : List Char} (h : r s = r' s') :
    whole r s = whole r' s' := by
  simp only [whole, h]

theorem bind_eq_of_eq_some {α β : Type} {x : Option α} {a : α} (h : x = some a)
    {f : α → Option β} : (x >>= f) = f a := by
  rw [h]
  rfl

theorem readDate?_date (d : Date) : readDate? (date d) = some d := by
  have hread := looseDate_date d []
  rw [List.append_nil] at hread
  exact whole_eq_some hread

theorem readClock?_clock (c : Clock) : readClock? (clock c) = some c.shown := by
  have hread := looseClock_clock c endsClock_nil
  rw [List.append_nil] at hread
  exact whole_eq_some hread

theorem skipBlanks_clock (c : Clock) : skipBlanks (clock c) = clock c := by
  unfold clock
  rw [List.append_assoc, List.append_assoc, List.append_assoc]
  exact skipBlanks_padded 2 c.hour _

theorem readDateTime?_dateTime (t : DateTime) :
    readDateTime? (dateTime t) = some t.shown := by
  -- the space between day and time is a blank, and the time begins with none
  have hblank : skipBlanks (' ' :: clock t.clock) = clock t.clock := by
    have hspace : isBlank ' ' = true := by decide
    rw [skipBlanks, List.dropWhile_cons_of_pos hspace]
    exact skipBlanks_clock t.clock
  have hclock := looseClock_clock t.clock endsClock_nil
  rw [List.append_nil] at hclock
  apply whole_eq_some
  simp only [dateTime, List.append_assoc, List.cons_append, List.nil_append, looseDate_date, hblank,
    hclock, Option.bind_eq_bind, Option.bind_some, DateTime.shown]

/-- What is read after the time of a moment. -/
def readOffset? (t : DateTime) : List Char → Option DateTime :=
  whole fun s => do
    let (off, s) ← offset s
    let t ← t.toGreenwich? off
    some (t, s)

theorem readInstant?_append {d : Date} (c : Clock) (sep : Char)
    (hyear : 0 ≤ d.year ∧ d.year ≤ 9999) (hsep : ∀ s, separator (sep :: s) = some ((), s))
    (hrest : EndsClock rest) :
    readInstant? (date d ++ sep :: (clock c ++ rest)) = readOffset? ⟨d, c.shown⟩ rest := by
  obtain ⟨second, nano, hclock, hsecond, hnano, hc⟩ := exists_clock_eq c
  have hfour : d.year.toNat < 10 ^ 4 := by omega
  have hdate : Date.ofParts? (d.year.toNat : Int) d.month d.day = some d := by
    rw [Int.toNat_of_nonneg hyear.1, Date.ofParts?_parts]
  -- all numbers have as many digits as are asked for
  have htwo {n : Nat} (hn : n < 100) (s : List Char) : number 2 2 (padded 2 n ++ s) = some (n, s) :=
    number_padded (by decide) (by decide) hn s
  have hnumber (s : List Char) : number 4 4 (padded 4 d.year.toNat ++ s) = some (d.year.toNat, s) :=
    number_padded (by decide) (by decide) hfour s
  have htext : date d ++ sep :: (clock c ++ rest) =
      padded 4 d.year.toNat ++ '-' :: (padded 2 d.month ++ '-' :: (padded 2 d.day ++ sep ::
        (padded 2 c.hour ++ ':' :: (padded 2 c.minute ++ ':' ::
          (padded 2 second ++ (fraction nano ++ rest)))))) := by
    simp only [hclock, date, year, if_pos hyear, List.append_assoc, List.cons_append,
      List.nil_append]
  rw [htext]
  apply whole_eq_whole
  -- one part after another, up to the offset
  refine (bind_eq_of_eq_some (hnumber _)).trans ?_
  refine (bind_eq_of_eq_some (exactly_cons '-' _)).trans ?_
  refine (bind_eq_of_eq_some (htwo d.month_lt_hundred _)).trans ?_
  refine (bind_eq_of_eq_some (exactly_cons '-' _)).trans ?_
  refine (bind_eq_of_eq_some (htwo d.day_lt_hundred _)).trans ?_
  refine (bind_eq_of_eq_some (hsep _)).trans ?_
  refine (bind_eq_of_eq_some (htwo c.hour_lt_hundred _)).trans ?_
  refine (bind_eq_of_eq_some (exactly_cons ':' _)).trans ?_
  refine (bind_eq_of_eq_some (htwo c.minute_lt_hundred _)).trans ?_
  refine (bind_eq_of_eq_some (exactly_cons ':' _)).trans ?_
  refine (bind_eq_of_eq_some (htwo hsecond _)).trans ?_
  refine (bind_eq_of_eq_some (optionalFraction_fraction hnano hrest.1 hrest.2)).trans ?_
  refine congrArg (Option.bind (offset rest)) (funext fun p => ?_)
  exact (bind_eq_of_eq_some hdate).trans (bind_eq_of_eq_some hc)

theorem readInstant?_instant {t : DateTime} (hyear : 0 ≤ t.date.year ∧ t.date.year ≤ 9999) :
    readInstant? (instant t) = some t.shown := by
  have hends : EndsClock ['+', '0', '0', ':', '0', '0'] := ⟨noDigitAhead_cons _ rfl, by decide⟩
  have hoffset : offset ['+', '0', '0', ':', '0', '0'] = some (0, []) := by decide
  have hread := readInstant?_append t.clock 'T' hyear (fun _ => rfl) hends
  have hshown : (⟨t.date, t.clock.shown⟩ : DateTime) = t.shown := rfl
  simp only [readOffset?, whole, hoffset, hshown, t.shown.toGreenwich?_zero, Option.bind_eq_bind,
    Option.bind_some] at hread
  simpa only [instant, List.append_assoc, List.cons_append, List.nil_append] using hread

/-- Years beyond four digits begin with a sign, which no moment in the form of RFC 3339 does. -/
theorem readInstant?_date_append {d : Date} (hyear : ¬(0 ≤ d.year ∧ d.year ≤ 9999))
    (s : List Char) : readInstant? (date d ++ s) = none := by
  unfold date year
  rw [if_neg hyear]
  split <;> rfl

/-- A day and time without an offset is no moment in the form of RFC 3339. -/
theorem readInstant?_dateTime (t : DateTime) : readInstant? (dateTime t) = none := by
  by_cases hyear : 0 ≤ t.date.year ∧ t.date.year ≤ 9999
  · have hread := readInstant?_append t.clock ' ' hyear (fun _ => rfl) endsClock_nil
    -- nothing is left for the offset
    have hnone : readOffset? ⟨t.date, t.clock.shown⟩ [] = none := rfl
    rw [List.append_nil] at hread
    simpa only [dateTime, List.append_assoc, List.cons_append, List.nil_append, hnone] using hread
  · rw [dateTime, List.append_assoc]
    exact readInstant?_date_append hyear _

/-- The letter in a moment is not a blank, so no time of day begins with it. -/
theorem readDateTime?_instant (t : DateTime) : readDateTime? (instant t) = none := by
  have hletter (s : List Char) : looseClock (skipBlanks ('T' :: s)) = none := by
    have hblank : isBlank 'T' = false := by decide
    rw [skipBlanks_cons_of_isBlank_eq_false _ hblank, looseClock, looseNumber,
      skipBlanks_cons_of_isBlank_eq_false _ hblank]
    rfl
  unfold readDateTime? whole
  simp only [instant, List.append_assoc, List.cons_append, List.nil_append, looseDate_date, hletter,
    Option.bind_eq_bind, Option.bind_some, Option.bind_none]

/-- Both forms are tried, and only the first can be that of a moment. -/
theorem readMoment?_instant (t : DateTime) : readMoment? (instant t) =
    if 0 ≤ t.date.year ∧ t.date.year ≤ 9999 then some t.shown else none := by
  split_ifs with hyear
  · rw [readMoment?, readInstant?_instant hyear]
    rfl
  · have hsign : readInstant? (instant t) = none := by
      unfold instant
      rw [List.append_assoc, List.append_assoc]
      exact readInstant?_date_append hyear _
    rw [readMoment?, hsign, readDateTime?_instant]
    rfl

theorem readMoment?_dateTime (t : DateTime) : readMoment? (dateTime t) = some t.shown := by
  rw [readMoment?, readInstant?_dateTime, readDateTime?_dateTime]
  rfl

end Calendar
end SqlMapper
