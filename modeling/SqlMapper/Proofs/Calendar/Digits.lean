import Mathlib.Algebra.Group.Nat.Defs
import Mathlib.Tactic.SplitIfs
import SqlMapper.Calendar.Basic
import SqlMapper.Calendar.Read

namespace SqlMapper.Calendar
open SqlMapper.Text

variable {limit least most width n : Nat} {digits rest : List Char} {c : Char}

/-- The text does not go on with a digit. -/
def NoDigitAhead (s : List Char) : Prop := ∀ c ∈ s.head?, c.isDigit = false

theorem noDigitAhead_nil : NoDigitAhead [] := fun _ h => by cases h

theorem noDigitAhead_cons (s : List Char) (h : c.isDigit = false) : NoDigitAhead (c :: s) := by
  intro d hd
  cases hd
  exact h

theorem digitsValue_eq_ofDigitChars (digits : List Char) :
    digitsValue digits = Nat.ofDigitChars 10 digits 0 := by
  simp only [digitsValue, Nat.ofDigitChars_eq_foldl, Nat.mul_comm]

theorem isDigit_of_mem_padded (h : c ∈ padded width n) : c.isDigit := by
  rcases List.mem_append.1 h with hzero | hdigit
  · rw [List.eq_of_mem_replicate hzero]
    rfl
  · exact Nat.isDigit_of_mem_toDigits (by decide) (by decide) hdigit

theorem digitsValue_padded (width n : Nat) : digitsValue (padded width n) = n := by
  -- the zeros in front count for nothing
  rw [digitsValue_eq_ofDigitChars, padded, Nat.ofDigitChars_append, Nat.ofDigitChars_replicate_zero,
    Nat.mul_zero, Nat.ofDigitChars_ten_toDigits]

theorem length_padded (hw : 0 < width) (h : n < 10 ^ width) : (padded width n).length = width := by
  have hdigits : (Nat.toDigits 10 n).length ≤ width :=
    (Nat.length_toDigits_le_iff (by decide) hw).2 h
  simp only [padded, List.length_append, List.length_replicate]
  omega

theorem exists_padded_eq_cons (width n : Nat) :
    ∃ c cs, padded width n = c :: cs ∧ c.isDigit := by
  cases h : padded width n with
  | nil => exact absurd (List.append_eq_nil_iff.1 h).2 Nat.toDigits_ne_nil
  | cons c cs => exact ⟨c, cs, rfl, isDigit_of_mem_padded (h ▸ List.mem_cons_self ..)⟩

theorem takeDigits_append (hd : ∀ c ∈ digits, c.isDigit) (hl : digits.length ≤ limit)
    (hrest : digits.length = limit ∨ NoDigitAhead rest) :
    takeDigits limit (digits ++ rest) = (digits, rest) := by
  -- one digit after another, each of which leaves one less to take
  induction digits generalizing limit with
  | nil =>
    cases limit with
    | zero => rfl
    | succ limit =>
      -- below the limit the run ends only where no digit follows
      have hahead : NoDigitAhead rest := hrest.resolve_left (by simp)
      cases rest with
      | nil => rfl
      | cons c cs =>
        have hc : c.isDigit = false := hahead c rfl
        simp [takeDigits, hc]
  | cons c cs ih =>
    rw [List.forall_mem_cons] at hd
    cases limit with
    | zero => cases hl
    | succ limit =>
      have htail := ih hd.2 (Nat.le_of_succ_le_succ hl) (hrest.imp_left Nat.succ.inj)
      simp [takeDigits, hd.1, htail]

theorem number_append (hd : ∀ c ∈ digits, c.isDigit) (hleast : least ≤ digits.length)
    (hmost : digits.length ≤ most) (hrest : digits.length = most ∨ NoDigitAhead rest) :
    number least most (digits ++ rest) = some (digitsValue digits, rest) := by
  simp only [number, takeDigits_append hd hmost hrest]
  rw [if_neg (Nat.not_lt.2 hleast)]

/-- A number is read back from its digits, whatever follows them, if there are as many digits as the
reader takes at most. -/
theorem number_padded (hleast : least ≤ width) (hw : 0 < width) (h : n < 10 ^ width)
    (rest : List Char) : number least width (padded width n ++ rest) = some (n, rest) := by
  have hlength := length_padded hw h
  rw [number_append (fun _ => isDigit_of_mem_padded) (by omega) (by omega) (.inl hlength),
    digitsValue_padded]

theorem isBlank_of_isDigit (h : c.isDigit) : isBlank c = false := by
  simp only [Char.isDigit, Bool.and_eq_true, decide_eq_true_eq, ge_iff_le,
    UInt32.le_iff_toNat_le] at h
  have hlow : 48 ≤ c.toNat := h.1
  have hhigh : c.toNat ≤ 57 := h.2
  -- the space ends before the digits, and the next range begins after all of ASCII
  simp only [isBlank, blankRanges, List.any_cons, List.any_nil, Bool.or_false, Bool.or_eq_false_iff,
    Bool.and_eq_false_iff, decide_eq_false_iff_not]
  omega

theorem skipBlanks_cons_of_isBlank_eq_false (s : List Char) (h : isBlank c = false) :
    skipBlanks (c :: s) = c :: s := by
  simp [skipBlanks, h]

theorem skipBlanks_padded (width n : Nat) (rest : List Char) :
    skipBlanks (padded width n ++ rest) = padded width n ++ rest := by
  obtain ⟨c, cs, hc, hdigit⟩ := exists_padded_eq_cons width n
  rw [hc, List.cons_append]
  exact skipBlanks_cons_of_isBlank_eq_false _ (isBlank_of_isDigit hdigit)

theorem looseNumber_padded (h : n < 100) (rest : List Char) :
    looseNumber (padded 2 n ++ rest) = some (n, rest) := by
  rw [looseNumber, skipBlanks_padded]
  exact number_padded (by decide) (by decide) h rest

theorem dropWhile_isDigit (h : NoDigitAhead rest) : rest.dropWhile Char.isDigit = rest := by
  cases rest with
  | nil => rfl
  | cons c cs =>
    have hc : c.isDigit = false := h c rfl
    simp [hc]

theorem nanoseconds_padded (hw : 0 < width) (hnine : width ≤ 9) (h : n < 10 ^ width)
    (hrest : NoDigitAhead rest) :
    nanoseconds (padded width n ++ rest) = some (n * 10 ^ (9 - width), rest) := by
  have hlength := length_padded hw h
  have htake : takeDigits 9 (padded width n ++ rest) = (padded width n, rest) :=
    takeDigits_append (fun _ => isDigit_of_mem_padded) (by omega) (.inr hrest)
  obtain ⟨c, cs, hc, -⟩ := exists_padded_eq_cons width n
  have hsome : (padded width n).isEmpty = false := by
    rw [hc]
    rfl
  simp only [nanoseconds, htake, hsome, hlength, digitsValue_padded, dropWhile_isDigit hrest]
  rfl

/-- A fraction is read back to the nanosecond from 0, 3, 6 or 9 digits. -/
theorem optionalFraction_fraction (h : n < 1000000000) (hdigit : NoDigitAhead rest)
    (hpoint : rest.head? ≠ some '.') : optionalFraction (fraction n ++ rest) = some (n, rest) := by
  have hread {width m : Nat} (hw : 0 < width) (hnine : width ≤ 9) (hm : m < 10 ^ width)
      (hexact : m * 10 ^ (9 - width) = n) :
      optionalFraction ('.' :: padded width m ++ rest) = some (n, rest) := by
    rw [← hexact]
    exact nanoseconds_padded hw hnine hm hdigit
  unfold fraction
  split_ifs with hzero hmillis hmicros
  · -- without a fraction, what follows must not look like one
    subst hzero
    rw [List.nil_append]
    unfold optionalFraction
    split
    · exact absurd rfl hpoint
    · rfl
  · exact hread (by decide) (by decide) (by omega) (by omega)
  · exact hread (by decide) (by decide) (by omega) (by omega)
  · exact hread (by decide) (by decide) (by omega) (by omega)

end SqlMapper.Calendar
