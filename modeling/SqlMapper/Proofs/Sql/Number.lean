import SqlMapper.Proofs.Sql.Carries

namespace SqlMapper.Text

/-- The number that some decimal digits write. -/
def nat? (digits : List Char) : Option Nat :=
  if digits = [] ∨ ¬digits.all Char.isDigit then none else some (Nat.ofDigitChars 10 digits 0)

/-- The number that is written with a minus before its digits if it is negative. -/
def int? : List Char → Option Int
  | [] => none
  | c :: cs => if c = '-' then (nat? cs).map fun n => -(n : Int) else (nat? (c :: cs)).map (↑)

theorem toList_toString_nat (n : Nat) : (toString n).toList = Nat.toDigits 10 n := by
  simp [Nat.repr]

theorem isDigit_of_mem_toString {n : Nat} {c : Char} (h : c ∈ (toString n).toList) : c.isDigit := by
  rw [toList_toString_nat] at h
  exact Nat.isDigit_of_mem_toDigits (by decide) (by decide) h

theorem exists_toString_eq_cons (n : Nat) :
    ∃ c cs, (toString n).toList = c :: cs ∧ c.isDigit := by
  obtain ⟨c, cs, hc⟩ :=
    List.exists_cons_of_ne_nil (ne_nil_of_isPlainWord (isPlainWord_toString_nat n))
  exact ⟨c, cs, hc, isDigit_of_mem_toString (hc ▸ List.mem_cons_self ..)⟩

/-- A negative number begins with a minus, and only a negative one does. -/
theorem toList_toString_negSucc (n : Nat) :
    (toString (Int.negSucc n)).toList = '-' :: (toString (n + 1)).toList := by
  show ("-" ++ toString (n + 1)).toList = _
  simp

theorem nat?_toString (n : Nat) : nat? (toString n).toList = some n := by
  have hall : (toString n).toList.all Char.isDigit :=
    List.all_eq_true.2 fun c => isDigit_of_mem_toString
  have hne : (toString n).toList ≠ [] := ne_nil_of_isPlainWord (isPlainWord_toString_nat n)
  have hgood : ¬((toString n).toList = [] ∨ ¬(toString n).toList.all Char.isDigit) :=
    fun h => h.elim hne fun h => h hall
  rw [nat?, if_neg hgood, toList_toString_nat, Nat.ofDigitChars_ten_toDigits]

/-- A number is read back from what it is written as. -/
theorem int?_toString (n : Int) : int? (toString n).toList = some n := by
  cases n with
  | ofNat n =>
    obtain ⟨c, cs, hc, hdigit⟩ := exists_toString_eq_cons n
    have hminus : c ≠ '-' := by
      rintro rfl
      cases hdigit
    show int? (toString n).toList = some (n : Int)
    rw [hc, int?, if_neg hminus, ← hc, nat?_toString]
    rfl
  | negSucc n =>
    rw [toList_toString_negSucc, int?, if_pos rfl, nat?_toString]
    rfl

/-- Whether a character can stand in a number. -/
def isNumeral (c : Char) : Bool := c = '-' || c.isDigit

theorem isNumeral_of_mem_toString {n : Int} {c : Char} (h : c ∈ (toString n).toList) :
    isNumeral c := by
  cases n with
  | ofNat n =>
    have hdigit : c.isDigit := isDigit_of_mem_toString (n := n) h
    simp [isNumeral, hdigit]
  | negSucc n =>
    rw [toList_toString_negSucc, List.mem_cons] at h
    rcases h with rfl | h
    · rfl
    · simp [isNumeral, isDigit_of_mem_toString h]

end SqlMapper.Text
