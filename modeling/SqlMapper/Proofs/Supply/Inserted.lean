import SqlMapper.Proofs.Supply.Bound
import SqlMapper.Proofs.Sql.Number

namespace SqlMapper

namespace Expression

/-- What stands in an insert for an expression, with its argument if it has one. What changes a
column has nothing to start from there. -/
def inserted : Expression → Option (String × Option Value)
  | increment | decrement | add _ | subtract _ | bitwiseAnd _ | bitwiseOr _ => none
  | currentDate => some ("CURDATE()", none)
  | currentTime => some ("CURTIME()", none)
  | now => some ("NOW()", none)
  | null => some ("NULL", none)
  | daysFromNow n => some ("DATE_ADD(NOW(), INTERVAL " ++ toString n.toInt ++ " DAY)", none)
  | hoursFromNow n => some ("DATE_ADD(NOW(), INTERVAL " ++ toString n.toInt ++ " HOUR)", none)
  | addressToNumber address => some ("INET_ATON(?)", some (.text (some address)))
  | numberToAddress v => some ("INET_NTOA(?)", some v)

end Expression

namespace Supplied

/-- What stands in an insert for what is supplied. A plain value stands behind its placeholder, and
comparisons have no place there. -/
def inserted : Supplied → Option (String × Option Value)
  | value v => some ("?", some v)
  | expression e => e.inserted
  | comparison _ => none

def operand : Supplied → Operand
  | value _ => .field
  | expression e => .expression e
  | comparison _ => .comparison

end Supplied

namespace Lexeme

/-- What follows some characters. -/
def afterChars? : List Char → List Lexeme → Option (List Lexeme)
  | [], ls => some ls
  | c :: cs, .char d :: ls => if c = d then afterChars? cs ls else none
  | _ :: _, _ => none

def after? (w : String) (ls : List Lexeme) : Option (List Lexeme) := afterChars? w.toList ls

/-- The numerals at the front, and what follows them. -/
def numerals : List Lexeme → List Char × List Lexeme
  | .char c :: ls =>
    if Text.isNumeral c then
      let (cs, rest) := numerals ls
      (c :: cs, rest)
    else ([], .char c :: ls)
  | ls => ([], ls)

/-- A moment some units from now. -/
def later? (unit : String) (ls : List Lexeme) : Option (Int64 × List Lexeme) := do
  let (numeral, ls) := numerals (← after? "DATE_ADD(NOW(), INTERVAL " ls)
  let n ← Text.int? numeral
  return (.ofInt n, ← after? (" " ++ unit ++ ")") ls)

/-- A function with a bound argument. -/
def call? (function : String) (ls : List Lexeme) : Option (Value × List Lexeme) := do
  match ← after? (function ++ "(") ls with
  | .value v :: ls => return (v, ← after? ")" ls)
  | _ => none

/-- An address, which only a text can be. -/
def address? : Value × List Lexeme → Option (Expression × List Lexeme)
  | (.text (some address), ls) => some (.addressToNumber address, ls)
  | _ => none

/-- An expression that can stand in an insert, and what follows. -/
def expression? (ls : List Lexeme) : Option (Expression × List Lexeme) :=
  ((after? "CURDATE()" ls).map (.currentDate, ·)).or <|
  ((after? "CURTIME()" ls).map (.currentTime, ·)).or <|
  ((after? "NOW()" ls).map (.now, ·)).or <|
  ((after? "NULL" ls).map (.null, ·)).or <|
  ((later? "DAY" ls).map fun (n, ls) => (.daysFromNow n, ls)).or <|
  ((later? "HOUR" ls).map fun (n, ls) => (.hoursFromNow n, ls)).or <|
  ((call? "INET_ATON" ls).bind address?).or <|
  (call? "INET_NTOA" ls).map fun (v, ls) => (.numberToAddress v, ls)

/-- What was supplied for a column, read from its slot in an insert, and what follows. -/
def slot? : List Lexeme → Option (Supplied × List Lexeme)
  | .value v :: ls => some (.value v, ls)
  | ls => (expression? ls).map fun (e, ls) => (.expression e, ls)

theorem after?_append (w : String) (ls : List Lexeme) :
    after? w (w.toList.map .char ++ ls) = some ls := by
  unfold after?
  induction w.toList with
  | nil => rfl
  | cons c cs ih => simp [afterChars?, ih]

theorem numerals_append {cs : List Char} (h : ∀ c ∈ cs, Text.isNumeral c) {c : Char}
    (hc : Text.isNumeral c = false) (ls : List Lexeme) :
    numerals (cs.map .char ++ .char c :: ls) = (cs, .char c :: ls) := by
  induction cs with
  | nil => simp [numerals, hc]
  | cons a cs ih =>
    rw [List.forall_mem_cons] at h
    simp [numerals, h.1, ih h.2]

/-- The unit decides how a moment is read, whatever the number before it is. -/
theorem later?_append (n : Int64) (unit unit' : String) (ls : List Lexeme) :
    later? unit ((Expression.later n unit').lexemes ++ ls) =
      (after? (" " ++ unit ++ ")") ((" " ++ unit' ++ ")").toList.map .char ++ ls)).map (n, ·) := by
  have hlexemes : (Expression.later n unit').lexemes ++ ls =
      "DATE_ADD(NOW(), INTERVAL ".toList.map .char ++ ((toString n.toInt).toList.map .char ++
        ((" " ++ unit' ++ ")").toList.map .char ++ ls)) := by
    simp [Expression.later, Piece.lexemes]
  have hrest : (" " ++ unit' ++ ")").toList.map Lexeme.char ++ ls =
      .char ' ' :: ((unit' ++ ")").toList.map .char ++ ls) := by
    simp
  have hnumeral : numerals ((toString n.toInt).toList.map .char ++
      .char ' ' :: ((unit' ++ ")").toList.map .char ++ ls)) =
      ((toString n.toInt).toList, .char ' ' :: ((unit' ++ ")").toList.map .char ++ ls)) :=
    numerals_append (fun _ => Text.isNumeral_of_mem_toString) rfl _
  rw [← hrest] at hnumeral
  rw [hlexemes, later?, after?_append]
  simp only [Option.bind_eq_bind, Option.bind_some, hnumeral, Text.int?_toString, Int64.ofInt_toInt]
  cases after? (" " ++ unit ++ ")") ((" " ++ unit' ++ ")").toList.map Lexeme.char ++ ls) <;> rfl

theorem slot?_eq {ls rest : List Lexeme} {e : Expression} (h : expression? ls = some (e, rest)) :
    slot? ls = some (.expression e, rest) := by
  cases ls with
  | nil => rw [slot?, h]; rfl; simp
  | cons l ls =>
    cases l with
    | value v => cases h
    | char c => rw [slot?, h]; rfl; simp
    | name n => cases h

/-- A moment is none of the constants. -/
theorem expression?_later (n : Int64) (unit : String) (ls : List Lexeme) :
    expression? ((Expression.later n unit).lexemes ++ ls) =
      ((later? "DAY" ((Expression.later n unit).lexemes ++ ls)).map
        fun (n, ls) => (.daysFromNow n, ls)).or
      (((later? "HOUR" ((Expression.later n unit).lexemes ++ ls)).map
        fun (n, ls) => (.hoursFromNow n, ls)).or
      (((call? "INET_ATON" ((Expression.later n unit).lexemes ++ ls)).bind address?).or
      ((call? "INET_NTOA" ((Expression.later n unit).lexemes ++ ls)).map
        fun (v, ls) => (.numberToAddress v, ls)))) := by
  have hstart : ∃ rest, (Expression.later n unit).lexemes ++ ls = .char 'D' :: rest := ⟨_, rfl⟩
  obtain ⟨rest, hrest⟩ := hstart
  rw [hrest]
  rfl

open Expression in
theorem expression?_standalone {e : Expression} (h : e.inserted.isSome) (ls : List Lexeme) :
    expression? (e.standalone.lexemes ++ ls) = some (e, ls) := by
  cases e with
  | increment => cases h
  | decrement => cases h
  | add v => cases h
  | subtract v => cases h
  | bitwiseAnd v => cases h
  | bitwiseOr v => cases h
  | currentDate => rfl
  | currentTime => rfl
  | now => rfl
  | null => rfl
  | daysFromNow n =>
    have hdays : later? "DAY" ((later n "DAY").lexemes ++ ls) = some (n, ls) := by
      rw [later?_append, after?_append]
      rfl
    show expression? ((later n "DAY").lexemes ++ ls) = _
    rw [expression?_later, hdays]
    rfl
  | hoursFromNow n =>
    have hdays : later? "DAY" ((later n "HOUR").lexemes ++ ls) = none := by
      rw [later?_append]
      rfl
    have hhours : later? "HOUR" ((later n "HOUR").lexemes ++ ls) = some (n, ls) := by
      rw [later?_append, after?_append]
      rfl
    show expression? ((later n "HOUR").lexemes ++ ls) = _
    rw [expression?_later, hdays, hhours]
    rfl
  | addressToNumber address => rfl
  | numberToAddress v => rfl

end Lexeme

namespace Slot

variable {s : Slot} {u : Supplied} {text : String} {argument : Option Value}

/-- The slot is written as the text and binds the argument, and readers find out what was supplied
for it. -/
structure Stands (s : Slot) (u : Supplied) (text : String) (argument : Option Value) : Prop where
  text_eq : ∀ d, s.fragment.text d = text
  values_eq : s.fragment.values = argument.toList
  read : ∀ ls, Lexeme.slot? (s.fragment.lexemes ++ ls) = some (u, ls)

end Slot

theorem Fragment.text_word (d : Dialect) (w : String) : text d [.word w] = w := by
  simp [text, chars, Piece.chars]

namespace Expression

variable {e : Expression} {text : String} {argument : Option Value}

theorem insert_mem_positions_iff : .insert ∈ e.positions ↔ e.inserted.isSome := by
  cases e <;> simp [positions, inserted]

theorem text_later (d : Dialect) (n : Int64) (unit : String) :
    (later n unit).text d =
      "DATE_ADD(NOW(), INTERVAL " ++ toString n.toInt ++ (" " ++ unit ++ ")") := by
  rw [later, Fragment.text_word_cons, Fragment.text_word_cons, Fragment.text_word]
  simp only [String.append_assoc]

theorem text_call (d : Dialect) (function : String) (v : Value) :
    Fragment.text d [.word (function ++ "("), .slot v, .word ")"] = function ++ "(?)" := by
  simp [Fragment.text, Fragment.chars, Piece.chars]

theorem text_standalone (h : e.inserted = some (text, argument)) (d : Dialect) :
    e.standalone.text d = text := by
  cases e with
  | increment => cases h
  | decrement => cases h
  | add v => cases h
  | subtract v => cases h
  | bitwiseAnd v => cases h
  | bitwiseOr v => cases h
  | currentDate =>
    cases h
    exact Fragment.text_word d _
  | currentTime =>
    cases h
    exact Fragment.text_word d _
  | now =>
    cases h
    exact Fragment.text_word d _
  | null =>
    cases h
    exact Fragment.text_word d _
  | daysFromNow n =>
    cases h
    exact text_later d n "DAY"
  | hoursFromNow n =>
    cases h
    exact text_later d n "HOUR"
  | addressToNumber address =>
    cases h
    exact text_call d "INET_ATON" _
  | numberToAddress v =>
    cases h
    exact text_call d "INET_NTOA" v

theorem values_standalone (h : e.inserted = some (text, argument)) :
    e.standalone.values = argument.toList := by
  cases e <;> cases h <;> rfl

end Expression

namespace Supplied

variable {u : Supplied} {text : String} {argument : Option Value}

theorem exists_insertSlot (h : u.inserted = some (text, argument)) (c : Column) :
    ∃ s : Slot, u.insertSlot c = .ok s ∧ s.Stands u text argument := by
  cases u with
  | value v =>
    cases h
    exact ⟨.placeholder v, rfl, fun d => rfl, rfl, fun ls => rfl⟩
  | comparison q => cases h
  | expression e =>
    replace h : e.inserted = some (text, argument) := h
    have hsome : e.inserted.isSome := by
      rw [h]
      rfl
    refine ⟨.written e.standalone, ?_, e.text_standalone h, e.values_standalone h, fun ls => ?_⟩
    · rw [insertSlot, Expression.render, if_pos (Expression.insert_mem_positions_iff.2 hsome)]
      rfl
    · exact Lexeme.slot?_eq (Lexeme.expression?_standalone hsome ls)

/-- What has no place in an insert is refused there. -/
theorem insertSlot_eq_error (h : u.inserted = none) (c : Column) :
    u.insertSlot c = .error ⟨u.operand, .insert⟩ := by
  cases u with
  | value v => cases h
  | comparison q => rfl
  | expression e =>
    have hnot : ¬(Position.insert ∈ e.positions) := by
      rw [Expression.insert_mem_positions_iff, show e.inserted = none from h]
      simp
    rw [insertSlot, Expression.render, if_neg hnot]
    rfl

theorem stands_of_insertSlot {c : Column} {s : Slot} (h : u.insertSlot c = .ok s) :
    ∃ text argument, u.inserted = some (text, argument) ∧ s.Stands u text argument := by
  cases hu : u.inserted with
  | none => cases (insertSlot_eq_error hu c).symm.trans h
  | some p =>
    obtain ⟨text, argument⟩ := p
    obtain ⟨s', hs', hstands⟩ := exists_insertSlot hu c
    cases hs'.symm.trans h
    exact ⟨text, argument, rfl, hstands⟩

theorem exists_insertSlot_iff {c : Column} :
    (∃ s, u.insertSlot c = .ok s) ↔ u.inserted.isSome := by
  constructor
  · rintro ⟨s, hs⟩
    obtain ⟨text, argument, hu, -⟩ := stands_of_insertSlot hs
    rw [hu]
    rfl
  · intro h
    obtain ⟨⟨text, argument⟩, hu⟩ := Option.isSome_iff_exists.1 h
    obtain ⟨s, hs, -⟩ := exists_insertSlot hu c
    exact ⟨s, hs⟩

end Supplied

end SqlMapper
