import SqlMapper.Supply.Basic
/-! The grammar of predicates, with the precedence of the language: tests of columns bind tighter
than `NOT`, that binds tighter than `AND`, and that binds tighter than `OR`. The parser finds every
tree of the grammar in what the tree is written as, so no text has two readings. -/
namespace SqlMapper

/-- The test of one column that a plain value or a comparison asks for. -/
structure ColumnTest where
  qualifier : String
  name : String
  test : Supplied
deriving DecidableEq

mutual

/-- Operands of `OR`. -/
inductive Disjunction where
  | one (c : Conjunction)
  | or (d : Disjunction) (c : Conjunction)
deriving DecidableEq

/-- Operands of `AND`. -/
inductive Conjunction where
  | one (n : Negation)
  | and (c : Conjunction) (n : Negation)
deriving DecidableEq

/-- What `NOT` can stand before. -/
inductive Negation where
  | test (t : ColumnTest)
  | parens (d : Disjunction)
  | not (n : Negation)
deriving DecidableEq

end

inductive Symbol where
  | opening
  | closing
  | not
  | and
  | or
  | test (t : ColumnTest)
deriving DecidableEq

mutual

def Disjunction.symbols : Disjunction → List Symbol
  | .one c => c.symbols
  | .or d c => d.symbols ++ .or :: c.symbols

def Conjunction.symbols : Conjunction → List Symbol
  | .one n => n.symbols
  | .and c n => c.symbols ++ .and :: n.symbols

def Negation.symbols : Negation → List Symbol
  | .test t => [.test t]
  | .parens d => .opening :: d.symbols ++ [.closing]
  | .not n => .not :: n.symbols

end

mutual

/-- The value under a truth assignment to the column tests. -/
def Disjunction.eval (v : ColumnTest → Bool) : Disjunction → Bool
  | .one c => c.eval v
  | .or d c => d.eval v || c.eval v

def Conjunction.eval (v : ColumnTest → Bool) : Conjunction → Bool
  | .one n => n.eval v
  | .and c n => c.eval v && n.eval v

def Negation.eval (v : ColumnTest → Bool) : Negation → Bool
  | .test t => v t
  | .parens d => d.eval v
  | .not n => !n.eval v

end

def Conjunction.ofList? : List Negation → Option Conjunction
  | [] => none
  | n :: ns => some (ns.foldl .and (.one n))

def Disjunction.ofList? : List Conjunction → Option Disjunction
  | [] => none
  | c :: cs => some (cs.foldl .or (.one c))

section Fold

variable {α β : Type} {op : α → β → α} {e : α → Bool} {g : β → Bool}

/-- A value that an operator conjoins with one value for each operand. -/
theorem foldl_eq_and_all (h : ∀ a b, e (op a b) = (e a && g b)) (a : α) (bs : List β) :
    e (bs.foldl op a) = (e a && bs.all g) := by
  induction bs generalizing a with
  | nil => simp
  | cons b bs ih => rw [List.foldl_cons, ih, h, List.all_cons, Bool.and_assoc]

theorem foldl_eq_or_any (h : ∀ a b, e (op a b) = (e a || g b)) (a : α) (bs : List β) :
    e (bs.foldl op a) = (e a || bs.any g) := by
  induction bs generalizing a with
  | nil => simp
  | cons b bs ih => rw [List.foldl_cons, ih, h, List.any_cons, Bool.or_assoc]

end Fold

theorem Conjunction.eval_ofList? {v : ColumnTest → Bool} {ns : List Negation} {c : Conjunction}
    (h : ofList? ns = some c) : c.eval v = ns.all (·.eval v) := by
  have hand : ∀ c n, eval v (.and c n) = (eval v c && n.eval v) := fun c n => by rw [eval]
  cases ns with
  | nil => cases h
  | cons n ns =>
    cases h
    rw [foldl_eq_and_all hand, eval, List.all_cons]

theorem Disjunction.eval_ofList? {v : ColumnTest → Bool} {cs : List Conjunction} {d : Disjunction}
    (h : ofList? cs = some d) : d.eval v = cs.any (·.eval v) := by
  have hor : ∀ d c, eval v (.or d c) = (eval v d || c.eval v) := fun d c => by rw [eval]
  cases cs with
  | nil => cases h
  | cons c cs =>
    cases h
    rw [foldl_eq_or_any hor, eval, List.any_cons]

/-- What is read if `NOT` stands before the operands: the first one alone is negated. -/
def Conjunction.negateFirst : Conjunction → Conjunction
  | .one n => .one (.not n)
  | .and c n => .and c.negateFirst n

def Disjunction.negateFirst : Disjunction → Disjunction
  | .one c => .one c.negateFirst
  | .or d c => .or d.negateFirst c

theorem Conjunction.symbols_negateFirst :
    ∀ c : Conjunction, c.negateFirst.symbols = .not :: c.symbols
  | .one n => rfl
  | .and c n => by
    rw [negateFirst, symbols, symbols_negateFirst c, symbols, List.cons_append]

theorem Disjunction.symbols_negateFirst :
    ∀ d : Disjunction, d.negateFirst.symbols = .not :: d.symbols
  | .one c => c.symbols_negateFirst
  | .or d c => by
    rw [negateFirst, symbols, symbols_negateFirst d, symbols, List.cons_append]

/-- The operands that were read inside one pair of parentheses. -/
structure Operands where
  /-- Those up to the last `OR`. -/
  disjunction : Option Disjunction
  /-- Those since, up to the last `AND`. -/
  conjunction : Option Conjunction
  /-- The number of `NOT`s before the next operand. -/
  nots : Nat

namespace Operands

def start : Operands := ⟨none, none, 0⟩

def negated : Nat → Negation → Negation
  | 0, n => n
  | k + 1, n => negated k (.not n)

def operand (l : Operands) (n : Negation) : Operands :=
  ⟨l.disjunction,
    some (match l.conjunction with
      | none => .one (negated l.nots n)
      | some c => .and c (negated l.nots n)),
    0⟩

def whole (l : Operands) : Option Disjunction :=
  l.conjunction.map fun c =>
    match l.disjunction with
    | none => .one c
    | some d => .or d c

end Operands

/-- Where the parser stands. -/
structure Parsing where
  /-- The operands around the open parentheses, the innermost first. -/
  outer : List Operands
  operands : Operands
  /-- Whether an operand has to follow. -/
  expects : Bool

namespace Parsing

def step : Parsing → Symbol → Option Parsing
  | ⟨outer, l, true⟩, .test t => some ⟨outer, l.operand (.test t), false⟩
  | ⟨outer, l, true⟩, .not => some ⟨outer, { l with nots := l.nots + 1 }, true⟩
  | ⟨outer, l, true⟩, .opening => some ⟨l :: outer, .start, true⟩
  | ⟨outer, l, false⟩, .and => some ⟨outer, l, true⟩
  | ⟨outer, l, false⟩, .or => some ⟨outer, ⟨l.whole, none, 0⟩, true⟩
  | ⟨l :: outer, inner, false⟩, .closing =>
    inner.whole.map fun d => ⟨outer, l.operand (.parens d), false⟩
  | _, _ => none

def run (p : Parsing) (symbols : List Symbol) : Option Parsing := symbols.foldlM step p

end Parsing

/-- The tree of some symbols, if all of them are one. -/
def parse (symbols : List Symbol) : Option Disjunction :=
  match Parsing.run ⟨[], .start, true⟩ symbols with
  | some ⟨[], l, false⟩ => l.whole
  | _ => none

namespace Parsing

theorem run_append (p : Parsing) (a b : List Symbol) :
    p.run (a ++ b) = (p.run a).bind fun q => q.run b :=
  List.foldlM_append

-- Each kind of tree takes the parser from where it is expected to where it was read. Before it may
-- stand nothing for a disjunction, operands of `OR` for a conjunction, and operands of `AND` and
-- `NOT`s as well for a negation.
mutual

theorem run_disjunction (outer : List Operands) :
    ∀ d : Disjunction, ∃ l : Operands,
      run ⟨outer, .start, true⟩ d.symbols = some ⟨outer, l, false⟩ ∧ l.whole = some d
  | .one c => ⟨⟨none, some c, 0⟩, run_conjunction outer none c, rfl⟩
  | .or d c => by
    obtain ⟨l, hl, hd⟩ := run_disjunction outer d
    refine ⟨⟨some d, some c, 0⟩, ?_, rfl⟩
    rw [Disjunction.symbols, run_append, hl, Option.bind_some]
    -- `OR` closes the disjunction so far, and a conjunction follows it
    have hstep : step ⟨outer, l, false⟩ .or = some ⟨outer, ⟨some d, none, 0⟩, true⟩ := by
      rw [← hd]
      rfl
    have hrest := run_conjunction outer (some d) c
    rw [run, List.foldlM_cons, hstep]
    exact hrest

theorem run_conjunction (outer : List Operands) (d : Option Disjunction) :
    ∀ c : Conjunction,
      run ⟨outer, ⟨d, none, 0⟩, true⟩ c.symbols = some ⟨outer, ⟨d, some c, 0⟩, false⟩
  | .one n => run_negation outer ⟨d, none, 0⟩ n
  | .and c n => by
    rw [Conjunction.symbols, run_append, run_conjunction outer d c, Option.bind_some]
    exact run_negation outer ⟨d, some c, 0⟩ n

theorem run_negation (outer : List Operands) (l : Operands) :
    ∀ n : Negation, run ⟨outer, l, true⟩ n.symbols = some ⟨outer, l.operand n, false⟩
  | .test t => rfl
  | .parens d => by
    -- inside the parentheses nothing is known of what stands before them
    obtain ⟨inner, hinner, hd⟩ := run_disjunction (l :: outer) d
    rw [Negation.symbols, List.cons_append, run, List.foldlM_cons]
    have hrun : run ⟨l :: outer, .start, true⟩ (d.symbols ++ [.closing]) =
        some ⟨outer, l.operand (.parens d), false⟩ := by
      rw [run_append, hinner]
      simp [run, step, hd]
    exact hrun
  | .not n => run_negation outer { l with nots := l.nots + 1 } n

end

end Parsing

/-- A tree is parsed back from what it is written as. -/
theorem parse_symbols (d : Disjunction) : parse d.symbols = some d := by
  obtain ⟨l, hl, hd⟩ := Parsing.run_disjunction [] d
  rw [parse, hl]
  exact hd

end SqlMapper
