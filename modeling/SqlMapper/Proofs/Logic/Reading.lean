import SqlMapper.Proofs.Logic.Grammar
import SqlMapper.Proofs.Logic.Token

namespace SqlMapper

namespace Token

/-- The values of a list, up to its end. -/
def listed? : List Token → Option (List Value)
  | [.value v, .keyword .closing] => some [v]
  | .value v :: .keyword .comma :: rest => (listed? rest).map (v :: ·)
  | _ => none

/-- What is asked for after a column. -/
def asked? : List Token → Option Supplied
  | [.keyword .equal, .value v] => some (.value v)
  | [.keyword .is, .keyword .not, .keyword .null] => some (.comparison .notNull)
  | [.keyword .is, .keyword .null] => some (.comparison .isNull)
  | [.keyword .like, .value v] => some (.comparison (.like v))
  | [.keyword .isIn, .keyword .opening, .keyword .null, .keyword .closing] =>
    some (.comparison (.among []))
  | .keyword .isIn :: .keyword .opening :: rest =>
    (listed? rest).map fun values => .comparison (.among values)
  | [.keyword .less, .value v] => some (.comparison (.less v))
  | [.keyword .lessEqual, .value v] => some (.comparison (.lessEqual v))
  | [.keyword .greater, .value v] => some (.comparison (.greater v))
  | [.keyword .greaterEqual, .value v] => some (.comparison (.greaterEqual v))
  | [.keyword .notEqual, .value v] => some (.comparison (.notEqual v))
  | [.keyword .less, .keyword .now, .keyword .opening, .keyword .closing] =>
    some (.comparison .passed)
  | [.keyword .greater, .keyword .now, .keyword .opening, .keyword .closing] =>
    some (.comparison .toCome)
  | _ => none

def symbol? : Token → Option Symbol
  | .keyword .opening => some .opening
  | .keyword .closing => some .closing
  | .keyword .not => some .not
  | .keyword .and => some .and
  | .keyword .or => some .or
  | _ => none

-- a column test ends before these, unless they are in its own parentheses
def ends : Token → Bool
  | .keyword .closing | .keyword .and | .keyword .or => true
  | _ => false

/-- The number of open parentheses after the token. -/
def depthAfter (depth : Nat) : Token → Nat
  | .keyword .opening => depth + 1
  | .keyword .closing => depth - 1
  | _ => depth

end Token

def ColumnTest.read? : List Token → Option ColumnTest
  | .name n :: rest => (Token.asked? rest).map fun v => ⟨"", n, v⟩
  | .text cs :: .name n :: rest =>
    if cs.getLast? = some '.' then
      (Token.asked? rest).map fun v => ⟨String.ofList cs.dropLast, n, v⟩
    else none
  | _ => none

/-- The symbols of tokens. Those of a column test are kept until it ends, with the number of
parentheses that are open in it. -/
def symbols? (kept : List Token) (depth : Nat) : List Token → Option (List Symbol)
  | [] => if kept = [] then some [] else (ColumnTest.read? kept).map fun c => [.test c]
  | t :: ts =>
    if kept = [] then
      match t.symbol? with
      | some s => (symbols? [] 0 ts).map (s :: ·)
      | none => symbols? [t] 0 ts
    else if depth = 0 ∧ t.ends then
      (ColumnTest.read? kept).bind fun c =>
        t.symbol?.bind fun s => (symbols? [] 0 ts).map fun rest => .test c :: s :: rest
    else symbols? (kept ++ [t]) (t.depthAfter depth) ts

namespace Dialect

/-- The tree of a predicate in the dialect, with the values that it binds. -/
def predicate? (d : Dialect) (text : String) (values : List Value) : Option Disjunction :=
  (d.read text values).bind fun ls => (symbols? [] 0 (tokens ls)).bind parse

/-- What a predicate denotes under a truth assignment to the column tests. -/
def denote (d : Dialect) (text : String) (values : List Value) (v : ColumnTest → Bool) :
    Option Bool :=
  (d.predicate? text values).map (·.eval v)

end Dialect

/-- `NOT` takes the first test alone, and `AND` binds tighter than `OR`. -/
example : Dialect.sqlite.predicate?
      "NOT \"a OR b\"=? AND \"(\" IS NULL OR t.\"x\" < NOW()" [.int32 (some 1)] =
    some (.or
      (.one (.and (.one (.not (.test ⟨"", "a OR b", .value (.int32 (some 1))⟩)))
        (.test ⟨"", "(", .comparison .isNull⟩)))
      (.one (.test ⟨"t", "x", .comparison .passed⟩))) := by
  decide

end SqlMapper
