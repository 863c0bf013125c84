import SqlMapper.Proofs.Logic.Blank
import SqlMapper.Proofs.Sql.Append
import SqlMapper.Proofs.Query.Tail

namespace SqlMapper

/-- The tokens of an expression that the dialect reads in the text. -/
def Dialect.expression? (d : Dialect) (text : String) (values : List Value) : Option (List Token) :=
  (d.read text values).bind fun ls => Token.expression? (tokens ls)

namespace Fragment

/-- The tokens of a filter, if it filters anything. -/
def filter? (d : Dialect) (f : Fragment) : Option (List Token) :=
  if f.isBlank then none else d.expression? (f.text d) f.values

/-- The fragment filters nothing, or is an expression by itself. -/
def IsFilter (d : Dialect) (f : Fragment) : Prop := f.isBlank ∨ (f.filter? d).isSome

end Fragment

namespace Symbol

/-- The number of open parentheses after the symbol, unless it closes one that was not open. -/
def depthAfter? (n : Nat) : Symbol → Option Nat
  | opening => some (n + 1)
  | closing => if n = 0 then none else some (n - 1)
  | not | and | or | test _ => some n

def depthAfterAll? (n : Nat) (xs : List Symbol) : Option Nat := xs.foldlM depthAfter? n

theorem depthAfterAll?_cons (n : Nat) (x : Symbol) (xs : List Symbol) :
    depthAfterAll? n (x :: xs) = (x.depthAfter? n).bind fun m => depthAfterAll? m xs :=
  List.foldlM_cons

end Symbol

namespace Parsing

variable {p q : Parsing}

/-- The parser keeps one list of operands for each open parenthesis. -/
theorem depthAfter?_of_step {x : Symbol} (h : p.step x = some q) :
    x.depthAfter? p.outer.length = some q.outer.length := by
  obtain ⟨outer, l, expects⟩ := p
  cases x with
  | opening =>
    cases expects <;> cases h
    rfl
  | closing =>
    cases outer with
    | nil => cases expects <;> cases h
    | cons o outer =>
      cases expects with
      | true => cases h
      | false =>
        obtain ⟨inner, -, rfl⟩ := Option.map_eq_some_iff.1 h
        rfl
  | not | and | or | test =>
    cases expects <;> cases h
    rfl

theorem depthAfterAll?_of_run {xs : List Symbol} (h : p.run xs = some q) :
    Symbol.depthAfterAll? p.outer.length xs = some q.outer.length := by
  induction xs generalizing p with
  | nil =>
    cases h
    rfl
  | cons x xs ih =>
    rw [run, List.foldlM_cons] at h
    obtain ⟨next, hstep, hrest⟩ := Option.bind_eq_some_iff.1 h
    rw [Symbol.depthAfterAll?_cons, depthAfter?_of_step hstep, Option.bind_some]
    exact ih hrest

end Parsing

/-- The parentheses of what is parsed match. -/
theorem depthAfterAll?_of_parse {xs : List Symbol} {t : Disjunction} (h : parse xs = some t) :
    Symbol.depthAfterAll? 0 xs = some 0 := by
  unfold parse at h
  split at h
  · rename_i l hrun
    exact Parsing.depthAfterAll?_of_run hrun
  · cases h

namespace Token

variable {n m : Nat} {t : Token} {ts kept : List Token}

/-- A keyword is counted as the symbol that it is. -/
theorem openAfter?_symbol {x : Symbol} (hx : t.symbol? = some x)
    (hdepth : x.depthAfter? n = some m) (ts : List Token) :
    openAfter? n (t :: ts) = openAfter? m ts := by
  have hgo (k : Keyword) (hk : k = .closing → n ≠ 0) :
      openAfter? n (keyword k :: ts) = openAfter? (depthAfter n (keyword k)) ts := by
    rw [openAfter?, if_neg]
    rintro ⟨hzero, hbegins | hclosing⟩
    · simp [beginsClause_keyword] at hbegins
    · exact hk (Token.keyword.inj hclosing) hzero
  revert hx
  fun_cases symbol? t with
  | case1 | case3 | case4 | case5 =>
    intro hx
    cases hx
    cases hdepth
    exact hgo _ fun h => by cases h
  | case2 =>
    intro hx
    cases hx
    rw [Symbol.depthAfter?] at hdepth
    split at hdepth
    · cases hdepth
    · rename_i hopen
      cases hdepth
      exact hgo _ fun _ => hopen
  | case6 =>
    intro hx
    cases hx

theorem openAfter?_of_listed? {vs : List Value} (h : listed? ts = some vs) :
    openAfter? 1 ts = some 0 := by
  fun_induction listed? ts generalizing vs with
  | case1 v => rfl
  | case2 v rest ih =>
    obtain ⟨others, hothers, -⟩ := Option.map_eq_some_iff.1 h
    exact ih hothers
  | case3 => cases h

theorem openAfter?_of_asked? {v : Supplied} (h : asked? ts = some v) :
    openAfter? 0 ts = some 0 := by
  revert h
  fun_cases asked? ts with
  | case6 rest =>
    intro h
    obtain ⟨vs, hvs, -⟩ := Option.map_eq_some_iff.1 h
    exact openAfter?_of_listed? hvs
  | case14 =>
    intro h
    cases h
  | _ => exact fun _ => rfl

/-- A column test is over before any clause begins, and closes what it opens. -/
theorem openAfter?_of_read? {c : ColumnTest} (h : ColumnTest.read? kept = some c) :
    openAfter? 0 kept = some 0 := by
  revert h
  fun_cases ColumnTest.read? kept with
  | case1 name rest =>
    intro h
    obtain ⟨v, hv, -⟩ := Option.map_eq_some_iff.1 h
    have hrest : openAfter? 0 rest = some 0 := openAfter?_of_asked? hv
    exact hrest
  | case2 cs name rest hdot =>
    intro h
    obtain ⟨v, hv, -⟩ := Option.map_eq_some_iff.1 h
    have hrest : openAfter? 0 rest = some 0 := openAfter?_of_asked? hv
    rw [openAfter?, if_neg (by simp [beginsClause_alias hdot])]
    exact hrest
  | case3 | case4 =>
    intro h
    cases h

theorem openAfter?_test {c : ColumnTest} (h : ColumnTest.read? kept = some c) (n : Nat) :
    openAfter? n kept = some n := by
  have hadd := openAfter?_add (openAfter?_of_read? h) n
  rwa [Nat.zero_add] at hadd

/-- What is kept of a column test and what follows it count as many parentheses as their symbols. -/
theorem openAfter?_of_symbols? {depth : Nat} {xs : List Symbol}
    (h : symbols? kept depth ts = some xs) (hdepth : Symbol.depthAfterAll? n xs = some m) :
    openAfter? n (kept ++ ts) = some m := by
  fun_induction symbols? kept depth ts generalizing n xs with
  | case1 depth =>
    cases h
    exact hdepth
  | case2 depth kept hk =>
    obtain ⟨c, hc, rfl⟩ := Option.map_eq_some_iff.1 h
    cases hdepth
    rw [List.append_nil]
    exact openAfter?_test hc _
  | case3 depth t ts x hx ih =>
    obtain ⟨rest, hrest, rfl⟩ := Option.map_eq_some_iff.1 h
    rw [Symbol.depthAfterAll?_cons] at hdepth
    obtain ⟨k, hk, hdepth⟩ := Option.bind_eq_some_iff.1 hdepth
    rw [List.nil_append, openAfter?_symbol hx hk]
    exact ih hrest hdepth
  | case4 depth t ts hx ih => exact ih h hdepth
  | case5 depth t ts kept hk hends ih =>
    obtain ⟨c, hc, h⟩ := Option.bind_eq_some_iff.1 h
    obtain ⟨x, hx, h⟩ := Option.bind_eq_some_iff.1 h
    obtain ⟨rest, hrest, rfl⟩ := Option.map_eq_some_iff.1 h
    -- the test that is over changes nothing, and the symbol after it counts as usual
    rw [Symbol.depthAfterAll?_cons, Symbol.depthAfter?, Option.bind_some,
      Symbol.depthAfterAll?_cons] at hdepth
    obtain ⟨k, hk, hdepth⟩ := Option.bind_eq_some_iff.1 hdepth
    rw [openAfter?_append, openAfter?_test hc, Option.bind_some, openAfter?_symbol hx hk]
    exact ih hrest hdepth
  | case6 depth t ts kept hk hends ih =>
    have hall := ih h hdepth
    rwa [List.append_assoc] at hall

end Token

theorem Fragment.WellFormed.isFilter {d : Dialect} {f : Fragment} (h : f.WellFormed d) :
    f.IsFilter d := by
  by_cases hblank : f.isBlank
  · exact Or.inl hblank
  · obtain ⟨t, ht⟩ := h.resolve_left hblank
    obtain ⟨ls, hread, ht⟩ := Option.bind_eq_some_iff.1 ht
    obtain ⟨xs, hxs, hparse⟩ := Option.bind_eq_some_iff.1 ht
    have hmatched : Token.openAfter? 0 (SqlMapper.tokens ls) = some 0 :=
      Token.openAfter?_of_symbols? hxs (depthAfterAll?_of_parse hparse)
    have hne : SqlMapper.tokens ls ≠ [] := by
      intro he
      rw [he] at hxs
      cases hxs
      cases hparse
    have hfilter : f.filter? d = some (SqlMapper.tokens ls) := by
      rw [filter?, if_neg hblank, Dialect.expression?, hread, Option.bind_some,
        Token.expression?, if_pos ⟨hne, hmatched⟩]
    exact Or.inr (Option.isSome_iff_exists.2 ⟨_, hfilter⟩)

end SqlMapper
