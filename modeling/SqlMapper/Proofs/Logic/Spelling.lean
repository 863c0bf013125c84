import Mathlib.Data.List.Forall2
import SqlMapper.Proofs.Logic.Reading

namespace SqlMapper

/-- The number of open parentheses after some tokens of a column test, unless it ends in them. -/
def Token.depthWithin? (depth : Nat) : List Token → Option Nat
  | [] => some depth
  | t :: ts => if depth = 0 ∧ t.ends then none else depthWithin? (t.depthAfter depth) ts

/-- No token is left, or one at which a column test ends. -/
def Ended (ts : List Token) : Prop := ∀ t ∈ ts.head?, t.ends

theorem symbols?_within {kept ts rest : List Token} {depth after : Nat} (hk : kept ≠ [])
    (h : Token.depthWithin? depth ts = some after) :
    symbols? kept depth (ts ++ rest) = symbols? (kept ++ ts) after rest := by
  induction ts generalizing kept depth with
  | nil =>
    cases h
    rw [List.append_nil, List.nil_append]
  | cons t ts ih =>
    rw [Token.depthWithin?] at h
    split at h
    · cases h
    · rename_i hgo
      rw [List.cons_append, symbols?, if_neg hk, if_neg hgo, ih (by simp) h]
      simp

theorem symbols?_ended {kept rest : List Token} {c : ColumnTest} (hk : kept ≠ [])
    (hc : ColumnTest.read? kept = some c) (hr : Ended rest) :
    symbols? kept 0 rest = (symbols? [] 0 rest).map (.test c :: ·) := by
  cases rest with
  | nil => simp [symbols?, hk, hc]
  | cons t ts =>
    have ht : t.ends := hr t rfl
    rw [symbols?, if_neg hk, if_pos ⟨rfl, ht⟩, hc, Option.bind_some, symbols?, if_pos rfl]
    cases hs : t.symbol? with
    | none =>
      -- a token that ends a test is a symbol
      exfalso
      revert ht hs
      fun_cases Token.ends t <;> simp [Token.symbol?]
    | some s => simp [Function.comp_def]

theorem ColumnTest.read?_column {c : Column} {v : Supplied} {asked : List Token}
    (h : Token.asked? asked = some v) :
    read? (c.aliasTokens ++ .name c.name :: asked) = some ⟨c.qualifier, c.name, v⟩ := by
  unfold Column.aliasTokens
  by_cases he : c.qualifier = ""
  · simp [he, read?, h]
  · simp [he, read?, h]

/-- A test is read from the tokens of a column and what is asked for after it. -/
theorem symbols?_test {c : Column} {v : Supplied} {asked rest : List Token}
    (hasked : Token.asked? asked = some v) (hwithin : Token.depthWithin? 0 asked = some 0)
    (hr : Ended rest) :
    symbols? [] 0 (c.aliasTokens ++ .name c.name :: asked ++ rest) =
      (symbols? [] 0 rest).map (.test ⟨c.qualifier, c.name, v⟩ :: ·) := by
  -- the tokens up to `rest` are kept, and there the test is read from them
  have hread := ColumnTest.read?_column (c := c) hasked
  have hname : Token.depthWithin? 0 (.name c.name :: asked) = some 0 := hwithin
  unfold Column.aliasTokens at hread ⊢
  by_cases he : c.qualifier = ""
  · simp only [he, if_true, List.nil_append, List.cons_append] at hread ⊢
    have hkept : symbols? [.name c.name] 0 (asked ++ rest) =
        symbols? (.name c.name :: asked) 0 rest :=
      symbols?_within (by simp) hwithin
    rw [symbols?_ended (by simp) hread hr] at hkept
    exact hkept
  · simp only [he, if_false, List.cons_append, List.nil_append] at hread ⊢
    have hkept : symbols? [.text (c.qualifier.toList ++ ['.'])] 0 (.name c.name :: asked ++ rest) =
        symbols? (.text (c.qualifier.toList ++ ['.']) :: .name c.name :: asked) 0 rest :=
      symbols?_within (by simp) hname
    rw [symbols?_ended (by simp) hread hr] at hkept
    exact hkept

/-- The tokens ask for something after a column, and the test does not end in them. -/
structure Asks (f : Fragment) (v : Supplied) : Prop where
  asked : Token.asked? f.tokens = some v
  within : Token.depthWithin? 0 f.tokens = some 0

namespace Comparison

theorem tokens_list (v : Value) (vs : List Value) :
    ∃ ts, Fragment.tokens (Fragment.joined "," ((v :: vs).map fun v => [.slot v]) ++ [.word ")"]) =
        .value v :: ts ∧
      Token.listed? (.value v :: ts) = some (v :: vs) ∧
      Token.depthWithin? 1 (.value v :: ts) = some 0 := by
  induction vs generalizing v with
  | nil => exact ⟨[.keyword .closing], rfl, rfl, rfl⟩
  | cons w vs ih =>
    obtain ⟨ts, htokens, hlisted, hwithin⟩ := ih w
    have hfirst (f : Fragment) : Fragment.tokens (.slot v :: .word "," :: f) =
        .value v :: .keyword .comma :: f.tokens := by
      rw [Fragment.tokens_slot_cons, Fragment.tokens_word_cons]
      rfl
    refine ⟨.keyword .comma :: .value w :: ts, ?_, ?_, hwithin⟩
    · rw [← htokens]
      exact hfirst _
    · rw [Token.listed?, hlisted]
      rfl

theorem asks_among (values : List Value) :
    Asks (.word " " :: (among values).fragment) (.comparison (among values)) := by
  cases values with
  | nil => exact ⟨rfl, rfl⟩
  | cons v vs =>
    obtain ⟨ts, htokens, hlisted, hwithin⟩ := tokens_list v vs
    -- the list has parentheses of its own, so its end is not that of the test
    have hall : Fragment.tokens (.word " " :: (among (v :: vs)).fragment) =
        .keyword .isIn :: .keyword .opening :: .value v :: ts := by
      rw [← htokens, Fragment.tokens_word_cons]
      exact Fragment.tokens_word_cons
    constructor
    · rw [hall, Token.asked?, hlisted]
      · rfl
      · simp
    · rw [hall]
      exact hwithin

theorem asks_fragment (q : Comparison) : Asks (.word " " :: q.fragment) (.comparison q) := by
  cases q with
  | among values => exact asks_among values
  | notNull => exact ⟨rfl, rfl⟩
  | isNull => exact ⟨rfl, rfl⟩
  | like v => exact ⟨rfl, rfl⟩
  | less v => exact ⟨rfl, rfl⟩
  | lessEqual v => exact ⟨rfl, rfl⟩
  | greater v => exact ⟨rfl, rfl⟩
  | greaterEqual v => exact ⟨rfl, rfl⟩
  | notEqual v => exact ⟨rfl, rfl⟩
  | passed => exact ⟨rfl, rfl⟩
  | toCome => exact ⟨rfl, rfl⟩

end Comparison

def Column.test (c : Column) (v : Supplied) : ColumnTest := ⟨c.qualifier, c.name, v⟩

/-- The fragment is read as the symbols, wherever a column test may end after it. -/
def Fragment.Spells (f : Fragment) (ss : List Symbol) : Prop :=
  ∀ rest, Ended rest → symbols? [] 0 (f.tokens ++ rest) = (symbols? [] 0 rest).map (ss ++ ·)

theorem Fragment.spells_test {c : Column} (hc : c.WellQualified) {f : Fragment} {v : Supplied}
    (hf : Asks f v) : (c.reference ++ f).Spells [.test (c.test v)] := by
  intro rest hr
  rw [Column.tokens_reference_append hc, symbols?_test hf.asked hf.within hr]
  rfl

theorem Supplied.term_spells {c : Column} (hc : c.WellQualified) {v : Supplied} {f : Fragment}
    (h : v.term c = .ok f) : f.Spells [.test (c.test v)] := by
  cases v with
  | value v =>
    cases h
    exact Fragment.spells_test hc ⟨rfl, rfl⟩
  | comparison q =>
    cases h
    exact Fragment.spells_test hc q.asks_fragment
  | expression e => cases h

theorem symbols?_symbol {t : Token} {s : Symbol} (h : t.symbol? = some s) (ts : List Token) :
    symbols? [] 0 (t :: ts) = (symbols? [] 0 ts).map (s :: ·) := by
  rw [symbols?, if_pos rfl, h]

namespace Fragment.Spells

variable {f g : Fragment} {ss ts : List Symbol}

theorem enclosed {w : String} {p : List Symbol} (hf : f.Spells ss)
    (hw : ∀ rest, symbols? [] 0 (Fragment.tokens [.word w] ++ rest) =
      (symbols? [] 0 rest).map (p ++ ·))
    (hend : w.toList.getLast?.any isFreeChar := by decide) :
    Spells (.word w :: f ++ [.word ")"]) (p ++ ss ++ [.closing]) := by
  intro rest _
  have htokens : Fragment.tokens (.word w :: f ++ [.word ")"]) =
      Fragment.tokens [.word w] ++ (f.tokens ++ [.keyword .closing]) := by
    rw [tokens_append parts_word, tokens_word_cons hend, List.append_assoc]
    rfl
  -- a test may end before the closing parenthesis
  have hinner := hf (.keyword .closing :: rest) (by simp [Ended, Token.ends])
  rw [symbols?_symbol rfl] at hinner
  rw [htokens, List.append_assoc, hw, List.append_assoc, List.singleton_append, hinner]
  simp [Function.comp_def]

theorem parens (hf : f.Spells ss) : f.inParens.Spells (.opening :: ss ++ [.closing]) :=
  hf.enclosed (w := "(") (p := [.opening])
    fun rest => symbols?_symbol (t := .keyword .opening) rfl rest

theorem negated (hf : f.Spells ss) :
    Spells (.word "(NOT " :: f ++ [.word ")"]) (.opening :: .not :: ss ++ [.closing]) := by
  refine hf.enclosed (p := [.opening, .not]) fun rest => ?_
  have hnot := symbols?_symbol (t := .keyword .not) rfl rest
  have hopening := symbols?_symbol (t := .keyword .opening) rfl (.keyword .not :: rest)
  rw [hnot, Option.map_map] at hopening
  exact hopening

theorem append_word {w : String} {k : Keyword} {s : Symbol} (hf : f.Spells ss) (hg : g.Spells ts)
    (hstart : w.toList.head?.any isFreeChar) (hend : w.toList.getLast?.any isFreeChar)
    (hw : Fragment.tokens [.word w] = [.keyword k]) (hk : (Token.keyword k).ends)
    (hs : (Token.keyword k).symbol? = some s) : Spells (f ++ .word w :: g) (ss ++ s :: ts) := by
  intro rest hr
  have htokens : Fragment.tokens (f ++ .word w :: g) = f.tokens ++ .keyword k :: g.tokens := by
    rw [tokens_append (parts_word hstart), tokens_word_cons hend, hw]
    rfl
  -- a test of the first fragment ends at the word
  have hinner := hf (.keyword k :: (g.tokens ++ rest)) (by simp [Ended, hk])
  rw [symbols?_symbol hs, hg rest hr] at hinner
  rw [htokens, List.append_assoc, List.cons_append, hinner]
  simp [Function.comp_def]

/-- A predicate is parsed from the symbols that it spells. -/
theorem predicate?_eq_parse {vs : List Value} (d : Dialect) (hf : f.Spells ss)
    (hc : f.Carries true vs) : d.predicate? (f.text d) f.values = parse ss := by
  have hsymbols : symbols? [] 0 f.tokens = some ss := by
    have h := hf [] (by simp [Ended])
    rw [List.append_nil] at h
    rw [h]
    simp [symbols?]
  rw [Dialect.predicate?, Fragment.read_text d hc.separate, Option.bind_some]
  change (symbols? [] 0 f.tokens).bind parse = parse ss
  rw [hsymbols, Option.bind_some]

end Fragment.Spells

namespace Fragment

/-- Joined fragments spell the operands of a connective, collected from the left. -/
theorem Spells.joined {α β : Type} {a : α → List Symbol} {b : β → List Symbol} {op : α → β → α}
    {w : String} {c : Symbol} (hop : ∀ x y, a (op x y) = a x ++ c :: b y)
    (hw : ∀ {f g : Fragment} {ss ts : List Symbol}, f.Spells ss → g.Spells ts →
      Spells (f ++ .word w :: g) (ss ++ c :: ts))
    {f : Fragment} {x : α} (hf : f.Spells (a x)) {fs : List Fragment} {ys : List β}
    (h : List.Forall₂ (fun g y => Spells g (b y)) fs ys) :
    (Fragment.joined w (f :: fs)).Spells (a (ys.foldl op x)) := by
  rw [joined_cons]
  -- what was joined so far is the left operand of the connective
  induction h generalizing f x with
  | nil => simpa using hf
  | @cons g y fs ys hg hrest ih =>
    have hnext : Spells (f ++ .word w :: g) (a (op x y)) := by
      rw [hop]
      exact hw hf hg
    have hall := ih hnext
    rw [List.append_assoc] at hall
    exact hall

theorem Spells.and {f g : Fragment} {ss ts : List Symbol} (hf : f.Spells ss) (hg : g.Spells ts) :
    Spells (f ++ .word " AND " :: g) (ss ++ .and :: ts) :=
  hf.append_word hg (by decide) (by decide) rfl rfl rfl

theorem Spells.or {f g : Fragment} {ss ts : List Symbol} (hf : f.Spells ss) (hg : g.Spells ts) :
    Spells (f ++ .word " OR " :: g) (ss ++ .or :: ts) :=
  hf.append_word hg (by decide) (by decide) rfl rfl rfl

theorem spells_conjunction {fs : List Fragment} {ns : List Negation} (hne : ns ≠ [])
    (h : List.Forall₂ (fun f n => Spells f n.symbols) fs ns) :
    ∃ c, Conjunction.ofList? ns = some c ∧ (joined " AND " fs).Spells c.symbols := by
  cases h with
  | nil => exact absurd rfl hne
  | @cons f n fs ns hf hrest =>
    refine ⟨ns.foldl .and (.one n), rfl, ?_⟩
    refine Spells.joined (x := Conjunction.one n) (fun c n => ?_) Spells.and hf hrest
    rw [Conjunction.symbols]

theorem spells_disjunction {fs : List Fragment} {cs : List Conjunction} (hne : cs ≠ [])
    (h : List.Forall₂ (fun f c => Spells f c.symbols) fs cs) :
    ∃ d, Disjunction.ofList? cs = some d ∧ (joined " OR " fs).Spells d.symbols := by
  cases h with
  | nil => exact absurd rfl hne
  | @cons f c fs cs hf hrest =>
    refine ⟨cs.foldl .or (.one c), rfl, ?_⟩
    refine Spells.joined (x := Disjunction.one c) (fun d c => ?_) Spells.or hf hrest
    rw [Disjunction.symbols]

end Fragment
end SqlMapper
