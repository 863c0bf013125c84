import SqlMapper.Proofs.Logic.Spelling
import SqlMapper.Proofs.Query.Bound

namespace SqlMapper

variable {s : Scope} {v : ColumnTest → Bool}

/-- Whether the field asks for something: expressions only give a column its value. -/
def Supplied.isTest : Supplied → Bool
  | .value _ | .comparison _ => true
  | .expression _ => false

namespace Condition

mutual

/-- All parts of the condition ask for something: a field map sets a column, to nothing but values
and comparisons, and there is something to combine. -/
def Solid (s : Scope) : Condition → Prop
  | fields map =>
    map.supply.assigned s.columns ≠ [] ∧ ∀ p ∈ map.supply.assigned s.columns, p.2.isTest
  | all conditions => conditions ≠ [] ∧ SolidAll s conditions
  | any conditions => conditions ≠ [] ∧ SolidAll s conditions
  | not condition => Solid s condition
  | raw _ => False

def SolidAll (s : Scope) : List Condition → Prop
  | [] => True
  | condition :: rest => Solid s condition ∧ SolidAll s rest

end

mutual

def NotFree : Condition → Prop
  | fields _ => True
  | all conditions => NotFreeAll conditions
  | any conditions => NotFreeAll conditions
  | not _ => False
  | raw _ => True

def NotFreeAll : List Condition → Prop
  | [] => True
  | condition :: rest => NotFree condition ∧ NotFreeAll rest

end

def tests (s : Scope) (map : FieldMap) : List ColumnTest :=
  (map.supply.assigned s.columns).map fun p => p.1.test p.2

mutual

/-- What the condition is meant to denote. -/
def holds (s : Scope) (v : ColumnTest → Bool) : Condition → Bool
  | fields map => (tests s map).all v
  | all conditions => holdsAll s v conditions
  | any conditions => holdsAny s v conditions
  | not condition => !holds s v condition
  | raw _ => false

def holdsAll (s : Scope) (v : ColumnTest → Bool) : List Condition → Bool
  | [] => true
  | condition :: rest => holds s v condition && holdsAll s v rest

def holdsAny (s : Scope) (v : ColumnTest → Bool) : List Condition → Bool
  | [] => false
  | condition :: rest => holds s v condition || holdsAny s v rest

end

mutual

/-- The tree that the condition is read as, if all of its parts ask for something. -/
def tree? (s : Scope) : Condition → Option Disjunction
  | fields map => (Conjunction.ofList? ((tests s map).map .test)).map .one
  | all conditions =>
    (trees? s conditions).bind fun ds => (Conjunction.ofList? (ds.map .parens)).map .one
  | any conditions =>
    (trees? s conditions).bind fun ds => Disjunction.ofList? (ds.map fun d => .one (.parens d))
  | not condition => (tree? s condition).map fun d => .one (.one (.parens d.negateFirst))
  | raw _ => none

def trees? (s : Scope) : List Condition → Option (List Disjunction)
  | [] => some []
  | condition :: rest =>
    (tree? s condition).bind fun d => (trees? s rest).map fun ds => d :: ds

end

-- Without `NOT`, the values of the parts are combined as the condition says.
mutual

theorem eval_tree? : ∀ (c : Condition) {d : Disjunction}, c.NotFree → c.tree? s = some d →
    d.eval v = c.holds s v
  | fields map, d, _, h => by
    rw [tree?] at h
    obtain ⟨c, hc, rfl⟩ := Option.map_eq_some_iff.1 h
    rw [Disjunction.eval, Conjunction.eval_ofList? hc, holds, List.all_map]
    rfl
  | all conditions, d, hfree, h => by
    rw [NotFree] at hfree
    rw [tree?] at h
    obtain ⟨ds, hds, h⟩ := Option.bind_eq_some_iff.1 h
    obtain ⟨c, hc, rfl⟩ := Option.map_eq_some_iff.1 h
    rw [Disjunction.eval, Conjunction.eval_ofList? hc, holds,
      ← (eval_trees? conditions hfree hds).1, List.all_map]
    rfl
  | any conditions, d, hfree, h => by
    rw [NotFree] at hfree
    rw [tree?] at h
    obtain ⟨ds, hds, h⟩ := Option.bind_eq_some_iff.1 h
    rw [Disjunction.eval_ofList? h, holds, ← (eval_trees? conditions hfree hds).2, List.any_map]
    rfl
  | not condition, d, hfree, _ => by
    rw [NotFree] at hfree
    exact hfree.elim
  | raw text, d, _, h => by
    rw [tree?] at h
    cases h

theorem eval_trees? : ∀ (cs : List Condition) {ds : List Disjunction}, NotFreeAll cs →
    trees? s cs = some ds →
    ds.all (·.eval v) = holdsAll s v cs ∧ ds.any (·.eval v) = holdsAny s v cs
  | [], ds, _, h => by
    rw [trees?] at h
    cases h
    exact ⟨rfl, rfl⟩
  | c :: cs, ds, hfree, h => by
    rw [NotFreeAll] at hfree
    rw [trees?] at h
    obtain ⟨d, hd, h⟩ := Option.bind_eq_some_iff.1 h
    obtain ⟨rest, hrest, rfl⟩ := Option.map_eq_some_iff.1 h
    obtain ⟨hall, hany⟩ := eval_trees? cs hfree.2 hrest
    rw [List.all_cons, List.any_cons, holdsAll, holdsAny, hall, hany, eval_tree? c hfree.1 hd]
    exact ⟨rfl, rfl⟩

end

mutual

theorem rawAvoids_of_solid : ∀ c : Condition, c.Solid s → c.RawAvoids true
  | fields map, _ => by
    rw [RawAvoids]
    trivial
  | all conditions, h => by
    rw [Solid] at h
    rw [RawAvoids]
    exact rawAvoidsAll_of_solidAll conditions h.2
  | any conditions, h => by
    rw [Solid] at h
    rw [RawAvoids]
    exact rawAvoidsAll_of_solidAll conditions h.2
  | not condition, h => by
    rw [Solid] at h
    rw [RawAvoids]
    exact rawAvoids_of_solid condition h
  | raw text, h => by
    rw [Solid] at h
    exact h.elim

theorem rawAvoidsAll_of_solidAll : ∀ cs : List Condition, SolidAll s cs → RawAvoidsAll true cs
  | [], _ => by
    rw [RawAvoidsAll]
    trivial
  | c :: cs, h => by
    rw [SolidAll] at h
    rw [RawAvoidsAll]
    exact ⟨rawAvoids_of_solid c h.1, rawAvoidsAll_of_solidAll cs h.2⟩

end

/-- A field map spells the conjunction of its tests. -/
theorem predicate_spells (hs : s.WellQualified) {map : FieldMap}
    (hne : map.supply.assigned s.columns ≠ [])
    (htest : ∀ p ∈ map.supply.assigned s.columns, p.2.isTest) :
    ∃ f c, map.supply.predicate s.columns = .ok f ∧
      Conjunction.ofList? ((tests s map).map .test) = some c ∧ f.Spells c.symbols := by
  -- only expressions have no term
  have hterm : ∀ p ∈ map.supply.assigned s.columns, ∃ f, p.2.term p.1 = .ok f := by
    rintro ⟨c, v⟩ hp
    cases v with
    | value v => exact ⟨_, rfl⟩
    | comparison q => exact ⟨_, rfl⟩
    | expression e => cases htest _ hp
  obtain ⟨fs, hfs⟩ := exists_mapM_eq_ok hterm
  have hspells : List.Forall₂ (fun f n => Fragment.Spells f (Negation.symbols n)) fs
      ((tests s map).map .test) := by
    rw [tests, List.map_map, List.forall₂_map_right_iff]
    apply forall₂_of_mapM hfs
    intro p hp f hf
    exact Supplied.term_spells (hs.columns _ (Supply.mem_of_mem_assigned hp)) hf
  obtain ⟨c, hc, hjoined⟩ := Fragment.spells_conjunction (by simpa [tests] using hne) hspells
  exact ⟨Fragment.joined " AND " fs, c, bind_eq_ok.2 ⟨fs, hfs, rfl⟩, hc, hjoined⟩

-- The recursion is that of `render` and `renderAll`.
mutual

theorem exists_tree (hs : s.WellQualified) : ∀ c : Condition, c.Solid s →
    ∃ f d, c.render s = .ok f ∧ c.tree? s = some d ∧ f.Spells d.symbols
  | fields map, h => by
    rw [Solid] at h
    obtain ⟨f, c, hf, hc, hspells⟩ := predicate_spells hs h.1 h.2
    refine ⟨f, .one c, ?_, ?_, hspells⟩
    · rw [render, hf]
    · rw [tree?, hc]
      rfl
  | all conditions, h => by
    rw [Solid] at h
    obtain ⟨fs, ds, hfs, hds, hne, hall⟩ := exists_trees hs conditions h.2
    have hspells : List.Forall₂ (fun f n => Fragment.Spells f (Negation.symbols n)) fs
        (ds.map .parens) := by
      rw [List.forall₂_map_right_iff]
      exact hall
    obtain ⟨c, hc, hjoined⟩ := Fragment.spells_conjunction (by simpa using hne h.1) hspells
    refine ⟨Fragment.joined " AND " fs, .one c, ?_, ?_, hjoined⟩
    · rw [render, hfs]
      rfl
    · rw [tree?, hds, Option.bind_some, hc]
      rfl
  | any conditions, h => by
    rw [Solid] at h
    obtain ⟨fs, ds, hfs, hds, hne, hall⟩ := exists_trees hs conditions h.2
    have hspells : List.Forall₂ (fun f c => Fragment.Spells f (Conjunction.symbols c)) fs
        (ds.map fun d => .one (.parens d)) := by
      rw [List.forall₂_map_right_iff]
      exact hall
    obtain ⟨d, hd, hjoined⟩ := Fragment.spells_disjunction (by simpa using hne h.1) hspells
    refine ⟨Fragment.joined " OR " fs, d, ?_, ?_, hjoined⟩
    · rw [render, hfs]
      rfl
    · rw [tree?, hds, Option.bind_some, hd]
  | not condition, h => by
    rw [Solid] at h
    obtain ⟨f, d, hf, hd, hspells⟩ := exists_tree hs condition h
    refine ⟨.word "(NOT " :: f ++ [.word ")"], .one (.one (.parens d.negateFirst)), ?_, ?_, ?_⟩
    · rw [render, hf]
      rfl
    · rw [tree?, hd]
      rfl
    · -- the parentheses are around `NOT`, which takes the first operand alone
      have hsymbols : (Disjunction.one (.one (.parens d.negateFirst))).symbols =
          .opening :: .not :: d.symbols ++ [.closing] := by
        simp only [Disjunction.symbols, Conjunction.symbols, Negation.symbols]
        rw [d.symbols_negateFirst]
      rw [hsymbols]
      exact hspells.negated
  | raw text, h => by
    rw [Solid] at h
    exact h.elim

theorem exists_trees (hs : s.WellQualified) : ∀ cs : List Condition, SolidAll s cs →
    ∃ fs ds, renderAll s cs = .ok fs ∧ trees? s cs = some ds ∧ (cs ≠ [] → ds ≠ []) ∧
      List.Forall₂ (fun f d => Fragment.Spells f (Negation.parens d).symbols) fs ds
  | [], _ => by
    refine ⟨[], [], ?_, ?_, fun h => absurd rfl h, .nil⟩
    · rw [renderAll]
    · rw [trees?]
  | c :: cs, h => by
    rw [SolidAll] at h
    obtain ⟨f, d, hf, hd, hspells⟩ := exists_tree hs c h.1
    obtain ⟨fs, ds, hfs, hds, -, hall⟩ := exists_trees hs cs h.2
    refine ⟨f.inParens :: fs, d :: ds, ?_, ?_, fun _ => by simp, .cons ?_ hall⟩
    · rw [renderAll, hf, hfs]
      rfl
    · rw [trees?, hd, hds]
      rfl
    · rw [Negation.symbols]
      exact hspells.parens

end

/-- A rendered condition is read back as its tree, with the values that it binds. -/
theorem predicate?_render (d : Dialect) (hs : s.WellQualified) (c : Condition) (hc : c.Solid s) :
    ∃ f t, c.render s = .ok f ∧ f.values = c.bound s ∧ c.tree? s = some t ∧
      d.predicate? (f.text d) f.values = some t := by
  obtain ⟨f, t, hf, ht, hspells⟩ := exists_tree hs c hc
  -- the text is taken apart into the pieces, and these spell the tree
  have hcarries : f.Carries true (c.bound s) := c.render_carries hs (rawAvoids_of_solid c hc) hf
  refine ⟨f, t, hf, hcarries.values_eq, ht, ?_⟩
  rw [hspells.predicate?_eq_parse d hcarries, parse_symbols]

/-- Without `NOT`, a condition is rendered, binds the values of its parts from left to right, and is
read as what it is meant to denote. -/
theorem denote_render (d : Dialect) (hs : s.WellQualified) (c : Condition) (hc : c.Solid s)
    (hfree : c.NotFree) :
    ∃ f, c.render s = .ok f ∧ f.values = c.bound s ∧
      ∀ v, d.denote (f.text d) f.values v = some (c.holds s v) := by
  obtain ⟨f, t, hf, hvalues, ht, hread⟩ := predicate?_render d hs c hc
  refine ⟨f, hf, hvalues, fun v => ?_⟩
  rw [Dialect.denote, hread, Option.map_some, eval_tree? c hfree ht]

/-- Two columns, one under an alias, with names that hold connectives and marks. -/
def nestedScope : Scope := ⟨[⟨"", "a OR \"b", "x"⟩, ⟨"and", "(", "y"⟩], "", "::"⟩

/-- One column is set and the other is not, or the other is in a list and small. -/
def nested : Condition :=
  any [fields (.ofList [("y", .comparison .isNull), ("x", .value (.int32 (some 1)))]),
    all [fields (.ofList [("y", .comparison (.among [.int32 (some 2), .int32 (some 3)]))]),
      fields (.ofList [("y", .comparison (.less (.int32 (some 4))))])]]

theorem denote_render_nested :
    ∃ f, nested.render nestedScope = .ok f ∧
      f.values = [.int32 (some 1), .int32 (some 2), .int32 (some 3), .int32 (some 4)] ∧
      ∀ v, Dialect.sqlite.denote (f.text .sqlite) f.values v =
        some (v ⟨"", "a OR \"b", .value (.int32 (some 1))⟩ &&
            v ⟨"and", "(", .comparison .isNull⟩ ||
          v ⟨"and", "(", .comparison (.among [.int32 (some 2), .int32 (some 3)])⟩ &&
            v ⟨"and", "(", .comparison (.less (.int32 (some 4)))⟩) := by
  have hs : nestedScope.WellQualified := by
    refine ⟨?_, Or.inl rfl⟩
    simp only [nestedScope, Column.WellQualified]
    decide
  have hsolid : nested.Solid nestedScope := by
    simp only [nested, Solid, SolidAll]
    decide
  have hfree : nested.NotFree := by simp only [nested, NotFree, NotFreeAll, and_self]
  obtain ⟨f, hf, hvalues, hdenote⟩ := denote_render .sqlite hs nested hsolid hfree
  refine ⟨f, hf, hvalues, fun v => (hdenote v).trans ?_⟩
  have htests : tests nestedScope
      (.ofList [("y", .comparison .isNull), ("x", .value (.int32 (some 1)))]) =
      [⟨"", "a OR \"b", .value (.int32 (some 1))⟩, ⟨"and", "(", .comparison .isNull⟩] := rfl
  have hsingle (q : Comparison) : tests nestedScope (.ofList [("y", .comparison q)]) =
      [⟨"and", "(", .comparison q⟩] := rfl
  simp only [nested, holds, holdsAny, holdsAll, htests, hsingle, List.all_cons, List.all_nil,
    Bool.and_true, Bool.or_false]

end Condition
end SqlMapper
