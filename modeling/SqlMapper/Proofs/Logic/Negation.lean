import SqlMapper.Proofs.Logic.Condition
/-! What negated conditions denote. `NOT` is written before the operands of a condition without
parentheses around them, so it negates the first operand alone. -/
namespace SqlMapper

variable {s : Scope} {v : ColumnTest → Bool}

theorem Conjunction.eval_negateFirst {ns : List Negation} {c : Conjunction}
    (h : ofList? ns = some c) :
    ∃ b bs, ns.map (·.eval v) = b :: bs ∧ c.eval v = (b :: bs).all id ∧
      c.negateFirst.eval v = ((!b) :: bs).all id := by
  have hand : ∀ c n, eval v (negateFirst (.and c n)) = (eval v c.negateFirst && n.eval v) :=
    fun c n => by rw [negateFirst, eval]
  have heval := eval_ofList? (v := v) h
  cases ns with
  | nil => cases h
  | cons n ns =>
    cases h
    have hfold : (List.foldl and (one n) ns).negateFirst.eval v =
        ((one n).negateFirst.eval v && ns.all (·.eval v)) :=
      foldl_eq_and_all (e := fun c => eval v (negateFirst c)) hand _ _
    refine ⟨n.eval v, ns.map (·.eval v), rfl, ?_, ?_⟩
    · rw [heval, ← List.map_cons, List.all_map]
      rfl
    · rw [hfold, negateFirst, eval, Negation.eval, List.all_cons, List.all_map]
      rfl

theorem Disjunction.eval_negateFirst {ds : List Disjunction} {d : Disjunction}
    (h : ofList? (ds.map fun d => .one (.parens d)) = some d) :
    ∃ b bs, ds.map (·.eval v) = b :: bs ∧ d.eval v = (b :: bs).any id ∧
      d.negateFirst.eval v = ((!b) :: bs).any id := by
  have hor : ∀ d c, eval v (negateFirst (.or d c)) = (eval v d.negateFirst || c.eval v) :=
    fun d c => by rw [negateFirst, eval]
  have heval := eval_ofList? (v := v) h
  cases ds with
  | nil => cases h
  | cons e ds =>
    cases h
    have hfold : ∀ cs, (List.foldl or (one (.one (.parens e))) cs).negateFirst.eval v =
        ((one (.one (.parens e))).negateFirst.eval v || cs.any (·.eval v)) :=
      foldl_eq_or_any (e := fun d => eval v (negateFirst d)) hor _
    refine ⟨e.eval v, ds.map (·.eval v), rfl, ?_, ?_⟩
    · rw [heval, List.any_map, ← List.map_cons, List.any_map]
      rfl
    · rw [hfold, negateFirst, Conjunction.negateFirst, eval, Conjunction.eval, Negation.eval,
        Negation.eval, List.any_map, List.any_cons, List.any_map]
      rfl

namespace Condition

/-- The values of the operands that the condition is read as. -/
def operands (s : Scope) (v : ColumnTest → Bool) : Condition → List Bool
  | fields map => (tests s map).map v
  | all conditions | any conditions => ((trees? s conditions).getD []).map (·.eval v)
  | not condition => ((not condition).tree? s).toList.map (·.eval v)
  | raw _ => []

/-- The value that changes nothing among the operands. -/
def neutral : Condition → Bool
  | any _ => false
  | _ => true

/-- The operands with the connective of the condition between them. -/
def combine (c : Condition) (operands : List Bool) : Bool :=
  if c.neutral then operands.all id else operands.any id

/-- The condition is read as its operands, and with `NOT` before it as they are with the first one
negated. -/
theorem eval_operands {c : Condition} {t : Disjunction} (h : c.tree? s = some t) :
    ∃ b bs, c.operands s v = b :: bs ∧ t.eval v = c.combine (b :: bs) ∧
      t.negateFirst.eval v = c.combine ((!b) :: bs) := by
  cases c with
  | fields map =>
    rw [tree?] at h
    obtain ⟨c, hc, rfl⟩ := Option.map_eq_some_iff.1 h
    obtain ⟨b, bs, hmap, heval, hnegated⟩ := Conjunction.eval_negateFirst (v := v) hc
    rw [List.map_map] at hmap
    exact ⟨b, bs, hmap, heval, hnegated⟩
  | all conditions =>
    rw [tree?] at h
    obtain ⟨ds, hds, h⟩ := Option.bind_eq_some_iff.1 h
    obtain ⟨c, hc, rfl⟩ := Option.map_eq_some_iff.1 h
    obtain ⟨b, bs, hmap, heval, hnegated⟩ := Conjunction.eval_negateFirst (v := v) hc
    rw [List.map_map] at hmap
    refine ⟨b, bs, ?_, heval, hnegated⟩
    rw [operands, hds]
    exact hmap
  | any conditions =>
    rw [tree?] at h
    obtain ⟨ds, hds, h⟩ := Option.bind_eq_some_iff.1 h
    obtain ⟨b, bs, hmap, heval, hnegated⟩ := Disjunction.eval_negateFirst (v := v) h
    refine ⟨b, bs, ?_, heval, hnegated⟩
    rw [operands, hds]
    exact hmap
  | not condition =>
    -- a negation stands in parentheses, so it is a single operand
    refine ⟨t.eval v, [], ?_, ?_, ?_⟩
    · rw [operands, h]
      rfl
    · simp [combine, neutral]
    · rw [tree?] at h
      obtain ⟨d, hd, rfl⟩ := Option.map_eq_some_iff.1 h
      simp [combine, neutral, Disjunction.negateFirst, Conjunction.negateFirst, Disjunction.eval,
        Conjunction.eval, Negation.eval]
  | raw text =>
    rw [tree?] at h
    cases h

theorem combine_negated_iff (c : Condition) (b : Bool) (bs : List Bool) :
    c.combine ((!b) :: bs) = (!c.combine (b :: bs)) ↔ ∀ a ∈ bs, a = c.neutral := by
  unfold combine
  cases hn : c.neutral with
  | true =>
    have hall : (∀ a ∈ bs, a = true) ↔ bs.all id = true := by simp
    rw [hall, if_pos rfl, if_pos rfl, List.all_cons, List.all_cons]
    cases b <;> cases bs.all id <;> decide
  | false =>
    have hany : (∀ a ∈ bs, a = false) ↔ bs.any id = false := by simp
    rw [hany, if_neg Bool.false_ne_true, if_neg Bool.false_ne_true, List.any_cons, List.any_cons]
    cases b <;> cases bs.any id <;> decide

/-- For field maps this is so under all assignments just if one column is set. -/
theorem fields_neutral_iff (map : FieldMap) :
    (∀ v, ∀ b ∈ ((fields map).operands s v).tail, b = (fields map).neutral) ↔
      (tests s map).length ≤ 1 := by
  simp only [operands, neutral, ← List.map_tail, List.forall_mem_map]
  constructor
  · intro h
    by_contra hlen
    -- where no test holds, a second one matters
    have hne : (tests s map).tail ≠ [] := by
      intro he
      have := congrArg List.length he
      simp only [List.length_tail, List.length_nil] at this
      omega
    obtain ⟨t, ht⟩ := List.exists_mem_of_ne_nil _ hne
    exact Bool.false_ne_true (h (fun _ => false) t ht)
  · intro hlen v t ht
    have := List.length_pos_of_mem ht
    simp only [List.length_tail] at this
    omega

/-- With `NOT` before it, a condition denotes its negation under just those assignments under which
all of its operands but the first change nothing. -/
theorem not_denotes_negation_iff (d : Dialect) (hs : s.WellQualified) (c : Condition)
    (hc : c.Solid s) :
    ∃ f g, c.render s = .ok f ∧ (not c).render s = .ok g ∧
      ∀ v, (∃ b, d.denote (f.text d) f.values v = some b ∧
          d.denote (g.text d) g.values v = some (!b)) ↔
        ∀ b ∈ (c.operands s v).tail, b = c.neutral := by
  have hnot : (not c).Solid s := by
    rw [Solid]
    exact hc
  obtain ⟨f, t, hf, -, ht, hread⟩ := predicate?_render d hs c hc
  obtain ⟨g, u, hg, -, hu, hreadNot⟩ := predicate?_render d hs (not c) hnot
  -- the tree with `NOT` is that without, but for its first operand
  have hnegated : u = .one (.one (.parens t.negateFirst)) := by
    rw [tree?, ht] at hu
    exact (Option.some.inj hu).symm
  refine ⟨f, g, hf, hg, fun v => ?_⟩
  obtain ⟨b, bs, hoperands, heval, hflip⟩ := eval_operands (v := v) ht
  rw [Dialect.denote, Dialect.denote, hread, hreadNot, hnegated, hoperands, List.tail_cons,
    ← combine_negated_iff c b bs, ← heval, ← hflip]
  simp [Disjunction.eval, Conjunction.eval, Negation.eval]

def pairScope : Scope := ⟨[⟨"", "id", "id"⟩, ⟨"", "name", "name"⟩], "", "::"⟩

def pair : Condition :=
  fields (.ofList [("id", .value (.int32 (some 1))), ("name", .value (.text (some "a")))])

theorem pairScope_wellQualified : pairScope.WellQualified :=
  ⟨by simp [pairScope, Column.WellQualified], Or.inl rfl⟩

theorem pair_solid : pair.Solid pairScope := by
  rw [pair, Solid]
  decide

theorem not_denotes_negation_iff_pair :
    ∃ f g, pair.render pairScope = .ok f ∧ (not pair).render pairScope = .ok g ∧
      ∀ v : ColumnTest → Bool,
        (∃ b, Dialect.sqlite.denote (f.text .sqlite) f.values v = some b ∧
          Dialect.sqlite.denote (g.text .sqlite) g.values v = some (!b)) ↔
        v ⟨"", "name", .value (.text (some "a"))⟩ = true := by
  obtain ⟨f, g, hf, hg, hiff⟩ :=
    not_denotes_negation_iff .sqlite pairScope_wellQualified pair pair_solid
  refine ⟨f, g, hf, hg, fun v => (hiff v).trans ?_⟩
  have hoperands : pair.operands pairScope v =
      [v ⟨"", "id", .value (.int32 (some 1))⟩, v ⟨"", "name", .value (.text (some "a"))⟩] := rfl
  rw [hoperands]
  exact List.forall_mem_singleton

/-- Where no test holds, neither the two columns nor what stands for their negation does. -/
theorem not_pair_denotes_no_negation :
    ∃ f g, pair.render pairScope = .ok f ∧ (not pair).render pairScope = .ok g ∧
      f.text .sqlite = "\"id\"=? AND \"name\"=?" ∧
      g.text .sqlite = "(NOT \"id\"=? AND \"name\"=?)" ∧
      Dialect.sqlite.denote (f.text .sqlite) f.values (fun _ => false) = some false ∧
      Dialect.sqlite.denote (g.text .sqlite) g.values (fun _ => false) = some false :=
  ⟨_, _, rfl, rfl, by decide, by decide, by decide, by decide⟩

end Condition
end SqlMapper
