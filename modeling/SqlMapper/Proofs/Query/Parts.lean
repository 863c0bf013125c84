import SqlMapper.Proofs.Query.Items

namespace SqlMapper

variable {s : Scope} {stage : Stage}

namespace Fragment

/-- A clause, if there is something to stand after its keyword. -/
def clause (keyword : String) (content : Option Fragment) : Fragment :=
  content.elim [] (.word keyword :: ·)

def nonBlank? (f : Fragment) : Option Fragment := if f.isBlank then none else some f

end Fragment

/-- What a chain of clauses asks for. A condition that filters nothing and a list without items
leave their clauses out. -/
structure Parts where
  condition : Condition
  grouping : List String
  having : Condition
  ordering : List SortItem
  /-- The rows to skip and the rows to return. -/
  limit : Option (Int64 × Int64)

theorem Stage.canLimit_of_canOrder {stage : Stage} (h : stage.canOrder) : stage.canLimit := by
  cases stage <;> first | rfl | cases h

namespace Clauses

def parts {stage : Stage} : Clauses stage → Parts
  | filter condition => ⟨condition, [], .always, [], none⟩
  | groupBy clauses names => { clauses.parts with grouping := names }
  | having clauses condition => { clauses.parts with having := condition }
  | orderBy clauses _ items => { clauses.parts with ordering := items }
  | limit clauses _ offset count => { clauses.parts with limit := some (offset, count) }

-- The stage of a chain says what it does not ask for yet.

theorem limit_eq_none (c : Clauses stage) (h : stage.canLimit) : c.parts.limit = none := by
  induction c with
  | filter condition => rfl
  | groupBy clauses names ih => exact ih rfl
  | having clauses condition ih => exact ih rfl
  | orderBy clauses hstage items ih => exact ih (Stage.canLimit_of_canOrder hstage)
  | limit clauses _ offset count ih => cases h

theorem ordering_eq_nil (c : Clauses stage) (h : stage.canOrder) : c.parts.ordering = [] := by
  induction c with
  | filter condition => rfl
  | groupBy clauses names ih => exact ih rfl
  | having clauses condition ih => exact ih rfl
  | orderBy clauses _ items ih => cases h
  | limit clauses _ offset count ih => cases h

theorem having_eq_always (c : Clauses .grouped) : c.parts.having = .always := by
  cases c with
  | groupBy clauses names =>
    cases clauses with
    | filter condition => rfl

theorem parts_filtered (c : Clauses .filtered) :
    c.parts.grouping = [] ∧ c.parts.having = .always := by
  cases c with
  | filter condition => exact ⟨rfl, rfl⟩

end Clauses

/-- What stands in the clauses that are written. -/
structure Written where
  filter : Option Fragment
  grouping : Option Fragment
  having : Option Fragment
  ordering : Option Fragment
  limit : Option Fragment

namespace Written
open Fragment

/-- The clauses in the order of the language. -/
def fragment (w : Written) : Fragment :=
  clause " WHERE " w.filter ++ (clause " GROUP BY " w.grouping ++ (clause " HAVING " w.having ++
    (clause " ORDER BY " w.ordering ++ clause " LIMIT " w.limit)))

end Written

/-- What is written of the parts. -/
structure Parts.Writes (s : Scope) (p : Parts) (w : Written) : Prop where
  filter : ∃ f, p.condition.render s = .ok f ∧ w.filter = f.nonBlank?
  grouping : w.grouping =
    if p.grouping = [] then none else some (Clauses.groupingItems s p.grouping)
  having : ∃ f, p.having.render s = .ok f ∧ w.having = f.nonBlank?
  ordering : ∃ fs, p.ordering.mapM (SortItem.render s) = .ok fs ∧
    w.ordering = if p.ordering = [] then none else some (Fragment.joined "," fs)
  limit : w.limit = p.limit.map fun n => Clauses.limitItems n.1 n.2

/-- The condition without columns is rendered as nothing. -/
theorem Condition.render_always (s : Scope) : always.render s = .ok [] := by
  have hnone : FieldMap.empty.supply.assigned s.columns = [] := by
    rw [Supply.assigned, List.filterMap_eq_nil_iff]
    exact fun c _ => rfl
  rw [always, render, Supply.predicate, hnone]
  rfl

namespace Parts.Writes

variable {p : Parts} {w : Written}

theorem grouping_eq_none (hw : p.Writes s w) (h : p.grouping = []) : w.grouping = none := by
  rw [hw.grouping, if_pos h]

theorem having_eq_none (hw : p.Writes s w) (h : p.having = .always) : w.having = none := by
  obtain ⟨f, hf, hhaving⟩ := hw.having
  rw [h, Condition.render_always] at hf
  cases hf
  exact hhaving

theorem ordering_eq_none (hw : p.Writes s w) (h : p.ordering = []) : w.ordering = none := by
  obtain ⟨fs, -, hordering⟩ := hw.ordering
  rw [hordering, if_pos h]

theorem limit_eq_none (hw : p.Writes s w) (h : p.limit = none) : w.limit = none := by
  rw [hw.limit, h]
  rfl

end Parts.Writes

namespace Clauses
open Fragment

theorem conditional_eq_clause (keyword : String) (f : Fragment) :
    conditional keyword f = clause keyword f.nonBlank? := by
  unfold conditional nonBlank?
  split <;> rfl

/-- A chain is rendered as its parts, whatever its stage is. -/
theorem exists_written (c : Clauses stage) {f : Fragment} (h : c.render s = .ok f) :
    ∃ w : Written, c.parts.Writes s w ∧ f = w.fragment := by
  -- what the chain does not ask for yet is not written, so the next clause comes last
  induction c generalizing f with
  | filter condition =>
    obtain ⟨g, hg, h⟩ := bind_eq_ok.1 h
    cases h
    refine ⟨⟨g.nonBlank?, none, none, none, none⟩, ?_, ?_⟩
    · exact ⟨⟨g, hg, rfl⟩, rfl, ⟨[], Condition.render_always s, rfl⟩, ⟨[], rfl, rfl⟩, rfl⟩
    · rw [conditional_eq_clause]
      exact (List.append_nil _).symm
  | groupBy clauses names ih =>
    obtain ⟨front, hfront, h⟩ := bind_eq_ok.1 h
    obtain ⟨w, hw, rfl⟩ := ih hfront
    have hgrouping := hw.grouping_eq_none (parts_filtered clauses).1
    have hhaving := hw.having_eq_none (parts_filtered clauses).2
    have hordering := hw.ordering_eq_none (clauses.ordering_eq_nil rfl)
    have hlimit := hw.limit_eq_none (clauses.limit_eq_none rfl)
    refine ⟨{ w with grouping := if names = [] then none else some (groupingItems s names) },
      ⟨hw.filter, rfl, hw.having, hw.ordering, hw.limit⟩, ?_⟩
    by_cases hnames : names = []
    · rw [if_pos (by simpa using hnames)] at h
      cases h
      rw [if_pos hnames, ← hgrouping]
    · rw [if_neg (by simpa using hnames)] at h
      cases h
      simp [Written.fragment, clause, hgrouping, hhaving, hordering, hlimit, hnames,
        groupingItems]
  | having clauses condition ih =>
    obtain ⟨front, hfront, h⟩ := bind_eq_ok.1 h
    obtain ⟨g, hg, h⟩ := bind_eq_ok.1 h
    cases h
    obtain ⟨w, hw, rfl⟩ := ih hfront
    have hhaving := hw.having_eq_none (having_eq_always clauses)
    have hordering := hw.ordering_eq_none (clauses.ordering_eq_nil rfl)
    have hlimit := hw.limit_eq_none (clauses.limit_eq_none rfl)
    refine ⟨{ w with having := g.nonBlank? },
      ⟨hw.filter, hw.grouping, ⟨g, hg, rfl⟩, hw.ordering, hw.limit⟩, ?_⟩
    rw [conditional_eq_clause]
    simp [Written.fragment, clause, hhaving, hordering, hlimit]
  | @orderBy stage clauses hstage items ih =>
    obtain ⟨front, hfront, h⟩ := bind_eq_ok.1 h
    obtain ⟨w, hw, rfl⟩ := ih hfront
    have hordering := hw.ordering_eq_none (clauses.ordering_eq_nil hstage)
    have hlimit := hw.limit_eq_none (clauses.limit_eq_none (Stage.canLimit_of_canOrder hstage))
    by_cases hitems : items = []
    · rw [if_pos (by simpa using hitems)] at h
      cases h
      subst hitems
      exact ⟨w, ⟨hw.filter, hw.grouping, hw.having, ⟨[], rfl, hordering⟩, hw.limit⟩, rfl⟩
    · rw [if_neg (by simpa using hitems)] at h
      obtain ⟨fs, hfs, h⟩ := bind_eq_ok.1 h
      cases h
      refine ⟨{ w with ordering := some (Fragment.joined "," fs) },
        ⟨hw.filter, hw.grouping, hw.having, ⟨fs, hfs, (if_neg hitems).symm⟩, hw.limit⟩, ?_⟩
      simp [Written.fragment, clause, hordering, hlimit]
  | limit clauses hstage offset count ih =>
    obtain ⟨front, hfront, h⟩ := bind_eq_ok.1 h
    obtain ⟨w, hw, rfl⟩ := ih hfront
    have hlimit := hw.limit_eq_none (clauses.limit_eq_none hstage)
    refine ⟨{ w with limit := some (limitItems offset count) },
      ⟨hw.filter, hw.grouping, hw.having, hw.ordering, rfl⟩, ?_⟩
    split at h
    · rename_i hcount
      cases h
      simp [Written.fragment, clause, hlimit, limitItems, hcount]
    · rename_i hcount
      cases h
      simp [Written.fragment, clause, hlimit, limitItems, hcount]

end Clauses

end SqlMapper
