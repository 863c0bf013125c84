import SqlMapper.Query.Join
import SqlMapper.Proofs.Supply.Bound

namespace SqlMapper

variable {slots : Bool} {α : Type} {stage : Stage}

namespace Condition

mutual

/-- The values that a condition binds, from left to right. -/
def bound (s : Scope) : Condition → List Value
  | fields map => map.supply.bound s.columns
  | all conditions => boundAll s conditions
  | any conditions => boundAll s conditions
  | not condition => bound s condition
  | raw _ => []

def boundAll (s : Scope) : List Condition → List Value
  | [] => []
  | condition :: rest => bound s condition ++ boundAll s rest

end

mutual

/-- The predicates that are written out in the condition mean nothing to readers. -/
def RawAvoids (slots : Bool) : Condition → Prop
  | fields _ => True
  | all conditions => RawAvoidsAll slots conditions
  | any conditions => RawAvoidsAll slots conditions
  | not condition => RawAvoids slots condition
  | raw text => Avoids slots text

def RawAvoidsAll (slots : Bool) : List Condition → Prop
  | [] => True
  | condition :: rest => RawAvoids slots condition ∧ RawAvoidsAll slots rest

end

-- The recursion is that of `render` and `renderAll`. Every part stands in parentheses, so whatever
-- it begins with cannot touch what is before.
mutual

theorem render_carries {s : Scope} (hs : s.WellQualified) :
    ∀ (c : Condition) {f : Fragment}, c.RawAvoids slots → c.render s = .ok f →
      f.Carries slots (c.bound s)
  | fields map, f, _, h => by
    rw [bound]
    rw [render] at h
    exact Supply.predicate_carries
      (fun p hp => Column.reference_carries (hs.columns p.1 (Supply.mem_of_mem_assigned hp))) h
  | all conditions, f, hraw, h => by
    rw [RawAvoids] at hraw
    rw [render] at h
    obtain ⟨parts, hparts, hf⟩ := bind_eq_ok.1 h
    cases hf
    obtain ⟨vss, hvss, hall⟩ := renderAll_carries hs conditions hraw hparts
    rw [bound, ← hvss]
    exact .joined hall
  | any conditions, f, hraw, h => by
    rw [RawAvoids] at hraw
    rw [render] at h
    obtain ⟨parts, hparts, hf⟩ := bind_eq_ok.1 h
    cases hf
    obtain ⟨vss, hvss, hall⟩ := renderAll_carries hs conditions hraw hparts
    rw [bound, ← hvss]
    exact .joined hall
  | not condition, f, hraw, h => by
    rw [RawAvoids] at hraw
    rw [render] at h
    obtain ⟨inner, hinner, hf⟩ := bind_eq_ok.1 h
    cases hf
    rw [bound, ← List.append_nil (condition.bound s)]
    exact (render_carries hs condition hraw hinner).word_cons.append_word .nil
  | raw text, f, hraw, h => by
    rw [RawAvoids] at hraw
    rw [render] at h
    cases h
    rw [bound]
    exact .text hraw

theorem renderAll_carries {s : Scope} (hs : s.WellQualified) :
    ∀ (cs : List Condition) {fs : List Fragment}, RawAvoidsAll slots cs →
      renderAll s cs = .ok fs →
      ∃ vss : List (List Value), vss.flatten = boundAll s cs ∧
        List.Forall₂ (Fragment.Carries slots) fs vss
  | [], fs, _, h => by
    rw [renderAll] at h
    cases h
    exact ⟨[], rfl, .nil⟩
  | c :: cs, fs, hraw, h => by
    rw [RawAvoidsAll] at hraw
    rw [renderAll] at h
    obtain ⟨f, hf, h⟩ := bind_eq_ok.1 h
    obtain ⟨rest, hrest, h⟩ := bind_eq_ok.1 h
    cases h
    obtain ⟨vss, hvss, hall⟩ := renderAll_carries hs cs hraw.2 hrest
    refine ⟨c.bound s :: vss, ?_, .cons (render_carries hs c hraw.1 hf).inParens hall⟩
    rw [List.flatten_cons, hvss, boundAll]

end

end Condition

theorem SortItem.render_carries {s : Scope} (hs : s.WellQualified) {item : SortItem}
    {f : Fragment} (h : item.render s = .ok f) : f.Carries slots [] := by
  cases item with
  | column name =>
    cases h
    exact Column.reference_carries (hs.column name)
  | directed names direction =>
    cases h
    have hlabel : isPlainWord (" " ++ direction.label) := by cases direction <;> decide
    refine .joined_blank (List.forall_mem_map.2 fun name _ => ?_)
    exact (Column.reference_carries (hs.column name)).append_word .nil hlabel
  | expression name e =>
    simp only [SortItem.render, Expression.render] at h
    split at h
    · cases h
      exact e.applied_carries (Column.reference_carries (hs.column name))
    · cases h

namespace Clauses

/-- The values that a chain of clauses binds. -/
def bound (s : Scope) {stage : Stage} : Clauses stage → List Value
  | filter condition => condition.bound s
  | groupBy clauses _ => clauses.bound s
  | having clauses condition => clauses.bound s ++ condition.bound s
  | orderBy clauses _ _ => clauses.bound s
  | limit clauses _ _ _ => clauses.bound s

def RawAvoids (slots : Bool) {stage : Stage} : Clauses stage → Prop
  | filter condition => condition.RawAvoids slots
  | groupBy clauses _ => clauses.RawAvoids slots
  | having clauses condition => clauses.RawAvoids slots ∧ condition.RawAvoids slots
  | orderBy clauses _ _ => clauses.RawAvoids slots
  | limit clauses _ _ _ => clauses.RawAvoids slots

theorem conditional_carries {w : String} {f : Fragment} {vs : List Value}
    (hf : f.Carries slots vs) (h : isPlainWord w := by decide) :
    (conditional w f).Carries slots vs ∧ (conditional w f).Leads := by
  unfold conditional
  split
  · -- a blank condition leaves its keyword out, and had nothing to bind
    rename_i hblank
    rw [← hf.values_eq, Fragment.values_eq_nil_of_isBlank hblank]
    exact ⟨.nil, Fragment.leads_nil⟩
  · exact ⟨hf.word_cons h, Fragment.leads_word h⟩

/-- A chain of clauses carries what its predicates bind, and can follow the tables of a query. -/
theorem render_carries {s : Scope} (hs : s.WellQualified) (c : Clauses stage) {f : Fragment}
    (hraw : c.RawAvoids slots) (h : c.render s = .ok f) :
    f.Carries slots (c.bound s) ∧ f.Leads := by
  -- a clause that binds nothing, after its keyword
  have hclause {front g : Fragment} {vs : List Value} {w : String}
      (hfront : front.Carries slots vs ∧ front.Leads) (hg : g.Carries slots [])
      (hw : isPlainWord w := by decide) :
      Fragment.Carries slots (front ++ .word w :: g) vs ∧
        Fragment.Leads (front ++ .word w :: g) := by
    have hboth := hfront.1.append_word hg hw
    rw [List.append_nil] at hboth
    exact ⟨hboth, hfront.2.append (Fragment.leads_word hw)⟩
  induction c generalizing f with
  | filter condition =>
    obtain ⟨g, hg, hf⟩ := bind_eq_ok.1 h
    cases hf
    exact conditional_carries (condition.render_carries hs hraw hg)
  | groupBy clauses names ih =>
    obtain ⟨front, hfront, hf⟩ := bind_eq_ok.1 h
    split at hf
    · cases hf
      exact ih hraw hfront
    · cases hf
      apply hclause (ih hraw hfront)
      exact .joined_blank
        (List.forall_mem_map.2 fun name _ => Column.reference_carries (hs.column name))
  | having clauses condition ih =>
    -- the values before are those of `WHERE`, of which nothing after it adds any
    obtain ⟨front, hfront, hf⟩ := bind_eq_ok.1 h
    obtain ⟨g, hg, hf⟩ := bind_eq_ok.1 hf
    cases hf
    obtain ⟨hbefore, hstart⟩ := ih hraw.1 hfront
    have hafter : (conditional " HAVING " g).Carries slots (condition.bound s) ∧
        (conditional " HAVING " g).Leads :=
      conditional_carries (condition.render_carries hs hraw.2 hg)
    exact ⟨hbefore.append hafter.1 hafter.2, hstart.append hafter.2⟩
  | orderBy clauses _ items ih =>
    obtain ⟨front, hfront, hf⟩ := bind_eq_ok.1 h
    split at hf
    · -- an ordering by nothing is left out
      cases hf
      exact ih hraw hfront
    · obtain ⟨parts, hparts, hf⟩ := bind_eq_ok.1 hf
      cases hf
      apply hclause (ih hraw hfront)
      exact .joined_blank
        (forall_of_mapM hparts fun item _ f hf => SortItem.render_carries hs hf)
  | limit clauses _ offset count ih =>
    obtain ⟨front, hfront, hf⟩ := bind_eq_ok.1 h
    have hnumber (n : Int) {g : Fragment} (hg : g.Carries slots []) :
        Fragment.Carries slots (.word (toString n) :: g) [] :=
      hg.word_cons (isPlainWord_toString_int n)
    split at hf
    · cases hf
      exact hclause (ih hraw hfront) (hnumber _ .nil)
    · cases hf
      exact hclause (ih hraw hfront) (hnumber _ (hnumber _ .nil).word_cons)

end Clauses
end SqlMapper
