import SqlMapper.Gateway.Basic
import SqlMapper.Query.Join
import SqlMapper.Proofs.Query.Bound

namespace SqlMapper

variable {σ α : Type} {slots : Bool}

/-- The joins that can be built: started with one table and extended by others. -/
inductive Join.Reached : Join → Prop
  | start {schema : Schema} {qualifier delimiter : String} {j : Join}
    (h : Join.start schema qualifier delimiter = .ok j) : Reached j
  | add {j k : Join} {kind : JoinKind} {schema : Schema} {qualifier : String}
    {pairs : List (String × String)} (hj : Reached j)
    (h : j.add kind schema qualifier pairs = .ok k) : Reached k

theorem Join.Reached.isTableAlias {j : Join} (h : j.Reached) :
    ∀ t ∈ j.tables, SqlMapper.isTableAlias t.qualifier.toList := by
  induction h with
  | start h =>
    unfold Join.start at h
    split at h
    · rename_i halias
      cases h
      simpa [Join.tables] using halias
    · cases h
  | add hj h ih =>
    unfold Join.add at h
    split at h
    · cases h
    · rename_i halias
      split at h
      · cases h
      · cases h
        intro t ht
        -- the new table is the last one, and its alias was checked just now
        rcases (by simpa [Join.tables, or_assoc] using ht :
          t = _ ∨ (∃ s ∈ _, JoinStep.table s = t) ∨ t = _) with rfl | ⟨s, hs, rfl⟩ | rfl
        · exact ih _ (by simp [Join.tables])
        · exact ih _ (by simpa [Join.tables] using Or.inr ⟨s, hs, rfl⟩)
        · simpa using halias

theorem Join.Reached.scope_wellQualified {j : Join} (h : j.Reached) : j.scope.WellQualified where
  columns c hc := by
    obtain ⟨t, ht, hc⟩ := List.mem_flatMap.1 hc
    obtain ⟨raw, -, rfl⟩ := List.mem_map.1 hc
    exact Column.read_wellQualified (Or.inr (h.isTableAlias t ht))
  default := Or.inr (h.isTableAlias j.first (by simp [Join.tables]))

namespace Join

theorem table_carries (slots : Bool) {t : AliasedTable}
    (h : SqlMapper.isTableAlias t.qualifier.toList) : t.fragment.Carries slots [] :=
  (Fragment.Carries.name t.schema.table).append_word .nil
    (isPlainWord_append (by decide) (isPlainWord_of_isTableAlias h))

theorem conditionPair_carries {delimiter previous qualifier : String} {pair : String × String}
    (hp : SqlMapper.isTableAlias previous.toList) (hq : SqlMapper.isTableAlias qualifier.toList)
    {f : Fragment} (h : conditionPair delimiter previous qualifier pair = .ok f) :
    f.Carries slots [] := by
  have hcolumn {raw expected : String} (he : SqlMapper.isTableAlias expected.toList)
      {g : Fragment} (hg : conditionColumn delimiter raw expected = .ok g) :
      g.Carries slots [] := by
    simp only [conditionColumn] at hg
    split at hg
    · cases hg
      exact Column.reference_carries (Column.read_wellQualified (Or.inr he))
    · cases hg
  -- a column of either side stands under the alias of that side
  obtain ⟨left, hleft, h⟩ := bind_eq_ok.1 h
  obtain ⟨right, hright, h⟩ := bind_eq_ok.1 h
  cases h
  exact (hcolumn hp hleft).append_word (hcolumn hq hright)

theorem stepFragment_carries (slots : Bool) {delimiter previous : String} {step : JoinStep}
    (hp : SqlMapper.isTableAlias previous.toList)
    (hq : SqlMapper.isTableAlias step.table.qualifier.toList) {f : Fragment}
    (h : stepFragment delimiter previous step = .ok f) : f.Carries slots [] ∧ f.Leads := by
  have hkeyword : isPlainWord step.kind.keyword := by cases step.kind <;> decide
  have hfront := (table_carries slots hq).word_cons hkeyword
  have hlead (g : Fragment) : Fragment.Leads (.word step.kind.keyword :: g) :=
    Fragment.leads_word hkeyword
  unfold stepFragment at h
  split at h
  · cases h
    exact ⟨hfront, hlead _⟩
  · obtain ⟨pairs, hpairs, h⟩ := bind_eq_ok.1 h
    cases h
    have hon : (Fragment.joined " AND " pairs).Carries slots [] :=
      .joined_blank (forall_of_mapM hpairs fun pair _ f hf => conditionPair_carries hp hq hf)
    exact ⟨hfront.append_word hon, hlead _⟩

theorem stepFragments_carries (slots : Bool) {delimiter : String} {steps : List JoinStep}
    {previous : String} (hp : SqlMapper.isTableAlias previous.toList)
    (hs : ∀ s ∈ steps, SqlMapper.isTableAlias s.table.qualifier.toList) {f : Fragment}
    (h : stepFragments delimiter previous steps = .ok f) : f.Carries slots [] ∧ f.Leads := by
  -- each step relates its table to the one before, so the alias changes along the way
  induction steps generalizing previous f with
  | nil =>
    cases h
    exact ⟨.nil, Fragment.leads_nil⟩
  | cons step rest ih =>
    rw [List.forall_mem_cons] at hs
    obtain ⟨g, hg, h⟩ := bind_eq_ok.1 h
    obtain ⟨k, hk, h⟩ := bind_eq_ok.1 h
    cases h
    obtain ⟨hstep, hlead⟩ := stepFragment_carries slots hp hs.1 hg
    obtain ⟨hrest, hnext⟩ := ih hs.1 hs.2 hk
    exact ⟨hstep.append hrest hnext, hlead.append hnext⟩

theorem Reached.origin_carries {j : Join} (hj : j.Reached) {f : Fragment}
    (h : j.origin = .ok f) : f.Carries slots [] := by
  obtain ⟨rest, hrest, h⟩ := bind_eq_ok.1 h
  cases h
  have hfirst := hj.isTableAlias j.first (by simp [tables])
  have hsteps : ∀ s ∈ j.steps, SqlMapper.isTableAlias s.table.qualifier.toList := fun s hs =>
    hj.isTableAlias s.table (by simpa [tables] using Or.inr ⟨s, hs, rfl⟩)
  obtain ⟨hcarries, hlead⟩ := stepFragments_carries slots hfirst hsteps hrest
  exact (table_carries slots hfirst).word_cons.append hcarries hlead

end Join

/-- A relation that puts nothing into queries but names and words of the language. -/
structure Relation.Plain (r : Relation α) : Prop where
  scope : r.scope.WellQualified
  origin : ∀ {slots f}, r.origin = .ok f → f.Carries slots []
  projection : ∀ {slots}, r.projection.Carries slots []
  item : ∀ {slots} name, (r.item name).Carries slots []

theorem Join.Reached.relation_plain {j : Join} (h : j.Reached) : j.relation.Plain where
  scope := h.scope_wellQualified
  origin := h.origin_carries
  projection := .joined_blank
    (List.forall_mem_map.2 fun c hc => Column.item_carries (h.scope_wellQualified.columns c hc))
  item name := Column.item_carries (h.scope_wellQualified.column name)

theorem Table.scope_wellQualified (t : Table) : t.scope.WellQualified where
  columns c hc := by
    obtain ⟨raw, -, rfl⟩ := List.mem_map.1 hc
    exact Column.read_wellQualified (Or.inl rfl)
  default := Or.inl rfl

theorem Gateway.relation_plain (g : Gateway σ α) : g.relation.Plain where
  scope := g.table.scope_wellQualified
  origin h := by
    cases h
    exact (Fragment.Carries.name g.schema.table).word_cons
  projection := .word
  item name := Column.reference_carries (g.table.scope_wellQualified.column name)

/-- What a query selects. -/
inductive Projection where
  /-- Whole rows. -/
  | rows
  | columns (names : List String)
  | count (name : String)

namespace Relation

/-- The query for a projection, as `statement`, `pick` and `count` compose it. -/
def select {stage : Stage} (r : Relation α) (projection : Projection) (clauses : Clauses stage) :
    Except Error Fragment :=
  match projection with
  | .rows => r.query r.projection clauses
  | .columns names => r.columnsQuery names clauses
  | .count name => r.countQuery name clauses

variable {stage : Stage} {r : Relation α} {clauses : Clauses stage} {f : Fragment}

theorem Plain.query_carries (hr : r.Plain) (hraw : clauses.RawAvoids slots)
    {projection : Fragment} (hp : projection.Carries slots [])
    (h : r.query projection clauses = .ok f) : f.Carries slots (clauses.bound r.scope) := by
  obtain ⟨tail, htail, h⟩ := bind_eq_ok.1 h
  obtain ⟨origin, horigin, h⟩ := bind_eq_ok.1 h
  cases h
  -- only the clauses bind anything; projection and tables do not
  obtain ⟨hclauses, hlead⟩ := clauses.render_carries hr.scope hraw (mapError_eq_ok.1 htail)
  have hselect : Fragment.Carries slots (.word "SELECT " :: projection) [] := hp.word_cons
  exact (hselect.append_word (hr.origin (mapError_eq_ok.1 horigin))).append hclauses hlead

theorem Plain.select_carries (hr : r.Plain) (hraw : clauses.RawAvoids slots)
    {projection : Projection} (h : r.select projection clauses = .ok f) :
    f.Carries slots (clauses.bound r.scope) := by
  cases projection with
  | rows => exact hr.query_carries hraw hr.projection h
  | columns names =>
    simp only [select, columnsQuery] at h
    split at h
    · cases h
    · exact hr.query_carries hraw
        (.joined_blank (List.forall_mem_map.2 fun name _ => hr.item name)) h
  | count name =>
    have htarget : (r.countTarget name).Carries slots [] := by
      unfold countTarget
      split
      · exact .word
      · exact Column.reference_carries (hr.scope.column name)
    exact hr.query_carries hraw (htarget.word_cons.append_word .nil) h

end Relation
end SqlMapper
