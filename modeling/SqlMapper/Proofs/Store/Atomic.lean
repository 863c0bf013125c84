import SqlMapper.Proofs.Outcome
import SqlMapper.Proofs.Store.Kept
import SqlMapper.Store.Basic

namespace SqlMapper

/-- What a statement for one table is for. -/
inductive Purpose where
  /-- Create the table, with untyped columns of these names. -/
  | create (columns : List String)
  /-- Insert a row with a value for each mark, and return nothing. -/
  | insert (marks : Nat)
  /-- Select all rows with all their columns, in the order of insertion. -/
  | select
  | control (c : Control)
deriving DecidableEq

/-- What becomes of the contents when a statement has run. A value is kept as it is unless it is a
NaN, and transactions do not nest. -/
inductive Contents.Becomes (values : List Stored) (k : Contents) : Purpose → Contents → Prop
  | created {columns : List String} (h : k.table = none) :
    Becomes values k (.create columns) { k with table := some ⟨columns, []⟩ }
  | inserted {marks : Nat} {table : StoredTable} (h : k.table = some table)
    (hlength : values.length = table.columns.length) :
    Becomes values k (.insert marks)
      { k with table := some { table with rows := table.rows ++ [values.map Stored.kept] } }
  | selected : Becomes values k .select k
  | started (h : k.saved = none) :
    Becomes values k (.control .start) { k with saved := some k.table }
  | committed {table : Option StoredTable} (h : k.saved = some table) :
    Becomes values k (.control .commit) { k with saved := none }
  | rolledBack {table : Option StoredTable} (h : k.saved = some table) :
    Becomes values k (.control .rollback) ⟨table, none⟩

namespace Cursor

variable {σ : Type} {names : List String} {P : σ → Prop}

/-- Wherever the statement is left, the engine is in a state with the property. -/
def Leaves (P : σ → Prop) : Cursor σ → Prop
  | row _ left next => P left ∧ next.Leaves P
  | done left => P left
  | failed left => P left

/-- The rows that a statement gives if it does not fail. -/
def rows? : Cursor σ → Option (List (List Stored))
  | row values _ next => next.rows?.map (values :: ·)
  | done _ => some []
  | failed _ => none

theorem Leaves.fetch {cursor : Cursor σ} (h : cursor.Leaves P) : P (cursor.fetch names).2 := by
  induction cursor with
  | row values left next ih =>
    rw [Cursor.fetch]
    cases readFields names values with
    | ok fields => exact ih h.2
    | error f => exact h.1
  | done left => exact h
  | failed left => exact h

theorem fetch_of_rows? {cursor : Cursor σ} {rows : List (List Stored)}
    {fields : List (List (String × Datum))} (h : cursor.rows? = some rows)
    (hfields : rows.mapM (readFields names) = .ok fields) :
    (cursor.fetch names).1 = .ok (fields.map Row.mk) := by
  induction cursor generalizing rows fields with
  | row values left next ih =>
    obtain ⟨rest, hrest, rfl⟩ := Option.map_eq_some_iff.1 h
    rw [List.mapM_cons] at hfields
    obtain ⟨first, hfirst, hfields⟩ := bind_eq_ok.1 hfields
    obtain ⟨others, hothers, hfields⟩ := bind_eq_ok.1 hfields
    obtain rfl := pure_eq_ok.1 hfields
    have hnext := ih hrest hothers
    simp only [fetch, hfirst, hnext, Except.map, List.map_cons]
  | done left =>
    cases h
    obtain rfl := pure_eq_ok.1 hfields
    rfl
  | failed left => cases h

end Cursor

namespace Engine

/-- The parameters of a call. -/
def Call.params {Q : Type} : Call Q → List Datum
  | query _ params => params
  | exec _ params => params
  | batch _ => []
  | control _ => []

/-- The call creates the table, inserts a row, selects all rows or controls a transaction. -/
def Call.Concerns {Q : Type} (purpose : Q → Option Purpose) : Call Q → Prop
  | query q _ => ∃ u, purpose q = some u
  | exec q _ => ∃ u, purpose q = some u
  | batch q => ∃ columns, purpose q = some (.create columns)
  | control _ => True

def statement {Q σ π : Type} (E : Engine Q σ π) : Call Q → Q
  | .query q _ => q
  | .exec q _ => q
  | .batch q => q
  | .control c => E.control c

variable {Q σ π α : Type} {E : Engine Q σ π} {purpose : Q → Option Purpose}
  {contents : σ → Contents} {s : σ} {q : Q} {u : Purpose} {params : List Datum}

/-- What is relied on of an engine, for the statements whose purpose is known. -/
structure Lawful (E : Engine Q σ π) (purpose : Q → Option Purpose) (contents : σ → Contents) :
    Prop where
  control : ∀ c, purpose (E.control c) = some (.control c)
  /-- A statement that is executed does all that it is for, -/
  executed : ∀ s q u p values count t, purpose q = some u → E.prepare s q = some p →
    E.execute s p values = (some count, t) → (contents s).Becomes values u (contents t)
  /-- or it fails and does nothing. -/
  unexecuted : ∀ s q u p values t, purpose q = some u → E.prepare s q = some p →
    E.execute s p values = (none, t) → contents t = contents s
  /-- Where it is run for its rows, it gives none and does the same, -/
  ran : ∀ s q u p values cursor, purpose q = some u → u ≠ .select → E.prepare s q = some p →
    E.start s p values = some cursor →
    (∃ t, cursor = .done t ∧ (contents s).Becomes values u (contents t)) ∨
      ∃ t, cursor = .failed t ∧ contents t = contents s
  /-- unless it selects: then it changes nothing. -/
  read : ∀ s q p values cursor, purpose q = some .select → E.prepare s q = some p →
    E.start s p values = some cursor → cursor.Leaves fun t => contents t = contents s
  /-- A script that creates the table does so or fails and does nothing. -/
  scripted : ∀ s q columns t, purpose q = some (.create columns) →
    (E.script s q = (true, t) → (contents s).Becomes [] (.create columns) (contents t)) ∧
      (E.script s q = (false, t) → contents t = contents s)
  /-- Without a table nothing can be selected, -/
  missing : ∀ s q, purpose q = some .select → (contents s).table = none → E.prepare s q = none
  /-- and from a table all its rows can. -/
  selected : ∀ s q table, purpose q = some .select → (contents s).table = some table →
    ∃ p cursor, E.prepare s q = some p ∧ E.columnNames p = table.columns ∧
      E.start s p [] = some cursor ∧ cursor.rows? = some table.rows
  /-- A row with a value for each column can be inserted. -/
  inserted : ∀ s q table values, purpose q = some (.insert table.columns.length) →
    (contents s).table = some table → values.length = table.columns.length →
    ∃ p t, E.prepare s q = some p ∧ E.execute s p values = (some 1, t)

theorem query_of_start {p : π} {values : List Stored} {cursor : Cursor σ}
    (hprepare : E.prepare s q = some p) (hvalues : params.mapM Datum.toStored = .ok values)
    (hstart : E.start s p values = some cursor) :
    E.query s q params = cursor.fetch (E.columnNames p) := by
  simp only [query, issue, hprepare, hvalues, hstart]

theorem exec_of_execute {p : π} {values : List Stored} {count : Nat} {t : σ}
    (hprepare : E.prepare s q = some p) (hvalues : params.mapM Datum.toStored = .ok values)
    (hexecute : E.execute s p values = (some count, t)) : E.exec s q params = (.ok count, t) := by
  simp only [exec, issue, hprepare, hvalues, hexecute]

/-- A call fails without a trace, or it does what its statement is for. -/
inductive Acts (contents : σ → Contents) (s : σ) (u : Purpose) (params : List Datum) :
    Except StoreFault α × σ → Prop
  | failed {e : StoreFault} {t : σ} (h : contents t = contents s) :
    Acts contents s u params (.error e, t)
  | did {a : α} {t : σ} {values : List Stored} (hvalues : params.mapM Datum.toStored = .ok values)
    (h : (contents s).Becomes values u (contents t)) : Acts contents s u params (.ok a, t)

theorem Acts.map {β : Type} {f : α → β} {r : Except StoreFault α × σ}
    (h : Acts contents s u params r) : Acts contents s u params (r.1.map f, r.2) := by
  cases h with
  | failed h => exact .failed h
  | did hvalues h => exact .did hvalues h

/-- It is enough to know what is done with the converted parameters. -/
theorem acts_issue {run : π → List Stored → Except StoreFault α × σ}
    (h : ∀ p values, E.prepare s q = some p → params.mapM Datum.toStored = .ok values →
      Acts contents s u params (run p values)) :
    Acts contents s u params (E.issue s q params run) := by
  unfold issue
  cases hprepare : E.prepare s q with
  | none => exact .failed rfl
  | some p =>
    cases hvalues : params.mapM Datum.toStored with
    | error e => exact .failed rfl
    | ok values => exact h p values hprepare hvalues

theorem Lawful.acts_exec (h : E.Lawful purpose contents) (hq : purpose q = some u) :
    Acts contents s u params (E.exec s q params) := by
  apply acts_issue
  intro p values hprepare hvalues
  rcases hexecute : E.execute s p values with ⟨_ | count, t⟩
  · simp only
    exact .failed (h.unexecuted s q u p values t hq hprepare hexecute)
  · simp only
    exact .did hvalues (h.executed s q u p values count t hq hprepare hexecute)

theorem Lawful.acts_query (h : E.Lawful purpose contents) (hq : purpose q = some u) :
    Acts contents s u params (E.query s q params) := by
  apply acts_issue
  intro p values hprepare hvalues
  cases hstart : E.start s p values with
  | none =>
    simp only
    exact .failed rfl
  | some cursor =>
    simp only
    by_cases hselect : u = .select
    · -- whether all rows can be read or not, the contents are the same
      subst hselect
      have hleaves := h.read s q p values cursor hq hprepare hstart
      have hleft : contents (cursor.fetch (E.columnNames p)).2 = contents s := hleaves.fetch
      rcases hfetch : cursor.fetch (E.columnNames p) with ⟨_ | rows, t⟩
      · rw [hfetch] at hleft
        exact .failed hleft
      · rw [hfetch] at hleft
        refine .did hvalues ?_
        rw [hleft]
        exact .selected
    · obtain ⟨t, rfl, ht⟩ | ⟨t, rfl, ht⟩ := h.ran s q u p values cursor hq hselect hprepare hstart
      · exact .did hvalues ht
      · exact .failed ht

theorem Lawful.acts_batch {columns : List String} (h : E.Lawful purpose contents)
    (hq : purpose q = some (.create columns)) :
    Acts contents s (.create columns) [] (E.step s (.batch q)) := by
  rcases hscript : E.script s q with ⟨_ | _, t⟩
  · have hstep : E.step s (.batch q) = (.error .batch, t) := by simp [step, hscript]
    rw [hstep]
    exact .failed ((h.scripted s q columns t hq).2 hscript)
  · have hstep : E.step s (.batch q) = (.ok .done, t) := by simp [step, hscript]
    rw [hstep]
    exact .did rfl ((h.scripted s q columns t hq).1 hscript)

theorem Lawful.acts_step {c : Call Q} (h : E.Lawful purpose contents) (hc : c.Concerns purpose) :
    ∃ u, purpose (E.statement c) = some u ∧ Acts contents s u c.params (E.step s c) := by
  cases c with
  | query q params =>
    obtain ⟨u, hq⟩ := hc
    exact ⟨u, hq, (h.acts_query hq).map⟩
  | exec q params =>
    obtain ⟨u, hq⟩ := hc
    exact ⟨u, hq, (h.acts_exec hq).map⟩
  | batch q =>
    obtain ⟨columns, hq⟩ := hc
    exact ⟨_, hq, h.acts_batch hq⟩
  | control c => exact ⟨_, h.control c, (h.acts_exec (h.control c)).map⟩

/-- A call that fails leaves the contents as they were. -/
theorem Lawful.contents_step_of_error {c : Call Q} {e : StoreFault} (h : E.Lawful purpose contents)
    (hc : c.Concerns purpose) (he : (E.step s c).1 = .error e) :
    contents (E.step s c).2 = contents s := by
  obtain ⟨u, -, hacts⟩ := h.acts_step (s := s) hc
  generalize E.step s c = r at hacts he
  cases hacts with
  | failed h => exact h
  | did hvalues h => cases he

theorem mapM_toStored_of_exceedsSigned {d : Datum} (hd : d ∈ params) (h : d.ExceedsSigned) :
    params.mapM Datum.toStored = .error .unsignedRange := by
  cases hmap : params.mapM Datum.toStored with
  | ok values =>
    obtain ⟨v, hv⟩ := exists_of_mapM_eq_ok hmap d hd
    rw [Datum.toStored_of_exceedsSigned h] at hv
    cases hv
  | error e =>
    obtain ⟨before, x, after, -, -, hx⟩ := mapM_eq_error.1 hmap
    rw [Datum.toStored_eq_error hx]

theorem issue_of_exceedsSigned {run : π → List Stored → Except StoreFault α × σ} {d : Datum}
    (hd : d ∈ params) (h : d.ExceedsSigned) : E.issue s q params run =
      (.error (if (E.prepare s q).isSome then .unsignedRange else .prepare), s) := by
  unfold issue
  rw [mapM_toStored_of_exceedsSigned hd h]
  cases E.prepare s q <;> rfl

/-- Whatever the engine does, a call with a parameter beyond the signed numbers is refused before
anything is run. -/
theorem step_of_exceedsSigned {c : Call Q} {d : Datum} (hd : d ∈ c.params) (h : d.ExceedsSigned) :
    E.step s c = (.error
      (if (E.prepare s (E.statement c)).isSome then .unsignedRange else .prepare), s) := by
  cases c with
  | query q params =>
    have hquery : E.query s q params = _ := issue_of_exceedsSigned hd h
    rw [step, hquery]
    rfl
  | exec q params =>
    have hexec : E.exec s q params = _ := issue_of_exceedsSigned hd h
    rw [step, hexec]
    rfl
  | batch q => cases hd
  | control c => cases hd

end Engine
end SqlMapper
