import SqlMapper.Proofs.Store.Atomic

namespace SqlMapper
namespace Store

variable {s t : Store} {q : StoreStatement} {u : Purpose} {values : List Stored}
  {rows : List (List Stored)} {p : PreparedStatement}

/-- What the statements are for. Those that select no rows of the table, or delete them, are left
out. -/
def purpose : StoreStatement → Option Purpose
  | .create columns => some (.create (columnNames columns))
  | .insert marks => some (.insert marks)
  | .select => some .select
  | .control c => some (.control c)
  | .echo _ | .echoText _ | .clear => none

theorem eq_create_of_purpose {columns : List String} (h : purpose q = some (.create columns)) :
    ∃ count, q = .create count ∧ columns = columnNames count := by
  cases q <;> cases h
  exact ⟨_, rfl, rfl⟩

theorem eq_insert_of_purpose {marks : Nat} (h : purpose q = some (.insert marks)) :
    q = .insert marks := by
  cases q <;> cases h
  rfl

theorem eq_select_of_purpose (h : purpose q = some .select) : q = .select := by
  cases q <;> cases h
  rfl

theorem prepare_eq_some : s.prepare q = some p ↔ s.prepares q ∧ p = ⟨q, s.resultColumns q⟩ := by
  unfold prepare
  cases s.prepares q <;> simp [eq_comm]

/-- Only a selection returns rows. -/
theorem becomes_of_perform (hq : purpose q = some u) (hprepares : s.prepares q)
    (hlength : values.length = q.marks) (h : s.perform values q = some (rows, t)) :
    s.contents.Becomes values u t.contents ∧ (u ≠ .select → rows = []) := by
  cases q with
  | echo marks => cases hq
  | echoText bytes => cases hq
  | clear => cases hq
  | create columns =>
    cases hq
    cases h
    simp only [prepares, Bool.and_eq_true, Option.isNone_iff_eq_none] at hprepares
    exact ⟨.created hprepares.1.1, fun _ => rfl⟩
  | insert marks =>
    cases hq
    obtain ⟨table, htable, h⟩ := Option.map_eq_some_iff.1 h
    cases h
    simp only [prepares, htable, Option.any_some, decide_eq_true_eq] at hprepares
    exact ⟨.inserted htable (hlength.trans hprepares), fun _ => rfl⟩
  | select =>
    cases hq
    obtain ⟨table, -, h⟩ := Option.map_eq_some_iff.1 h
    cases h
    exact ⟨.selected, fun hne => absurd rfl hne⟩
  | control c =>
    cases hq
    cases c with
    | start =>
      simp only [perform] at h
      split at h
      · rename_i hsaved
        cases h
        exact ⟨.started (Option.isNone_iff_eq_none.1 hsaved), fun _ => rfl⟩
      · cases h
    | commit =>
      obtain ⟨table, hsaved, h⟩ := Option.map_eq_some_iff.1 h
      cases h
      exact ⟨.committed hsaved, fun _ => rfl⟩
    | rollback =>
      obtain ⟨table, hsaved, h⟩ := Option.map_eq_some_iff.1 h
      cases h
      exact ⟨.rolledBack hsaved, fun _ => rfl⟩

theorem leaves_ofRows {P : Store → Prop} (h : P s) (rows : List (List Stored)) :
    (Cursor.ofRows s rows).Leaves P := by
  induction rows with
  | nil => exact h
  | cons values rows ih => exact ⟨h, ih⟩

theorem rows?_ofRows (s : Store) (rows : List (List Stored)) :
    (Cursor.ofRows s rows).rows? = some rows := by
  induction rows with
  | nil => rfl
  | cons values rows ih =>
    rw [Cursor.ofRows, Cursor.rows?, ih]
    rfl

theorem execute_eq_some {count : Nat} (h : s.execute p values = (some count, t)) :
    values.length = p.statement.marks ∧ s.perform values p.statement = some ([], t) := by
  unfold execute at h
  split at h
  · rename_i hlength
    split at h
    · rename_i t' hperform
      cases h
      exact ⟨hlength, hperform⟩
    · cases h
  · cases h

theorem execute_eq_none (h : s.execute p values = (none, t)) : t = s := by
  unfold execute at h
  split at h
  · split at h
    · cases h
    · cases h
      rfl
  · cases h
    rfl

theorem start_eq_some {cursor : Cursor Store} (h : s.start p values = some cursor) :
    values.length = p.statement.marks ∧
      ((∃ rows t, s.perform values p.statement = some (rows, t) ∧ cursor = .ofRows t rows) ∨
        cursor = .failed s) := by
  unfold start at h
  split at h
  · rename_i hlength
    refine ⟨hlength, ?_⟩
    split at h
    · rename_i rows t hperform
      cases h
      exact .inl ⟨rows, t, hperform, rfl⟩
    · cases h
      exact .inr rfl
  · cases h

theorem script_eq_true (h : s.script q = (true, t)) :
    s.prepares q ∧ ∃ rows, s.perform (List.replicate q.marks .null) q = some (rows, t) := by
  unfold script at h
  split at h
  · rename_i hprepares
    refine ⟨hprepares, ?_⟩
    split at h
    · rename_i rows t hperform
      cases h
      exact ⟨rows, hperform⟩
    · cases h
  · cases h

theorem script_eq_false (h : s.script q = (false, t)) : t = s := by
  unfold script at h
  split at h
  · split at h
    · cases h
    · cases h
      rfl
  · cases h
    rfl

/-- The engine in memory keeps to all that is relied on. -/
theorem contents_lawful : engine.Lawful purpose contents where
  control _ := rfl
  executed s q u p values count t hq hprepare h := by
    obtain ⟨hprepares, rfl⟩ := prepare_eq_some.1 hprepare
    obtain ⟨hlength, hperform⟩ := execute_eq_some h
    exact (becomes_of_perform hq hprepares hlength hperform).1
  unexecuted s q u p values t _ _ h := by rw [execute_eq_none h]
  ran s q u p values cursor hq hselect hprepare h := by
    obtain ⟨hprepares, rfl⟩ := prepare_eq_some.1 hprepare
    obtain ⟨hlength, ⟨rows, t, hperform, rfl⟩ | rfl⟩ := start_eq_some h
    · obtain ⟨hbecomes, hrows⟩ := becomes_of_perform hq hprepares hlength hperform
      obtain rfl := hrows hselect
      exact .inl ⟨t, rfl, hbecomes⟩
    · exact .inr ⟨s, rfl, rfl⟩
  read s q p values cursor hq hprepare h := by
    obtain ⟨hprepares, rfl⟩ := prepare_eq_some.1 hprepare
    obtain ⟨hlength, ⟨rows, t, hperform, rfl⟩ | rfl⟩ := start_eq_some h
    · have hbecomes := (becomes_of_perform hq hprepares hlength hperform).1
      generalize hk : t.contents = k at hbecomes
      cases hbecomes
      exact leaves_ofRows hk rows
    · rfl
  scripted s q columns t hq := by
    obtain ⟨count, rfl, -⟩ := eq_create_of_purpose hq
    constructor
    · intro h
      obtain ⟨hprepares, rows, hperform⟩ := script_eq_true h
      exact (becomes_of_perform hq hprepares rfl hperform).1
    · intro h
      rw [script_eq_false h]
  missing s q hq h := by
    obtain rfl := eq_select_of_purpose hq
    show s.prepare .select = none
    simp [prepare, prepares, h]
  selected s q table hq h := by
    obtain rfl := eq_select_of_purpose hq
    refine ⟨⟨.select, table.columns⟩, .ofRows s table.rows, ?_, rfl, ?_, rows?_ofRows s _⟩
    · show s.prepare .select = _
      simp [prepare, prepares, resultColumns, h]
    · show s.start ⟨.select, table.columns⟩ [] = _
      simp [start, StoreStatement.marks, perform, h]
  inserted s q table values hq h hlength := by
    obtain rfl := eq_insert_of_purpose hq
    let longer := { table with rows := table.rows ++ [values.map Stored.kept] }
    refine ⟨⟨.insert table.columns.length, []⟩, ⟨⟨some longer, s.contents.saved⟩, 1⟩, ?_, ?_⟩
    · show s.prepare _ = _
      simp [prepare, prepares, resultColumns, h]
    · show s.execute ⟨.insert table.columns.length, []⟩ values = _
      simp [execute, StoreStatement.marks, perform, h, hlength, longer]

end Store
end SqlMapper
