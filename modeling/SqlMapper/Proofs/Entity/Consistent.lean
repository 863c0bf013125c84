import Mathlib.Data.List.Nodup
import SqlMapper.Entity.Schema

namespace SqlMapper.Schema

variable {schema : Schema}

/-- The schema names a table with columns, each once, and with a key, and speaks of no columns
but these. -/
structure Consistent (s : Schema) : Prop where
  table : s.table ≠ ""
  columns : s.columns ≠ []
  distinct : s.columns.Nodup
  key : s.primaryKey ≠ []
  declared : ∀ c ∈ s.primaryKey ++ s.autoIncrement, c ∈ s.columns

instance (s : Schema) : Decidable s.Consistent :=
  decidable_of_iff (s.table ≠ "" ∧ s.columns ≠ [] ∧ s.columns.Nodup ∧ s.primaryKey ≠ [] ∧
      ∀ c ∈ s.primaryKey ++ s.autoIncrement, c ∈ s.columns)
    ⟨fun ⟨table, columns, distinct, key, declared⟩ => ⟨table, columns, distinct, key, declared⟩,
      fun h => ⟨h.table, h.columns, h.distinct, h.key, h.declared⟩⟩

theorem firstRepeated?_eq_none_iff {seen columns : List String} :
    firstRepeated? seen columns = none ↔ columns.Nodup ∧ ∀ c ∈ columns, c ∉ seen := by
  induction columns generalizing seen with
  | nil => simp [firstRepeated?]
  | cons c rest ih =>
    rw [firstRepeated?, List.nodup_cons, List.forall_mem_cons]
    by_cases hc : c ∈ seen
    · simp [hc]
    · -- what was seen of the rest includes the first column
      simp only [hc, if_false, ih, List.mem_cons, not_or, not_false_eq_true, true_and]
      constructor
      · rintro ⟨hnodup, hrest⟩
        exact ⟨⟨fun hm => (hrest c hm).1 rfl, hnodup⟩, fun a ha => (hrest a ha).2⟩
      · rintro ⟨⟨hfirst, hnodup⟩, hrest⟩
        exact ⟨hnodup, fun a ha => ⟨fun he => hfirst (he ▸ ha), hrest a ha⟩⟩

/-- No fault is found just in consistent schemas. -/
theorem fault?_eq_none_iff : schema.fault? = none ↔ schema.Consistent := by
  unfold fault?
  split_ifs with htable hcolumns hkey
  · exact iff_of_false (by simp) fun h => h.table (by simpa using htable)
  · exact iff_of_false (by simp) fun h => h.columns (by simpa using hcolumns)
  · exact iff_of_false (by simp) fun h => h.key (by simpa using hkey)
  · have hrepeated : firstRepeated? [] schema.columns = none ↔ _ := firstRepeated?_eq_none_iff
    split
    · rename_i c hc
      rw [hc] at hrepeated
      exact iff_of_false (by simp) fun h => by simpa using hrepeated.2 ⟨h.distinct, by simp⟩
    · rename_i hnone
      have hdistinct := (hrepeated.1 hnone).1
      rw [Option.map_eq_none_iff, List.find?_eq_none]
      constructor
      · intro h
        exact ⟨by simpa using htable, by simpa using hcolumns, hdistinct, by simpa using hkey,
          fun c hc => by simpa using h c hc⟩
      · intro h c hc
        simpa using h.declared c hc

theorem checked_eq_ok_iff {s : Schema} : schema.checked = .ok s ↔ schema.Consistent ∧ s = schema := by
  unfold checked
  rw [← fault?_eq_none_iff]
  cases schema.fault? with
  | none => simp [eq_comm]
  | some f => simp

theorem consistent_of_checked (h : schema.checked = .ok schema) : schema.Consistent :=
  (checked_eq_ok_iff.1 h).1

theorem nodup_columns_of_checked (h : schema.checked = .ok schema) : schema.columns.Nodup :=
  (consistent_of_checked h).distinct

theorem mem_columns_of_checked (h : schema.checked = .ok schema) {c : String}
    (hc : c ∈ schema.autoIncrement) : c ∈ schema.columns :=
  (consistent_of_checked h).declared c (List.mem_append_right _ hc)

end SqlMapper.Schema
