import SqlMapper.Proofs.Query.Adjacent

namespace SqlMapper

namespace Column

/-- What names are read under: no alias, or a valid one. -/
def IsFallback (qualifier : String) : Prop := qualifier = "" ∨ isTableAlias qualifier.toList

/-- What a delimiter does for labels. -/
structure KeepsLabels (delimiter : String) : Prop where
  /-- A label is read as the column that it is the label of. -/
  stable : ∀ raw fallback other, IsFallback fallback →
    (read raw fallback delimiter).qualifier ≠ "" ∨ other = "" →
    read (read raw fallback delimiter).label other delimiter = read raw fallback delimiter
  /-- Names with one label stand for one column. -/
  same : ∀ raw raw' fallback fallback', IsFallback fallback → IsFallback fallback' →
    (read raw fallback delimiter).label = (read raw' fallback' delimiter).label →
    read raw fallback delimiter = read raw' fallback' delimiter
  /-- The alias and the name can be told from the label. -/
  distinct : ∀ qualifier qualifier' name name', isTableAlias qualifier.toList →
    isTableAlias qualifier'.toList →
    (qualified qualifier name delimiter).label = (qualified qualifier' name' delimiter).label →
    qualifier = qualifier' ∧ name = name'

variable {delimiter qualifier : String}

theorem hasAlias_label (name : String) (hq : isTableAlias qualifier.toList)
    (hd : EndsAlias delimiter) : HasAlias delimiter (qualifier ++ delimiter ++ name) qualifier name :=
  hasAlias_iff.2 ⟨hq, splitFirst?_label name hq hd⟩

theorem read_label_read {raw fallback other : String} (hd : EndsAlias delimiter)
    (hf : IsFallback fallback)
    (ho : (read raw fallback delimiter).qualifier ≠ "" ∨ other = "") :
    read (read raw fallback delimiter).label other delimiter = read raw fallback delimiter := by
  by_cases h : ∃ qualifier name, HasAlias delimiter raw qualifier name
  · -- the label of a name with an alias is the name itself
    obtain ⟨qualifier, name, h⟩ := h
    rw [read_of_hasAlias fallback h, label_qualified h.valid, ← h.eq]
    exact read_of_hasAlias other h
  · simp only [not_exists] at h
    rw [read_of_not_hasAlias fallback h] at ho ⊢
    rcases hf with rfl | hvalid
    · obtain rfl : other = "" := ho.resolve_left (not_not_intro rfl)
      exact read_of_not_hasAlias "" h
    · -- the fallback stands before the first delimiter now
      rw [label_qualified hvalid]
      exact read_of_hasAlias other (hasAlias_label raw hvalid hd)

theorem eq_of_label_eq {raw raw' fallback fallback' : String} (hd : EndsAlias delimiter)
    (hf : IsFallback fallback) (hf' : IsFallback fallback')
    (h : (read raw fallback delimiter).label = (read raw' fallback' delimiter).label) :
    read raw fallback delimiter = read raw' fallback' delimiter := by
  calc
    read raw fallback delimiter = read (read raw fallback delimiter).label "" delimiter :=
      (read_label_read hd hf (.inr rfl)).symm
    _ = read (read raw' fallback' delimiter).label "" delimiter := by rw [h]
    _ = read raw' fallback' delimiter := read_label_read hd hf' (.inr rfl)

theorem labels_reread :
    (∀ raw delimiter, (read raw "" delimiter).label = raw) ∧
      ∀ delimiter, EndsAlias delimiter → KeepsLabels delimiter := by
  refine ⟨label_read, fun delimiter hd => ⟨?_, ?_, ?_⟩⟩
  · intro raw fallback other hf ho
    exact read_label_read hd hf ho
  · intro raw raw' fallback fallback' hf hf' h
    exact eq_of_label_eq hd hf hf' h
  · intro qualifier qualifier' name name' hq hq' h
    rw [label_qualified hq, label_qualified hq'] at h
    have hlabel := hasAlias_label name hq hd
    rw [h] at hlabel
    exact hlabel.unique (hasAlias_label name' hq' hd)

/-- The name begins like the delimiter, which stands in it once more, behind what is no alias. -/
theorem labels_reread_overlapping :
    read ":u::a" "t" "::" = ⟨"t", ":u::a", "t:::u::a"⟩ ∧
      read "t:::u::a" "x" "::" = ⟨"t", ":u::a", "t:::u::a"⟩ := by
  have hread : read ":u::a" "t" "::" = ⟨"t", ":u::a", "t:::u::a"⟩ := by decide
  have hkeeps := labels_reread.2 "::" ⟨':', [':'], rfl, rfl⟩
  have hagain := hkeeps.stable ":u::a" "t" "x" (.inr (by decide)) (.inl (by decide))
  rw [hread] at hagain
  exact ⟨hread, hagain⟩

/-- A delimiter that an alias may contain does not keep labels. -/
example : read (qualified "ax" "b" "x").label "" "x" = qualified "a" "xb" "x" := by decide

end Column
end SqlMapper
