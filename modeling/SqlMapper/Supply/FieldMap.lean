import SqlMapper.Supply.Basic

namespace SqlMapper

/-- A map from names to field values, in the order in which the names first came. -/
structure FieldMap where
  entries : List (String × Supplied)
  nodup : (entries.map (·.1)).Nodup
deriving DecidableEq

namespace FieldMap

/-- Replace the value of a name, or add the name at the end. -/
def putEntry (name : String) (value : Supplied) :
    List (String × Supplied) → List (String × Supplied)
  | [] => [(name, value)]
  | (n, v) :: rest => if n = name then (name, value) :: rest else (n, v) :: putEntry name value rest

theorem mem_map_putEntry {name other : String} {value : Supplied}
    {entries : List (String × Supplied)} :
    other ∈ (putEntry name value entries).map (·.1) ↔ other = name ∨ other ∈ entries.map (·.1) := by
  induction entries with
  | nil => simp [putEntry]
  | cons e rest ih =>
    obtain ⟨n, v⟩ := e
    by_cases h : n = name
    · simp [putEntry, h]
    · simp only [putEntry, h, if_false, List.map_cons, List.mem_cons, ih]
      exact or_left_comm

theorem nodup_putEntry {name : String} {value : Supplied} {entries : List (String × Supplied)}
    (h : (entries.map (·.1)).Nodup) : ((putEntry name value entries).map (·.1)).Nodup := by
  induction entries with
  | nil => simp [putEntry]
  | cons e rest ih =>
    obtain ⟨n, v⟩ := e
    simp only [List.map_cons, List.nodup_cons] at h
    by_cases hn : n = name
    · subst hn
      simpa only [putEntry, if_true, List.map_cons, List.nodup_cons] using h
    · simp only [putEntry, hn, if_false, List.map_cons, List.nodup_cons]
      exact ⟨fun hm => (mem_map_putEntry.1 hm).elim hn h.1, ih h.2⟩

/-- The value of a name after it was put is the new one; all other names keep theirs. -/
theorem lookup_putEntry (name other : String) (value : Supplied)
    (entries : List (String × Supplied)) :
    (putEntry name value entries).lookup other =
      if other = name then some value else entries.lookup other := by
  induction entries with
  | nil =>
    by_cases h : other = name
    · simp [putEntry, h]
    · simp [putEntry, List.lookup_cons, beq_false_of_ne h, h]
  | cons e rest ih =>
    obtain ⟨n, v⟩ := e
    by_cases hn : n = name
    · by_cases ho : other = name
      · simp [putEntry, hn, ho]
      · simp [putEntry, hn, ho, List.lookup_cons, beq_false_of_ne ho]
    · by_cases ho : other = n
      · simp [putEntry, ho, hn]
      · simp [putEntry, hn, List.lookup_cons, beq_false_of_ne ho, ih]

def empty : FieldMap := ⟨[], List.nodup_nil⟩

def put (r : FieldMap) (name : String) (value : Supplied) : FieldMap :=
  ⟨putEntry name value r.entries, nodup_putEntry r.nodup⟩

/-- The map of some entries; of several for one name the last counts. -/
def ofList (entries : List (String × Supplied)) : FieldMap :=
  entries.foldl (fun r (name, value) => r.put name value) empty

/-- The set fields: what is supplied for each name, an unset value being none. -/
def supply (r : FieldMap) : Supply := fun name => (r.entries.lookup name).filter Supplied.isSet

def count (r : FieldMap) : Nat := r.entries.countP fun e => e.2.isSet

/-- Whether there are no entries, not even unset ones. -/
def isEmpty (r : FieldMap) : Bool := r.entries.isEmpty

/-- The set fields of some data with the given names. -/
def ofSupply (source : Supply) (names : List String) : FieldMap :=
  ofList (names.filterMap fun name => (source name).map fun value => (name, value))

theorem lookup_foldl_put (entries : List (String × Supplied)) (r : FieldMap) (name : String) :
    (entries.foldl (fun r (name, value) => r.put name value) r).entries.lookup name =
      (entries.reverse.lookup name).or (r.entries.lookup name) := by
  induction entries generalizing r with
  | nil => rfl
  | cons e rest ih =>
    obtain ⟨n, v⟩ := e
    rw [List.foldl_cons, ih, List.reverse_cons, List.lookup_append, Option.or_assoc]
    congr 1
    show (putEntry n v r.entries).lookup name = _
    rw [lookup_putEntry, List.lookup_cons]
    by_cases hn : name = n
    · simp [hn]
    · simp [hn, beq_false_of_ne hn]

/-- A map of entries supplies nothing but its entries. -/
theorem mem_of_supply_ofList {entries : List (String × Supplied)} {name : String} {v : Supplied}
    (h : (ofList entries).supply name = some v) : (name, v) ∈ entries := by
  have hlookup : (ofList entries).entries.lookup name = some v :=
    (Option.filter_eq_some_iff.1 h).1
  have hnone : empty.entries.lookup name = none := rfl
  rw [ofList, lookup_foldl_put, hnone, Option.or_none] at hlookup
  obtain ⟨before, after, he, -⟩ := List.lookup_eq_some_iff.1 hlookup
  rw [← List.mem_reverse, he]
  exact List.mem_append_right _ (List.mem_cons_self ..)

/-- The entries that data supplies for some names say of a name what the data says. -/
theorem lookup_filterMap (source : Supply) (names : List String) (name : String) :
    (names.filterMap fun n => (source n).map fun value => (n, value)).lookup name =
      if name ∈ names then source name else none := by
  induction names with
  | nil => rfl
  | cons n rest ih =>
    by_cases hn : name = n
    · subst hn
      cases hv : source name with
      | none => simp [hv, ih]
      | some v => simp [hv]
    · cases hv : source n with
      | none => simp [hv, ih, hn]
      | some v => simp [hv, ih, hn, List.lookup_cons, beq_false_of_ne hn]

/-- A map of data for some names supplies what the data sets for them. -/
theorem supply_ofSupply (source : Supply) (names : List String) (name : String) :
    (ofSupply source names).supply name =
      if name ∈ names then (source name).filter Supplied.isSet else none := by
  unfold supply ofSupply ofList
  rw [lookup_foldl_put, ← List.filterMap_reverse, lookup_filterMap]
  simp only [List.mem_reverse]
  split <;> simp [empty]

/-- Equality of maps: the same names, unset ones too, with the same values. -/
def same (r s : FieldMap) : Bool :=
  r.entries.length = s.entries.length &&
    r.entries.all fun (name, value) => (s.entries.lookup name).any value.same

end FieldMap
end SqlMapper
