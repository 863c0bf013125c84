import Mathlib.Data.Set.Card
import SqlMapper.Proofs.Entity.RoundTrip
import SqlMapper.Proofs.Supply.Predicate

namespace SqlMapper

/-- The names that the data sets. -/
def Supply.setNames (data : Supply) : Set String := {name | (data name).isSome}

/-- Whether the value is the `NULL` of its type. -/
def Value.isTypedNull : Value → Bool
  | bool v => v.isNone
  | int8 v => v.isNone
  | int16 v => v.isNone
  | int32 v => v.isNone
  | int64 v => v.isNone
  | uint8 v => v.isNone
  | uint16 v => v.isNone
  | uint32 v => v.isNone
  | uint64 v => v.isNone
  | single v => v.isNone
  | double v => v.isNone
  | text v => v.isNone
  | char v => v.isNone
  | bytes v => v.isNone
  | date v => v.isNone
  | clock v => v.isNone
  | dateTime v => v.isNone
  | instant v => v.isNone
  | zoned v => v.isNone
  | machineTime => true

/-- A plain `NULL` of a type that can be bound. -/
def Supplied.IsBoundNull : Supplied → Prop
  | value v => v.isTypedNull ∧ ∃ d, v.toDatum? = some d
  | _ => False

/-- The value was put for the name, and nothing after it. -/
def FieldMap.PutLast (puts : List (String × Supplied)) (name : String) (u : Supplied) : Prop :=
  ∃ before after, puts = before ++ (name, u) :: after ∧ ∀ p ∈ after, p.1 ≠ name

/-- What a field map says of its names after some puts. -/
structure FieldMap.KeepsLast (puts : List (String × Supplied)) : Prop where
  counted : (ofList puts).supply.setNames.encard = (ofList puts).count
  absent : ∀ name, (∀ p ∈ puts, p.1 ≠ name) → (ofList puts).supply name = none
  /-- What was put last is supplied. This includes a `NULL` that cannot be bound, -/
  last : ∀ name u, PutLast puts name u → ¬u.IsBoundNull → (ofList puts).supply name = some u
  /-- but no other. -/
  null : ∀ name u, PutLast puts name u → u.IsBoundNull → (ofList puts).supply name = none
  /-- Such a `NULL` takes back what was put before. -/
  unset : ∀ name u, u.IsBoundNull → ((ofList puts).put name u).supply name = none
  /-- No other name is changed by a put. -/
  others : ∀ name u other, other ≠ name →
    ((ofList puts).put name u).supply other = (ofList puts).supply other

/-- A required field is set, an optional one if it is there and set itself, and one of a program's
own type if it supplies anything. -/
def FieldType.IsSet : (t : FieldType) → t.Carrier → Prop
  | required _, _ => True
  | optional t, v => ∃ w, v = some w ∧ t.IsSet w
  | own t, v => (t.supplied v).isSome

/-- A field of any but an optional type is there, and an optional one if it is not empty. -/
def FieldType.IsThere : (t : FieldType) → t.Carrier → Prop
  | optional _, v => v.isSome
  | required _, _ | own _, _ => True

/-- The entity has the value in the column of the name. -/
inductive Entity.HasField : {columns : Columns} → Entity columns → String → (t : FieldType) →
    t.Carrier → Prop
  | first {rest : Columns} (name : String) (t : FieldType) (value : t.Carrier)
    (others : Entity rest) : HasField (@cons name t rest value others) name t value
  | later {rest : Columns} {name : String} {t : FieldType} {value : t.Carrier}
    {others : Entity rest} (first : String) (type : FieldType) (v : type.Carrier)
    (h : HasField others name t value) : HasField (@cons first type rest v others) name t value

/-- What an entity says of its names. -/
structure Entity.SetsFields {columns : Columns} (e : Entity columns) : Prop where
  counted : e.supply.setNames.encard = e.count
  /-- Set are the columns with a field that is set. -/
  set : ∀ name, (e.supply name).isSome ↔
    ∃ t v, (name, t) ∈ columns ∧ e.HasField name t v ∧ t.IsSet v
  supplied : ∀ name t v, e.HasField name t v → e.supply name = t.supplied v

/-- Set names are as many as a list that has each of them once. -/
theorem Supply.encard_setNames {data : Supply} {listed : List String} (hn : listed.Nodup)
    (h : ∀ name, name ∈ listed ↔ (data name).isSome) : data.setNames.encard = listed.length := by
  have hnames : data.setNames = ↑listed.toFinset := by
    ext name
    rw [List.coe_toFinset]
    exact (h name).symm
  rw [hnames, Set.encard_coe_eq_coe_finsetCard, List.toFinset_card_of_nodup hn]

/-- The datum of a value is `NULL` where the value is. -/
theorem Value.isNull_iff (v : Value) : v.isNull ↔ v.isTypedNull ∧ ∃ d, v.toDatum? = some d := by
  cases v <;> simp [isNull, toDatum?, Datum.isNull, isTypedNull]

theorem Supplied.isSet_eq_false_iff {u : Supplied} : u.isSet = false ↔ u.IsBoundNull := by
  cases u with
  | value v => rw [isSet, Bool.not_eq_false', IsBoundNull, v.isNull_iff]
  | expression e => simp [isSet, IsBoundNull]
  | comparison c => simp [isSet, IsBoundNull]

namespace FieldMap

variable {puts : List (String × Supplied)} {name : String} {u : Supplied}

theorem last_of_putLast (h : PutLast puts name u) : last puts name = some u := by
  obtain ⟨before, after, rfl, hafter⟩ := h
  rw [last, List.lookup_eq_some_iff]
  refine ⟨after.reverse, before.reverse, by simp, fun p hp => ?_⟩
  simpa using (hafter p (List.mem_reverse.1 hp)).symm

theorem last_of_absent (h : ∀ p ∈ puts, p.1 ≠ name) : last puts name = none := by
  rw [last, List.lookup_eq_none_iff]
  intro p hp
  simpa using (h p (List.mem_reverse.1 hp)).symm

theorem supply_put (r : FieldMap) (name other : String) (u : Supplied) :
    (r.put name u).supply other =
      if other = name then (some u).filter Supplied.isSet else r.supply other := by
  show ((putEntry name u r.entries).lookup other).filter _ = _
  rw [lookup_putEntry]
  split <;> rfl

theorem keepsLast (puts : List (String × Supplied)) : KeepsLast puts where
  counted := by
    rw [Supply.encard_setNames (ofList puts).nodup_setNames fun name => mem_setNames,
      length_setNames]
  absent name h := by
    rw [supply_ofList, last_of_absent h, Option.filter_none]
  last name u h hset := by
    rw [← Supplied.isSet_eq_false_iff, Bool.not_eq_false] at hset
    rw [supply_ofList, last_of_putLast h, Option.filter_some, if_pos hset]
  null name u h hnull := by
    rw [← Supplied.isSet_eq_false_iff] at hnull
    rw [supply_ofList, last_of_putLast h, Option.filter_some, hnull]
    rfl
  unset name u hnull := by
    rw [← Supplied.isSet_eq_false_iff] at hnull
    rw [supply_put, if_pos rfl, Option.filter_some, hnull]
    rfl
  others name u other hne := by
    rw [supply_put, if_neg hne]

end FieldMap

theorem FieldType.isSome_supplied (t : FieldType) (v : t.Carrier) :
    (t.supplied v).isSome ↔ t.IsSet v := by
  induction t with
  | required t => exact iff_of_true rfl trivial
  | optional t ih =>
    cases v with
    | none => exact iff_of_false nofun nofun
    | some w =>
      calc
        _ ↔ (t.supplied w).isSome := Iff.rfl
        _ ↔ t.IsSet w := ih w
        _ ↔ FieldType.IsSet (.optional t) (some w) := by simp [IsSet]
  | own t => exact Iff.rfl

namespace Entity

variable {columns : Columns} {e : Entity columns} {name : String} {t : FieldType} {v : t.Carrier}

theorem HasField.mem (h : e.HasField name t v) : (name, t) ∈ columns := by
  induction h with
  | first => exact List.mem_cons_self ..
  | later _ _ _ _ ih => exact List.mem_cons_of_mem _ ih

theorem HasField.mem_names (h : e.HasField name t v) : name ∈ columns.map (·.1) :=
  List.mem_map_of_mem h.mem

theorem HasField.supply_eq (h : e.HasField name t v) (hn : (columns.map (·.1)).Nodup) :
    e.supply name = t.supplied v := by
  induction h with
  | first => exact if_pos rfl
  | later other _ _ h ih =>
    rw [List.map_cons, List.nodup_cons] at hn
    have hne : _ ≠ other := fun hname => hn.1 (hname ▸ h.mem_names)
    exact (if_neg hne).trans (ih hn.2)

theorem exists_hasField {u : Supplied} (h : e.supply name = some u) :
    ∃ t v, e.HasField name t v ∧ t.supplied v = some u := by
  induction e with
  | nil => cases h
  | @cons first type rest value others ih =>
    rw [supply_cons] at h
    split at h
    · rename_i hname
      subst hname
      exact ⟨type, value, .first .., h⟩
    · obtain ⟨t, v, hfield, hv⟩ := ih h
      exact ⟨t, v, .later _ _ _ hfield, hv⟩

/-- The declared names that are set. -/
def setNames (e : Entity columns) : List String :=
  (columns.map (·.1)).filter fun name => (e.supply name).isSome

theorem mem_setNames : name ∈ e.setNames ↔ (e.supply name).isSome := by
  rw [setNames, List.mem_filter, and_iff_right_iff_imp]
  intro h
  obtain ⟨u, hu⟩ := Option.isSome_iff_exists.1 h
  obtain ⟨t, v, hfield, -⟩ := exists_hasField hu
  exact hfield.mem_names

theorem length_setNames (hn : (columns.map (·.1)).Nodup) (e : Entity columns) :
    e.setNames.length = e.count := by
  induction e with
  | nil => rfl
  | @cons first type rest value others ih =>
    rw [List.map_cons, List.nodup_cons] at hn
    have hrest : (rest.map (·.1)).filter
        (fun name => ((@cons first type rest value others).supply name).isSome) =
        others.setNames := by
      refine List.filter_congr fun name hname => ?_
      -- the first column has another name
      have hne : name ≠ first := fun he => hn.1 (he ▸ hname)
      rw [supply_cons, if_neg hne]
    rw [setNames, List.map_cons, List.filter_cons, hrest, count_cons, ← ih hn.2, supply_cons,
      if_pos rfl]
    cases (type.supplied value).isSome
    · exact (Nat.zero_add _).symm
    · exact Nat.add_comm _ 1

theorem setsFields (hn : (columns.map (·.1)).Nodup) (e : Entity columns) : e.SetsFields where
  counted := by
    have hnodup : e.setNames.Nodup := hn.filter _
    rw [Supply.encard_setNames hnodup fun name => mem_setNames, length_setNames hn]
  set name := by
    constructor
    · intro h
      obtain ⟨u, hu⟩ := Option.isSome_iff_exists.1 h
      obtain ⟨t, v, hfield, hv⟩ := exists_hasField hu
      have hset : (t.supplied v).isSome := Option.isSome_iff_exists.2 ⟨u, hv⟩
      exact ⟨t, v, hfield.mem, hfield, (t.isSome_supplied v).1 hset⟩
    · rintro ⟨t, v, -, hfield, hset⟩
      rw [hfield.supply_eq hn]
      exact (t.isSome_supplied v).2 hset
  supplied name t v h := h.supply_eq hn

end Entity

theorem set_names_counted :
    (∀ puts, FieldMap.KeepsLast puts) ∧
      ∀ (declaration : Declaration) (e : Entity declaration.columns), e.SetsFields :=
  ⟨FieldMap.keepsLast, fun declaration e => e.setsFields declaration.columns_nodup⟩

/-- A change of a score that may be unknown. -/
def scoreChange : Declaration where
  table := "scores"
  columns := [("score", .optional (.optional (.required .int64)))]
  primaryKey := ["score"]
  autoIncrement := []

/-- The score becomes unknown: the field is there and holds nothing, so its name is not set. -/
theorem isSome_supply_ne_isThere :
    let e : Entity scoreChange.columns := .cons (some none) .nil
    ¬∀ name, (e.supply name).isSome ↔
      ∃ t v, (name, t) ∈ scoreChange.columns ∧ e.HasField name t v ∧ t.IsThere v := by
  intro e h
  have hset := (h "score").2 ⟨_, _, List.mem_singleton.2 rfl, .first .., rfl⟩
  cases hset

/-- Puts that leave one name of three: a `NULL` takes one back, and the moment that cannot be bound is
set although there is none. -/
def draftPuts : List (String × Supplied) :=
  [("name", .value (.text (some "ada"))), ("visits", .value (.int32 none)),
    ("seen", .value (.zoned none)), ("name", .value (.text none))]

theorem set_names_counted_draft :
    (FieldMap.ofList draftPuts).supply "name" = none ∧
      (FieldMap.ofList draftPuts).supply "seen" = some (.value (.zoned none)) ∧
      (FieldMap.ofList draftPuts).supply.setNames.encard = 1 ∧
      (Entity.reading 0).supply.setNames.encard = 11 := by
  obtain ⟨hmap, hentity⟩ := set_names_counted
  have hdraft := hmap draftPuts
  have hname : FieldMap.PutLast draftPuts "name" (.value (.text none)) :=
    ⟨draftPuts.take 3, [], rfl, List.forall_mem_nil _⟩
  have hseen : FieldMap.PutLast draftPuts "seen" (.value (.zoned none)) :=
    ⟨draftPuts.take 2, draftPuts.drop 3, rfl, by simp [draftPuts]⟩
  refine ⟨hdraft.null _ _ hname ⟨rfl, _, rfl⟩, hdraft.last _ _ hseen ?_, ?_, ?_⟩
  · -- it has no datum
    rintro ⟨-, d, hd⟩
    cases hd
  · rw [hdraft.counted]
    rfl
  · rw [(hentity Entity.readings (Entity.reading 0)).counted]
    rfl

end SqlMapper
