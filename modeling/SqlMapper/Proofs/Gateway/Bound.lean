import SqlMapper.Proofs.Query.Source

namespace SqlMapper

variable {α : Type} {slots : Bool}

/-- The key values of a row: taken from data, or given as an id. -/
inductive Schema.Addressed (s : Schema) (key : List Value) : Prop
  | data {data : Supply} (h : s.keyIn data = .ok key)
  | id {id : RowId} (h : s.keyFromId id = .ok key)

namespace Schema

variable {s : Schema} {key : List Value}

theorem length_namedKey {table : String} {columns : List String} {pairs : List (String × Value)}
    (h : namedKey table columns pairs = .ok key) : key.length = columns.length := by
  induction columns generalizing pairs key with
  | nil =>
    cases h
    rfl
  | cons column rest ih =>
    unfold namedKey at h
    split at h
    · -- each column takes its pair out, and leaves the others for the rest
      obtain ⟨values, hvalues, h⟩ := bind_eq_ok.1 h
      cases h
      rw [List.length_cons, List.length_cons, ih hvalues]
    · cases h

theorem keyFromId_scalar {k : String} (hk : s.primaryKey = [k]) (v : Value) :
    s.keyFromId (.scalar v) = .ok [v] := by
  unfold keyFromId
  simp only [hk]

theorem keyFromId_scalar_of_composite (hk : ∀ k, s.primaryKey ≠ [k]) (v : Value) :
    s.keyFromId (.scalar v) = .error (.compositeKey s.table .notNamed) := by
  simp only [keyFromId]

theorem length_keyFromId {id : RowId} (h : s.keyFromId id = .ok key) :
    key.length = s.primaryKey.length := by
  cases id with
  | scalar v =>
    simp only [keyFromId] at h
    split at h
    · rename_i hone
      cases h
      rw [hone]
      rfl
    · cases h
  | named pairs =>
    simp only [keyFromId] at h
    split at h
    · cases h
    · exact length_namedKey h

theorem Addressed.length (h : s.Addressed key) : key.length = s.primaryKey.length := by
  cases h with
  | data h => exact (mapM_eq_ok.1 h).length_eq.symm
  | id h => exact length_keyFromId h

end Schema

theorem Dialect.isPlainWord_insertVerb (d : Dialect) (mode : InsertMode) :
    isPlainWord (d.insertVerb mode) := by
  cases d <;> cases mode <;> decide

theorem Dialect.onConflict_carries (d : Dialect) (keys : List String) :
    (d.onConflict keys).Carries slots [] := by
  have hkeys : Fragment.Carries slots (Fragment.joined "," (keys.map fun k => [.name k])) [] :=
    .joined_blank (List.forall_mem_map.2 fun k _ => Fragment.Carries.name k)
  cases d with
  | sqlite => exact hkeys.word_cons.append_word .nil
  | mysql => exact .word
  | mssql => exact .word

namespace Table

variable {t : Table} {f : Fragment} {key : List Value} {data : Supply}

theorem name_carries (t : Table) : t.name.Carries slots [] := Fragment.Carries.name t.schema.table

theorem mem_plainColumns {c : Column} (h : c ∈ t.plainColumns) : c ∈ t.scope.columns :=
  List.mem_of_mem_filter h

theorem filter_carries {condition : Condition} (hraw : condition.RawAvoids slots)
    (h : t.filter condition = .ok f) : f.Carries slots (condition.bound t.scope) ∧ f.Leads := by
  unfold filter at h
  exact Clauses.render_carries t.scope_wellQualified (.filter condition) hraw (mapError_eq_ok.1 h)

theorem assignmentsTo_carries {columns : List Column} (hc : ∀ c ∈ columns, c.WellQualified)
    (h : assignmentsTo columns data = .ok f) : f.Carries slots (data.bound columns) := by
  obtain ⟨found, hfound, h⟩ := bind_eq_ok.1 h
  obtain ⟨-, h⟩ := guard_eq_ok.1 h
  cases h
  apply Supply.slots_carries (mapError_eq_ok.1 hfound)
  intro p hp s hs
  exact Supplied.updateSlot_carries (hc _ (Supply.mem_of_mem_assigned hp)) hs

theorem assignments_carries (h : t.assignments data = .ok f) :
    f.Carries slots (data.bound t.plainColumns) :=
  assignmentsTo_carries (fun c hc => t.scope_wellQualified.columns c (mem_plainColumns hc)) h

/-- The predicate that some columns have some values. -/
def equalities (wanted : List (String × Value)) : Fragment :=
  Fragment.joined " AND " (wanted.map fun p => [.name p.1, .word "=", .slot p.2])

theorem equalities_carries (wanted : List (String × Value)) :
    (equalities wanted).Carries slots (wanted.map (·.2)) := by
  rw [List.map_eq_flatMap]
  exact .joined_map fun p _ =>
    (Fragment.Carries.name p.1).append_word (w := "=") (Fragment.Carries.slot p.2)

theorem names_equalities (wanted : List (String × Value)) :
    (equalities wanted).names = wanted.map (·.1) :=
  Fragment.names_joined_map_of_eq fun _ => rfl

theorem keyPredicate_carries (hkey : key.length = t.schema.primaryKey.length) :
    (t.keyPredicate key).Carries slots key := by
  -- no value of the key is lost beside its columns
  have hvalues : (t.schema.primaryKey.zip key).map (·.2) = key := List.map_snd_zip hkey.le
  have hall : (equalities (t.schema.primaryKey.zip key)).Carries slots _ := equalities_carries _
  rw [hvalues] at hall
  exact hall

theorem insertion_carries {d : Dialect} {mode : InsertMode} {onConflict : Option Supply}
    (h : t.insertion d mode data onConflict = .ok f) :
    f.Carries slots
      (data.bound t.columns ++ onConflict.elim [] fun changes => changes.bound t.plainColumns) := by
  obtain ⟨found, hfound, h⟩ := bind_eq_ok.1 h
  obtain ⟨-, h⟩ := guard_eq_ok.1 h
  have hc : ∀ c ∈ t.columns, c.WellQualified := t.scope_wellQualified.columns
  -- the verb and the table, the columns, and the values in parentheses
  have htable : Fragment.Carries slots (.word (d.insertVerb mode) :: .word " INTO " :: t.name) [] :=
    t.name_carries.word_cons.word_cons (d.isPlainWord_insertVerb mode)
  have hcolumns : (Fragment.joined "," ((data.assigned t.columns).map fun p =>
      p.1.reference)).Carries slots [] :=
    .joined_blank (List.forall_mem_map.2 fun p hp =>
      Column.reference_carries (hc _ (Supply.mem_of_mem_assigned hp)))
  have hvalues : (Fragment.joined "," (found.map Slot.fragment)).Carries slots
      (data.bound t.columns) :=
    Supply.slots_carries (mapError_eq_ok.1 hfound) fun p _ s hs => Supplied.insertSlot_carries hs
  have hfront := ((htable.append_word (w := " (") hcolumns).append_word (w := ") VALUES (")
    hvalues).append_word (w := ")") .nil
  rw [List.append_nil, List.append_nil, List.nil_append] at hfront
  cases onConflict with
  | none =>
    cases h
    rw [Option.elim_none, List.append_nil]
    exact hfront
  | some changes =>
    -- the changes on a conflict follow, and leave the key alone
    obtain ⟨changed, hchanged, h⟩ := bind_eq_ok.1 h
    cases h
    have hconflict := hfront.append_word (w := " ") (d.onConflict_carries t.schema.primaryKey)
    rw [List.append_nil] at hconflict
    exact hconflict.append_word (w := " ") (assignments_carries hchanged)

theorem change_carries (hkey : key.length = t.schema.primaryKey.length)
    (h : t.change data key = .ok f) : f.Carries slots (data.bound t.plainColumns ++ key) := by
  obtain ⟨changed, hchanged, h⟩ := bind_eq_ok.1 h
  cases h
  have htable : Fragment.Carries slots (.word "UPDATE " :: t.name) [] := t.name_carries.word_cons
  exact (htable.append_word (assignments_carries hchanged)).append_word (keyPredicate_carries hkey)

theorem changeWhere_carries {condition : Condition} (hraw : condition.RawAvoids slots)
    (h : t.changeWhere condition data = .ok f) :
    f.Carries slots (data.bound t.columns ++ condition.bound t.scope) := by
  obtain ⟨changed, hchanged, h⟩ := bind_eq_ok.1 h
  obtain ⟨filter, hfilter, h⟩ := bind_eq_ok.1 h
  cases h
  have hset : changed.Carries slots (data.bound t.columns) :=
    assignmentsTo_carries t.scope_wellQualified.columns hchanged
  obtain ⟨hcarries, hlead⟩ := filter_carries hraw hfilter
  have htable : Fragment.Carries slots (.word "UPDATE " :: t.name) [] := t.name_carries.word_cons
  exact (htable.append_word hset).append hcarries hlead

theorem removalWhere_carries {condition : Condition} (hraw : condition.RawAvoids slots)
    (h : t.removalWhere condition = .ok f) : f.Carries slots (condition.bound t.scope) := by
  obtain ⟨filter, hfilter, h⟩ := bind_eq_ok.1 h
  cases h
  obtain ⟨hcarries, hlead⟩ := filter_carries hraw hfilter
  exact (name_carries t).word_cons.append hcarries hlead

theorem lookup_carries (hkey : key.length = t.schema.primaryKey.length) :
    (t.lookup key).Carries slots key :=
  (name_carries t).word_cons.append_word (keyPredicate_carries hkey)

theorem removal_carries (hkey : key.length = t.schema.primaryKey.length) :
    (t.removal key).Carries slots key :=
  (name_carries t).word_cons.append_word (keyPredicate_carries hkey)

end Table

/-- What queries can read: the table of a gateway, or a join that was built up. -/
inductive Relation.Readable : {α : Type} → Relation α → Prop
  | gateway {σ α : Type} (g : Gateway σ α) : Readable g.relation
  | join {j : Join} (hj : j.Reached) : Readable j.relation

theorem Relation.Readable.plain {r : Relation α} (h : r.Readable) : r.Plain := by
  cases h with
  | gateway g => exact g.relation_plain
  | join hj => exact hj.relation_plain

/-- A statement to be composed, of every kind that gateways and relations compose. -/
inductive Composition : Type 1
  | select {α : Type} {stage : Stage} (r : Relation α) (hr : r.Readable) (projection : Projection)
    (clauses : Clauses stage)
  | insert (t : Table) (mode : InsertMode) (data : Supply) (onConflict : Option Supply)
  | change (t : Table) (changes : Supply) (key : List Value) (hkey : t.schema.Addressed key)
  | lookup (t : Table) (key : List Value) (hkey : t.schema.Addressed key)
  | remove (t : Table) (key : List Value) (hkey : t.schema.Addressed key)
  | changeWhere (t : Table) (condition : Condition) (changes : Supply)
  | removeWhere (t : Table) (condition : Condition)

namespace Composition

def fragment (d : Dialect) : Composition → Except Error Fragment
  | select r _ projection clauses => r.select projection clauses
  | insert t mode data onConflict => t.insertion d mode data onConflict
  | change t changes key _ => t.change changes key
  | lookup t key _ => .ok (t.lookup key)
  | remove t key _ => .ok (t.removal key)
  | changeWhere t condition changes => t.changeWhere condition changes
  | removeWhere t condition => t.removalWhere condition

/-- The values that the statement binds: inserted ones before those of the changes on a conflict,
assigned ones before those that rows are found by, and those of `WHERE` before those of `HAVING`. -/
def parameters : Composition → List Value
  | select r _ _ clauses => clauses.bound r.scope
  | insert t _ data onConflict =>
    data.bound t.columns ++ onConflict.elim [] fun changes => changes.bound t.plainColumns
  | change t changes key _ => changes.bound t.plainColumns ++ key
  | lookup _ key _ => key
  | remove _ key _ => key
  | changeWhere t condition changes => changes.bound t.columns ++ condition.bound t.scope
  | removeWhere t condition => condition.bound t.scope

def RawAvoids (slots : Bool) : Composition → Prop
  | select _ _ _ clauses => clauses.RawAvoids slots
  | insert .. | change .. | lookup .. | remove .. => True
  | changeWhere _ condition _ => condition.RawAvoids slots
  | removeWhere _ condition => condition.RawAvoids slots

variable {d : Dialect} {f : Fragment}

theorem fragment_carries {c : Composition} (hraw : c.RawAvoids slots) (h : c.fragment d = .ok f) :
    f.Carries slots c.parameters := by
  cases c with
  | select r hr projection clauses => exact hr.plain.select_carries hraw h
  | insert t mode data onConflict => exact t.insertion_carries h
  | change t changes key hkey => exact t.change_carries hkey.length h
  | lookup t key hkey =>
    cases h
    exact t.lookup_carries hkey.length
  | remove t key hkey =>
    cases h
    exact t.removal_carries hkey.length
  | changeWhere t condition changes => exact t.changeWhere_carries hraw h
  | removeWhere t condition => exact t.removalWhere_carries hraw h

/-- The placeholders that a reader of the dialect finds outside of quoted names are as many as the
bound values, and handing the values out to them in turn puts each back into its own slot. -/
theorem placeholders_are_slots (c : Composition) (hraw : c.RawAvoids true)
    (h : c.fragment d = .ok f) :
    f.values = c.parameters ∧
      ∃ ls, d.lexemes (f.text d) = some ls ∧
        ls.count (.char placeholder) = f.values.length ∧
        handOut ls f.values = some f.lexemes ∧
        ∀ s, f.statement? d = some s →
          s.sql = f.text d ∧ List.Forall₂ (fun v p => v.toDatum? = some p) f.values s.params := by
  have hf : f.Carries true c.parameters := fragment_carries hraw h
  -- reading the text and handing the values out to it gives the pieces back
  obtain ⟨ls, hls, hout⟩ := Option.bind_eq_some_iff.1 (Fragment.read_text d hf.separate)
  refine ⟨hf.values_eq, ls, hls, count_placeholder_of_handOut hout, hout, fun s hs => ?_⟩
  obtain ⟨params, hparams, rfl⟩ := Option.map_eq_some_iff.1 hs
  exact ⟨rfl, mapM_eq_some.1 hparams⟩

/-- An update where all names hold marks, and a predicate is written out. -/
def hostileUpdate : Composition :=
  changeWhere ⟨⟨"o]d\"d?", ["i]]d?", "na\"me?"], ["i]]d?"], []⟩, "?"⟩
    (.all [.fields (.ofList [("i]]d?", .comparison (.among [.int32 (some 1), .int32 (some 2)]))]),
      .raw "archived = 0"])
    (FieldMap.ofList [("na\"me?", .value (.text (some "?")))]).supply

theorem placeholders_are_slots_hostileUpdate :
    ∃ f ls, hostileUpdate.fragment .mssql = .ok f ∧
      Dialect.mssql.lexemes (f.text .mssql) = some ls ∧ ls.count (.char placeholder) = 3 ∧
      handOut ls [.text (some "?"), .int32 (some 1), .int32 (some 2)] = some f.lexemes := by
  have hwritten : Avoids true "archived = 0" := avoids_of_isPlainWord (by decide)
  have hraw : hostileUpdate.RawAvoids true := ⟨trivial, hwritten, trivial⟩
  have hok : hostileUpdate.fragment .mssql = .ok _ := rfl
  obtain ⟨hvalues, ls, hls, hcount, hout, -⟩ := placeholders_are_slots hostileUpdate hraw hok
  have hparams :
      hostileUpdate.parameters = [.text (some "?"), .int32 (some 1), .int32 (some 2)] := rfl
  rw [hvalues, hparams] at hcount hout
  exact ⟨_, ls, hok, hls, hcount, hout⟩

end Composition
end SqlMapper
