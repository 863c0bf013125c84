import SqlMapper.Proofs.Gateway.Addressing

namespace SqlMapper

variable {σ α β : Type}

namespace Column

variable {c b : Column} {f g : Fragment}

/-- A reference is read off the front of whatever it leads. -/
theorem eq_of_reference_append (h : c.reference ++ f = b.reference ++ g) :
    c.qualifier = b.qualifier ∧ c.name = b.name := by
  unfold reference at h
  split at h
  · rename_i hc
    split at h
    · rename_i hb
      rw [String.isEmpty_iff] at hc hb
      exact ⟨hc.trans hb.symm, Piece.name.inj (List.cons.inj h).1⟩
    · cases (List.cons.inj h).1
  · split at h
    · cases (List.cons.inj h).1
    · have hrest := (List.cons.inj h).2
      have hqualifier := Piece.word.inj (List.cons.inj h).1
      exact ⟨String.append_left_inj _ |>.1 hqualifier, Piece.name.inj (List.cons.inj hrest).1⟩

/-- Whatever was read, the label is made of alias and name. -/
theorem read_eq (raw fallback delimiter : String) :
    read raw fallback delimiter = qualified (read raw fallback delimiter).qualifier
      (read raw fallback delimiter).name delimiter := by
  unfold read
  split
  · split
    · rfl
    · rfl
  · rfl

end Column

namespace Fragment

variable {w : String} {item : β → Fragment} {ps qs : List β}

/-- Parts behind separators can be told apart if they can by how they begin. -/
theorem flatMap_word_injective
    (hitem : ∀ p ∈ ps, ∀ q ∈ qs, ∀ f g, item p ++ f = item q ++ g → p = q)
    (h : (ps.flatMap fun p => .word w :: item p) = qs.flatMap fun q => .word w :: item q) :
    ps = qs := by
  induction ps generalizing qs with
  | nil =>
    cases qs with
    | nil => rfl
    | cons q qs => simp at h
  | cons p ps ih =>
    cases qs with
    | nil => simp at h
    | cons q qs =>
      simp only [List.flatMap_cons, List.cons_append, List.cons.injEq, true_and] at h
      obtain rfl : p = q := hitem p (List.mem_cons_self ..) q (List.mem_cons_self ..) _ _ h
      have hrest : ps = qs :=
        ih (fun r hr s hs => hitem r (List.mem_cons_of_mem _ hr) s (List.mem_cons_of_mem _ hs))
          (List.append_cancel_left h)
      rw [hrest]

theorem joined_map_injective
    (hitem : ∀ p ∈ ps, ∀ q ∈ qs, ∀ f g, item p ++ f = item q ++ g → p = q) (hps : ps ≠ [])
    (hqs : qs ≠ []) (h : joined w (ps.map item) = joined w (qs.map item)) : ps = qs := by
  -- with one more separator in front, all parts look alike
  have hall {rs : List β} (hrs : rs ≠ []) :
      .word w :: joined w (rs.map item) = rs.flatMap fun r => .word w :: item r := by
    obtain ⟨r, rest, rfl⟩ := List.exists_cons_of_ne_nil hrs
    rw [List.map_cons, joined_cons, List.flatMap_map, List.flatMap_cons, List.cons_append]
  refine flatMap_word_injective (w := w) hitem ?_
  rw [← hall hps, ← hall hqs, h]

end Fragment

namespace Supplied

variable {u : Supplied}

/-- An update takes all but comparisons. -/
def IsAssignable (u : Supplied) : Prop := ∀ q, u ≠ .comparison q

/-- The assignment of what is supplied for a column. -/
def assignment (c : Column) : Supplied → Fragment
  | value v => c.reference ++ [.word "=", .slot v]
  | expression e => e.assignment c.reference
  | comparison _ => []

theorem updateSlot_eq (h : u.IsAssignable) (c : Column) :
    u.updateSlot c = .ok (.written (u.assignment c)) := by
  cases u with
  | value v => rfl
  | expression e => cases e <;> rfl
  | comparison q => exact absurd rfl (h q)

theorem exists_assignment_eq (h : u.IsAssignable) (c : Column) :
    ∃ f, u.assignment c = c.reference ++ f := by
  cases u with
  | value v => exact ⟨_, rfl⟩
  | expression e =>
    show ∃ f, e.assignment c.reference = c.reference ++ f
    unfold Expression.assignment
    split
    · exact ⟨_, List.append_assoc ..⟩
    · exact ⟨_, rfl⟩
  | comparison q => exact absurd rfl (h q)

end Supplied

/-- The data supplies plain values and expressions only. -/
def Supply.Assignable (data : Supply) : Prop := ∀ name u, data name = some u → u.IsAssignable

namespace Table

variable {t : Table} {data : Supply} {c b : Column} {columns : List Column}

/-- The columns that are not declared to be of the key. -/
def otherColumns (t : Table) : List Column := t.columns.filter fun c => !t.schema.isKey c.label

/-- The assignments from the data to the columns among some that it sets, in their order, unless it
sets none of them. -/
def listed (data : Supply) (columns : List Column) : Except Error Fragment :=
  if data.assigned columns = [] then .error (.schema .noValue)
  else .ok (Fragment.joined ", " ((data.assigned columns).map fun p => p.2.assignment p.1))

theorem assignmentsTo_eq_listed (hdata : data.Assignable) (columns : List Column) :
    assignmentsTo columns data = listed data columns := by
  have hslots : data.slots .update columns =
      .ok ((data.assigned columns).map fun p => .written (p.2.assignment p.1)) := by
    refine mapM_eq_ok.2 (List.forall₂_map_right_iff.2 (List.forall₂_same.2 fun p hp => ?_))
    exact Supplied.updateSlot_eq (hdata _ _ (Supply.mem_assigned.1 hp).2) p.1
  unfold assignmentsTo listed
  rw [hslots]
  split
  · rename_i hnil
    rw [hnil]
    rfl
  · rename_i hne
    refine bind_eq_ok.2 ⟨_, rfl, guard_eq_ok.2 ⟨by simpa using hne, ?_⟩⟩
    rw [List.map_map]
    rfl

theorem eq_of_mem_columns (hc : c ∈ t.columns) (hb : b ∈ t.columns)
    (hqualifier : c.qualifier = b.qualifier) (hname : c.name = b.name) : c = b := by
  obtain ⟨raw, -, rfl⟩ := List.mem_map.1 hc
  obtain ⟨raw', -, rfl⟩ := List.mem_map.1 hb
  rw [Column.read_eq raw, Column.read_eq raw', hqualifier, hname]

/-- Which columns a list assigns can be told from the list. -/
theorem listed_injective {columns' : List Column} (hdata : data.Assignable)
    (hcolumns : ∀ c ∈ columns, c ∈ t.columns) (hcolumns' : ∀ c ∈ columns', c ∈ t.columns)
    (h : listed data columns = listed data columns') :
    data.assigned columns = data.assigned columns' := by
  unfold listed at h
  split_ifs at h with hnil hnil' hnil'
  · rw [hnil, hnil']
  · refine Fragment.joined_map_injective (fun p hp q hq f g he => ?_) hnil hnil' (Except.ok.inj h)
    obtain ⟨hpc, hpu⟩ := Supply.mem_assigned.1 hp
    obtain ⟨hqc, hqu⟩ := Supply.mem_assigned.1 hq
    obtain ⟨f', hf⟩ := Supplied.exists_assignment_eq (hdata _ _ hpu) p.1
    obtain ⟨g', hg⟩ := Supplied.exists_assignment_eq (hdata _ _ hqu) q.1
    -- both begin with the reference to their column
    rw [hf, hg, List.append_assoc, List.append_assoc] at he
    obtain ⟨hqualifier, hname⟩ := Column.eq_of_reference_append he
    have hcolumn : p.1 = q.1 :=
      eq_of_mem_columns (hcolumns _ hpc) (hcolumns' _ hqc) hqualifier hname
    rw [hcolumn, hqu] at hpu
    exact Prod.ext hcolumn (Option.some.inj hpu).symm

theorem assigned_eq_iff : data.assigned t.plainColumns = data.assigned t.otherColumns ↔
    ∀ c ∈ t.columns, (data c.label).isSome → t.schema.isKey c.name = t.schema.isKey c.label := by
  constructor
  · intro h c hc hset
    obtain ⟨u, hu⟩ := Option.isSome_iff_exists.1 hset
    -- being set, the column is assigned just where it is not left out
    have hmem : c ∈ t.plainColumns ↔ c ∈ t.otherColumns :=
      ⟨fun hp => (Supply.mem_assigned.1 (h ▸ Supply.mem_assigned.2 ⟨hp, hu⟩)).1,
        fun ho => (Supply.mem_assigned.1 (h ▸ Supply.mem_assigned.2 ⟨ho, hu⟩)).1⟩
    simp only [plainColumns, otherColumns, List.mem_filter, hc, true_and, Bool.not_eq_true'] at hmem
    rw [Bool.eq_iff_iff, ← not_iff_not, Bool.not_eq_true, Bool.not_eq_true]
    exact hmem
  · intro h
    unfold Supply.assigned plainColumns otherColumns
    rw [List.filterMap_filter, List.filterMap_filter]
    refine List.filterMap_congr fun c hc => ?_
    cases hu : data c.label with
    | none => simp
    | some u => rw [h c hc (by simp [hu])]

theorem listed_eq_iff (hdata : data.Assignable) :
    listed data t.plainColumns = listed data t.otherColumns ↔
      ∀ c ∈ t.columns, (data c.label).isSome →
        t.schema.isKey c.name = t.schema.isKey c.label := by
  rw [← assigned_eq_iff]
  refine ⟨listed_injective hdata (fun c => List.mem_of_mem_filter)
    fun c => List.mem_of_mem_filter, fun h => ?_⟩
  unfold listed
  rw [h]

theorem labels_assigned (t : Table) (data : Supply) :
    (data.assigned t.otherColumns).map (·.1.label) =
      t.schema.columns.filter fun name => !t.schema.isKey name && (data name).isSome := by
  unfold Supply.assigned otherColumns columns
  rw [List.filterMap_filter, List.filterMap_map, List.map_filterMap, ← List.filterMap_eq_filter]
  refine List.filterMap_congr fun name _ => ?_
  -- a column is known to the data by the name that it was read from
  dsimp only [Function.comp_apply]
  rw [Column.label_read]
  cases hkey : t.schema.isKey name with
  | true => simp [Option.guard, hkey]
  | false => cases hdata : data name <;> simp [Option.guard, hkey, hdata, Column.label_read]

/-- What an update assigns from: changes of their own if these set a column beside the key, and
otherwise the data that gives the key. -/
inductive Chosen (t : Table) (data : Supply) : Option Supply → Supply → Prop
  | own {own : Supply} (h : own.assigned t.otherColumns ≠ []) : Chosen t data (some own) own
  | data {changes : Option Supply}
    (h : ∀ own, changes = some own → own.assigned t.otherColumns = []) : Chosen t data changes data

theorem setsPlain_iff : t.setsPlain data ↔ data.assigned t.otherColumns ≠ [] := by
  rw [Ne, Supply.assigned, List.filterMap_eq_nil_iff, setsPlain, List.any_eq_true]
  simp only [otherColumns, columns, List.mem_filter, List.mem_map, Option.map_eq_none_iff]
  constructor
  · rintro ⟨name, hname, hset⟩ hnone
    rw [Bool.and_eq_true] at hset
    have hnone := hnone (Column.read name "" t.delimiter)
      ⟨⟨name, hname, rfl⟩, by rw [Column.label_read]; exact hset.1⟩
    rw [Column.label_read] at hnone
    simp [hnone] at hset
  · intro h
    by_contra hall
    refine h fun c hc => ?_
    obtain ⟨⟨name, hname, rfl⟩, hother⟩ := hc
    rw [Column.label_read] at hother ⊢
    by_contra hset
    exact hall ⟨name, hname, by simp [hother, Option.isSome_iff_ne_none, hset]⟩

theorem Chosen.source_eq {changes : Option Supply} {source : Supply} (h : t.Chosen data changes source) :
    (changes.filter t.setsPlain).getD data = source := by
  cases h with
  | own h =>
    show (if t.setsPlain source then some source else none).getD data = source
    rw [if_pos (setsPlain_iff.2 h)]
    rfl
  | data h =>
    cases changes with
    | none => rfl
    | some own =>
      have hnot : ¬t.setsPlain own := fun hsets => setsPlain_iff.1 hsets (h own rfl)
      show (if t.setsPlain own then some own else none).getD _ = _
      rw [if_neg hnot]
      rfl

/-- What stands around the assignments of the update of the row with a key. -/
def changeFrame (t : Table) (key : List Value) (list : Fragment) : Fragment :=
  .word "UPDATE " :: t.name ++ .word " SET " :: list ++ .word " WHERE " :: t.keyPredicate key

/-- What stands around the assignments of an upsert: an insert before them. -/
def upsertFrame (t : Table) (d : Dialect) (front list : Fragment) : Fragment :=
  front ++ .word " " :: d.onConflict t.schema.primaryKey ++ .word " " :: list

theorem change_eq_map (t : Table) (source : Supply) (key : List Value) :
    t.change source key = (t.assignments source).map (t.changeFrame key) := by
  unfold change
  cases t.assignments source <;> rfl

theorem insertion_eq_map {d : Dialect} {mode : InsertMode} {front : Fragment}
    (h : t.insertion d mode data none = .ok front) (source : Supply) :
    t.insertion d mode data (some source) =
      (t.assignments source).map (t.upsertFrame d front) := by
  obtain ⟨found, hfound, h⟩ := bind_eq_ok.1 h
  obtain ⟨hne, h⟩ := guard_eq_ok.1 h
  cases h
  -- the front does not depend on what follows it
  unfold insertion
  rw [hfound]
  show (if found.isEmpty then _ else _) = _
  rw [if_neg hne]
  cases t.assignments source <;> rfl

end Table

namespace Gateway

variable {g : Gateway σ α} {x : Session σ Error (Option α)} {source : Supply}
  {frame : Fragment → Fragment}

/-- The requests that assign, with what they assign from and what stands around the assignments. -/
inductive Assigns (g : Gateway σ α) :
    Session σ Error (Option α) → Supply → (Fragment → Fragment) → Prop
  | change {data source : Supply} {changes : Option Supply} {key : List Value}
    (hkey : g.schema.keyIn data = .ok key) (hsource : g.table.Chosen data changes source) :
    Assigns g (g.change data changes) source (g.table.changeFrame key)
  | addOrChange {data : Supply} {changes : Option Supply} {front : Fragment}
    (hfront : g.table.insertion g.database.dialect .plain data none = .ok front) :
    Assigns g (g.addOrChange data changes) (changes.getD data)
      (g.table.upsertFrame g.database.dialect front)

/-- Without assignments nothing is sent; otherwise they are sent first, in their frame. -/
structure Sends (g : Gateway σ α) (x : Session σ Error (Option α)) (frame : Fragment → Fragment)
    (assignments : Except Error Fragment) : Prop where
  failed : ∀ e, assignments = .error e → ∀ s, x.seen s = ⟨.error e, [], s⟩
  sent : ∀ list q, assignments = .ok list → (frame list).statement? g.database.dialect = some q →
    ∀ s, ∃ later, (x.seen s).calls = q :: later

theorem sends_of_eq {k : Nat → Session σ Error (Option α)} {assignments : Except Error Fragment}
    (h : x = Session.ofExcept (assignments.map frame) >>= fun f => g.execute f >>= k) :
    g.Sends x frame assignments where
  failed e he s := by
    rw [h, he]
    exact Session.seen_bind_of_error (Session.seen_ofExcept _ s)
  sent list q hlist hq s := by
    obtain ⟨later, hlater⟩ := Session.exists_calls_bind (f := k) (calls_execute hq s)
    have hframe : (Except.ok list : Except Error Fragment).map frame = .ok (frame list) := rfl
    refine ⟨later, ?_⟩
    rw [h, hlist, hframe, Session.seen_bind_of_ok (Session.seen_ofExcept _ s)]
    exact hlater

theorem Assigns.sends (h : g.Assigns x source frame) :
    g.Sends x frame (g.table.assignments source) := by
  cases h with
  | change hkey hsource =>
    apply sends_of_eq
    unfold Gateway.change
    simp only [hsource.source_eq]
    rw [hkey, ← Table.change_eq_map]
    exact pure_bind _ _
  | addOrChange hfront =>
    apply sends_of_eq
    unfold Gateway.addOrChange insert
    rw [Table.insertion_eq_map hfront]

/-- Updates and upserts assign all columns that the source sets but those whose names in statements
are names of key columns. That is, they assign the columns that it sets and that are declared
outside of the key, each once and in their order, just if for each column that it sets both names
belong to the key or neither does. -/
theorem assigns_others_iff (hg : g.schema.checked = .ok g.schema) (h : g.Assigns x source frame)
    (hsource : source.Assignable) :
    g.Sends x frame (g.table.assignments source) ∧
    g.table.assignments source = Table.listed source g.table.plainColumns ∧
    (g.table.assignments source = Table.listed source g.table.otherColumns ↔
      ∀ c ∈ g.table.columns, (source c.label).isSome →
        g.schema.isKey c.name = g.schema.isKey c.label) ∧
    (source.assigned g.table.otherColumns).map (·.1.label) =
      g.schema.columns.filter (fun name => !g.schema.isKey name && (source name).isSome) ∧
    ((source.assigned g.table.otherColumns).map (·.1.label)).Nodup := by
  have hlisted : g.table.assignments source = Table.listed source g.table.plainColumns :=
    Table.assignmentsTo_eq_listed hsource _
  have hlabels := g.table.labels_assigned source
  refine ⟨h.sends, hlisted, ?_, hlabels, ?_⟩
  · rw [hlisted]
    exact Table.listed_eq_iff hsource
  · rw [hlabels]
    exact (Schema.nodup_columns_of_checked hg).filter _

/-- The second member of the first group, as its owner. -/
def owner : Supply :=
  (FieldMap.ofList [("group_id", .value (membership "group_id")),
    ("user_id", .value (membership "user_id")), ("role", .value (.text (some "owner")))]).supply

theorem assignable_owner : owner.Assignable := by
  intro name u hu q hq
  subst hq
  simpa using FieldMap.mem_of_supply_ofList hu

/-- The change of a member assigns its role, and nothing else. -/
theorem assigns_others_iff_memberships :
    ∃ later, ((memberships.change owner none).seen []).calls =
      ⟨"UPDATE \"memberships\" SET \"role\"=? WHERE \"group_id\"=? AND \"user_id\"=?",
        [.text (some "owner"), .int64 (some 1), .int64 (some 2)]⟩ :: later := by
  have hassigns : memberships.Assigns (memberships.change owner none) owner
      (memberships.table.changeFrame [.int64 (some 1), .int64 (some 2)]) :=
    .change rfl (.data fun own h => by cases h)
  obtain ⟨hsends, -, hiff, -⟩ := assigns_others_iff (by decide) hassigns assignable_owner
  exact hsends.sent _ _ (hiff.2 (by decide)) (by decide) []

/-- Where an underscore ends an alias, the key columns of members are all taken for columns of the
name `id`. -/
def aliasedMemberships : Gateway (List Reply) Row :=
  ⟨⟨Script.connection [], .sqlite, "_"⟩, memberships.schema, fun row => .ok row⟩

/-- The change of a member assigns its key. -/
theorem key_assigned_to_aliasedMemberships :
    aliasedMemberships.Assigns (aliasedMemberships.change owner none) owner
        (aliasedMemberships.table.changeFrame [.int64 (some 1), .int64 (some 2)]) ∧
      aliasedMemberships.schema.checked = .ok aliasedMemberships.schema ∧ owner.Assignable ∧
      ((aliasedMemberships.change owner none).seen []).calls.head? =
        some ⟨"UPDATE \"memberships\" SET group.\"id\"=?, user.\"id\"=?, \"role\"=? " ++
            "WHERE \"group_id\"=? AND \"user_id\"=?",
          [.int64 (some 1), .int64 (some 2), .text (some "owner"), .int64 (some 1),
            .int64 (some 2)]⟩ ∧
      aliasedMemberships.table.assignments owner ≠
        Table.listed owner aliasedMemberships.table.otherColumns :=
  ⟨.change rfl (.data fun own h => by cases h), by decide, assignable_owner, by decide, by decide⟩

end Gateway
end SqlMapper
