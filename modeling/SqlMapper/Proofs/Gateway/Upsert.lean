import SqlMapper.Proofs.Gateway.Addressing
import SqlMapper.Proofs.Gateway.Insertion
/-! Reading an upserted row back. The row is looked for by the plain values of the data, wherever its
values come from: an inserted row has those of the data, but one that was there before has what the
changes assign, and keeps what they leave alone. -/
namespace SqlMapper

variable {σ α : Type} {stage : Stage}

/-- The values of a row by the names of its columns. -/
abbrev Cells := String → Value

/-- The row has the wanted values, by what the database takes for equal. -/
def meets (equal : Value → Value → Bool) (wanted : List (Column × Value)) (row : Cells) : Bool :=
  wanted.all fun p => equal (row p.1.label) p.2

namespace Table

variable {t : Table} {data changes : Supply} {equal : Value → Value → Bool} {rows rows' : List Cells}
  {old : Option Cells} {new row : Cells}

/-- The columns for which the data supplies plain values, with these. -/
def wanted (t : Table) (data : Supply) : List (Column × Value) :=
  t.columns.filterMap fun c => (data.plain? c.label).map fun v => (c, v)

theorem mem_wanted {p : Column × Value} :
    p ∈ t.wanted data ↔ p.1 ∈ t.columns ∧ data.plain? p.1.label = some p.2 := by
  simp only [wanted, List.mem_filterMap, Option.map_eq_some_iff]
  constructor
  · rintro ⟨c, hc, v, hv, rfl⟩
    exact ⟨hc, hv⟩
  · rintro ⟨hc, hv⟩
    exact ⟨p.1, hc, p.2, hv, rfl⟩

theorem mem_wanted_of_name {name : String} {v : Value} (hname : name ∈ t.schema.columns)
    (hv : data.plain? name = some v) : (Column.read name "" t.delimiter, v) ∈ t.wanted data := by
  refine mem_wanted.2 ⟨List.mem_map_of_mem hname, ?_⟩
  rw [Column.label_read]
  exact hv

theorem assigned_plainValues (t : Table) (data : Supply) :
    (t.plainValues data).supply.assigned t.columns =
      (t.wanted data).map fun p => (p.1, .value p.2) := by
  unfold Supply.assigned wanted
  rw [List.map_filterMap]
  refine List.filterMap_congr fun c hc => ?_
  obtain ⟨name, hname, rfl⟩ := List.mem_map.1 hc
  rw [supply_plainValues_eq, Column.label_read, if_pos hname, Option.map_map, Option.map_map]
  rfl

/-- The predicate that finds the rows with the wanted values. -/
def wantedPredicate (t : Table) (data : Supply) : Fragment :=
  Fragment.joined " AND "
    ((t.wanted data).map fun p => p.1.reference ++ [.word "=", .slot p.2])

theorem predicate_plainValues (t : Table) (data : Supply) :
    (t.plainValues data).supply.predicate t.columns = .ok (t.wantedPredicate data) := by
  refine bind_eq_ok.2 ⟨_, mapM_eq_ok.2 ?_, rfl⟩
  rw [assigned_plainValues, List.forall₂_map_left_iff, List.forall₂_map_right_iff,
    List.forall₂_same]
  exact fun p _ => rfl

theorem text_wantedPredicate (d : Dialect) (t : Table) (data : Supply) :
    (t.wantedPredicate data).text d =
      " AND ".intercalate ((t.wanted data).map fun p => p.1.reference.text d ++ "=?") := by
  rw [wantedPredicate, Fragment.text_joined, List.map_map]
  congr 1
  refine List.map_congr_left fun p _ => ?_
  show Fragment.text d (p.1.reference ++ [.word "=", .slot p.2]) = _
  rw [Fragment.text_append]
  rfl

theorem wantedPredicate_carries {slots : Bool} (t : Table) (data : Supply) :
    (t.wantedPredicate data).Carries slots ((t.wanted data).map (·.2)) := by
  have hbound : (t.plainValues data).supply.bound t.columns = (t.wanted data).map (·.2) := by
    rw [Supply.bound, assigned_plainValues, List.flatMap_map, List.map_eq_flatMap]
    rfl
  rw [← hbound]
  exact Supply.predicate_carries
    (fun p hp => Column.reference_carries
      (t.scope_wellQualified.columns p.1 (Supply.mem_of_mem_assigned hp)))
    (t.predicate_plainValues data)

/-- The query for the rows with the wanted values. -/
def wantedQuery (t : Table) (data : Supply) : Fragment :=
  [.word "SELECT ", .word "*", .word " ", .word "FROM "] ++ t.name ++
    .word " WHERE " :: t.wantedPredicate data

theorem wantedQuery_carries {slots : Bool} (t : Table) (data : Supply) :
    (t.wantedQuery data).Carries slots ((t.wanted data).map (·.2)) :=
  t.name_carries.word_cons.word_cons.word_cons.word_cons.append_word
    (t.wantedPredicate_carries data)

theorem text_wantedQuery (d : Dialect) (t : Table) (data : Supply) :
    (t.wantedQuery data).text d = "SELECT * FROM " ++ d.quoted t.schema.table ++ " WHERE " ++
      " AND ".intercalate ((t.wanted data).map fun p => p.1.reference.text d ++ "=?") := by
  have hfront : Fragment.text d [.word "SELECT ", .word "*", .word " ", .word "FROM "] =
      "SELECT * FROM " := rfl
  rw [wantedQuery, Fragment.text_append, Fragment.text_append, hfront, Fragment.text_word_cons,
    text_name, text_wantedPredicate, ← String.append_assoc]

/-- The row has the key that the data supplies. -/
def HasKey (t : Table) (equal : Value → Value → Bool) (data : Supply) (row : Cells) : Prop :=
  ∀ k ∈ t.schema.primaryKey, ∀ v, data.plain? k = some v → equal (row k) v

/-- The new row is the old one with the changes assigned to it. -/
structure Assigned (t : Table) (changes : Supply) (old new : Cells) : Prop where
  value : ∀ c v, (c, .value v) ∈ changes.assigned t.plainColumns → new c.label = v
  kept : ∀ c ∈ t.columns, c ∉ t.plainColumns ∨ changes c.label = none → new c.label = old c.label

/-- What an upsert makes of the rows of a table, of which at most one has the key of the data: it
inserts a new row with the plain values of the data, or makes a new row of the old one. -/
inductive Upserts (t : Table) (equal : Value → Value → Bool) (data changes : Supply) :
    List Cells → List Cells → Option Cells → Cells → Prop
  | inserted (before after : List Cells) {new : Cells}
    (hothers : ∀ row ∈ before ++ after, ¬t.HasKey equal data row)
    (hnew : ∀ p ∈ t.wanted data, new p.1.label = p.2) :
    Upserts t equal data changes (before ++ after) (before ++ new :: after) none new
  | changed (before after : List Cells) {old new : Cells}
    (hothers : ∀ row ∈ before ++ after, ¬t.HasKey equal data row)
    (hold : t.HasKey equal data old) (hnew : t.Assigned changes old new) :
    Upserts t equal data changes (before ++ old :: after) (before ++ new :: after) (some old) new

/-- The changes, and the old row where they leave it alone, have the plain values of the data. -/
def Agrees (t : Table) (equal : Value → Value → Bool) (data changes : Supply) (old : Cells) : Prop :=
  ∀ p ∈ t.wanted data,
    (∀ v, (p.1, .value v) ∈ changes.assigned t.plainColumns → equal v p.2) ∧
      (p.1 ∉ t.plainColumns ∨ changes p.1.label = none → equal (old p.1.label) p.2)

theorem hasKey_of_meets (hs : t.schema.Consistent) (h : meets equal (t.wanted data) row) :
    t.HasKey equal data row := by
  intro k hk v hv
  have hcolumn : k ∈ t.schema.columns := hs.declared k (List.mem_append_left _ hk)
  have hmeets := List.all_eq_true.1 h _ (mem_wanted_of_name hcolumn hv)
  rwa [Column.label_read] at hmeets

/-- Of all rows after the upsert, at most the new one meets the predicate. -/
theorem Upserts.filter_meets (hs : t.schema.Consistent)
    (h : t.Upserts equal data changes rows rows' old new) :
    rows'.filter (meets equal (t.wanted data)) =
      if meets equal (t.wanted data) new then [new] else [] := by
  have hsplit : ∃ before after, rows' = before ++ new :: after ∧
      ∀ row ∈ before ++ after, ¬t.HasKey equal data row := by
    cases h with
    | inserted before after hothers _ => exact ⟨before, after, rfl, hothers⟩
    | changed before after hothers _ _ => exact ⟨before, after, rfl, hothers⟩
  obtain ⟨before, after, rfl, hothers⟩ := hsplit
  -- all other rows lack the key, so they cannot meet a predicate that asks for it
  have hnone {part : List Cells} (hpart : ∀ row ∈ part, row ∈ before ++ after) :
      part.filter (meets equal (t.wanted data)) = [] :=
    List.filter_eq_nil_iff.2 fun row hrow hmeets =>
      hothers row (hpart row hrow) (hasKey_of_meets hs hmeets)
  rw [List.filter_append, List.filter_cons, hnone fun row => List.mem_append_left _,
    hnone fun row => List.mem_append_right _]
  rfl

/-- A changed row has the wanted values just if changes and old row have them. -/
theorem Assigned.meets_iff {old : Cells} (h : t.Assigned changes old new)
    (hplain : ∀ p ∈ t.wanted data, ∀ u, changes p.1.label = some u → ∃ v, u = .value v) :
    meets equal (t.wanted data) new ↔ t.Agrees equal data changes old := by
  unfold meets Agrees
  rw [List.all_eq_true]
  refine forall₂_congr fun p hp => ?_
  have hcolumn : p.1 ∈ t.columns := (mem_wanted.1 hp).1
  by_cases hkept : p.1 ∉ t.plainColumns ∨ changes p.1.label = none
  · -- nothing is assigned to the column
    have hnone : ∀ v, (p.1, .value v) ∉ changes.assigned t.plainColumns := by
      intro v hv
      obtain ⟨hc, hsome⟩ := Supply.mem_assigned.1 hv
      rcases hkept with hnot | hnot
      · exact hnot hc
      · rw [hnot] at hsome
        cases hsome
    rw [h.kept p.1 hcolumn hkept]
    exact ⟨fun he => ⟨fun v hv => absurd hv (hnone v), fun _ => he⟩, fun he => he.2 hkept⟩
  · -- one plain value is assigned to it, which the new row has
    obtain ⟨hc, hsome⟩ := not_or.1 hkept
    obtain ⟨u, hu⟩ := Option.ne_none_iff_exists'.1 hsome
    obtain ⟨v, rfl⟩ := hplain p hp u hu
    have hv := Supply.mem_assigned.2 ⟨not_not.1 hc, hu⟩
    rw [h.value p.1 v hv]
    refine ⟨fun he => ⟨fun w hw => ?_, fun hnot => absurd hnot hkept⟩, fun he => he.1 v hv⟩
    have hw := (Supply.mem_assigned.1 hw).2
    rw [hu] at hw
    cases hw
    exact he

/-- The data itself agrees with every row that has its key, if the key columns are known by their
names. -/
theorem agrees_of_hasKey {old : Cells} (hold : t.HasKey equal data old)
    (hequal : ∀ p ∈ t.wanted data, equal p.2 p.2)
    (hnames : ∀ c ∈ t.columns, t.schema.isKey c.name → c.label ∈ t.schema.primaryKey) :
    t.Agrees equal data data old := by
  intro p hp
  obtain ⟨hcolumn, hwanted⟩ := mem_wanted.1 hp
  have hdata := (Supply.plain?_eq_some.1 hwanted).1
  constructor
  · intro v hv
    have he := (Supply.mem_assigned.1 hv).2
    rw [hdata] at he
    cases he
    exact hequal p hp
  · rintro (hkey | hnone)
    · -- what the data leaves alone is in the key, where the old row agrees
      have hkey : t.schema.isKey p.1.name := by
        simpa [plainColumns, hcolumn] using hkey
      exact hold _ (hnames p.1 hcolumn hkey) _ hwanted
    · rw [hdata] at hnone
      cases hnone

/-- An inserted row is found, and a changed one just if changes and old row have the values. -/
theorem Upserts.meets_iff (h : t.Upserts equal data changes rows rows' old new)
    (hequal : ∀ p ∈ t.wanted data, equal p.2 p.2)
    (hplain : ∀ p ∈ t.wanted data, ∀ u, changes p.1.label = some u → ∃ v, u = .value v) :
    meets equal (t.wanted data) new ↔
      ∀ row, old = some row → t.Agrees equal data changes row := by
  cases h with
  | inserted before after _ hnew =>
    refine iff_of_true (List.all_eq_true.2 fun p hp => ?_) fun row h => by cases h
    rw [hnew p hp]
    exact hequal p hp
  | changed before after _ _ hnew =>
    rw [hnew.meets_iff hplain]
    refine ⟨fun hagrees row h => ?_, fun hagrees => hagrees _ rfl⟩
    cases h
    exact hagrees

end Table

theorem Relation.seen_collect (r : Relation α) {db : Database σ} {clauses : Clauses stage}
    {f : Fragment} {q : Statement} {s t : σ} {answer : Except Failure (List Row)}
    (hf : r.query r.projection clauses = .ok f) (hq : f.statement? db.dialect = some q)
    (hquery : db.connection.query q s = (answer, t)) :
    (r.collect db clauses).seen s = ⟨readRows r.decode q answer, [q], t⟩ := by
  have hstatement : (r.statement db clauses).seen s = ⟨.ok q, [], s⟩ := by
    unfold statement prepare
    rw [hf, Session.seen_bind_of_ok (Session.seen_ofExcept _ s), Database.seen_prepare hq]
    rfl
  unfold collect receive
  rw [bind_assoc, Session.seen_bind_of_ok hstatement, bind_assoc]
  cases answer with
  | error failure =>
    rw [Session.seen_bind_of_error (Database.seen_query hquery)]
    rfl
  | ok rows =>
    rw [Session.seen_bind_of_ok (Database.seen_query hquery), pure_bind]
    -- the items are those of all rows, unless one of them cannot be decoded
    have hrows : readRows r.decode q (.ok rows) = (rows.mapM r.decode).mapError .decode := rfl
    rw [hrows, mapM_eq_decodeRows]
    rcases decodeRows r.decode rows with ⟨items, _ | e⟩ <;> rfl

namespace Gateway

variable {g : Gateway σ α} {data : Supply} {changes : Option Supply} {q : Statement} {s t u : σ}
  {params : List Datum}

/-- The statement that selects the rows with the plain values of the data. -/
def selectWanted (g : Gateway σ α) (data : Supply) (params : List Datum) : Statement where
  sql := "SELECT * FROM " ++ g.database.dialect.quoted g.schema.table ++ " WHERE " ++
    " AND ".intercalate ((g.table.wanted data).map fun p =>
      p.1.reference.text g.database.dialect ++ "=?")
  params := params

theorem query_wanted (hne : g.table.wanted data ≠ []) :
    g.relation.query g.relation.projection (.filter (.fields (g.table.plainValues data))) =
      .ok (g.table.wantedQuery data) := by
  -- a predicate that binds a value is not left out
  have hblank : (g.table.wantedPredicate data).isBlank = false := by
    by_contra hblank
    have hcarries : (g.table.wantedPredicate data).Carries true _ :=
      g.table.wantedPredicate_carries data
    have hnil := Fragment.values_eq_nil_of_isBlank (Bool.not_eq_false _ ▸ hblank)
    rw [hcarries.values_eq, List.map_eq_nil_iff] at hnil
    exact hne hnil
  have hrender : Condition.render g.relation.scope (.fields (g.table.plainValues data)) =
      .ok (g.table.wantedPredicate data) := g.table.predicate_plainValues data
  unfold Relation.query Clauses.render
  rw [hrender]
  show Except.ok (_ ++ Clauses.conditional " WHERE " (g.table.wantedPredicate data)) = _
  rw [Clauses.conditional, hblank]
  rfl

theorem statement?_wanted
    (hparams : ((g.table.wanted data).map (·.2)).mapM Value.toDatum? = some params) :
    (g.table.wantedQuery data).statement? g.database.dialect =
      some (g.selectWanted data params) := by
  have hcarries : (g.table.wantedQuery data).Carries true _ := g.table.wantedQuery_carries data
  rw [hcarries.statement?_eq _ hparams, Table.text_wantedQuery]
  rfl

/-- Without a single generated column, the row that was added is the only one that is found by the
plain values of the data. -/
theorem seen_added_of_values {answer : Except Failure (List Row)}
    (ha : ∀ a, g.schema.autoIncrement ≠ [a]) (hne : g.table.wanted data ≠ [])
    (hparams : ((g.table.wanted data).map (·.2)).mapM Value.toDatum? = some params)
    (hquery : g.database.connection.query (g.selectWanted data params) s = (answer, t)) :
    (g.added data).seen s =
      ⟨g.sought (g.selectWanted data params) answer, [g.selectWanted data params], t⟩ := by
  have hmeeting : (g.meeting (.fields (g.table.plainValues data))).seen s =
      ⟨readRows g.decode (g.selectWanted data params) answer, [g.selectWanted data params], t⟩ :=
    g.relation.seen_collect (query_wanted hne) (statement?_wanted hparams) hquery
  unfold added sought
  split
  · rename_i a hone
    exact absurd hone (ha a)
  · cases hrows : readRows g.decode (g.selectWanted data params) answer with
    | error e =>
      rw [hrows] at hmeeting
      rw [Session.seen_bind_of_error hmeeting]
      rfl
    | ok found =>
      rw [hrows] at hmeeting
      rw [Session.seen_bind_of_ok hmeeting]
      match found with
      | [] => rfl
      | [b] => rfl
      | b :: c :: rest =>
        show _ = Seen.mk (Except.error (g.severalFound _)) _ _
        rw [severalFound_of_values ha]
        rfl

/-- The upsert of data with a whole key was run as `q` and reported a row, in a table without a
single generated column. -/
structure RunsUpsert (g : Gateway σ α) (data : Supply) (changes : Option Supply) (s : σ)
    (q : Statement) (t : σ) : Prop where
  checked : g.schema.checked = .ok g.schema
  generated : ∀ a, g.schema.autoIncrement ≠ [a]
  keyed : ∀ k ∈ g.schema.primaryKey, ∃ v, data.plain? k = some v
  plain : ∀ own, changes = some own → ∀ c u, own c = some u → ∃ v, u = .value v
  prepared : ∃ f, g.table.insertion g.database.dialect .plain data (some (changes.getD data)) =
    .ok f ∧ f.statement? g.database.dialect = some q
  executed : ∃ n, n ≠ 0 ∧ g.database.connection.exec q s = (.ok n, t)

namespace RunsUpsert

theorem wanted_ne_nil (h : g.RunsUpsert data changes s q t) : g.table.wanted data ≠ [] := by
  have hs := Schema.consistent_of_checked h.checked
  obtain ⟨k, hk⟩ := List.exists_mem_of_ne_nil _ hs.key
  obtain ⟨v, hv⟩ := h.keyed k hk
  have hcolumn : k ∈ g.schema.columns := hs.declared k (List.mem_append_left _ hk)
  exact List.ne_nil_of_mem (Table.mem_wanted_of_name (t := g.table) hcolumn hv)

/-- What is looked for has travelled with the insert. -/
theorem exists_params (h : g.RunsUpsert data changes s q t) :
    ∃ params, ((g.table.wanted data).map (·.2)).mapM Value.toDatum? = some params := by
  obtain ⟨f, hf, hq⟩ := h.prepared
  refine exists_mapM_eq_some (List.forall_mem_map.2 fun p hp => ?_)
  obtain ⟨hcolumn, hv⟩ := Table.mem_wanted.1 hp
  obtain ⟨name, hname, hp⟩ := List.mem_map.1 hcolumn
  have hlabel : p.1.label = name := by rw [← hp, Column.label_read]
  rw [hlabel] at hv
  exact Table.toDatum?_of_insertion hf hq hname (Supply.plain?_eq_some.1 hv).1

/-- Without changes of their own, the changes are the data itself. -/
theorem plain_changes (h : g.RunsUpsert data changes s q t) :
    ∀ p ∈ g.table.wanted data, ∀ u, (changes.getD data) p.1.label = some u →
      ∃ v, u = .value v := by
  intro p hp u hu
  cases changes with
  | some own => exact h.plain own rfl _ u hu
  | none =>
    have hv := (Supply.plain?_eq_some.1 (Table.mem_wanted.1 hp).2).1
    exact ⟨p.2, Option.some.inj (hu.symm.trans hv)⟩

end RunsUpsert

variable {equal : Value → Value → Bool} {rows rows' : List Cells} {old : Option Cells} {new : Cells}

/-- After an upsert the row with the key of the data is looked for by all plain values of the data.
An inserted row is found; one that was there before is found just if the changes and what it keeps
agree with the data, and is reported missing otherwise. -/
theorem finds_upserted_iff (h : g.RunsUpsert data changes s q t)
    (hrows : g.table.Upserts equal data (changes.getD data) rows rows' old new)
    (hequal : ∀ p ∈ g.table.wanted data, equal p.2 p.2) :
    (meets equal (g.table.wanted data) new ↔
      ∀ row, old = some row → g.table.Agrees equal data (changes.getD data) row) ∧
    ∃ params, ((g.table.wanted data).map (·.2)).mapM Value.toDatum? = some params ∧
      ∀ (read : Cells → α) (answer : List Row) (u : σ),
        g.database.connection.query (g.selectWanted data params) t = (.ok answer, u) →
        answer.mapM g.decode =
          .ok ((rows'.filter (meets equal (g.table.wanted data))).map read) →
        (g.addOrChange data changes).seen s =
          ⟨if meets equal (g.table.wanted data) new then .ok (some (read new))
            else .error (.addedRowNotFound g.schema.table),
            [q, g.selectWanted data params], u⟩ := by
  refine ⟨hrows.meets_iff hequal h.plain_changes, ?_⟩
  obtain ⟨params, hparams⟩ := h.exists_params
  refine ⟨params, hparams, fun read answer u hquery hdecoded => ?_⟩
  have hadded := seen_added_of_values h.generated h.wanted_ne_nil hparams hquery
  rw [sought_of_decoded hdecoded,
    hrows.filter_meets (Schema.consistent_of_checked h.checked)] at hadded
  obtain ⟨f, hf, hq⟩ := h.prepared
  obtain ⟨n, hn, hexec⟩ := h.executed
  have hinsert := seen_insert_of_added hf hq hexec hn hadded
  unfold addOrChange
  rw [hinsert]
  split <;> rfl

/-- Tags by their name, on a connection that answers from a script. -/
def tags : Gateway (List Reply) Row :=
  ⟨⟨Script.connection [], .sqlite, "::"⟩, ⟨"tags", ["name", "hits"], ["name"], []⟩,
    fun row => .ok row⟩

def newTag : Supply :=
  (FieldMap.ofList [("name", .value (.text (some "a"))), ("hits", .value (.int64 (some 1)))]).supply

def tagCells (hits : Int64) : Cells := fun column =>
  if column = "name" then .text (some "a") else .int64 (some hits)

def tagRow (hits : Int64) : Row := ⟨[("name", .text (some "a")), ("hits", .int64 (some hits))]⟩

/-- The upsert of the new tag, with the hits that the tag is given if it exists. -/
def upsertTag (hits : Int64) : Statement where
  sql := "INSERT INTO \"tags\" (\"name\",\"hits\") VALUES (?,?) " ++
    "ON CONFLICT (\"name\") DO UPDATE SET \"hits\"=?"
  params := [.text (some "a"), .int64 (some 1), .int64 (some hits)]

def selectNewTag : Statement where
  sql := "SELECT * FROM \"tags\" WHERE \"name\"=? AND \"hits\"=?"
  params := [.text (some "a"), .int64 (some 1)]

theorem hasKey_tagCells (hits : Int64) :
    tags.table.HasKey (fun v w => v = w) newTag (tagCells hits) := by
  intro k hk v hv
  obtain rfl : k = "name" := List.mem_singleton.1 hk
  cases hv
  exact decide_eq_true rfl

/-- A tag with three hits is given others. -/
theorem upserts_tags {changes : Supply} {hits : Int64}
    (h : changes "hits" = some (.value (.int64 (some hits)))) :
    tags.table.Upserts (fun v w => v = w) newTag changes [tagCells 3] [tagCells hits]
      (some (tagCells 3)) (tagCells hits) := by
  have hplain : tags.table.plainColumns = [⟨"", "hits", "hits"⟩] := by decide
  have hcolumns : tags.table.columns = [⟨"", "name", "name"⟩, ⟨"", "hits", "hits"⟩] := by decide
  refine .changed [] [] (by simp) (hasKey_tagCells 3) ⟨fun c v hv => ?_, fun c hc hkept => ?_⟩
  · obtain ⟨hc, hv⟩ := Supply.mem_assigned.1 hv
    rw [hplain] at hc
    obtain rfl := List.mem_singleton.1 hc
    rw [h] at hv
    cases hv
    rfl
  · rw [hcolumns, List.mem_pair] at hc
    rcases hc with rfl | rfl
    · rfl
    · simp [hplain, h] at hkept

def fiveHits : Supply := (FieldMap.ofList [("hits", .value (.int64 (some 5)))]).supply

theorem runsUpsert_tags {changes : Option Supply} {hits : Int64}
    (h : changes = none ∧ hits = 1 ∨ changes = some fiveHits ∧ hits = 5) (replies : List Reply) :
    tags.RunsUpsert newTag changes (.affected 1 :: replies) (upsertTag hits) replies where
  checked := by decide
  generated a ha := by cases ha
  keyed k hk := by
    obtain rfl : k = "name" := List.mem_singleton.1 hk
    exact ⟨_, rfl⟩
  plain own hown c u hu := by
    rcases h with ⟨rfl, -⟩ | ⟨rfl, -⟩
    · cases hown
    · cases hown
      obtain he := List.mem_singleton.1 (FieldMap.mem_of_supply_ofList hu)
      exact ⟨_, (Prod.mk.inj he).2⟩
  prepared := by
    rcases h with ⟨rfl, rfl⟩ | ⟨rfl, rfl⟩
    · exact ⟨_, rfl, by decide⟩
    · exact ⟨_, rfl, by decide⟩
  executed := ⟨1, Nat.one_ne_zero, rfl⟩

/-- A tag with three hits is given one, like the new one has, and is found. -/
theorem finds_upserted_iff_tags :
    (tags.addOrChange newTag none).seen [.affected 1, .rows [tagRow 1]] =
      ⟨.ok (some (tagRow 1)), [upsertTag 1, selectNewTag], []⟩ := by
  have hequal : ∀ p ∈ tags.table.wanted newTag, decide (p.2 = p.2) := by simp
  have hrows : tags.table.Upserts (fun v w => v = w) newTag newTag _ _ _ (tagCells 1) :=
    upserts_tags rfl
  obtain ⟨hmeets, params, hparams, hfound⟩ :=
    finds_upserted_iff (runsUpsert_tags (.inl ⟨rfl, rfl⟩) [.rows [tagRow 1]]) hrows hequal
  have hnew : meets (fun v w => v = w) (tags.table.wanted newTag) (tagCells 1) := by
    refine hmeets.2 fun row hrow => ?_
    cases hrow
    exact Table.agrees_of_hasKey (hasKey_tagCells 3) hequal (by decide)
  obtain rfl : [.text (some "a"), .int64 (some 1)] = params := Option.some.inj hparams
  have hanswer : [tagRow 1].mapM tags.decode = .ok (([tagCells 1].filter
      (meets (fun v w => v = w) (tags.table.wanted newTag))).map fun _ => tagRow 1) := by
    rw [List.filter_singleton, hnew]
    rfl
  have hselect : tags.selectWanted newTag [.text (some "a"), .int64 (some 1)] = selectNewTag := by
    decide
  rw [hfound _ _ [] rfl hanswer, if_pos hnew, hselect]

/-- A tag with three hits is given five, while a new one would have one: it is not found. -/
theorem changed_tag_not_found :
    tags.RunsUpsert newTag (some fiveHits) [.affected 1, .rows []] (upsertTag 5) [.rows []] ∧
      tags.table.Upserts (fun v w => v = w) newTag fiveHits [tagCells 3] [tagCells 5]
        (some (tagCells 3)) (tagCells 5) ∧
      tags.table.HasKey (fun v w => v = w) newTag (tagCells 5) ∧
      meets (fun v w => v = w) (tags.table.wanted newTag) (tagCells 5) = false ∧
      (tags.addOrChange newTag (some fiveHits)).seen [.affected 1, .rows []] =
        ⟨.error (.addedRowNotFound "tags"), [upsertTag 5, selectNewTag], []⟩ :=
  ⟨runsUpsert_tags (.inr ⟨rfl, rfl⟩) _, upserts_tags rfl, hasKey_tagCells 5, by decide, rfl⟩

end Gateway
end SqlMapper
