import SqlMapper.Proofs.Entity.RoundTrip
import SqlMapper.Proofs.Gateway.Upsert
import SqlMapper.Proofs.Logic.Blank
import SqlMapper.Proofs.Supply.Predicate
/-! Looking rows up by an example. The example may be copied for the columns that its type lists, for
those of the schema in force, or field by field into a map. All copies set the same columns of the
table, and are looked up by one statement, as long as the type lists the columns in force that it has
fields for, and no field is a `NULL` that a map takes as unset. -/
namespace SqlMapper

variable {σ α : Type} {stage : Stage}

/-- What rows are compared with: an entity of a type that lists some columns, with whatever it says
of its fields, or a field map. -/
inductive Example where
  | entity (columns : List String) (data : Supply)
  | fields (map : FieldMap)

namespace Example

def supply : Example → Supply
  | entity _ data => data
  | fields map => map.supply

/-- The example as a condition, whatever the schema in force is. -/
def condition : Example → Condition
  | entity columns data => .ofSupply columns data
  | fields map => .fields map

/-- An entity suits a schema if its type lists those of the columns that the entity has a field for,
and no field is a `NULL` that can be bound. A field map suits every schema. -/
def Suits (columns : List String) : Example → Prop
  | entity own data => (∀ name ∈ columns, (data name).isSome → name ∈ own) ∧
    ∀ name u, data name = some u → u.isSet
  | fields _ => True

end Example

namespace Gateway

/-- The query for the rows that have what some data sets: one term for each set column, in the order
of the columns of the schema in force, and without any no predicate. -/
def Asks (g : Gateway σ α) (data : Supply) (sql : String) (values : List Value) : Prop :=
  ∃ terms : List (String × List Value),
    List.Forall₂ (fun name t => ∃ u, data name = some u ∧
        u.criterion? g.database.dialect (Column.read name "" g.database.delimiter) = some t)
      (g.schema.columns.filter fun name => (data name).isSome) terms ∧
    sql = "SELECT * FROM " ++ g.database.dialect.quoted g.schema.table ++
      (if terms = [] then "" else " WHERE " ++ " AND ".intercalate (terms.map (·.1))) ∧
    values = terms.flatMap (·.2)

/-- How rows are looked up by an example. -/
structure LooksUp (g : Gateway σ α) (x : Example) : Prop where
  /-- As a condition, the example is looked up in the same way, -/
  condition : g.meeting x.condition = g.like x.supply
  /-- and so is a field map with the same set fields. -/
  copy : ∀ r : FieldMap, (∀ name, r.supply name = x.supply name) →
    g.meeting (.fields r) = g.like x.supply
  /-- An expression has no place in the query; the first one is reported, and nothing is sent. -/
  refused : ∀ before name after e, g.schema.columns = before ++ name :: after →
    (∀ b ∈ before, ∀ e, x.supply b ≠ some (.expression e)) →
    x.supply name = some (.expression e) →
    ∀ s, (g.like x.supply).seen s = ⟨.error (.misplaced ⟨.expression e, .filter⟩), [], s⟩
  /-- Without one, the query is sent if its values can travel. -/
  sent : (∀ name ∈ g.schema.columns, ∀ e, x.supply name ≠ some (.expression e)) →
    ∃ sql values, g.Asks x.supply sql values ∧
      ∀ s, ((g.like x.supply).seen s).calls = (Statement.bind? sql values).toList
  /-- A copy for some names says of these what the example says, and nothing of others. -/
  copied : ∀ names name, (FieldMap.ofSupply x.supply names).supply name =
    if name ∈ names then x.supply name else none

end Gateway

theorem ScalarType.isNull_toValue (t : ScalarType) (v : t.Carrier) :
    (t.toValue v).isNull = false := by
  cases t <;> rfl

theorem Entity.mem_names_of_supply {columns : Columns} {e : Entity columns} {name : String}
    (h : (e.supply name).isSome) : name ∈ columns.map (·.1) := by
  induction e with
  | nil => cases h
  | @cons first type rest value others ih =>
    rw [List.map_cons, List.mem_cons]
    by_cases hname : name = first
    · exact .inl hname
    · rw [supply_cons, if_neg hname] at h
      exact .inr (ih h)

namespace Example

variable {columns : List String}

/-- Entities are built of their own columns, and no type of fields that comes with the library has a
`NULL` of its own. -/
theorem suits_entity {own : Columns} (hown : ∀ c ∈ own, c.2.IsPlain) (e : Entity own) :
    (entity (own.map (·.1)) e.supply).Suits columns := by
  refine ⟨fun name _ hset => e.mem_names_of_supply hset, fun name u h => ?_⟩
  obtain ⟨t, v, rfl⟩ := Entity.exists_toValue_of_supply hown h
  rw [Supplied.isSet, t.isNull_toValue v]
  rfl

theorem Suits.isSet {x : Example} (h : x.Suits columns) {name : String} {u : Supplied}
    (hu : x.supply name = some u) : u.isSet := by
  cases x with
  | entity own data => exact h.2 name u hu
  | fields map => exact (Option.filter_eq_some_iff.1 hu).2

theorem Suits.filter_isSet {x : Example} (h : x.Suits columns) (name : String) :
    (x.supply name).filter Supplied.isSet = x.supply name := by
  cases hu : x.supply name with
  | none => rfl
  | some u => rw [Option.filter_some, if_pos (h.isSet hu)]

theorem Suits.supply_ofSupply {x : Example} (h : x.Suits columns) (names : List String)
    (name : String) : (FieldMap.ofSupply x.supply names).supply name =
      if name ∈ names then x.supply name else none := by
  rw [FieldMap.supply_ofSupply, h.filter_isSet]

/-- The condition of an example is a map with its set fields, as far as the columns go. -/
theorem Suits.exists_condition_eq {x : Example} (h : x.Suits columns) :
    ∃ r : FieldMap, x.condition = .fields r ∧ ∀ name ∈ columns, r.supply name = x.supply name := by
  cases x with
  | fields map => exact ⟨map, rfl, fun _ _ => rfl⟩
  | entity own data =>
    refine ⟨_, rfl, fun name hname => ?_⟩
    have hcopy := h.supply_ofSupply own name
    -- a name that the type does not list has no field
    by_cases hlisted : name ∈ own
    · rwa [if_pos hlisted] at hcopy
    · rw [if_neg hlisted] at hcopy
      have hnone : data name = none := by
        rw [← Option.not_isSome_iff_eq_none]
        exact fun hset => hlisted (h.1 name hname hset)
      exact hcopy.trans hnone.symm

end Example

namespace Clauses

theorem text_conditional (d : Dialect) (keyword : String) (f : Fragment) :
    (conditional keyword f).text d = if f.isBlank then "" else keyword ++ f.text d := by
  unfold conditional
  split
  · rfl
  · exact Fragment.text_word_cons d keyword f

theorem values_conditional (keyword : String) (f : Fragment) :
    (conditional keyword f).values = f.values := by
  unfold conditional
  split
  · rename_i h
    exact (Fragment.values_eq_nil_of_isBlank h).symm
  · rfl

end Clauses

namespace Relation

variable (r : Relation α) (db : Database σ) {clauses : Clauses stage} {f : Fragment} {e : Error}

theorem seen_statement (hf : r.query r.projection clauses = .ok f) (s : σ) :
    (r.statement db clauses).seen s =
      ⟨(f.statement? db.dialect).elim (.error .unbindable) .ok, [], s⟩ := by
  unfold statement prepare
  rw [hf, Session.seen_bind_of_ok (Session.seen_ofExcept _ s), Database.seen_prepare_eq]
  rfl

/-- One statement is sent for a query, unless its values cannot travel. -/
theorem calls_collect (hf : r.query r.projection clauses = .ok f) (s : σ) :
    ((r.collect db clauses).seen s).calls = (f.statement? db.dialect).toList := by
  cases hq : f.statement? db.dialect with
  | some q =>
    rcases hanswer : db.connection.query q s with ⟨answer, t⟩
    rw [r.seen_collect hf hq hanswer]
    rfl
  | none =>
    have hstatement := r.seen_statement db hf s
    rw [hq] at hstatement
    unfold collect receive
    rw [bind_assoc, Session.seen_bind_of_error hstatement]
    rfl

theorem seen_collect_of_error (hf : r.query r.projection clauses = .error e) (s : σ) :
    (r.collect db clauses).seen s = ⟨.error e, [], s⟩ := by
  have hstatement : (r.statement db clauses).seen s = ⟨.error e, [], s⟩ := by
    unfold statement prepare
    rw [hf]
    exact Session.seen_bind_of_error (Session.seen_ofExcept _ s)
  unfold collect receive
  rw [bind_assoc, Session.seen_bind_of_error hstatement]

end Relation

namespace Gateway

variable (g : Gateway σ α) {r r' : FieldMap} {f : Fragment} {m : Misplaced}

/-- Only the declared columns are looked at. -/
theorem meeting_congr (h : ∀ name ∈ g.schema.columns, r.supply name = r'.supply name) :
    g.meeting (.fields r) = g.meeting (.fields r') := by
  have hpredicate : r.supply.predicate g.table.columns = r'.supply.predicate g.table.columns := by
    apply Supply.predicate_congr
    intro c hc
    obtain ⟨name, hname, rfl⟩ := List.mem_map.1 hc
    rw [Column.label_read]
    exact h name hname
  have hquery : g.relation.query g.relation.projection (.filter (.fields r)) =
      g.relation.query g.relation.projection (.filter (.fields r')) := by
    have hrender : Condition.render g.relation.scope (.fields r) =
        Condition.render g.relation.scope (.fields r') := hpredicate
    unfold Relation.query Clauses.render
    rw [hrender]
  unfold meeting Relation.collect Relation.receive Relation.statement
  rw [hquery]

theorem query_fields (h : r.supply.predicate g.table.columns = .ok f) :
    g.relation.query g.relation.projection (.filter (.fields r)) =
      .ok ([.word "SELECT ", .word "*", .word " ", .word "FROM "] ++ g.table.name ++
        Clauses.conditional " WHERE " f) := by
  have hrender : Condition.render g.relation.scope (.fields r) = .ok f := h
  unfold Relation.query Clauses.render
  rw [hrender]
  rfl

theorem query_fields_of_error (h : r.supply.predicate g.table.columns = .error m) :
    g.relation.query g.relation.projection (.filter (.fields r)) = .error (.misplaced m) := by
  have hrender : Condition.render g.relation.scope (.fields r) = .error m := h
  unfold Relation.query Clauses.render
  rw [hrender]
  rfl

theorem setColumns_columns (data : Supply) : data.setColumns g.table.columns =
    (g.schema.columns.filter fun name => (data name).isSome).map
      fun name => Column.read name "" g.database.delimiter := by
  show (g.schema.columns.map _).filter _ = _
  rw [List.filter_map]
  congr 1
  refine List.filter_congr fun name _ => ?_
  show (data (Column.read name "" g.database.delimiter).label).isSome = _
  rw [Column.label_read]

/-- The first set column that holds an expression, by the declared names. -/
theorem predicate_columns_eq_error : r.supply.predicate g.table.columns = .error m ↔
    ∃ before name after e, g.schema.columns = before ++ name :: after ∧
      (∀ b ∈ before, ∀ e, r.supply b ≠ some (.expression e)) ∧
      r.supply name = some (.expression e) ∧ m = ⟨.expression e, .filter⟩ := by
  have hcolumns : g.table.columns =
      g.schema.columns.map fun name => Column.read name "" g.database.delimiter := rfl
  rw [Supply.predicate_eq_error, hcolumns]
  constructor
  · rintro ⟨before, c, after, e, hsplit, hbefore, he, hm⟩
    obtain ⟨names, rest, hnames, rfl, hrest⟩ := List.map_eq_append_iff.1 hsplit
    obtain ⟨name, others, rfl, rfl, -⟩ := List.map_eq_cons_iff.1 hrest
    refine ⟨names, name, others, e, hnames, fun b hb e => ?_, ?_, hm⟩
    · have hb' := hbefore _ (List.mem_map_of_mem hb) e
      rwa [Column.label_read] at hb'
    · rwa [Column.label_read] at he
  · rintro ⟨before, name, after, e, hsplit, hbefore, he, hm⟩
    refine ⟨_, _, _, e, by rw [hsplit, List.map_append, List.map_cons], ?_, ?_, hm⟩
    · intro c hc e
      obtain ⟨b, hb, rfl⟩ := List.mem_map.1 hc
      rw [Column.label_read]
      exact hbefore b hb e
    · rw [Column.label_read]
      exact he

/-- What the map sets of the columns is asked for. -/
theorem exists_asks (h : r.supply.predicate g.table.columns = .ok f) :
    ∃ sql values, g.Asks r.supply sql values ∧
      ∀ s, ((g.meeting (.fields r)).seen s).calls = (Statement.bind? sql values).toList := by
  obtain ⟨terms, hterms, htext, hvalues⟩ := FieldMap.exists_criteria g.database.dialect h
  -- the predicate is left out just if no column is set
  have hblank : f.isBlank ↔ terms = [] := by
    have hwritten : f.isBlank ↔ ¬r.supply.assigned g.table.columns ≠ [] :=
      Condition.isBlank_render_iff (c := .fields r) (s := g.table.scope) trivial h
    rw [hwritten, not_not, ← List.map_eq_nil_iff, Supply.map_fst_assigned,
      ← List.length_eq_zero_iff, hterms.length_eq, List.length_eq_zero_iff]
  rw [setColumns_columns, List.forall₂_map_left_iff] at hterms
  refine ⟨_, _, ⟨terms, hterms.imp fun name t => ?_, rfl, rfl⟩, fun s => ?_⟩
  · rw [Column.label_read]
    exact id
  · have hname : g.table.name.values = [] := rfl
    have hfront : Fragment.text g.database.dialect
        [.word "SELECT ", .word "*", .word " ", .word "FROM "] = "SELECT * FROM " := rfl
    have hcalls := g.relation.calls_collect g.database (g.query_fields h) s
    unfold meeting
    rw [hcalls, Fragment.statement?, Fragment.text_append, Fragment.text_append, hfront,
      Table.text_name, Clauses.text_conditional, Fragment.values_append, Fragment.values_append,
      hname, Clauses.values_conditional, hvalues, htext]
    simp only [hblank]
    rfl

theorem Asks.congr {data data' : Supply} {sql : String} {values : List Value}
    (h : g.Asks data sql values) (hdata : ∀ name ∈ g.schema.columns, data' name = data name) :
    g.Asks data' sql values := by
  obtain ⟨terms, hterms, hsql, hvalues⟩ := h
  have hfilter : (g.schema.columns.filter fun name => (data' name).isSome) =
      g.schema.columns.filter fun name => (data name).isSome :=
    List.filter_congr fun name hname => by rw [hdata name hname]
  have hmember : ∀ name ∈ g.schema.columns.filter fun name => (data name).isSome,
      name ∈ g.schema.columns := fun name hname => (List.mem_filter.1 hname).1
  refine ⟨terms, ?_, hsql, hvalues⟩
  rw [hfilter]
  refine ((List.forall₂_and_left _ _).2 ⟨hmember, hterms⟩).imp fun name t => ?_
  rintro ⟨hname, hterm⟩
  rwa [hdata name hname]

theorem looksUp (x : Example) (hx : x.Suits g.schema.columns) : g.LooksUp x := by
  have hcopied := hx.supply_ofSupply
  -- a copy may leave out what the schema in force does not declare, and no query depends on that
  have hlike : ∀ name ∈ g.schema.columns,
      (FieldMap.ofSupply x.supply g.schema.columns).supply name = x.supply name := by
    intro name hname
    rw [hcopied, if_pos hname]
  have hcopy : ∀ r : FieldMap, (∀ name ∈ g.schema.columns, r.supply name = x.supply name) →
      g.meeting (.fields r) = g.like x.supply := by
    intro r hr
    exact g.meeting_congr fun name hname => (hr name hname).trans (hlike name hname).symm
  refine ⟨?_, fun r hr => hcopy r fun name _ => hr name, ?_, ?_, hcopied⟩
  · obtain ⟨r, hcondition, hr⟩ := hx.exists_condition_eq
    rw [hcondition]
    exact hcopy r hr
  · intro before name after e hcolumns hbefore hname s
    have hmem : ∀ b ∈ before ++ name :: after, b ∈ g.schema.columns := fun b hb => hcolumns ▸ hb
    have herror : (FieldMap.ofSupply x.supply g.schema.columns).supply.predicate g.table.columns =
        .error ⟨.expression e, .filter⟩ := by
      refine g.predicate_columns_eq_error.2 ⟨before, name, after, e, hcolumns, ?_, ?_, rfl⟩
      · intro b hb
        rw [hlike b (hmem b (List.mem_append_left _ hb))]
        exact hbefore b hb
      · rw [hlike name (hmem name (by simp))]
        exact hname
    exact g.relation.seen_collect_of_error g.database (g.query_fields_of_error herror) s
  · intro hplain
    cases hpredicate : (FieldMap.ofSupply x.supply g.schema.columns).supply.predicate
        g.table.columns with
    | ok f =>
      obtain ⟨sql, values, hasks, hcalls⟩ := g.exists_asks hpredicate
      exact ⟨sql, values, hasks.congr g fun name hname => (hlike name hname).symm, hcalls⟩
    | error m =>
      obtain ⟨before, name, after, e, hcolumns, -, he, -⟩ :=
        g.predicate_columns_eq_error.1 hpredicate
      have hname : name ∈ g.schema.columns := by
        rw [hcolumns]
        simp
      rw [hlike name hname] at he
      exact absurd he (hplain name hname e)

/-- A visitor without an id. -/
def visitor : Entity [("id", .optional (.required .int64)), ("name", .required .text),
    ("visits", .required .int32)] :=
  .cons none (.cons "ada" (.cons (2 : Int32) .nil))

/-- The users, with a schema that leaves the id out and has a column of its own. -/
def visited : Gateway (List Reply) Row :=
  ⟨⟨Script.plainConnection, .sqlite, defaultDelimiter⟩,
    ⟨"users", ["visits", "role", "name"], ["name"], []⟩, .ok⟩

/-- What is set of a visitor, with an id that is not. -/
def visitorFields : FieldMap :=
  .ofList [("name", .value (.text (some "ada"))), ("id", .value (.int64 none)),
    ("visits", .value (.int32 (some 2)))]

theorem looksUp_visitor :
    visited.meeting visitor.toCondition = visited.like visitor.supply ∧
      visited.meeting (.fields visitorFields) = visited.like visitor.supply ∧
      ((visited.like visitor.supply).seen []).calls =
        [⟨"SELECT * FROM \"users\" WHERE \"visits\"=? AND \"name\"=?",
          [.int32 (some 2), .text (some "ada")]⟩] := by
  have hplain : ∀ c ∈ [("id", .optional (.required .int64)), ("name", .required .text),
      ("visits", .required .int32)], FieldType.IsPlain c.2 := by
    simp [FieldType.IsPlain]
  have hlooks := visited.looksUp (.entity ["id", "name", "visits"] visitor.supply)
    (Example.suits_entity hplain visitor)
  refine ⟨hlooks.condition, hlooks.copy visitorFields fun name => ?_, by decide⟩
  by_cases hid : name = "id"
  · rw [hid]
    rfl
  by_cases hname : name = "name"
  · rw [hname]
    rfl
  by_cases hvisits : name = "visits"
  · rw [hvisits]
    rfl
  · rw [visitorFields, FieldMap.supply_ofList]
    simp [FieldMap.last, visitor, Example.supply, Entity.supply_cons, Entity.supply,
      List.lookup_cons, hid, hname, hvisits, beq_false_of_ne hid, beq_false_of_ne hname,
      beq_false_of_ne hvisits]

/-- What a user says of its fields. Its type lists the id only, and the name is a `NULL`. -/
def userFields : Supply := fun name =>
  if name = "id" then some (.value (.int64 (some 1)))
  else if name = "email" then some (.value (.text (some "a@b")))
  else if name = "name" then some (.value (.text none))
  else none

/-- The users, with a schema that has all three columns. -/
def allUsers : Gateway (List Reply) Row :=
  ⟨⟨Script.plainConnection, .sqlite, defaultDelimiter⟩,
    ⟨"users", ["id", "email", "name"], ["id"], []⟩, .ok⟩

/-- As a condition, the user is looked up without the column that its type leaves out, and a copy has
nothing for the `NULL`. -/
theorem looksUp_unlisted :
    ((allUsers.like userFields).seen []).calls =
        [⟨"SELECT * FROM \"users\" WHERE \"id\"=? AND \"email\"=?",
          [.int64 (some 1), .text (some "a@b")]⟩] ∧
      ((allUsers.meeting (Example.entity ["id"] userFields).condition).seen []).calls =
        [⟨"SELECT * FROM \"users\" WHERE \"id\"=?", [.int64 (some 1)]⟩] ∧
      (FieldMap.ofSupply userFields ["name"]).supply "name" ≠ userFields "name" := by
  refine ⟨by decide, by decide, by decide⟩

end Gateway
end SqlMapper
