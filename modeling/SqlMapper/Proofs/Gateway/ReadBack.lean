import SqlMapper.Session.Connection
import SqlMapper.Proofs.Gateway.Bound
import SqlMapper.Proofs.Query.Label
import SqlMapper.Proofs.Session.Seen

namespace SqlMapper

variable {σ α : Type} {s t : σ} {a : String} {data : Supply} {id : Value} {calls : List Statement}

/-- The error says that an id does not have the shape of the key. -/
def Error.isKeyShape : Error → Bool
  | .compositeKey .. | .simpleKey _ => true
  | _ => false

theorem Fragment.sql_of_statement? {d : Dialect} {f : Fragment} {q : Statement}
    (h : f.statement? d = some q) : q.sql = f.text d := by
  obtain ⟨params, -, rfl⟩ := Option.map_eq_some_iff.1 h
  rfl

theorem Fragment.toDatum?_of_statement? {d : Dialect} {f : Fragment} {q : Statement} {v : Value}
    (h : f.statement? d = some q) (hv : v ∈ f.values) : ∃ p, v.toDatum? = some p := by
  obtain ⟨params, hparams, -⟩ := Option.map_eq_some_iff.1 h
  obtain ⟨n, hn, rfl⟩ := List.mem_iff_getElem.1 hv
  have hall := mapM_eq_some.1 hparams
  exact ⟨_, hall.get hn (hall.length_eq ▸ hn)⟩

/-- What a datum that was answered is bound as: dates and times are texts by then. -/
def Datum.asKey : Datum → Datum
  | .date v | .time v | .timestamp v => .text v
  | d => d

theorem Datum.toDatum?_toValue (d : Datum) : d.toValue.toDatum? = some d.asKey := by
  cases d <;> rfl

namespace Table

def selection (t : Table) (wanted : List (String × Value)) : Fragment :=
  .word "SELECT * FROM " :: t.name ++ .word " WHERE " :: equalities wanted

theorem selection_carries {slots : Bool} (t : Table) (wanted : List (String × Value)) :
    (t.selection wanted).Carries slots (wanted.map (·.2)) :=
  t.name_carries.word_cons.append_word (equalities_carries wanted)

theorem names_selection (t : Table) (wanted : List (String × Value)) :
    (t.selection wanted).names = t.schema.table :: wanted.map (·.1) := by
  simp [selection, name, names_equalities]

/-- The columns that a selection asks for can be told from its text. -/
theorem columns_of_selection_text {t : Table} {d : Dialect} {v w : List (String × Value)}
    (h : (t.selection v).text d = (t.selection w).text d) : v.map (·.1) = w.map (·.1) := by
  have hv : (t.selection v).Carries true (v.map (·.2)) := t.selection_carries v
  have hw : (t.selection w).Carries true (w.map (·.2)) := t.selection_carries w
  have hnames := Fragment.names_eq_of_text_eq hv.separate hw.separate h
  rw [names_selection, names_selection] at hnames
  exact (List.cons.inj hnames).2

theorem lookup_eq_selection {t : Table} {k : String} (hk : t.schema.primaryKey = [k]) (id : Value) :
    t.lookup [id] = t.selection [(k, id)] := by
  simp [lookup, selection, keyPredicate, equalities, hk]

theorem exists_statement?_selection {t : Table} {k : String} {p : Datum} (d : Dialect)
    (hp : id.toDatum? = some p) : ∃ q, (t.selection [(k, id)]).statement? d = some q := by
  have hcarries : (t.selection [(k, id)]).Carries true [id] := t.selection_carries [(k, id)]
  have hparams : [id].mapM Value.toDatum? = some [p] := by simp [hp]
  exact ⟨_, hcarries.statement?_eq d hparams⟩

theorem toDatum?_of_insertion {t : Table} {d : Dialect} {mode : InsertMode}
    {onConflict : Option Supply} {f : Fragment} {q : Statement}
    (hf : t.insertion d mode data onConflict = .ok f) (hq : f.statement? d = some q)
    (ha : a ∈ t.schema.columns) (hv : data a = some (.value id)) : ∃ p, id.toDatum? = some p := by
  apply Fragment.toDatum?_of_statement? hq
  have hcarries : f.Carries true _ := t.insertion_carries hf
  have hassigned : (Column.read a "" t.delimiter, .value id) ∈ data.assigned t.columns := by
    refine List.mem_filterMap.2 ⟨_, List.mem_map_of_mem ha, ?_⟩
    rw [Column.label_read, hv]
    rfl
  rw [hcarries.values_eq]
  exact List.mem_append_left _ (List.mem_flatMap.2 ⟨_, hassigned, List.mem_singleton_self _⟩)

end Table

/-- What is known of the row that an insert of the data stored: the plain values that the data
supplies, and the id in the generated column. -/
structure IsStored (data : Supply) (a : String) (id : Value) (row : String → Value) : Prop where
  generated : row a = id
  supplied : ∀ c v, data c = some (.value v) → row c = v

namespace Gateway

variable {g : Gateway σ α}

/-- The id of the row that was added: the plain value supplied for the generated column, or else the
one that the database answers for the last insert. -/
inductive Identifies (g : Gateway σ α) (a : String) (data : Supply) (s : σ) :
    Value → List Statement → σ → Prop
  | supplied {v : Value} (h : data a = some (.value v)) : Identifies g a data s v [] s
  | generated {t : σ} {rows : List Row} {d : Datum} (h : ∀ v, data a ≠ some (.value v))
    (hq : g.database.connection.query ⟨g.database.dialect.generatedId, []⟩ s = (.ok rows, t))
    (hd : rows.head?.bind (·.datumAt? 0) = some d) (hn : d.isNull = false) :
    Identifies g a data s d.toValue [⟨g.database.dialect.generatedId, []⟩] t

theorem Identifies.seen_addedId (h : g.Identifies a data s id calls t) :
    (g.addedId a data).seen s = ⟨.ok id, calls, t⟩ := by
  cases h with
  | supplied h =>
    unfold addedId
    rw [h]
    rfl
  | generated h hq hd hn =>
    unfold addedId
    split
    · rename_i v hv
      exact absurd hv (h v)
    · unfold generatedId
      rw [Session.seen_bind_of_ok (Database.seen_query hq), hd]
      simp only [hn]
      rfl

/-- Without an id, reading back fails before anything is looked up. -/
theorem seen_addedId_of_not_identifies (h : ¬∃ id calls t, g.Identifies a data s id calls t) :
    ∃ e t, (g.addedId a data).seen s = ⟨.error e, [⟨g.database.dialect.generatedId, []⟩], t⟩ ∧
      e.isKeyShape = false := by
  have hnot : ∀ v, data a ≠ some (.value v) := fun v hv => h ⟨v, [], s, .supplied hv⟩
  unfold addedId
  split
  · rename_i v hv
    exact absurd hv (hnot v)
  · unfold generatedId
    cases hq : g.database.connection.query ⟨g.database.dialect.generatedId, []⟩ s with
    | mk r t =>
      cases r with
      | error f =>
        rw [Session.seen_bind_of_error (Database.seen_query hq)]
        exact ⟨_, t, rfl, rfl⟩
      | ok rows =>
        rw [Session.seen_bind_of_ok (Database.seen_query hq)]
        cases hd : rows.head?.bind (·.datumAt? 0) with
        | none => exact ⟨_, t, rfl, rfl⟩
        | some d =>
          cases hn : d.isNull with
          | true =>
            simp only [hn]
            exact ⟨_, t, rfl, rfl⟩
          | false => exact absurd ⟨_, _, _, .generated hnot hq hd hn⟩ h

/-- The rows with a key are looked up by one query, and no error that follows is about the key. -/
theorem seen_ofKey {key : List Value} {q : Statement} (s : σ)
    (hq : (g.table.lookup key).statement? g.database.dialect = some q) :
    ∃ r t, (g.ofKey key).seen s = ⟨r, [q], t⟩ ∧ ∀ e, r = .error e → e.isKeyShape = false := by
  unfold ofKey prepare
  rw [Session.seen_bind_of_ok (Database.seen_prepare hq)]
  cases hr : g.database.connection.query q s with
  | mk r t =>
    cases r with
    | error f =>
      rw [Session.seen_bind_of_error (Database.seen_query hr)]
      refine ⟨_, t, rfl, fun e he => ?_⟩
      cases he
      rfl
    | ok rows =>
      rw [Session.seen_bind_of_ok (Database.seen_query hr), Session.seen_ofExcept]
      refine ⟨_, t, rfl, fun e he => ?_⟩
      cases hd : rows.mapM g.decode with
      | error d =>
        rw [hd] at he
        cases he
        rfl
      | ok found =>
        rw [hd] at he
        cases he

theorem seen_byId {k : String} {q : Statement} (s : σ) (hk : g.schema.primaryKey = [k])
    (hq : (g.table.lookup [id]).statement? g.database.dialect = some q) :
    ∃ r t, (g.byId (.scalar id)).seen s = ⟨r, [q], t⟩ ∧
      ∀ e, r = .error e → e.isKeyShape = false := by
  obtain ⟨r, t, hseen, hshape⟩ := seen_ofKey s hq
  unfold byId
  rw [Schema.keyFromId_scalar hk, Session.seen_bind_of_ok (Session.seen_ofExcept _ s)]
  cases r with
  | error e =>
    rw [Session.seen_bind_of_error hseen]
    refine ⟨_, t, rfl, fun e' he => ?_⟩
    cases he
    exact hshape e rfl
  | ok found =>
    rw [Session.seen_bind_of_ok hseen]
    -- of several rows it is said that they share a key, not that the key has a wrong shape
    match found with
    | [] => exact ⟨_, t, rfl, fun e he => by cases he⟩
    | [b] => exact ⟨_, t, rfl, fun e he => by cases he⟩
    | b :: c :: rest =>
      refine ⟨_, t, rfl, fun e he => ?_⟩
      cases he
      rfl

theorem seen_byId_of_composite (s : σ) (hk : ∀ k, g.schema.primaryKey ≠ [k]) :
    (g.byId (.scalar id)).seen s = ⟨.error (.compositeKey g.schema.table .notNamed), [], s⟩ := by
  unfold byId
  rw [Schema.keyFromId_scalar_of_composite hk,
    Session.seen_bind_of_error (Session.seen_ofExcept _ s)]

theorem seen_added (ha : g.schema.autoIncrement = [a]) {u : σ} {r : Except Error (Option α)}
    {later : List Statement}
    (hid : (g.addedId a data).seen s = ⟨.ok id, calls, t⟩)
    (hby : (g.byId (.scalar id)).seen t = ⟨r, later, u⟩) :
    ∃ r', (g.added data).seen s = ⟨r', calls ++ later, u⟩ ∧
      (∀ e, r = .error e → r' = .error e) ∧
      ∀ e, r' = .error e → r = .error e ∨ e.isKeyShape = false := by
  unfold added
  simp only [ha]
  rw [Session.seen_bind_of_ok hid]
  cases r with
  | error e =>
    rw [Session.seen_bind_of_error hby]
    refine ⟨_, rfl, fun e' he => ?_, fun e' he => .inl ?_⟩
    · cases he
      rfl
    · cases he
      rfl
  | ok found =>
    have hok (e : Error) : Except.ok found ≠ Except.error e := by simp
    rw [Session.seen_bind_of_ok hby]
    cases found with
    | none =>
      rw [Session.seen_fail, Seen.after_mk, Seen.after_mk, List.append_nil]
      refine ⟨_, rfl, fun e he => absurd he (hok e), fun e he => .inr ?_⟩
      cases he
      rfl
    | some b =>
      rw [Session.seen_pure, Seen.after_mk, Seen.after_mk, List.append_nil]
      refine ⟨_, rfl, fun e he => absurd he (hok e), fun e he => ?_⟩
      cases he

theorem seen_execute {f : Fragment} {q : Statement} {r : Except Failure Nat}
    (hq : f.statement? g.database.dialect = some q)
    (h : g.database.connection.exec q s = (r, t)) :
    (g.execute f).seen s = ⟨r.mapError (.failed q.sql), [q], t⟩ := by
  unfold execute prepare
  rw [Session.seen_bind_of_ok (Database.seen_prepare hq), Database.seen_execute h]
  rfl

/-- The row is read back after an insert that reported one. -/
theorem seen_insert_of_added {mode : InsertMode} {onConflict : Option Supply} {f : Fragment}
    {q : Statement} {n : Nat} {r : Except Error α} {u : σ}
    (hf : g.table.insertion g.database.dialect mode data onConflict = .ok f)
    (hq : f.statement? g.database.dialect = some q)
    (hexec : g.database.connection.exec q s = (.ok n, t)) (hn : n ≠ 0)
    (hr : (g.added data).seen t = ⟨r, calls, u⟩) :
    (g.insert mode data onConflict).seen s = ⟨r.map some, q :: calls, u⟩ := by
  unfold insert
  rw [hf, Session.seen_bind_of_ok (Session.seen_ofExcept _ s),
    Session.seen_bind_of_ok (seen_execute hq hexec), if_neg hn]
  cases r with
  | error e =>
    rw [Session.seen_bind_of_error hr]
    rfl
  | ok b =>
    rw [Session.seen_bind_of_ok hr, Session.seen_pure]
    simp [Except.map]

/-- In a table with one generated column `a`, the insert of the data was run as `q` and added
something. -/
structure Inserts (g : Gateway σ α) (a : String) (mode : InsertMode) (data : Supply) (s : σ)
    (q : Statement) (t : σ) : Prop where
  checked : g.schema.checked = .ok g.schema
  generated : g.schema.autoIncrement = [a]
  prepared : ∃ f, g.table.insertion g.database.dialect mode data none = .ok f ∧
    f.statement? g.database.dialect = some q
  executed : ∃ n, n ≠ 0 ∧ g.database.connection.exec q s = (.ok n, t)

namespace Inserts

variable {mode : InsertMode} {q : Statement} {u : σ}

theorem seen_insert (h : g.Inserts a mode data s q t) {r : Except Error α}
    (hr : (g.added data).seen t = ⟨r, calls, u⟩) :
    (g.insert mode data none).seen s = ⟨r.map some, q :: calls, u⟩ := by
  obtain ⟨f, hf, hq⟩ := h.prepared
  obtain ⟨n, hn, hexec⟩ := h.executed
  exact seen_insert_of_added hf hq hexec hn hr

theorem exists_toDatum? (h : g.Inserts a mode data s q t) (hid : g.Identifies a data t id calls u) :
    ∃ p, id.toDatum? = some p := by
  cases hid with
  | supplied hv =>
    -- it travelled with the insert before
    obtain ⟨f, hf, hq⟩ := h.prepared
    have hcolumn : a ∈ g.schema.columns :=
      Schema.mem_columns_of_checked h.checked (by simp [h.generated])
    exact Table.toDatum?_of_insertion hf hq hcolumn hv
  | generated => exact ⟨_, Datum.toDatum?_toValue _⟩

/-- With a key of one column, the last call looks the id up in it. -/
theorem seen_of_single {k : String} (h : g.Inserts a mode data s q t)
    (hid : g.Identifies a data t id calls u) (hk : g.schema.primaryKey = [k]) :
    ∃ q' r w, (g.table.selection [(k, id)]).statement? g.database.dialect = some q' ∧
      (g.insert mode data none).seen s = ⟨r, q :: calls ++ [q'], w⟩ ∧
      ∀ e, r = .error e → e.isKeyShape = false := by
  obtain ⟨p, hp⟩ := h.exists_toDatum? hid
  obtain ⟨q', hq'⟩ :=
    Table.exists_statement?_selection (t := g.table) (k := k) g.database.dialect hp
  have hlookup : (g.table.lookup [id]).statement? g.database.dialect = some q' := by
    rw [Table.lookup_eq_selection hk, hq']
  obtain ⟨r, w, hby, hshape⟩ := seen_byId u hk hlookup
  obtain ⟨r', hseen, -, hr'⟩ := seen_added h.generated hid.seen_addedId hby
  refine ⟨q', r'.map some, w, hq', h.seen_insert hseen, fun e he => ?_⟩
  cases r' with
  | error e' =>
    cases he
    exact (hr' e rfl).elim (hshape e) fun hshape => hshape
  | ok b => cases he

/-- With any other key, the call fails after the row was inserted. -/
theorem seen_of_composite (h : g.Inserts a mode data s q t)
    (hid : g.Identifies a data t id calls u) (hk : ∀ k, g.schema.primaryKey ≠ [k]) :
    (g.insert mode data none).seen s =
      ⟨.error (.compositeKey g.schema.table .notNamed), q :: calls, u⟩ := by
  obtain ⟨r', hseen, herror, -⟩ :=
    seen_added h.generated hid.seen_addedId (seen_byId_of_composite u hk)
  rw [h.seen_insert hseen, herror _ rfl, List.append_nil]
  rfl

/-- Without an id, the call fails before anything is looked up. -/
theorem seen_of_not_identifies (h : g.Inserts a mode data s q t)
    (hnone : ¬∃ id calls u, g.Identifies a data t id calls u) :
    ∃ e w, e.isKeyShape = false ∧ (g.insert mode data none).seen s =
      ⟨.error e, [q, ⟨g.database.dialect.generatedId, []⟩], w⟩ := by
  obtain ⟨e, w, hseen, hshape⟩ := seen_addedId_of_not_identifies hnone
  have hadded : (g.added data).seen t =
      ⟨.error e, [⟨g.database.dialect.generatedId, []⟩], w⟩ := by
    unfold added
    simp only [h.generated]
    rw [Session.seen_bind_of_error hseen]
  exact ⟨e, w, hshape, h.seen_insert hadded⟩

end Inserts

/-- After the insert and the other calls before it, the stored row is looked up by a predicate that
it meets and that asks for the id in the generated column; and no error is about the key. -/
structure FindsStored (g : Gateway σ α) (a : String) (data : Supply) (id : Value)
    (before : List Statement) {β : Type} (r : Seen σ Error β) : Prop where
  lookup : ∃ wanted q, (g.table.selection wanted).statement? g.database.dialect = some q ∧
    r.calls = before ++ [q] ∧ (a, id) ∈ wanted ∧
    ∀ row, IsStored data a id row → ∀ p ∈ wanted, row p.1 = p.2
  shape : ∀ e, r.result = .error e → e.isKeyShape = false

/-- An added row whose id is known is found again just if the generated column is the whole key. If
its id is not known, nothing is looked up. -/
theorem finds_stored_iff {mode : InsertMode} {q : Statement} (h : g.Inserts a mode data s q t) :
    (∀ id calls u, g.Identifies a data t id calls u →
      (g.FindsStored a data id (q :: calls) ((g.insert mode data none).seen s) ↔
        g.schema.primaryKey = [a])) ∧
    ((¬∃ id calls u, g.Identifies a data t id calls u) →
      ∃ e w, e.isKeyShape = false ∧ (g.insert mode data none).seen s =
        ⟨.error e, [q, ⟨g.database.dialect.generatedId, []⟩], w⟩) := by
  refine ⟨fun id calls u hid => ?_, h.seen_of_not_identifies⟩
  by_cases hone : ∃ k, g.schema.primaryKey = [k]
  · obtain ⟨k, hk⟩ := hone
    obtain ⟨q', r, w, hq', hseen, hshape⟩ := h.seen_of_single hid hk
    rw [hseen, hk]
    constructor
    · -- which column was looked up can be told from the text of the statement
      rintro ⟨⟨wanted, q'', hq'', hcalls, hmem, -⟩, -⟩
      obtain rfl : q' = q'' := by simpa using hcalls
      have htext := (Fragment.sql_of_statement? hq').symm.trans (Fragment.sql_of_statement? hq'')
      have hcolumns : [k] = wanted.map (·.1) := Table.columns_of_selection_text htext
      have hak : a ∈ [k] := hcolumns ▸ List.mem_map_of_mem hmem
      rw [List.mem_singleton.1 hak]
    · intro hka
      obtain rfl : k = a := List.singleton_inj.1 hka
      refine ⟨⟨[(k, id)], q', hq', rfl, List.mem_singleton_self _, fun row hrow p hp => ?_⟩, hshape⟩
      rw [List.mem_singleton.1 hp]
      exact hrow.generated
  · have hcomposite : ∀ k, g.schema.primaryKey ≠ [k] := fun k hk => hone ⟨k, hk⟩
    rw [h.seen_of_composite hid hcomposite]
    constructor
    · rintro ⟨-, hshape⟩
      cases hshape _ rfl
    · intro hka
      exact absurd hka (hcomposite a)

/-- Orders with a generated number, on a connection that answers from a script. -/
def orders (primaryKey : List String) : Gateway (List Reply) Row :=
  ⟨⟨Script.connection [], .sqlite, "::"⟩, ⟨"order", ["seq", "code", "total"], primaryKey, ["seq"]⟩,
    fun row => .ok row⟩

def newOrder : Supply := (FieldMap.ofList [("code", .value (.text (some "c")))]).supply

def orderCalls : List Statement :=
  [⟨"INSERT INTO \"order\" (\"code\") VALUES (?)", [.text (some "c")]⟩,
    ⟨"SELECT last_insert_rowid()", []⟩]

/-- One row is added, its number is 4, and then some row is found. -/
def orderReplies : List Reply :=
  [.affected 1, .rows [⟨[("last_insert_rowid()", .int64 (some 4))]⟩],
    .rows [⟨[("seq", .int64 (some 9)), ("code", .text (some "4"))]⟩]]

/-- With the number as their key, orders are found. -/
theorem finds_stored_iff_orders :
    (orders ["seq"]).FindsStored "seq" newOrder (.int64 (some 4)) orderCalls
      (((orders ["seq"]).add newOrder).seen orderReplies) := by
  have hinserts : (orders ["seq"]).Inserts "seq" .plain newOrder orderReplies
      ⟨"INSERT INTO \"order\" (\"code\") VALUES (?)", [.text (some "c")]⟩ (orderReplies.drop 1) :=
    ⟨rfl, rfl, ⟨_, rfl, by decide⟩, ⟨1, Nat.one_ne_zero, rfl⟩⟩
  have hnone : newOrder "seq" = none := rfl
  have hid : (orders ["seq"]).Identifies "seq" newOrder (orderReplies.drop 1) (.int64 (some 4))
      [⟨"SELECT last_insert_rowid()", []⟩] (orderReplies.drop 2) :=
    .generated (d := .int64 (some 4)) (fun v => by simp [hnone]) rfl rfl rfl
  exact ((finds_stored_iff hinserts).1 _ _ _ hid).2 rfl

/-- With the code as their key, the order is found whose code is the number. -/
theorem orders_looked_up_by_code :
    ((orders ["code"]).add newOrder).seen orderReplies =
      ⟨.ok (some ⟨[("seq", .int64 (some 9)), ("code", .text (some "4"))]⟩),
        orderCalls ++ [⟨"SELECT * FROM \"order\" WHERE \"code\"=?", [.int64 (some 4)]⟩], []⟩ ∧
    ¬(orders ["code"]).FindsStored "seq" newOrder (.int64 (some 4)) orderCalls
      (((orders ["code"]).add newOrder).seen orderReplies) := by
  have hseen : ((orders ["code"]).add newOrder).seen orderReplies =
      ⟨.ok (some ⟨[("seq", .int64 (some 9)), ("code", .text (some "4"))]⟩),
        orderCalls ++ [⟨"SELECT * FROM \"order\" WHERE \"code\"=?", [.int64 (some 4)]⟩], []⟩ := rfl
  refine ⟨hseen, ?_⟩
  rw [hseen]
  rintro ⟨⟨wanted, q, hq, hcalls, hmem, -⟩, -⟩
  -- any other selection with this text asks for the code, too
  have hlast := List.singleton_inj.1 (List.append_cancel_left hcalls)
  have hsql := Fragment.sql_of_statement? hq
  rw [← hlast] at hsql
  have htext : ((orders ["code"]).table.selection [("code", .int64 (some 4))]).text .sqlite =
      "SELECT * FROM \"order\" WHERE \"code\"=?" := by decide
  have hcolumns : ["code"] = wanted.map (·.1) :=
    Table.columns_of_selection_text (htext.trans hsql)
  have hseq : "seq" ∈ ["code"] := hcolumns ▸ List.mem_map_of_mem hmem
  revert hseq
  decide

end Gateway
end SqlMapper
