import SqlMapper.Proofs.Session.Exchange
import SqlMapper.Proofs.Gateway.Operation
import SqlMapper.Proofs.Gateway.ReadBack
/-! When operations are rejected. Operations that call the connection several times compose a
statement before each call, but whatever the later statements bind was bound by the first one, so
only the first can fail to be composed. -/
namespace SqlMapper

variable {σ ε α β : Type} {stage : Stage}

/-- The error says that a statement could not be composed of the data. -/
def Error.isComposing : Error → Bool
  | .schema _ | .misplaced _ | .missingKey .. | .simpleKey _ | .unbindable => true
  | _ => false

namespace Session

theorem result_ofExcept (r : Except ε α) (s : σ) : (ofExcept r s).result = r := by
  cases r <;> rfl

/-- The session calls nothing. -/
def Silent (x : Session σ ε α) : Prop := ∀ s, ∃ r, x.seen s = ⟨r, [], s⟩

/-- The session composes all its statements. -/
def Composed (x : Session σ Error α) : Prop :=
  ∀ s e, (x s).result = .error e → e.isComposing = false

/-- The session composes its statements, or else calls nothing. -/
def RejectsFirst (x : Session σ Error α) : Prop :=
  ∀ s e, (x s).result = .error e → e.isComposing → x.seen s = ⟨.error e, [], s⟩

variable {x : Session σ Error α} {f : α → Session σ Error β}

theorem silent_ofExcept (r : Except ε α) : (ofExcept r : Session σ ε α).Silent :=
  fun s => ⟨r, seen_ofExcept r s⟩

theorem Silent.seen_of_error {x : Session σ ε α} (hx : x.Silent) {s : σ} {e : ε}
    (h : (x s).result = .error e) : x.seen s = ⟨.error e, [], s⟩ := by
  obtain ⟨r, hr⟩ := hx s
  have hresult : (x s).result = r := congrArg Seen.result hr
  rw [hr, ← hresult, h]

theorem Silent.seen_of_ok {x : Session σ ε α} (hx : x.Silent) {s : σ} {a : α}
    (h : (x s).result = .ok a) : x.seen s = ⟨.ok a, [], s⟩ := by
  obtain ⟨r, hr⟩ := hx s
  have hresult : (x s).result = r := congrArg Seen.result hr
  rw [hr, ← hresult, h]

theorem composed_pure (a : α) : (pure a : Session σ Error α).Composed := by
  intro s e h
  cases h

theorem composed_fail {e : Error} (he : e.isComposing = false) :
    (fail e : Session σ Error α).Composed := by
  intro s e' h
  cases h
  exact he

theorem composed_ofExcept {r : Except Error α} (hr : ∀ e, r = .error e → e.isComposing = false) :
    (ofExcept r : Session σ Error α).Composed := by
  intro s e h
  rw [result_ofExcept] at h
  exact hr e h

theorem Composed.bind (hx : x.Composed) (hf : ∀ s a, (x s).result = .ok a → (f a).Composed) :
    (x >>= f).Composed := by
  intro s e h
  rcases hrun : x s with ⟨r, journal, t⟩
  cases r with
  | error e' =>
    rw [run_bind_of_error hrun] at h
    cases h
    exact hx s e (congrArg Run.result hrun)
  | ok a =>
    rw [run_bind_of_ok hrun] at h
    exact hf s a (congrArg Run.result hrun) t e h

theorem Composed.rejectsFirst (hx : x.Composed) : x.RejectsFirst := by
  intro s e h he
  rw [hx s e h] at he
  cases he

theorem Silent.rejectsFirst (hx : x.Silent) : x.RejectsFirst := fun _ _ h _ => hx.seen_of_error h

/-- Before the first call, everything may fail. -/
theorem Silent.bind_rejectsFirst (hx : x.Silent)
    (hf : ∀ s a, (x s).result = .ok a → (f a).RejectsFirst) : (x >>= f).RejectsFirst := by
  intro s e h he
  cases hr : (x s).result with
  | error e' =>
    have hseen : (x >>= f).seen s = ⟨.error e', [], s⟩ := seen_bind_of_error (hx.seen_of_error hr)
    have hresult : ((x >>= f) s).result = .error e' := congrArg Seen.result hseen
    rw [hresult] at h
    cases h
    exact hseen
  | ok a =>
    have hseen : (x >>= f).seen s = (f a).seen s := seen_bind_of_ok (hx.seen_of_ok hr)
    have hresult : ((x >>= f) s).result = ((f a) s).result := congrArg Seen.result hseen
    rw [hseen]
    exact hf s a hr s e (hresult ▸ h) he

/-- After a call, all statements have to be composed. -/
theorem RejectsFirst.bind (hx : x.RejectsFirst)
    (hf : ∀ s a, (x s).result = .ok a → (f a).Composed) : (x >>= f).RejectsFirst := by
  intro s e h he
  rcases hrun : x s with ⟨r, journal, t⟩
  cases r with
  | error e' =>
    rw [run_bind_of_error hrun] at h
    cases h
    exact seen_bind_of_error (hx s e (congrArg Run.result hrun) he)
  | ok a =>
    rw [run_bind_of_ok hrun] at h
    rw [hf s a (congrArg Run.result hrun) t e h] at he
    cases he

end Session

open Session

/-- All bound values can travel. -/
def Fragment.Bindable (f : Fragment) : Prop := ∀ v ∈ f.values, ∃ p, v.toDatum? = some p

theorem Fragment.Bindable.exists_statement? {f : Fragment} (h : f.Bindable) (d : Dialect) :
    ∃ q, f.statement? d = some q := by
  obtain ⟨params, hparams⟩ := exists_mapM_eq_some h
  exact ⟨⟨f.text d, params⟩, Option.map_eq_some_iff.2 ⟨params, hparams, rfl⟩⟩

namespace Database

variable (db : Database σ) (about table : String) {f : Fragment} {q : Statement} {s : σ}

theorem seen_prepare_eq (f : Fragment) (s : σ) : (db.prepare about table f).seen s =
    ⟨(f.statement? db.dialect).elim (.error .unbindable) .ok, [], s⟩ := by
  cases hq : f.statement? db.dialect with
  | some q => exact seen_prepare hq
  | none =>
    unfold prepare
    rw [seen_bind_of_ok (x := Session.remark _) rfl, hq]
    rfl

theorem silent_prepare (f : Fragment) : (db.prepare about table f).Silent :=
  fun s => ⟨_, db.seen_prepare_eq about table f s⟩

theorem statement?_of_prepare (h : (db.prepare about table f s).result = .ok q) :
    f.statement? db.dialect = some q := by
  change ((db.prepare about table f).seen s).result = .ok q at h
  rw [seen_prepare_eq] at h
  cases hq : f.statement? db.dialect with
  | none =>
    rw [hq] at h
    cases h
  | some q' =>
    rw [hq] at h
    cases h
    rfl

theorem composed_prepare (h : f.Bindable) : (db.prepare about table f).Composed := by
  intro s e he
  obtain ⟨q, hq⟩ := h.exists_statement? db.dialect
  change ((db.prepare about table f).seen s).result = .error e at he
  rw [seen_prepare hq] at he
  cases he

variable {db}

theorem composed_call {run : σ → Except Failure α × σ} {outcome : α → LogEvent} :
    (call q run outcome).Composed := by
  intro s e h
  unfold call at h
  rcases hrun : run s with ⟨r, t⟩
  rw [hrun] at h
  cases r with
  | ok a => cases h
  | error f =>
    cases h
    rfl

theorem composed_query : (db.query q).Composed := composed_call

theorem composed_execute : (db.execute q).Composed := composed_call

end Database

theorem composed_decoded (x : Except DecodeError β) :
    (ofExcept (x.mapError .decode) : Session σ Error β).Composed := by
  refine composed_ofExcept fun e he => ?_
  cases x with
  | ok a => cases he
  | error d =>
    cases he
    rfl

namespace Relation

variable (r : Relation α) (db : Database σ) (clauses : Clauses stage)

theorem silent_prepare (f : Except Error Fragment) : (r.prepare db f).Silent := by
  intro s
  unfold prepare
  cases f with
  | error e => exact ⟨_, seen_bind_of_error (seen_ofExcept _ s)⟩
  | ok f =>
    rw [seen_bind_of_ok (seen_ofExcept _ s), Database.seen_prepare_eq]
    exact ⟨_, rfl⟩

/-- A chain of clauses is one statement, and what it returns is only decoded. -/
theorem rejectsFirst_query (f : Except Error Fragment) {k : List Row → Session σ Error β}
    (hk : ∀ rows, (k rows).Composed) :
    (r.prepare db f >>= fun q => db.query q >>= k).RejectsFirst :=
  (r.silent_prepare db f).bind_rejectsFirst fun _ _ _ =>
    (Database.composed_query.bind fun _ rows _ => hk rows).rejectsFirst

theorem composed_items (received : Received α) :
    (match received.outcome with
      | .ok _ => return received.items
      | .error e => Session.fail (.decode e) : Session σ Error (List α)).Composed := by
  cases received.outcome with
  | ok _ => exact composed_pure _
  | error e => exact composed_fail rfl

theorem rejectsFirst_reading (reading : Reading α β) :
    (reading.run r db clauses).RejectsFirst := by
  have hreceive : (r.receive db clauses).RejectsFirst :=
    r.rejectsFirst_query db _ fun _ => composed_pure _
  cases reading with
  | statement => exact (r.silent_prepare db _).rejectsFirst
  | receive => exact hreceive
  | collect => exact hreceive.bind fun _ received _ => composed_items received
  | pick names =>
    exact (r.silent_prepare db _).bind_rejectsFirst fun _ _ _ =>
      Database.composed_query.rejectsFirst
  | count name => exact r.rejectsFirst_query db _ fun _ => composed_decoded _

theorem composed_collect {f : Fragment} (hf : r.query r.projection clauses = .ok f)
    (hb : f.Bindable) : (r.collect db clauses).Composed := by
  have hprepare : (r.statement db clauses).Composed := by
    unfold statement prepare
    rw [hf]
    exact db.composed_prepare _ _ hb
  have hreceive : (r.receive db clauses).Composed :=
    hprepare.bind fun _ q _ => Database.composed_query.bind fun _ _ _ => composed_pure _
  exact hreceive.bind fun _ received _ => composed_items received

end Relation

/-- The plain value that the data supplies for a name, if it is not a `NULL`. -/
def Supply.plain? (data : Supply) (name : String) : Option Value :=
  match data name with
  | some (.value v) => if v.isNull then none else some v
  | _ => none

theorem Supply.plain?_eq_some {data : Supply} {name : String} {v : Value} :
    data.plain? name = some v ↔ data name = some (.value v) ∧ v.isNull = false := by
  unfold plain?
  split
  · rename_i w hw
    rw [hw]
    constructor
    · intro h
      split at h
      · cases h
      · rename_i hnull
        cases h
        exact ⟨rfl, by simpa using hnull⟩
    · rintro ⟨h, hnull⟩
      cases h
      simp [hnull]
  · rename_i hnot
    exact iff_of_false (by simp) fun h => hnot v h.1

namespace Table

variable {t : Table} {data : Supply}

/-- What an inserted row looks like is what the data supplies as plain values for the columns. -/
theorem supply_plainValues_eq (t : Table) (data : Supply) (name : String) :
    (t.plainValues data).supply name =
      if name ∈ t.schema.columns then (data.plain? name).map .value else none := by
  have hmap : t.plainValues data = .ofSupply (fun c => match data c with
      | some (.value v) => some (.value v)
      | _ => none) t.schema.columns := by
    unfold plainValues FieldMap.ofSupply
    congr 1
    refine List.filterMap_congr fun c _ => ?_
    dsimp only
    rcases data c with _ | _ | _ | _ <;> rfl
  rw [hmap, FieldMap.supply_ofSupply]
  congr 1
  unfold Supply.plain?
  split
  · rename_i v hv
    cases hn : v.isNull <;> simp [Supplied.isSet, hn]
  · rfl

theorem supply_plainValues {name : String} {u : Supplied}
    (h : (t.plainValues data).supply name = some u) :
    ∃ v, u = .value v ∧ name ∈ t.schema.columns ∧ data name = some (.value v) := by
  rw [supply_plainValues_eq] at h
  split at h
  · rename_i hname
    obtain ⟨v, hv, rfl⟩ := Option.map_eq_some_iff.1 h
    exact ⟨v, rfl, hname, (Supply.plain?_eq_some.1 hv).1⟩
  · cases h

/-- Looking for an inserted row is a query of plain values, which can always be rendered. -/
theorem exists_predicate_plainValues (t : Table) (data : Supply) :
    ∃ f, (t.plainValues data).supply.predicate t.columns = .ok f := by
  have hterms : ∃ terms, ((t.plainValues data).supply.assigned t.columns).mapM
      (fun p => p.2.term p.1) = .ok terms := by
    refine exists_mapM_eq_ok fun p hp => ?_
    obtain ⟨c, -, hp⟩ := List.mem_filterMap.1 hp
    obtain ⟨u, hu, rfl⟩ := Option.map_eq_some_iff.1 hp
    obtain ⟨v, rfl, -⟩ := supply_plainValues hu
    exact ⟨_, rfl⟩
  obtain ⟨terms, hterms⟩ := hterms
  exact ⟨Fragment.joined " AND " terms, bind_eq_ok.2 ⟨terms, hterms, rfl⟩⟩

end Table

namespace Gateway

variable {g : Gateway σ α} {data : Supply} {key : List Value} {f : Fragment} {q : Statement}
  {mode : InsertMode} {onConflict : Option Supply}

theorem silent_prepare (f : Fragment) : (g.prepare f).Silent := g.database.silent_prepare _ _ f

theorem rejectsFirst_execute (f : Fragment) : (g.execute f).RejectsFirst :=
  (silent_prepare f).bind_rejectsFirst fun _ _ _ => Database.composed_execute.rejectsFirst

theorem exists_statement?_of_execute {s : σ} {n : Nat} (h : (g.execute f s).result = .ok n) :
    ∃ q, f.statement? g.database.dialect = some q := by
  rcases hrun : g.prepare f s with ⟨r, journal, t⟩
  have hr : (g.prepare f s).result = r := congrArg Run.result hrun
  cases r with
  | error e =>
    unfold execute at h
    rw [run_bind_of_error hrun] at h
    cases h
  | ok q => exact ⟨q, g.database.statement?_of_prepare _ _ hr⟩

theorem bindable_lookup (hlength : key.length = g.schema.primaryKey.length)
    (hkey : ∀ v ∈ key, ∃ p, v.toDatum? = some p) : (g.table.lookup key).Bindable := by
  have hcarries : (g.table.lookup key).Carries true key := Table.lookup_carries hlength
  unfold Fragment.Bindable
  rwa [hcarries.values_eq]

theorem rejectsFirst_ofKey (key : List Value) : (g.ofKey key).RejectsFirst :=
  (silent_prepare _).bind_rejectsFirst fun _ _ _ =>
    (Database.composed_query.bind fun _ _ _ => composed_decoded _).rejectsFirst

theorem composed_ofKey (h : (g.table.lookup key).Bindable) : (g.ofKey key).Composed :=
  (g.database.composed_prepare _ _ h).bind fun _ _ _ =>
    Database.composed_query.bind fun _ _ _ => composed_decoded _

theorem composed_found (found : List α) :
    (match found with
      | [] => return none
      | [a] => return some a
      | found => Session.fail (.sharedKey g.schema.table found.length) :
        Session σ Error (Option α)).Composed := by
  split
  · exact composed_pure _
  · exact composed_pure _
  · exact composed_fail rfl

theorem rejectsFirst_byId (id : RowId) : (g.byId id).RejectsFirst :=
  (silent_ofExcept _).bind_rejectsFirst fun _ key _ =>
    (rejectsFirst_ofKey key).bind fun _ found _ => composed_found found

/-- A single value is looked up, or is no key at all. -/
theorem composed_byId {id : Value} (hid : ∃ p, id.toDatum? = some p) :
    (g.byId (.scalar id)).Composed := by
  have hkey : ∀ e, g.schema.keyFromId (.scalar id) = .error e → e.isComposing = false := by
    intro e he
    simp only [Schema.keyFromId] at he
    split at he
    · cases he
    · cases he
      rfl
  refine (composed_ofExcept hkey).bind fun s key hok => ?_
  rw [result_ofExcept] at hok
  have hlength := Schema.length_keyFromId hok
  simp only [Schema.keyFromId] at hok
  split at hok
  · cases hok
    exact (composed_ofKey (bindable_lookup hlength (by simpa using hid))).bind fun _ found _ =>
      composed_found found
  · cases hok

theorem composed_addedId (a : String) (data : Supply) : (g.addedId a data).Composed := by
  unfold addedId
  split
  · exact composed_pure _
  · refine Database.composed_query.bind fun _ rows _ => ?_
    cases rows.head?.bind (·.datumAt? 0) with
    | none => exact composed_fail rfl
    | some d =>
      dsimp only
      split
      · exact composed_fail rfl
      · exact composed_pure _

theorem exists_toDatum?_of_addedId {a : String} {s : σ} {id : Value}
    (h : (g.addedId a data s).result = .ok id)
    (hdata : ∀ v, data a = some (.value v) → ∃ p, v.toDatum? = some p) :
    ∃ p, id.toDatum? = some p := by
  by_cases hid : ∃ id calls t, g.Identifies a data s id calls t
  · -- an id was supplied by the data, or is the value of a datum
    obtain ⟨id', calls, t, hid⟩ := hid
    have hresult : (g.addedId a data s).result = .ok id' := congrArg Seen.result hid.seen_addedId
    obtain rfl : id = id' := Except.ok.inj (h.symm.trans hresult)
    cases hid with
    | supplied hv => exact hdata _ hv
    | generated => exact ⟨_, Datum.toDatum?_toValue _⟩
  · obtain ⟨e, t, hseen, -⟩ := seen_addedId_of_not_identifies hid
    have hresult : (g.addedId a data s).result = .error e := congrArg Seen.result hseen
    cases h.symm.trans hresult

/-- What an inserted row looks like is asked for with values that were inserted. -/
theorem exists_query_plainValues (hdata : ∀ c ∈ g.schema.columns, ∀ v,
      data c = some (.value v) → ∃ p, v.toDatum? = some p) :
    ∃ f, g.relation.query g.relation.projection
        (.filter (.fields (g.table.plainValues data))) = .ok f ∧ f.Bindable := by
  obtain ⟨predicate, hpredicate⟩ := g.table.exists_predicate_plainValues data
  let clauses : Clauses .filtered := .filter (.fields (g.table.plainValues data))
  have hrender : clauses.render g.relation.scope = .ok (Clauses.conditional " WHERE " predicate) :=
    bind_eq_ok.2 ⟨predicate, hpredicate, rfl⟩
  have hquery : ∃ f, g.relation.query g.relation.projection clauses = .ok f :=
    ⟨_, bind_eq_ok.2 ⟨_, mapError_eq_ok.2 hrender, rfl⟩⟩
  obtain ⟨f, hf⟩ := hquery
  refine ⟨f, hf, fun v hv => ?_⟩
  have hcarries : f.Carries true (clauses.bound g.relation.scope) :=
    g.relation_plain.query_carries trivial g.relation_plain.projection hf
  rw [hcarries.values_eq] at hv
  -- each bound value is supplied for some column, and so by the data
  obtain ⟨p, hp, hv⟩ := List.mem_flatMap.1 hv
  obtain ⟨c, -, hp⟩ := List.mem_filterMap.1 hp
  obtain ⟨u, hu, rfl⟩ := Option.map_eq_some_iff.1 hp
  obtain ⟨w, rfl, hcolumn, hw⟩ := Table.supply_plainValues hu
  obtain rfl : v = w := List.mem_singleton.1 hv
  exact hdata _ hcolumn _ hw

theorem composed_meeting_plainValues (hdata : ∀ c ∈ g.schema.columns, ∀ v,
      data c = some (.value v) → ∃ p, v.toDatum? = some p) :
    (g.meeting (.fields (g.table.plainValues data))).Composed := by
  obtain ⟨f, hf, hbindable⟩ := exists_query_plainValues hdata
  exact g.relation.composed_collect g.database _ hf hbindable

theorem composed_added (hg : g.schema.checked = .ok g.schema) (hdata : ∀ c ∈ g.schema.columns, ∀ v,
      data c = some (.value v) → ∃ p, v.toDatum? = some p) : (g.added data).Composed := by
  unfold added
  split
  · -- by the id, which stood in the insert or comes from the database
    rename_i a ha
    have hcolumn : a ∈ g.schema.columns := Schema.mem_columns_of_checked hg (by simp [ha])
    refine (composed_addedId a data).bind fun s id hid => ?_
    have hbound := exists_toDatum?_of_addedId hid (hdata a hcolumn)
    refine (composed_byId hbound).bind fun _ found _ => ?_
    cases found with
    | none => exact composed_fail rfl
    | some b => exact composed_pure b
  · refine (composed_meeting_plainValues hdata).bind fun _ found _ => ?_
    split
    · exact composed_fail rfl
    · exact composed_pure _
    · exact composed_fail rfl

/-- What an insert is read back by was inserted before, or was generated by the database. -/
theorem rejectsFirst_insert (hg : g.schema.checked = .ok g.schema) (mode : InsertMode)
    (data : Supply) (onConflict : Option Supply) :
    (g.insert mode data onConflict).RejectsFirst := by
  refine (silent_ofExcept _).bind_rejectsFirst fun _ f hf => ?_
  rw [result_ofExcept] at hf
  refine (rejectsFirst_execute f).bind fun s n hn => ?_
  -- the insert was run, so whatever the data supplies was bound once
  obtain ⟨q, hq⟩ := exists_statement?_of_execute hn
  split
  · exact composed_pure none
  · have hadded := composed_added hg fun c hc v hv => g.table.toDatum?_of_insertion hf hq hc hv
    exact hadded.bind fun _ a _ => composed_pure (some a)

/-- The key by which a changed row is read back was bound by the change. -/
theorem rejectsFirst_change (data : Supply) (changes : Option Supply) :
    (g.change data changes).RejectsFirst := by
  refine (silent_ofExcept _).bind_rejectsFirst fun _ key hkey => ?_
  refine (silent_ofExcept _).bind_rejectsFirst fun _ f hf => ?_
  rw [result_ofExcept] at hkey hf
  refine (rejectsFirst_execute f).bind fun s n hn => ?_
  -- the change was run, so all of its values are bound, and the key is among them
  obtain ⟨q, hq⟩ := exists_statement?_of_execute hn
  have haddressed : g.schema.Addressed key := .data hkey
  have hcarries : f.Carries true _ := Table.change_carries haddressed.length hf
  have hbound : ∀ v ∈ key, ∃ p, v.toDatum? = some p := fun v hv =>
    Fragment.toDatum?_of_statement? hq (hcarries.values_eq ▸ List.mem_append_right _ hv)
  refine (composed_ofKey (bindable_lookup haddressed.length hbound)).bind fun _ found _ => ?_
  split
  · exact Composed.bind (fun _ _ h => by cases h) fun _ _ _ => composed_pure _
  · exact composed_pure _

theorem rejectsFirst_remove (data : Supply) : (g.remove data).RejectsFirst := by
  unfold remove
  split
  · exact rejectsFirst_execute _
  · exact (silent_ofExcept (.error _)).rejectsFirst
  · exact (silent_ofExcept (.error _)).rejectsFirst

/-- A request of one statement. -/
theorem rejectsFirst_conditional (about : String) (r : Except Error Fragment) :
    (ofExcept r >>= fun f => g.database.prepare about g.schema.table f >>= fun q =>
      g.database.execute q).RejectsFirst :=
  (silent_ofExcept r).bind_rejectsFirst fun _ f _ =>
    (g.database.silent_prepare _ _ f).bind_rejectsFirst fun _ _ _ =>
      Database.composed_execute.rejectsFirst

theorem rejectsFirst_request (hg : g.schema.checked = .ok g.schema) (request : Request α β) :
    (request.run g).RejectsFirst := by
  cases request with
  | add data => exact rejectsFirst_insert hg .plain data none
  | addOrSkip data => exact rejectsFirst_insert hg .ignore data none
  | addOrReplace data => exact rejectsFirst_insert hg .overwrite data none
  | addOrChange data changes => exact rejectsFirst_insert hg .plain data _
  | change data changes => exact rejectsFirst_change data changes
  | changeWhere condition data => exact rejectsFirst_conditional _ _
  | remove data => exact rejectsFirst_remove data
  | removeById id =>
    exact (silent_ofExcept _).bind_rejectsFirst fun _ key _ => rejectsFirst_execute _
  | removeWhere condition => exact rejectsFirst_conditional _ _
  | ofKeyIn data =>
    exact (silent_ofExcept _).bind_rejectsFirst fun _ key _ => rejectsFirst_ofKey key
  | byId id => exact rejectsFirst_byId id
  | like data => exact g.relation.rejectsFirst_reading g.database _ .collect
  | all => exact g.relation.rejectsFirst_reading g.database _ .collect

end Gateway

namespace Operation

/-- An operation that fails since a statement could not be composed has called nothing: the
connection is left in the state that it was in, with any record that it keeps of its calls. -/
theorem rejected_before_calls (o : Operation σ β) {s : σ} {e : Error}
    (h : (o.run s).result = .error e) (he : e.isComposing) : o.run.seen s = ⟨.error e, [], s⟩ := by
  have hrejects : o.run.RejectsFirst := by
    cases o with
    | gateway g hg request => exact Gateway.rejectsFirst_request hg request
    | relation db r clauses reading => exact r.rejectsFirst_reading db clauses reading
  exact hrejects s e h he

/-- An order that is added or else changed, where a change of the total is a time in the zone of the
machine. -/
def changedLater : Operation (List Reply) (Option Row) :=
  .gateway (Gateway.orders ["seq"]) rfl
    (.addOrChange Gateway.newOrder (some (FieldMap.ofList [("total", .value .machineTime)]).supply))

theorem rejected_before_calls_changedLater :
    changedLater.run.seen Gateway.orderReplies =
      ⟨.error .unbindable, [], Gateway.orderReplies⟩ := by
  have hresult : (changedLater.run Gateway.orderReplies).result = .error .unbindable := rfl
  exact changedLater.rejected_before_calls hresult rfl

end Operation
end SqlMapper
