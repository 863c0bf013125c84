import SqlMapper.Proofs.Session.Exchange
import SqlMapper.Proofs.Gateway.Rejection

namespace SqlMapper

variable {σ α : Type} {stage : Stage}

/-- The requests that insert a row, with what they insert and what they change on a conflict. -/
inductive Request.IsInsert : Request α (Option α) → InsertMode → Supply → Option Supply → Prop
  | add (data : Supply) : IsInsert (.add data) .plain data none
  | addOrSkip (data : Supply) : IsInsert (.addOrSkip data) .ignore data none
  | addOrReplace (data : Supply) : IsInsert (.addOrReplace data) .overwrite data none
  | addOrChange (data : Supply) (changes : Option Supply) :
    IsInsert (.addOrChange data changes) .plain data (some (changes.getD data))

theorem Request.IsInsert.run_eq {request : Request α (Option α)} {mode : InsertMode}
    {data : Supply} {onConflict : Option Supply} (h : request.IsInsert mode data onConflict)
    (g : Gateway σ α) : request.run g = g.insert mode data onConflict := by
  cases h <;> rfl

/-- The id in an answer to the query for it, unless it is missing or `NULL`. -/
def generatedId? (rows : List Row) : Option Datum :=
  (rows.head?.bind (·.datumAt? 0)).filter fun d => !d.isNull

/-- The queries after an insert, with the answers to them: for the id that was generated, and then
for the row. -/
structure ReadBack where
  generated : Option (Except Failure (List Row))
  lookup : Option (Statement × Except Failure (List Row))

def ReadBack.exchanges (d : Dialect) (b : ReadBack) : List Exchange :=
  (b.generated.map fun answer => .query ⟨d.generatedId, []⟩ answer).toList ++
    (b.lookup.map fun p => .query p.1 p.2).toList

theorem ReadBack.length_exchanges_le (d : Dialect) (b : ReadBack) :
    (b.exchanges d).length ≤ 2 := by
  obtain ⟨_ | _, _ | _⟩ := b <;> simp [exchanges]

theorem ReadBack.mem_exchanges {d : Dialect} {b : ReadBack} {x : Exchange} :
    x ∈ b.exchanges d ↔
      (∃ answer, b.generated = some answer ∧ x = .query ⟨d.generatedId, []⟩ answer) ∨
        ∃ q answer, b.lookup = some (q, answer) ∧ x = .query q answer := by
  obtain ⟨_ | r, _ | ⟨q, answer⟩⟩ := b <;> simp [exchanges, and_comm]

theorem ReadBack.exchanges_lookup (d : Dialect) (generated : Option (Except Failure (List Row)))
    (q : Statement) (answer : Except Failure (List Row)) :
    exchanges d ⟨generated, some (q, answer)⟩ =
      exchanges d ⟨generated, none⟩ ++ [.query q answer] := by
  simp [exchanges]

theorem Table.statement?_lookup {t : Table} {k : String} {id : Value} {p : Datum} (d : Dialect)
    (hk : t.schema.primaryKey = [k]) (hp : id.toDatum? = some p) :
    (t.lookup [id]).statement? d = some ⟨(t.lookup [id]).text d, [p]⟩ := by
  have hlength : [id].length = t.schema.primaryKey.length := by simp [hk]
  have hcarries : (t.lookup [id]).Carries true [id] := t.lookup_carries hlength
  exact hcarries.statement?_eq d (by simp [hp])

/-- What a query for rows returns on an answer. -/
def readRows (decode : Row → Except DecodeError α) (q : Statement)
    (answer : Except Failure (List Row)) : Except Error (List α) :=
  (answer.mapError (.failed q.sql)).bind fun rows => (rows.mapM decode).mapError .decode

theorem mapM_eq_decodeRows (decode : Row → Except DecodeError α) (rows : List Row) :
    rows.mapM decode = match decodeRows decode rows with
      | (items, none) => .ok items
      | (_, some e) => .error e := by
  induction rows with
  | nil => rfl
  | cons row rows ih =>
    rw [List.mapM_cons, ih, decodeRows]
    cases decode row with
    | error e => rfl
    | ok a => rcases decodeRows decode rows with ⟨items, _ | e⟩ <;> rfl

theorem Relation.exchanges_collect (r : Relation α) (db : Database σ) {clauses : Clauses stage}
    {f : Fragment} {q : Statement} (hf : r.query r.projection clauses = .ok f)
    (hq : f.statement? db.dialect = some q) (s : σ × List Exchange) :
    ∃ answer u, (r.collect db.recorded clauses).Exchanges s [.query q answer]
      (readRows r.decode q answer) u := by
  have hstatement : (r.statement db.recorded clauses).Exchanges s [] (.ok q) s := by
    unfold statement prepare
    rw [hf]
    exact (Session.exchanges_ofExcept (.ok f) s).bind (Database.exchanges_prepared _ _ hq s)
  obtain ⟨answer, u, hquery⟩ := db.exchanges_query q s
  refine ⟨answer, u, ?_⟩
  cases answer with
  | error failure =>
    have hreceive : (r.receive db.recorded clauses).Exchanges s [.query q (.error failure)]
        (.error (.failed q.sql failure)) u := hstatement.bind hquery.bind_of_error
    exact hreceive.bind_of_error
  | ok rows =>
    have hreceive : (r.receive db.recorded clauses).Exchanges s [.query q (.ok rows)] _ u :=
      hstatement.bind (hquery.bind (Session.exchanges_pure _ u))
    -- the items are those of all rows, unless one of them cannot be decoded
    have hrows : readRows r.decode q (.ok rows) = (rows.mapM r.decode).mapError .decode := rfl
    rw [hrows, mapM_eq_decodeRows]
    refine hreceive.bind ?_
    rcases decodeRows r.decode rows with ⟨items, _ | e⟩
    · exact Session.exchanges_pure items u
    · exact Session.exchanges_ofExcept (.error (Error.decode e)) u

namespace Gateway

variable {g : Gateway σ α} {data : Supply} {s t : σ × List Exchange} {a : String} {id : Value}
  {q : Statement} {xs : List Exchange}

/-- The gateway with a connection that records its calls. -/
def recorded (g : Gateway σ α) : Gateway (σ × List Exchange) α :=
  ⟨g.database.recorded, g.schema, g.decode⟩

theorem exchanges_ofKey {key : List Value}
    (hq : (g.table.lookup key).statement? g.database.dialect = some q) (s : σ × List Exchange) :
    ∃ answer u, (g.recorded.ofKey key).Exchanges s [.query q answer]
      (readRows g.decode q answer) u := by
  have hprepare : (g.recorded.prepare (g.table.lookup key)).Exchanges s [] (.ok q) s :=
    Database.exchanges_prepared _ _ hq s
  obtain ⟨answer, u, hquery⟩ := g.database.exchanges_query q s
  refine ⟨answer, u, ?_⟩
  cases answer with
  | error failure => exact hprepare.bind hquery.bind_of_error
  | ok rows => exact hprepare.bind (hquery.bind (Session.exchanges_ofExcept _ u))

/-- The error of several rows where one was added. -/
def severalFound (g : Gateway σ α) (count : Nat) : Error :=
  if g.schema.autoIncrement.length = 1 then .sharedKey g.schema.table count
  else .ambiguous g.schema.table count

theorem severalFound_of_values (ha : ∀ a, g.schema.autoIncrement ≠ [a]) (count : Nat) :
    g.severalFound count = .ambiguous g.schema.table count := by
  refine if_neg fun h => ?_
  obtain ⟨a, h⟩ := List.length_eq_one_iff.1 h
  exact ha a h

/-- What is made of the rows that were found for the added one. -/
def theRow (g : Gateway σ α) : List α → Except Error α
  | [] => .error (.addedRowNotFound g.schema.table)
  | [b] => .ok b
  | found => .error (g.severalFound found.length)

/-- What reading back returns if its last query was answered. -/
def sought (g : Gateway σ α) (q : Statement) (answer : Except Failure (List Row)) :
    Except Error α :=
  (readRows g.decode q answer).bind g.theRow

theorem sought_eq_ok_iff {answer : Except Failure (List Row)} {b : α} :
    g.sought q answer = .ok b ↔ ∃ row, answer = .ok [row] ∧ g.decode row = .ok b := by
  constructor
  · intro h
    obtain ⟨found, hfound, hrow⟩ := bind_eq_ok.1 h
    obtain ⟨rows, hrows, hdecoded⟩ := bind_eq_ok.1 hfound
    have hall := mapM_eq_ok.1 (mapError_eq_ok.1 hdecoded)
    -- one row is found only if one was answered
    cases hall with
    | nil => cases hrow
    | cons hb hrest =>
      cases hrest with
      | nil =>
        cases hrow
        exact ⟨_, mapError_eq_ok.1 hrows, hb⟩
      | cons hc hrest => cases hrow
  · rintro ⟨row, rfl, hb⟩
    have hdecoded : [row].mapM g.decode = .ok [b] := mapM_eq_ok.2 (.cons hb .nil)
    unfold sought readRows
    show ((([row].mapM g.decode).mapError Error.decode).bind g.theRow) = .ok b
    rw [hdecoded]
    rfl

theorem sought_of_decoded {rows : List Row} {found : List α} (h : rows.mapM g.decode = .ok found) :
    g.sought q (.ok rows) = g.theRow found := by
  show (((rows.mapM g.decode).mapError Error.decode).bind g.theRow) = g.theRow found
  rw [h]
  rfl

theorem sought_of_undecodable {rows : List Row} {e : DecodeError}
    (h : rows.mapM g.decode = .error e) : g.sought q (.ok rows) = .error (.decode e) := by
  show (((rows.mapM g.decode).mapError Error.decode).bind g.theRow) = .error (.decode e)
  rw [h]
  rfl

/-- The query asks for the added row: by its id if one column is generated, and otherwise by its
plain values. -/
inductive SelectsAdded (g : Gateway σ α) (data : Supply) (q : Statement) : Prop
  | byId {a k : String} {id : Value} (ha : g.schema.autoIncrement = [a])
    (hk : g.schema.primaryKey = [k]) (hid : ∀ v, data a = some (.value v) → id = v)
    (h : (g.table.lookup [id]).statement? g.database.dialect = some q) : SelectsAdded g data q
  | byValues {f : Fragment} (ha : ∀ a, g.schema.autoIncrement ≠ [a])
    (hf : g.relation.query g.relation.projection
      (.filter (.fields (g.table.plainValues data))) = .ok f)
    (h : f.statement? g.database.dialect = some q) : SelectsAdded g data q

/-- One column is generated, and the data has no plain value for it. -/
def AsksId (g : Gateway σ α) (data : Supply) : Prop :=
  ∃ a, g.schema.autoIncrement = [a] ∧ ∀ v, data a ≠ some (.value v)

/-- How the queries after an insert and their answers decide what it returns. -/
structure ReadsBack (g : Gateway σ α) (data : Supply) (b : ReadBack)
    (result : Except Error (Option α)) : Prop where
  /-- A row was inserted, so one is returned or an error. -/
  ne_none : result ≠ .ok none
  /-- A row is returned just if it is the only one that was found. -/
  returned : ∀ x, result = .ok (some x) ↔
    ∃ q row, b.lookup = some (q, .ok [row]) ∧ g.decode row = .ok x
  missing : ∀ q, b.lookup = some (q, .ok []) → result = .error (.addedRowNotFound g.schema.table)
  several : ∀ q rows found, b.lookup = some (q, .ok rows) → rows.mapM g.decode = .ok found →
    2 ≤ rows.length → result = .error (g.severalFound rows.length)
  undecodable : ∀ q rows e, b.lookup = some (q, .ok rows) → rows.mapM g.decode = .error e →
    result = .error (.decode e)
  failed : ∀ q failure, .query q (.error failure) ∈ b.exchanges g.database.dialect →
    result = .error (.failed q.sql failure)
  asks : b.generated.isSome ↔ g.AsksId data
  /-- Without an id nothing is looked up. -/
  unidentified : ∀ rows, b.generated = some (.ok rows) → generatedId? rows = none →
    b.lookup = none ∧ result = .error .generatedIdNotFound
  /-- The id that was answered is the only value of a query for the row. -/
  identified : ∀ rows d, b.generated = some (.ok rows) → generatedId? rows = some d →
    ∀ q answer, b.lookup = some (q, answer) → q.params = [d.asKey]
  selects : ∀ q answer, b.lookup = some (q, answer) → g.SelectsAdded data q
  /-- Where nothing is looked up there is no id, or the key is not a single column. -/
  skipped : b.lookup = none →
    (∃ answer, b.generated = some answer ∧ ∀ rows, answer = .ok rows → generatedId? rows = none) ∨
      (∀ k, g.schema.primaryKey ≠ [k]) ∧ result = .error (.compositeKey g.schema.table .notNamed)

theorem readsBack_of_lookup {generated : Option (Except Failure (List Row))}
    {answer : Except Failure (List Row)} (hasks : generated.isSome ↔ g.AsksId data)
    (hid : ∀ r, generated = some r → ∃ rows d, r = .ok rows ∧ generatedId? rows = some d ∧
      q.params = [d.asKey])
    (hq : g.SelectsAdded data q) :
    g.ReadsBack data ⟨generated, some (q, answer)⟩ ((g.sought q answer).map some) where
  ne_none h := by
    obtain ⟨x, -, hx⟩ := map_eq_ok.1 h
    cases hx
  returned x := by
    rw [map_eq_ok]
    constructor
    · rintro ⟨y, hy, hx⟩
      cases hx
      obtain ⟨row, rfl, hrow⟩ := sought_eq_ok_iff.1 hy
      exact ⟨q, row, rfl, hrow⟩
    · rintro ⟨p, row, hp, hrow⟩
      cases hp
      exact ⟨x, sought_eq_ok_iff.2 ⟨row, rfl, hrow⟩, rfl⟩
  missing p hp := by
    cases hp
    rfl
  several p rows found hp hfound hmany := by
    cases hp
    have hlength := (mapM_eq_ok.1 hfound).length_eq
    rw [hlength] at hmany
    rw [sought_of_decoded hfound, hlength]
    rcases found with _ | ⟨x, _ | ⟨y, rest⟩⟩
    · simp at hmany
    · simp at hmany
    · rfl
  undecodable p rows e hp he := by
    cases hp
    rw [sought_of_undecodable he]
    rfl
  failed p failure hp := by
    rcases ReadBack.mem_exchanges.1 hp with ⟨r, hr, hx⟩ | ⟨p', r, hr, hx⟩
    · -- the id was answered, or the row would not be asked for
      obtain ⟨rows, d, rfl, -⟩ := hid r hr
      cases hx
    · cases hr
      cases hx
      rfl
  asks := hasks
  unidentified rows hrows hnone := by
    obtain ⟨rows', d, hr, hd, -⟩ := hid _ hrows
    cases hr
    rw [hnone] at hd
    cases hd
  identified rows d hrows hd p r hp := by
    cases hp
    obtain ⟨rows', d', hr, hd', hparams⟩ := hid _ hrows
    cases hr
    rw [hd] at hd'
    cases hd'
    exact hparams
  selects p r hp := by
    cases hp
    exact hq
  skipped h := by cases h

/-- Why no query for the row follows: the query for the id failed, or there is no id, or it does not
fit the key. -/
inductive Stops (g : Gateway σ α) : Option (Except Failure (List Row)) → Error → Prop
  | unanswered (failure : Failure) :
    Stops g (some (.error failure)) (.failed g.database.dialect.generatedId failure)
  | unidentified {rows : List Row} (h : generatedId? rows = none) :
    Stops g (some (.ok rows)) .generatedIdNotFound
  | unkeyed {generated : Option (Except Failure (List Row))}
    (hid : ∀ r, generated = some r → ∃ rows d, r = .ok rows ∧ generatedId? rows = some d)
    (hk : ∀ k, g.schema.primaryKey ≠ [k]) :
    Stops g generated (.compositeKey g.schema.table .notNamed)

theorem Stops.readsBack {generated : Option (Except Failure (List Row))} {e : Error}
    (h : g.Stops generated e) (hasks : generated.isSome ↔ g.AsksId data) :
    g.ReadsBack data ⟨generated, none⟩ (.error e) where
  ne_none h := by cases h
  returned x := ⟨fun h => (by cases h), fun ⟨_, _, h, _⟩ => by cases h⟩
  missing p h := by cases h
  several p rows found h := by cases h
  undecodable p rows e h := by cases h
  failed p failure hp := by
    rcases ReadBack.mem_exchanges.1 hp with ⟨r, hr, hx⟩ | ⟨p', r, hr, hx⟩
    · cases hx
      cases h with
      | unanswered failure' =>
        cases hr
        rfl
      | unidentified hnone => cases hr
      | unkeyed hid hk =>
        obtain ⟨rows, d, hrows, -⟩ := hid _ hr
        cases hrows
    · cases hr
  asks := hasks
  unidentified rows hrows hnone := by
    cases h with
    | unanswered failure => cases hrows
    | unidentified h => exact ⟨rfl, rfl⟩
    | unkeyed hid hk =>
      -- the id that did not fit the key would be missing
      obtain ⟨rows', d, hr, hd⟩ := hid _ hrows
      cases hr
      rw [hnone] at hd
      cases hd
  identified rows d hrows hd p r hp := by cases hp
  selects p r hp := by cases hp
  skipped _ := by
    cases h with
    | unanswered failure => exact .inl ⟨_, rfl, fun rows h => by cases h⟩
    | unidentified hnone =>
      refine .inl ⟨_, rfl, fun rows h => ?_⟩
      cases h
      exact hnone
    | unkeyed hid hk => exact .inr ⟨hk, rfl⟩

/-- What is made of the rows with an id. -/
def atMostOne (g : Gateway σ α) : List α → Except Error (Option α)
  | [] => .ok none
  | [b] => .ok (some b)
  | found => .error (.sharedKey g.schema.table found.length)

theorem exchanges_byId {k : String} (hk : g.schema.primaryKey = [k])
    (hq : (g.table.lookup [id]).statement? g.database.dialect = some q) (s : σ × List Exchange) :
    ∃ answer u, (g.recorded.byId (.scalar id)).Exchanges s [.query q answer]
      ((readRows g.decode q answer).bind g.atMostOne) u := by
  have hkey : g.recorded.schema.keyFromId (.scalar id) = .ok [id] :=
    Schema.keyFromId_scalar hk id
  obtain ⟨answer, u, hof⟩ := exchanges_ofKey hq s
  refine ⟨answer, u, ?_⟩
  unfold byId
  rw [hkey]
  have hfirst : (Session.ofExcept (.ok [id]) : Session (σ × List Exchange) Error _).Exchanges s []
      (.ok [id]) s := Session.exchanges_ofExcept _ s
  cases hrows : readRows g.decode q answer with
  | error e =>
    rw [hrows] at hof
    exact hfirst.bind hof.bind_of_error
  | ok found =>
    rw [hrows] at hof
    refine hfirst.bind (hof.bind ?_)
    match found with
    | [] => exact Session.exchanges_pure none u
    | [b] => exact Session.exchanges_pure (some b) u
    | b :: c :: rest => exact Session.exchanges_ofExcept (.error (Error.sharedKey _ _)) u

/-- With an id that can travel and a key of one column, the row is looked up. -/
theorem exchanges_added_of_id {k : String}
    (ha : g.schema.autoIncrement = [a]) (hk : g.schema.primaryKey = [k])
    (hid : (g.recorded.addedId a data).Exchanges s xs (.ok id) t)
    (hq : (g.table.lookup [id]).statement? g.database.dialect = some q) :
    ∃ answer u, (g.recorded.added data).Exchanges s (xs ++ [.query q answer])
      (g.sought q answer) u := by
  have hgenerated : g.recorded.schema.autoIncrement = [a] := ha
  have hseveral (n : Nat) : g.severalFound n = .sharedKey g.schema.table n := by
    rw [severalFound, ha]
    rfl
  obtain ⟨answer, u, hby⟩ := exchanges_byId hk hq t
  refine ⟨answer, u, ?_⟩
  unfold added sought
  simp only [hgenerated]
  refine hid.bind ?_
  cases hrows : readRows g.decode q answer with
  | error e =>
    rw [hrows] at hby
    exact hby.bind_of_error
  | ok found =>
    rw [hrows] at hby
    match found with
    | [] => exact hby.bind (Session.exchanges_ofExcept (.error (Error.addedRowNotFound _)) u)
    | [b] => exact hby.bind (Session.exchanges_pure b u)
    | b :: c :: rest =>
      have htheRow : g.theRow (b :: c :: rest) =
          .error (.sharedKey g.schema.table (b :: c :: rest).length) := by
        rw [← hseveral]
        rfl
      show Session.Exchanges _ _ _ (g.theRow (b :: c :: rest)) _
      rw [htheRow]
      exact hby.bind_of_error

/-- Whatever the id is, it is looked up, or it does not fit the key. -/
theorem readsBack_of_key {generated : Option (Except Failure (List Row))} {p : Datum}
    (ha : g.schema.autoIncrement = [a])
    (hid : (g.recorded.addedId a data).Exchanges s
      (ReadBack.exchanges g.database.dialect ⟨generated, none⟩) (.ok id) t)
    (hp : id.toDatum? = some p) (hsupplied : ∀ v, data a = some (.value v) → id = v)
    (hasks : generated.isSome ↔ g.AsksId data)
    (hfrom : ∀ r, generated = some r → ∃ rows d, r = .ok rows ∧ generatedId? rows = some d ∧
      p = d.asKey) :
    ∃ b r u, (g.recorded.added data).Exchanges s (b.exchanges g.database.dialect) r u ∧
      g.ReadsBack data b (r.map some) := by
  by_cases hone : ∃ k, g.schema.primaryKey = [k]
  · obtain ⟨k, hk⟩ := hone
    have hlookup := Table.statement?_lookup (t := g.table) g.database.dialect hk hp
    obtain ⟨answer, u, hadded⟩ := exchanges_added_of_id ha hk hid hlookup
    rw [← ReadBack.exchanges_lookup] at hadded
    refine ⟨_, _, u, hadded, readsBack_of_lookup hasks (fun r hr => ?_) ?_⟩
    · obtain ⟨rows, d, hrows, hd, rfl⟩ := hfrom r hr
      exact ⟨rows, d, hrows, hd, rfl⟩
    · exact .byId ha hk hsupplied hlookup
  · have hcomposite : ∀ k, g.schema.primaryKey ≠ [k] := fun k hk => hone ⟨k, hk⟩
    have hgenerated : g.recorded.schema.autoIncrement = [a] := ha
    have hkey : g.recorded.schema.keyFromId (.scalar id) =
        .error (.compositeKey g.schema.table .notNamed) :=
      Schema.keyFromId_scalar_of_composite hcomposite id
    have hby : (g.recorded.byId (.scalar id)).Exchanges t []
        (.error (.compositeKey g.schema.table .notNamed)) t := by
      unfold byId
      rw [hkey]
      exact (Session.exchanges_ofExcept _ t).bind_of_error
    have hadded : (g.recorded.added data).Exchanges s
        (ReadBack.exchanges g.database.dialect ⟨generated, none⟩)
        (.error (.compositeKey g.schema.table .notNamed)) t := by
      unfold added
      simp only [hgenerated]
      rw [← List.append_nil (ReadBack.exchanges _ _)]
      exact hid.bind hby.bind_of_error
    have hanswered : ∀ r, generated = some r →
        ∃ rows d, r = .ok rows ∧ generatedId? rows = some d := by
      intro r hr
      obtain ⟨rows, d, hrows, hd, -⟩ := hfrom r hr
      exact ⟨rows, d, hrows, hd⟩
    exact ⟨_, _, t, hadded, (Stops.unkeyed hanswered hcomposite).readsBack hasks⟩

/-- Without a plain value for the one generated column, its id is asked for. -/
theorem readsBack_of_asked (ha : g.schema.autoIncrement = [a])
    (hdata : ∀ v, data a ≠ some (.value v)) (s : σ × List Exchange) :
    ∃ b r u, (g.recorded.added data).Exchanges s (b.exchanges g.database.dialect) r u ∧
      g.ReadsBack data b (r.map some) := by
  have hgenerated : g.recorded.schema.autoIncrement = [a] := ha
  have hasks (r : Except Failure (List Row)) : (some r).isSome ↔ g.AsksId data := by
    simp only [Option.isSome_some, true_iff]
    exact ⟨a, ha, hdata⟩
  have haddedId : g.recorded.addedId a data = g.recorded.generatedId := by
    unfold addedId
    split
    · rename_i v hv
      exact absurd hv (hdata v)
    · rfl
  -- without an id, reading back ends there
  have hstops {r : Except Failure (List Row)} {e : Error} {t : σ × List Exchange}
      (h : g.recorded.generatedId.Exchanges s
        (ReadBack.exchanges g.database.dialect ⟨some r, none⟩) (.error e) t) :
      (g.recorded.added data).Exchanges s
        (ReadBack.exchanges g.database.dialect ⟨some r, none⟩) (.error e) t := by
    unfold added
    simp only [hgenerated, haddedId]
    exact h.bind_of_error
  obtain ⟨answer, t, hquery⟩ :=
    g.database.exchanges_query ⟨g.database.dialect.generatedId, []⟩ s
  cases answer with
  | error failure =>
    have hid : g.recorded.generatedId.Exchanges s _ (.error _) t := hquery.bind_of_error
    exact ⟨_, _, t, hstops hid, (Stops.unanswered failure).readsBack (hasks _)⟩
  | ok rows =>
    cases hd : generatedId? rows with
    | none =>
      have hid : g.recorded.generatedId.Exchanges s
          (ReadBack.exchanges g.database.dialect ⟨some (.ok rows), none⟩)
          (.error .generatedIdNotFound) t := by
        refine hquery.bind ?_
        -- whatever the first datum is, it is no id
        cases hfirst : rows.head?.bind (·.datumAt? 0) with
        | none => exact Session.exchanges_ofExcept (.error Error.generatedIdNotFound) t
        | some d =>
          have hnull : d.isNull = true := by simpa [generatedId?, hfirst] using hd
          simp only [hnull]
          exact Session.exchanges_ofExcept (.error Error.generatedIdNotFound) t
      exact ⟨_, _, t, hstops hid, (Stops.unidentified hd).readsBack (hasks _)⟩
    | some d =>
      have hid : (g.recorded.addedId a data).Exchanges s
          (ReadBack.exchanges g.database.dialect ⟨some (.ok rows), none⟩) (.ok d.toValue) t := by
        rw [haddedId]
        refine hquery.bind ?_
        obtain ⟨hfirst, hvalue⟩ := Option.filter_eq_some_iff.1 hd
        have hnull : d.isNull = false := by simpa using hvalue
        rw [hfirst]
        simp only [hnull]
        exact Session.exchanges_pure d.toValue t
      refine readsBack_of_key ha hid d.toDatum?_toValue (fun v hv => absurd hv (hdata v))
        (hasks _) fun r hr => ?_
      cases hr
      exact ⟨rows, d, rfl, hd, rfl⟩

/-- A supplied id is looked up as it is: it travelled with the insert before. -/
theorem readsBack_of_supplied {p : Datum} (ha : g.schema.autoIncrement = [a])
    (hdata : data a = some (.value id)) (hp : id.toDatum? = some p) (s : σ × List Exchange) :
    ∃ b r u, (g.recorded.added data).Exchanges s (b.exchanges g.database.dialect) r u ∧
      g.ReadsBack data b (r.map some) := by
  have haddedId : (g.recorded.addedId a data).Exchanges s
      (ReadBack.exchanges g.database.dialect ⟨none, none⟩) (.ok id) s := by
    unfold addedId
    rw [hdata]
    exact Session.exchanges_pure id s
  have hasks : (none : Option (Except Failure (List Row))).isSome ↔ g.AsksId data := by
    refine ⟨fun h => absurd h Bool.false_ne_true, fun ⟨b, hb, hnone⟩ => ?_⟩
    obtain rfl : a = b := List.singleton_inj.1 (ha.symm.trans hb)
    exact absurd hdata (hnone id)
  refine readsBack_of_key ha haddedId hp (fun v hv => ?_) hasks fun r hr => by cases hr
  rw [hdata] at hv
  cases hv
  rfl

/-- Unless one column is generated, the row is looked for by its plain values. -/
theorem readsBack_of_values (ha : ∀ a, g.schema.autoIncrement ≠ [a])
    (hdata : ∀ c ∈ g.schema.columns, ∀ v, data c = some (.value v) → ∃ p, v.toDatum? = some p)
    (s : σ × List Exchange) :
    ∃ b r u, (g.recorded.added data).Exchanges s (b.exchanges g.database.dialect) r u ∧
      g.ReadsBack data b (r.map some) := by
  have hasks : (none : Option (Except Failure (List Row))).isSome ↔ g.AsksId data :=
    ⟨fun h => absurd h Bool.false_ne_true, fun ⟨a, h, _⟩ => absurd h (ha a)⟩
  obtain ⟨f, hf, hbindable⟩ := exists_query_plainValues hdata
  obtain ⟨q, hq⟩ := hbindable.exists_statement? g.database.dialect
  obtain ⟨answer, u, hmeeting⟩ := g.relation.exchanges_collect g.database hf hq s
  refine ⟨⟨none, some (q, answer)⟩, g.sought q answer, u, ?_,
    readsBack_of_lookup hasks (fun r hr => by cases hr) (.byValues ha hf hq)⟩
  unfold added sought
  split
  · rename_i a hone
    exact absurd hone (ha a)
  · change (g.recorded.meeting (.fields (g.table.plainValues data))).Exchanges s [.query q answer]
      (readRows g.decode q answer) u at hmeeting
    cases hrows : readRows g.decode q answer with
    | error e =>
      rw [hrows] at hmeeting
      exact hmeeting.bind_of_error
    | ok found =>
      rw [hrows] at hmeeting
      refine hmeeting.bind ?_
      match found with
      | [] => exact Session.exchanges_ofExcept (.error (Error.addedRowNotFound _)) u
      | [b] => exact Session.exchanges_pure b u
      | b :: c :: rest =>
        have hrow : g.theRow (b :: c :: rest) =
            .error (.ambiguous g.schema.table (b :: c :: rest).length) := by
          rw [← severalFound_of_values ha]
          rfl
        show Session.Exchanges _ _ _ (g.theRow (b :: c :: rest)) _
        rw [hrow]
        exact Session.exchanges_ofExcept (.error (Error.ambiguous _ _)) u

/-- After an insert that was run, the row is read back by statements that all can be composed. -/
theorem exists_readsBack (hg : g.schema.checked = .ok g.schema) {mode : InsertMode}
    {onConflict : Option Supply} {f : Fragment}
    (hf : g.table.insertion g.database.dialect mode data onConflict = .ok f)
    (hq : f.statement? g.database.dialect = some q) (s : σ × List Exchange) :
    ∃ b r u, (g.recorded.added data).Exchanges s (b.exchanges g.database.dialect) r u ∧
      g.ReadsBack data b (r.map some) := by
  -- whatever the data supplies was bound by the insert
  have hdata : ∀ c ∈ g.schema.columns, ∀ v, data c = some (.value v) →
      ∃ p, v.toDatum? = some p :=
    fun c hc v hv => g.table.toDatum?_of_insertion hf hq hc hv
  by_cases hone : ∃ a, g.schema.autoIncrement = [a]
  · obtain ⟨a, ha⟩ := hone
    by_cases hsupplied : ∃ v, data a = some (.value v)
    · obtain ⟨v, hv⟩ := hsupplied
      have hcolumn : a ∈ g.schema.columns := Schema.mem_columns_of_checked hg (by simp [ha])
      obtain ⟨p, hp⟩ := hdata a hcolumn v hv
      exact readsBack_of_supplied ha hv hp s
    · exact readsBack_of_asked ha (fun v hv => hsupplied ⟨v, hv⟩) s
  · exact readsBack_of_values (fun a ha => hone ⟨a, ha⟩) hdata s

section Insert

variable {mode : InsertMode} {onConflict : Option Supply} {f : Fragment}

theorem exchanges_insertion {r : Except Error Fragment}
    (h : g.table.insertion g.database.dialect mode data onConflict = r) (s : σ × List Exchange) :
    (Session.ofExcept (g.table.insertion g.database.dialect mode data onConflict) :
      Session (σ × List Exchange) Error Fragment).Exchanges s [] r s := by
  rw [h]
  exact Session.exchanges_ofExcept r s

/-- What is not composed is not sent. -/
theorem exchanges_insert_of_not_composed
    (h : ¬∃ f q, g.table.insertion g.database.dialect mode data onConflict = .ok f ∧
      f.statement? g.database.dialect = some q) (s : σ × List Exchange) :
    ∃ e, (g.recorded.insert mode data onConflict).Exchanges s [] (.error e) s := by
  cases hf : g.table.insertion g.database.dialect mode data onConflict with
  | error e => exact ⟨e, (exchanges_insertion hf s).bind_of_error⟩
  | ok f =>
    have hprepare := g.database.exchanges_prepare "repository generated SQL" g.schema.table f s
    cases hq : f.statement? g.database.dialect with
    | some q => exact absurd ⟨f, q, hf, hq⟩ h
    | none =>
      rw [hq] at hprepare
      have hexecute : (g.recorded.execute f).Exchanges s [] (.error .unbindable) s :=
        hprepare.bind_of_error
      exact ⟨.unbindable, (exchanges_insertion hf s).bind hexecute.bind_of_error⟩

theorem exchanges_execute (hq : f.statement? g.database.dialect = some q)
    (s : σ × List Exchange) :
    ∃ answer t, (g.recorded.execute f).Exchanges s [.execute q answer]
      (answer.mapError (.failed q.sql)) t := by
  have hprepare : (g.recorded.prepare f).Exchanges s [] (.ok q) s :=
    Database.exchanges_prepared _ _ hq s
  obtain ⟨answer, t, hcall⟩ := g.database.exchanges_execute q s
  exact ⟨answer, t, hprepare.bind hcall⟩

/-- What an insert that was sent makes of the number of rows that it affected. -/
structure Executed (g : Gateway σ α) (data : Supply) (q : Statement) (answer : Except Failure Nat)
    (after : List Exchange) (result : Except Error (Option α)) : Prop where
  failed : ∀ failure, answer = .error failure → after = [] ∧ result = .error (.failed q.sql failure)
  unaffected : answer = .ok 0 → after = [] ∧ result = .ok none
  affected : ∀ n, answer = .ok n → n ≠ 0 →
    ∃ b : ReadBack, after = b.exchanges g.database.dialect ∧ g.ReadsBack data b result

theorem Executed.queries {answer : Except Failure Nat} {after : List Exchange}
    {result : Except Error (Option α)} (h : g.Executed data q answer after result) :
    after.length ≤ 2 ∧ ∀ x ∈ after, ∃ p r, x = .query p r := by
  have hnil : ([] : List Exchange).length ≤ 2 ∧ ∀ x ∈ ([] : List Exchange), ∃ p r, x = .query p r :=
    ⟨by simp, by simp⟩
  match answer with
  | .error failure => exact (h.failed failure rfl).1 ▸ hnil
  | .ok 0 => exact (h.unaffected rfl).1 ▸ hnil
  | .ok (n + 1) =>
    obtain ⟨b, rfl, -⟩ := h.affected (n + 1) rfl n.succ_ne_zero
    refine ⟨b.length_exchanges_le _, fun x hx => ?_⟩
    rcases ReadBack.mem_exchanges.1 hx with ⟨r, -, rfl⟩ | ⟨p, r, -, rfl⟩
    · exact ⟨_, r, rfl⟩
    · exact ⟨p, r, rfl⟩

theorem exists_executed (hg : g.schema.checked = .ok g.schema)
    (hf : g.table.insertion g.database.dialect mode data onConflict = .ok f)
    (hq : f.statement? g.database.dialect = some q) (s : σ × List Exchange) :
    ∃ answer after r u,
      (g.recorded.insert mode data onConflict).Exchanges s (.execute q answer :: after) r u ∧
        g.Executed data q answer after r := by
  have hinsertion := exchanges_insertion hf s
  obtain ⟨answer, t, hexecute⟩ := exchanges_execute hq s
  match answer with
  | .error failure =>
    refine ⟨.error failure, [], _, t, hinsertion.bind hexecute.bind_of_error, ?_, ?_, ?_⟩
    · intro failure' h
      cases h
      exact ⟨rfl, rfl⟩
    · intro h
      cases h
    · intro n h
      cases h
  | .ok 0 =>
    have hnone := Session.exchanges_pure (ε := Error) (none : Option α) t
    refine ⟨.ok 0, [], _, t, hinsertion.bind (hexecute.bind hnone), ?_, ?_, ?_⟩
    · intro failure h
      cases h
    · intro h
      exact ⟨rfl, rfl⟩
    · intro n h hn
      cases h
      exact absurd rfl hn
  | .ok (n + 1) =>
    obtain ⟨b, r, u, hadded, hreads⟩ := exists_readsBack hg hf hq t
    -- what is read back is returned as it is
    have hreturned : (g.recorded.added data >>= fun x => pure (some x) :
        Session (σ × List Exchange) Error (Option α)).Exchanges t
          (b.exchanges g.database.dialect) (r.map some) u := by
      cases r with
      | error e => exact hadded.bind_of_error
      | ok x =>
        rw [← List.append_nil (b.exchanges g.database.dialect)]
        exact hadded.bind (Session.exchanges_pure (some x) u)
    refine ⟨.ok (n + 1), _, _, u, hinsertion.bind (hexecute.bind hreturned), ?_, ?_, ?_⟩
    · intro failure h
      cases h
    · intro h
      cases h
    · intro m h hm
      exact ⟨b, rfl, hreads⟩

/-- An insert that gets as far as its first call runs one statement, first and once, and whatever
follows is a query, of which there are two at most. If the statement fails or affects no row,
nothing follows; otherwise the row is read back. -/
theorem inserts_then_reads_back (hg : g.schema.checked = .ok g.schema)
    {request : Request α (Option α)} (hrequest : request.IsInsert mode data onConflict)
    (hsent : (request.run g.recorded s).state.2 ≠ s.2) :
    ∃ f q answer after, g.table.insertion g.database.dialect mode data onConflict = .ok f ∧
      f.statement? g.database.dialect = some q ∧
      (request.run g.recorded s).state.2 = s.2 ++ .execute q answer :: after ∧
      (after.length ≤ 2 ∧ ∀ x ∈ after, ∃ p r, x = .query p r) ∧
      g.Executed data q answer after (request.run g.recorded s).result := by
  rw [hrequest.run_eq] at hsent ⊢
  by_cases hcomposed : ∃ f q, g.table.insertion g.database.dialect mode data onConflict = .ok f ∧
      f.statement? g.database.dialect = some q
  · obtain ⟨f, q, hf, hq⟩ := hcomposed
    obtain ⟨answer, after, r, u, hrun, hexecuted⟩ := exists_executed hg hf hq s
    refine ⟨f, q, answer, after, hf, hq, ?_, hexecuted.queries, ?_⟩
    · rw [hrun.state, hrun.record]
    · rw [hrun.result]
      exact hexecuted
  · obtain ⟨e, hrun⟩ := exchanges_insert_of_not_composed hcomposed s
    have hsame : (g.recorded.insert mode data onConflict s).state.2 = s.2 := by
      rw [hrun.state, hrun.record, List.append_nil]
    exact absurd hsame hsent

/-- An order is added, and the row that answers to its number is returned. -/
theorem inserts_then_reads_back_orders :
    ∃ b : ReadBack,
      (((Request.add newOrder).run (orders ["seq"]).recorded) (orderReplies, [])).state.2 =
        .execute ⟨"INSERT INTO \"order\" (\"code\") VALUES (?)", [.text (some "c")]⟩ (.ok 1) ::
          b.exchanges .sqlite ∧
      b.lookup = some (⟨"SELECT * FROM \"order\" WHERE \"seq\"=?", [.int64 (some 4)]⟩,
        .ok [⟨[("seq", .int64 (some 9)), ("code", .text (some "4"))]⟩]) ∧
      (orders ["seq"]).ReadsBack newOrder b
        (.ok (some ⟨[("seq", .int64 (some 9)), ("code", .text (some "4"))]⟩)) := by
  have hrecord : (((Request.add newOrder).run (orders ["seq"]).recorded)
      (orderReplies, [])).state.2 =
        [.execute ⟨"INSERT INTO \"order\" (\"code\") VALUES (?)", [.text (some "c")]⟩ (.ok 1),
          .query ⟨"SELECT last_insert_rowid()", []⟩
            (.ok [⟨[("last_insert_rowid()", .int64 (some 4))]⟩]),
          .query ⟨"SELECT * FROM \"order\" WHERE \"seq\"=?", [.int64 (some 4)]⟩
            (.ok [⟨[("seq", .int64 (some 9)), ("code", .text (some "4"))]⟩])] := rfl
  have hsent : (((Request.add newOrder).run (orders ["seq"]).recorded)
      (orderReplies, [])).state.2 ≠ [] := by
    rw [hrecord]
    exact List.cons_ne_nil _ _
  obtain ⟨f, q, answer, after, -, -, hcalls, -, hexecuted⟩ :=
    inserts_then_reads_back (g := orders ["seq"]) rfl (.add newOrder) hsent
  rw [hrecord] at hcalls
  cases hcalls
  obtain ⟨b, hb, hreads⟩ := hexecuted.affected 1 rfl Nat.one_ne_zero
  refine ⟨b, ?_, ?_, hreads⟩
  · rw [hrecord, hb]
    rfl
  · -- two queries leave room for one of the row only
    obtain ⟨_ | r, _ | ⟨p, r'⟩⟩ := b <;> cases hb
    rfl

end Insert

end Gateway
end SqlMapper
