import SqlMapper.Proofs.Gateway.ReadBack

namespace SqlMapper

variable {σ α : Type}

namespace Schema

variable {name table : String} {v : Value} {pairs rest : List (String × Value)}
  {columns : List String}

/-- An element is taken out and the last one put into its place: all others are left. -/
theorem perm_cons_dropLast_set {β : Type} {xs : List β} {i : Nat} {a last : β}
    (ha : xs[i]? = some a) (hlast : xs.getLast? = some last) :
    xs.Perm (a :: (xs.set i last).dropLast) := by
  obtain ⟨front, rfl⟩ := List.getLast?_eq_some_iff.1 hlast
  by_cases hi : i < front.length
  · rw [List.getElem?_append_left hi, List.getElem?_eq_some_iff] at ha
    obtain ⟨-, rfl⟩ := ha
    have hfront : front.Perm (front[i] :: (front.take i ++ front.drop (i + 1))) := by
      calc
        front = front.take i ++ front[i] :: front.drop (i + 1) := by
          rw [← List.drop_eq_getElem_cons, List.take_append_drop]
        _ |>.Perm (front[i] :: (front.take i ++ front.drop (i + 1))) := List.perm_middle
    rw [List.set_append_left _ _ hi, List.dropLast_concat, List.set_eq_take_append_cons_drop,
      if_pos hi]
    calc
      (front ++ [last]).Perm (last :: front) := List.perm_append_singleton last front
      _ |>.Perm (last :: front[i] :: (front.take i ++ front.drop (i + 1))) := hfront.cons last
      _ |>.Perm (front[i] :: last :: (front.take i ++ front.drop (i + 1))) := .swap ..
      _ |>.Perm (front[i] :: (front.take i ++ last :: front.drop (i + 1))) :=
        List.perm_middle.symm.cons _
  · -- the last element itself is taken out
    have hlength := (List.getElem?_eq_some_iff.1 ha).1
    rw [List.length_append, List.length_singleton] at hlength
    obtain rfl : i = front.length := by omega
    rw [List.getElem?_concat_length] at ha
    cases ha
    rw [List.set_append_right _ _ (Nat.le_refl _), Nat.sub_self, List.set_cons_zero,
      List.dropLast_concat]
    exact List.perm_append_singleton a front

theorem perm_of_takeNamed? (h : takeNamed? name pairs = some (v, rest)) :
    pairs.Perm ((name, v) :: rest) := by
  unfold takeNamed? at h
  split at h
  · rename_i i last hfound hlast
    obtain ⟨p, hp, he⟩ := Option.map_eq_some_iff.1 h
    cases he
    obtain ⟨hi, hname, -⟩ := List.findIdx?_eq_some_iff_getElem.1 hfound
    have hpair : pairs[i] = p := (List.getElem?_eq_some_iff.1 hp).2
    obtain rfl : p.1 = name := by simpa [hpair] using hname
    exact perm_cons_dropLast_set hp hlast
  · cases h

theorem takeNamed?_eq_none_iff : takeNamed? name pairs = none ↔ name ∉ pairs.map (·.1) := by
  unfold takeNamed?
  cases hfound : pairs.findIdx? (·.1 = name) with
  | none =>
    rw [List.findIdx?_eq_none_iff] at hfound
    refine iff_of_true rfl fun hm => ?_
    obtain ⟨p, hp, rfl⟩ := List.mem_map.1 hm
    simpa using hfound p hp
  | some i =>
    obtain ⟨hi, hname, -⟩ := List.findIdx?_eq_some_iff_getElem.1 hfound
    have hlast : pairs.getLast? ≠ none := by
      rw [Ne, List.getLast?_eq_none_iff, ← List.length_eq_zero_iff]
      omega
    obtain ⟨last, hlast⟩ := Option.ne_none_iff_exists'.1 hlast
    have hm : name ∈ pairs.map (·.1) :=
      List.mem_map.2 ⟨pairs[i], List.getElem_mem hi, by simpa using hname⟩
    simp [hlast, hi, hm]

theorem exists_takeNamed? (h : name ∈ pairs.map (·.1)) :
    ∃ v rest, takeNamed? name pairs = some (v, rest) := by
  cases htake : takeNamed? name pairs with
  | none => exact absurd h (takeNamed?_eq_none_iff.1 htake)
  | some p => exact ⟨p.1, p.2, rfl⟩

/-- Taking a pair out leaves all other names where they are. -/
theorem mem_names_of_takeNamed? {other : String} (h : takeNamed? name pairs = some (v, rest))
    (hne : other ≠ name) : other ∈ rest.map (·.1) ↔ other ∈ pairs.map (·.1) := by
  rw [((perm_of_takeNamed? h).map (·.1)).mem_iff, List.map_cons, List.mem_cons]
  exact ⟨.inr, fun hm => hm.resolve_left hne⟩

/-- The values of a named key are those of its columns, wherever the pairs stand. -/
theorem namedKey_eq_ok {value : String → Value} (hcolumns : columns.Nodup)
    (hpairs : (pairs.map (·.1)).Nodup) (h : ∀ k ∈ columns, (k, value k) ∈ pairs) :
    namedKey table columns pairs = .ok (columns.map value) := by
  induction columns generalizing pairs with
  | nil => rfl
  | cons column columns ih =>
    rw [List.nodup_cons] at hcolumns
    rw [List.forall_mem_cons] at h
    obtain ⟨v, rest, htake⟩ := exists_takeNamed? (List.mem_map_of_mem (f := (·.1)) h.1)
    have hperm := perm_of_takeNamed? htake
    have hnames : (column :: rest.map (·.1)).Nodup :=
      (hperm.map Prod.fst).nodup_iff.1 hpairs
    rw [List.nodup_cons] at hnames
    -- no other pair has the name of the column
    have hv : value column = v := by
      rcases List.mem_cons.1 (hperm.mem_iff.1 h.1) with he | hm
      · exact (Prod.mk.inj he).2
      · exact absurd (List.mem_map_of_mem (f := (·.1)) hm) hnames.1
    have hrest : ∀ k ∈ columns, (k, value k) ∈ rest := by
      intro k hk
      rcases List.mem_cons.1 (hperm.mem_iff.1 (h.2 k hk)) with he | hm
      · obtain rfl : k = column := (Prod.mk.inj he).1
        exact absurd hk hcolumns.1
      · exact hm
    unfold namedKey
    rw [htake]
    simp only
    rw [ih hcolumns.2 hnames.2 hrest, List.map_cons, hv]
    rfl

/-- The first column that the pairs do not name is reported, whatever else they name. -/
theorem namedKey_eq_error {before after : List String} {k : String}
    (hcolumns : (before ++ k :: after).Nodup) (hbefore : ∀ c ∈ before, c ∈ pairs.map (·.1))
    (hk : k ∉ pairs.map (·.1)) :
    namedKey table (before ++ k :: after) pairs = .error (.compositeKey table (.missingInId k)) := by
  induction before generalizing pairs with
  | nil =>
    rw [List.nil_append, namedKey, takeNamed?_eq_none_iff.2 hk]
  | cons column before ih =>
    rw [List.cons_append, List.nodup_cons] at hcolumns
    rw [List.forall_mem_cons] at hbefore
    obtain ⟨v, rest, htake⟩ := exists_takeNamed? hbefore.1
    have hnames : ∀ c ∈ before ++ k :: after, c ∈ rest.map (·.1) ↔ c ∈ pairs.map (·.1) :=
      fun c hc => mem_names_of_takeNamed? htake fun he => hcolumns.1 (he ▸ hc)
    have hpresent : ∀ c ∈ before, c ∈ rest.map (·.1) :=
      fun c hc => (hnames c (List.mem_append_left _ hc)).2 (hbefore.2 c hc)
    have hlacks : k ∉ rest.map (·.1) := fun hm => hk ((hnames k (by simp)).1 hm)
    have hrest := ih hcolumns.2 hpresent hlacks
    rw [List.cons_append, namedKey, htake]
    simp only
    rw [hrest]
    rfl

/-- The predicate that the key is one of some values: each column equals a placeholder, in the
order of the key. -/
def keyText (s : Schema) (d : Dialect) : String :=
  " AND ".intercalate (s.primaryKey.map fun k => d.quoted k ++ "=?")

end Schema

/-- The data supplies the key whose columns have some values. -/
def Supply.HoldsKey (data : Supply) (s : Schema) (value : String → Value) : Prop :=
  ∀ k ∈ s.primaryKey, data k = some (.value (value k))

namespace RowId

/-- The id gives the key whose columns have some values: a single value for a key of one column,
and otherwise pairs of different names, in any order and among others. -/
inductive Gives (s : Schema) (value : String → Value) : RowId → Prop
  | scalar {k : String} (hk : s.primaryKey = [k]) : Gives s value (.scalar (value k))
  | named {pairs : List (String × Value)} (hk : 1 < s.primaryKey.length)
    (hnames : (pairs.map (·.1)).Nodup) (hpairs : ∀ k ∈ s.primaryKey, (k, value k) ∈ pairs) :
    Gives s value (.named pairs)

/-- The id does not have the shape of the key, and the error says which. -/
inductive Misfits (s : Schema) : RowId → Error → Prop
  | scalar (v : Value) (hk : 1 < s.primaryKey.length) :
    Misfits s (.scalar v) (.compositeKey s.table .notNamed)
  | named (pairs : List (String × Value)) {k : String} (hk : s.primaryKey = [k]) :
    Misfits s (.named pairs) (.simpleKey s.table)
  /-- The first column is reported that the id lacks. -/
  | lacking (pairs : List (String × Value)) (hk : 1 < s.primaryKey.length) {k : String}
    (hfirst : s.primaryKey.find? (· ∉ pairs.map (·.1)) = some k) :
    Misfits s (.named pairs) (.compositeKey s.table (.missingInId k))

end RowId

namespace Schema

variable {s : Schema} {value : String → Value} {data : Supply} {id : RowId} {e : Error}

theorem keyIn_eq_ok (h : data.HoldsKey s value) : s.keyIn data = .ok (s.primaryKey.map value) := by
  unfold keyIn
  rw [mapM_eq_ok, List.forall₂_map_right_iff, List.forall₂_same]
  intro k hk
  rw [h k hk]

theorem keyFromId_named (hk : 1 < s.primaryKey.length) (pairs : List (String × Value)) :
    s.keyFromId (.named pairs) = namedKey s.table s.primaryKey pairs := by
  simp only [keyFromId]
  split
  · rename_i k hone
    simp [hone] at hk
  · rfl

theorem keyFromId_eq_ok (hs : s.primaryKey.Nodup) (h : id.Gives s value) :
    s.keyFromId id = .ok (s.primaryKey.map value) := by
  cases h with
  | scalar hk => rw [keyFromId_scalar hk, hk, List.map_singleton]
  | named hk hnames hpairs => rw [keyFromId_named hk, namedKey_eq_ok hs hnames hpairs]

theorem keyFromId_eq_error (hs : s.primaryKey.Nodup) (h : id.Misfits s e) :
    s.keyFromId id = .error e := by
  cases h with
  | scalar v hk =>
    refine keyFromId_scalar_of_composite (fun k hone => ?_) v
    simp [hone] at hk
  | named pairs hk =>
    unfold keyFromId
    simp only [hk]
  | lacking pairs hk hfirst =>
    obtain ⟨hlacks, before, after, hcolumns, hbefore⟩ := List.find?_eq_some_iff_append.1 hfirst
    rw [keyFromId_named hk, hcolumns]
    exact namedKey_eq_error (hcolumns ▸ hs) (fun c hc => by simpa using hbefore c hc)
      (by simpa using hlacks)

end Schema

namespace Fragment

variable {d : Dialect} {f g : Fragment} {w : String} {q : Statement}

/-- A statement in two parts has the text and the parameters of the one before those of the
other. -/
theorem statement?_append_word (h : (f ++ .word w :: g).statement? d = some q) :
    ∃ ps qs, g.values.mapM Value.toDatum? = some qs ∧ q = ⟨f.text d ++ w ++ g.text d, ps ++ qs⟩ := by
  obtain ⟨params, hparams, rfl⟩ := Option.map_eq_some_iff.1 h
  have hvalues : (f ++ .word w :: g).values = f.values ++ g.values := values_append f _
  simp only [hvalues, List.mapM_append, Option.bind_eq_bind, Option.bind_eq_some_iff,
    Option.pure_def, Option.some.injEq] at hparams
  obtain ⟨ps, -, qs, hqs, rfl⟩ := hparams
  refine ⟨ps, qs, hqs, ?_⟩
  rw [text_append, text_word_cons, String.append_assoc]

end Fragment

namespace Table

variable {t : Table} {key : List Value}

theorem text_name (d : Dialect) (t : Table) : t.name.text d = d.quoted t.schema.table := by
  simp [name, Fragment.text, Fragment.chars, Piece.chars, Dialect.quoted]

theorem text_keyPredicate (d : Dialect) (h : key.length = t.schema.primaryKey.length) :
    (t.keyPredicate key).text d = t.schema.keyText d := by
  unfold keyPredicate Schema.keyText
  rw [Fragment.text_joined, List.map_map]
  congr 1
  -- the text of a term does not tell its value
  calc
    _ = ((t.schema.primaryKey.zip key).map (·.1)).map fun k => d.quoted k ++ "=?" := by
      rw [List.map_map]
      refine List.map_congr_left fun p _ => ?_
      simp [Fragment.text, Fragment.chars, Piece.chars, Dialect.quoted]
    _ = t.schema.primaryKey.map fun k => d.quoted k ++ "=?" := by rw [List.map_fst_zip h.ge]

end Table

namespace Gateway

variable {g : Gateway σ α} {data : Supply} {id : RowId} {key : List Value} {f : Fragment}
  {q : Statement} {s t : σ}

/-- The statement that selects the rows with a key. -/
def selectByKey (g : Gateway σ α) (wire : String → Datum) : Statement where
  sql := "SELECT * FROM " ++ g.database.dialect.quoted g.schema.table ++ " WHERE " ++
    g.schema.keyText g.database.dialect
  params := g.schema.primaryKey.map wire

/-- The statement that deletes the rows with a key. -/
def deleteByKey (g : Gateway σ α) (wire : String → Datum) : Statement where
  sql := "DELETE FROM " ++ g.database.dialect.quoted g.schema.table ++ " WHERE " ++
    g.schema.keyText g.database.dialect
  params := g.schema.primaryKey.map wire

/-- The change of the rows with a key was run. -/
structure Changed (g : Gateway σ α) (changes : Supply) (key : List Value) (s : σ) (q : Statement)
    (t : σ) : Prop where
  prepared : ∃ f, g.table.change changes key = .ok f ∧ f.statement? g.database.dialect = some q
  executed : ∃ n, g.database.connection.exec q s = (.ok n, t)

theorem ofKeyIn_eq (h : g.schema.keyIn data = .ok key) : g.ofKeyIn data = g.ofKey key := by
  unfold ofKeyIn
  rw [h]
  exact pure_bind key _

theorem remove_eq (h : g.schema.keyIn data = .ok key) :
    g.remove data = g.execute (g.table.removal key) := by
  unfold remove
  rw [h]

theorem removeById_eq (h : g.schema.keyFromId id = .ok key) :
    g.removeById id = g.execute (g.table.removal key) := by
  unfold removeById
  rw [h]
  exact pure_bind key _

theorem calls_execute (hq : f.statement? g.database.dialect = some q) (s : σ) :
    ((g.execute f).seen s).calls = [q] := by
  rcases h : g.database.connection.exec q s with ⟨r, t⟩
  rw [seen_execute hq h]

theorem calls_ofKey (hq : (g.table.lookup key).statement? g.database.dialect = some q) (s : σ) :
    ((g.ofKey key).seen s).calls = [q] := by
  obtain ⟨r, t, hseen, -⟩ := seen_ofKey s hq
  rw [hseen]

theorem calls_byId (hkey : g.schema.keyFromId id = .ok key)
    (hq : (g.table.lookup key).statement? g.database.dialect = some q) (s : σ) :
    ((g.byId id).seen s).calls = [q] := by
  obtain ⟨r, t, hseen, -⟩ := seen_ofKey s hq
  unfold byId
  rw [hkey, Session.seen_bind_of_ok (Session.seen_ofExcept _ s)]
  cases r with
  | error e =>
    rw [Session.seen_bind_of_error hseen]
    rfl
  | ok found =>
    rw [Session.seen_bind_of_ok hseen]
    -- whatever was found, nothing is called after that
    match found with
    | [] => rfl
    | [b] => rfl
    | b :: c :: rest => rfl

theorem seen_of_keyFromId_eq_error {e : Error} (h : g.schema.keyFromId id = .error e) (s : σ) :
    (g.byId id).seen s = ⟨.error e, [], s⟩ ∧ (g.removeById id).seen s = ⟨.error e, [], s⟩ := by
  unfold byId removeById
  rw [h]
  exact ⟨Session.seen_bind_of_error (Session.seen_ofExcept _ s),
    Session.seen_bind_of_error (Session.seen_ofExcept _ s)⟩

section Key

variable {value : String → Value} {wire : String → Datum}

theorem params_of_key (h : ∀ k ∈ g.schema.primaryKey, (value k).toDatum? = some (wire k)) :
    (g.schema.primaryKey.map value).mapM Value.toDatum? = some (g.schema.primaryKey.map wire) := by
  rw [mapM_eq_some, List.forall₂_map_left_iff, List.forall₂_map_right_iff, List.forall₂_same]
  exact h

theorem text_keyPredicate (g : Gateway σ α) (value : String → Value) :
    (g.table.keyPredicate (g.schema.primaryKey.map value)).text g.database.dialect =
      g.schema.keyText g.database.dialect :=
  Table.text_keyPredicate _ (List.length_map _)

theorem statement?_lookup (h : ∀ k ∈ g.schema.primaryKey, (value k).toDatum? = some (wire k)) :
    (g.table.lookup (g.schema.primaryKey.map value)).statement? g.database.dialect =
      some (g.selectByKey wire) := by
  have hcarries : (g.table.lookup (g.schema.primaryKey.map value)).Carries true _ :=
    Table.lookup_carries (List.length_map _)
  rw [hcarries.statement?_eq _ (params_of_key h)]
  congr 2
  rw [Table.lookup, Fragment.text_append, Fragment.text_word_cons, Fragment.text_word_cons,
    text_keyPredicate, Table.text_name, ← String.append_assoc]
  rfl

theorem statement?_removal (h : ∀ k ∈ g.schema.primaryKey, (value k).toDatum? = some (wire k)) :
    (g.table.removal (g.schema.primaryKey.map value)).statement? g.database.dialect =
      some (g.deleteByKey wire) := by
  have hcarries : (g.table.removal (g.schema.primaryKey.map value)).Carries true _ :=
    Table.removal_carries (List.length_map _)
  rw [hcarries.statement?_eq _ (params_of_key h)]
  congr 2
  rw [Table.removal, Fragment.text_append, Fragment.text_word_cons, Fragment.text_word_cons,
    text_keyPredicate, Table.text_name, ← String.append_assoc]
  rfl

/-- A change asks for its row like a look-up, after the values that it assigns. -/
theorem Changed.where_key {changes : Supply}
    (h : ∀ k ∈ g.schema.primaryKey, (value k).toDatum? = some (wire k))
    (hq : g.Changed changes (g.schema.primaryKey.map value) s q t) :
    ∃ front assigned, q.sql = front ++ " WHERE " ++ g.schema.keyText g.database.dialect ∧
      q.params = assigned ++ g.schema.primaryKey.map wire := by
  obtain ⟨f, hf, hstatement⟩ := hq.prepared
  obtain ⟨assignments, -, hf⟩ := bind_eq_ok.1 hf
  cases hf
  obtain ⟨ps, qs, hqs, rfl⟩ := Fragment.statement?_append_word hstatement
  have hcarries : (g.table.keyPredicate (g.schema.primaryKey.map value)).Carries true _ :=
    Table.keyPredicate_carries (List.length_map _)
  rw [hcarries.values_eq, params_of_key h] at hqs
  cases hqs
  rw [text_keyPredicate]
  exact ⟨_, ps, rfl, rfl⟩

theorem calls_change {changes : Option Supply}
    (hkey : g.schema.keyIn data = .ok key)
    (hq : g.Changed ((changes.filter g.table.setsPlain).getD data) key s q t) {q' : Statement}
    (hlookup : (g.table.lookup key).statement? g.database.dialect = some q') :
    ((g.change data changes).seen s).calls = [q, q'] := by
  obtain ⟨f, hf, hstatement⟩ := hq.prepared
  obtain ⟨n, hn⟩ := hq.executed
  obtain ⟨r, u, hseen, -⟩ := seen_ofKey t hlookup
  unfold change
  simp only
  rw [hkey, Session.seen_bind_of_ok (Session.seen_ofExcept _ s), hf,
    Session.seen_bind_of_ok (Session.seen_ofExcept _ s),
    Session.seen_bind_of_ok (seen_execute hstatement hn)]
  cases r with
  | error e =>
    rw [Session.seen_bind_of_error hseen]
    rfl
  | ok found =>
    rw [Session.seen_bind_of_ok hseen]
    -- a remark is no call
    split
    · rfl
    · rfl

/-- Rows are found, removed and read back after a change by one predicate with one list of values,
whether data or an id gives the key. An id that does not fit the key is refused without a call. -/
theorem addressed_alike (hs : g.schema.primaryKey.Nodup)
    (hwire : ∀ k ∈ g.schema.primaryKey, (value k).toDatum? = some (wire k)) :
    (∀ data : Supply, data.HoldsKey g.schema value → ∀ s,
      ((g.ofKeyIn data).seen s).calls = [g.selectByKey wire] ∧
      ((g.remove data).seen s).calls = [g.deleteByKey wire] ∧
      ∀ changes q t, g.Changed ((changes.filter g.table.setsPlain).getD data)
          (g.schema.primaryKey.map value) s q t →
        ((g.change data changes).seen s).calls = [q, g.selectByKey wire] ∧
        ∃ front assigned, q.sql = front ++ " WHERE " ++ g.schema.keyText g.database.dialect ∧
          q.params = assigned ++ g.schema.primaryKey.map wire) ∧
    (∀ id : RowId, id.Gives g.schema value → ∀ s,
      ((g.byId id).seen s).calls = [g.selectByKey wire] ∧
      ((g.removeById id).seen s).calls = [g.deleteByKey wire]) ∧
    ∀ (id : RowId) (e : Error), id.Misfits g.schema e → ∀ s,
      (g.byId id).seen s = ⟨.error e, [], s⟩ ∧ (g.removeById id).seen s = ⟨.error e, [], s⟩ := by
  have hselect := statement?_lookup hwire
  have hdelete := statement?_removal hwire
  refine ⟨fun data hdata s => ?_, fun id hid s => ?_, fun id e hid s => ?_⟩
  · have hkey := Schema.keyIn_eq_ok hdata
    refine ⟨?_, ?_, fun changes q t hq => ⟨calls_change hkey hq hselect, hq.where_key hwire⟩⟩
    · rw [ofKeyIn_eq hkey, calls_ofKey hselect]
    · rw [remove_eq hkey, calls_execute hdelete]
  · have hkey := Schema.keyFromId_eq_ok hs hid
    refine ⟨calls_byId hkey hselect s, ?_⟩
    rw [removeById_eq hkey, calls_execute hdelete]
  · exact seen_of_keyFromId_eq_error (Schema.keyFromId_eq_error hs hid) s

end Key

/-- Members of groups, on a connection that answers from a script. -/
def memberships : Gateway (List Reply) Row :=
  ⟨⟨Script.connection [], .sqlite, "::"⟩,
    ⟨"memberships", ["group_id", "user_id", "role"], ["group_id", "user_id"], []⟩,
    fun row => .ok row⟩

def membership (column : String) : Value :=
  if column = "group_id" then .int64 (some 1) else .int64 (some 2)

/-- The first member of the first group, whose role is changed, is found by an id that names the
columns the other way round and one more; it is not found by an id that lacks the group. -/
theorem addressed_alike_memberships :
    let data := (FieldMap.ofList [("group_id", .value (membership "group_id")),
      ("user_id", .value (membership "user_id")), ("role", .value (.text (some "owner")))]).supply
    let id := RowId.named [("user_id", membership "user_id"), ("role", .text none),
      ("group_id", membership "group_id")]
    let lacking := RowId.named [("user_id", membership "user_id"), ("role", .text none)]
    let select : Statement :=
      ⟨"SELECT * FROM \"memberships\" WHERE \"group_id\"=? AND \"user_id\"=?",
        [.int64 (some 1), .int64 (some 2)]⟩
    let update : Statement :=
      ⟨"UPDATE \"memberships\" SET \"role\"=? WHERE \"group_id\"=? AND \"user_id\"=?",
        [.text (some "owner"), .int64 (some 1), .int64 (some 2)]⟩
    ((memberships.byId id).seen []).calls = [select] ∧
      ((memberships.ofKeyIn data).seen []).calls = [select] ∧
      ((memberships.change data none).seen []).calls = [update, select] ∧
      (memberships.removeById lacking).seen [] =
        ⟨.error (.compositeKey "memberships" (.missingInId "group_id")), [], []⟩ := by
  intro data id lacking select update
  let wire (k : String) : Datum :=
    if k = "group_id" then .int64 (some 1) else .int64 (some 2)
  have hwire : ∀ k ∈ memberships.schema.primaryKey, (membership k).toDatum? = some (wire k) := by
    decide
  obtain ⟨hdata, hid, hlacking⟩ := addressed_alike (g := memberships) (by decide) hwire
  have hselect : memberships.selectByKey wire = select := by decide
  have hholds : data.HoldsKey memberships.schema membership := by
    unfold Supply.HoldsKey
    decide
  have hgives : id.Gives memberships.schema membership := .named (by decide) (by decide) (by decide)
  have hmisfits : lacking.Misfits memberships.schema _ := .lacking _ (by decide) rfl
  obtain ⟨hfind, -, hchange⟩ := hdata data hholds []
  obtain ⟨hchanged, -⟩ := hchange none update [] ⟨⟨_, rfl, by decide⟩, ⟨0, rfl⟩⟩
  rw [hselect] at hfind hchanged
  exact ⟨(hid id hgives []).1.trans (by rw [hselect]), hfind, hchanged,
    (hlacking lacking _ hmisfits []).2⟩

end Gateway
end SqlMapper
