import SqlMapper.Proofs.Gateway.Bound
import SqlMapper.Proofs.Query.Names
/-! One composition in two dialects. Its fragment is the same in both, so the readers of the two
texts find the same names between the same characters, whatever characters the names hold. -/
namespace SqlMapper

variable {α : Type} {stage : Stage} {f : Fragment}

/-- The names in a projection: those of whole rows, those of each item, or the counted column. -/
def Projection.names (rows : List String) (item : String → List String) (s : Scope) :
    Projection → List String
  | .rows => rows
  | .columns names => names.flatMap item
  | .count name => if name = "*" then [] else [(s.column name).name]

namespace Relation

variable {r : Relation α} {clauses : Clauses stage} {origin : List String}

theorem names_query {projection : Fragment}
    (horigin : ∀ g, r.origin = .ok g → g.names = origin)
    (h : r.query projection clauses = .ok f) :
    f.names = projection.names ++ origin ++ clauses.names r.scope := by
  obtain ⟨tail, htail, h⟩ := bind_eq_ok.1 h
  obtain ⟨g, hg, h⟩ := bind_eq_ok.1 h
  cases h
  have hclauses := clauses.names_render (mapError_eq_ok.1 htail)
  have htables := horigin g (mapError_eq_ok.1 hg)
  simp [hclauses, htables]

theorem names_select {rows : List String} {item : String → List String} {projection : Projection}
    (hrows : r.projection.names = rows) (hitem : ∀ name, (r.item name).names = item name)
    (horigin : ∀ g, r.origin = .ok g → g.names = origin)
    (h : r.select projection clauses = .ok f) :
    f.names = projection.names rows item r.scope ++ origin ++ clauses.names r.scope := by
  cases projection with
  | rows =>
    rw [names_query horigin h, hrows]
    rfl
  | columns names =>
    simp only [select, columnsQuery] at h
    split at h
    · cases h
    · have hitems : (Fragment.joined "," (names.map r.item)).names = names.flatMap item := by
        rw [Fragment.names_joined_map]
        exact List.flatMap_congr fun name _ => hitem name
      rw [names_query horigin h, hitems, Projection.names]
  | count name =>
    have htarget : (r.countTarget name).names =
        if name = "*" then [] else [(r.scope.column name).name] := by
      unfold countTarget
      split <;> simp
    have hcount : Fragment.names (.word "COUNT(" :: r.countTarget name ++ [.word ")"]) =
        if name = "*" then [] else [(r.scope.column name).name] := by
      simp [htarget]
    rw [names_query horigin h, hcount, Projection.names]

end Relation

namespace Table

variable {t : Table} {data : Supply} {key : List Value} {condition : Condition}

@[simp] theorem names_name (t : Table) : t.name.names = [t.schema.table] := rfl

theorem names_filter (h : t.filter condition = .ok f) : f.names = condition.names t.scope := by
  unfold filter at h
  exact (Clauses.filter condition).names_render (mapError_eq_ok.1 h)

theorem names_assignmentsTo {columns : List Column} (h : assignmentsTo columns data = .ok f) :
    f.names = data.assignedNames columns := by
  obtain ⟨found, hfound, h⟩ := bind_eq_ok.1 h
  obtain ⟨-, h⟩ := guard_eq_ok.1 h
  cases h
  exact Supply.names_slots (mapError_eq_ok.1 hfound) fun p _ s hs => Supplied.names_updateSlot hs

theorem names_keyPredicate (hkey : key.length = t.schema.primaryKey.length) :
    (t.keyPredicate key).names = t.schema.primaryKey := by
  calc
    (t.keyPredicate key).names = (t.schema.primaryKey.zip key).map (·.1) := names_equalities _
    _ = t.schema.primaryKey := List.map_fst_zip hkey.ge

theorem names_insertion {d : Dialect} {mode : InsertMode}
    (h : t.insertion d mode data none = .ok f) :
    f.names = t.schema.table :: data.names t.columns := by
  obtain ⟨found, hfound, h⟩ := bind_eq_ok.1 h
  obtain ⟨-, h⟩ := guard_eq_ok.1 h
  cases h
  have hcolumns : (Fragment.joined "," ((data.assigned t.columns).map fun p =>
      p.1.reference)).names = data.names t.columns := Supply.names_references ","
  have hvalues : (Fragment.joined "," (found.map Slot.fragment)).names = [] := by
    rw [Supply.names_slots (mapError_eq_ok.1 hfound) fun p _ s hs => Supplied.names_insertSlot hs]
    simp
  simp [hcolumns, hvalues]

theorem names_change (hkey : key.length = t.schema.primaryKey.length)
    (h : t.change data key = .ok f) :
    f.names = t.schema.table :: data.assignedNames t.plainColumns ++ t.schema.primaryKey := by
  obtain ⟨changed, hchanged, h⟩ := bind_eq_ok.1 h
  cases h
  simp [names_assignmentsTo hchanged, names_keyPredicate hkey]

theorem names_lookup (hkey : key.length = t.schema.primaryKey.length) :
    (t.lookup key).names = t.schema.table :: t.schema.primaryKey := by
  simp [lookup, names_keyPredicate hkey]

theorem names_removal (hkey : key.length = t.schema.primaryKey.length) :
    (t.removal key).names = t.schema.table :: t.schema.primaryKey := by
  simp [removal, names_keyPredicate hkey]

theorem names_changeWhere (h : t.changeWhere condition data = .ok f) :
    f.names = t.schema.table :: data.assignedNames t.columns ++ condition.names t.scope := by
  obtain ⟨changed, hchanged, h⟩ := bind_eq_ok.1 h
  obtain ⟨filter, hfilter, h⟩ := bind_eq_ok.1 h
  cases h
  simp [names_assignmentsTo hchanged, names_filter hfilter]

theorem names_removalWhere (h : t.removalWhere condition = .ok f) :
    f.names = t.schema.table :: condition.names t.scope := by
  obtain ⟨filter, hfilter, h⟩ := bind_eq_ok.1 h
  cases h
  simp [names_filter hfilter]

/-- A plain insert is introduced by the same word in every dialect. -/
theorem insertion_plain (t : Table) (data : Supply) (d e : Dialect) :
    t.insertion d .plain data none = t.insertion e .plain data none := by
  have hverb : d.insertVerb .plain = e.insertVerb .plain := by cases d <;> cases e <;> rfl
  unfold insertion
  rw [hverb]

end Table

namespace Composition

/-- The names that a composition refers to, in the order of its text. The tables of a query stand
after what is selected; the changes of a column may name it twice. -/
inductive Mentions : Composition → List String → Prop
  | ofGateway {σ α : Type} {stage : Stage} (g : Gateway σ α) (projection : Projection)
    (clauses : Clauses stage) :
    Mentions (select g.relation (.gateway g) projection clauses)
      (projection.names [] (fun name => [(g.table.scope.column name).name]) g.table.scope ++
        [g.schema.table] ++ clauses.names g.table.scope)
  | ofJoin {stage : Stage} {j : Join} (hj : j.Reached) (projection : Projection)
    (clauses : Clauses stage) :
    Mentions (select j.relation (.join hj) projection clauses)
      (projection.names (j.columns.flatMap Column.itemNames)
          (fun name => (j.scope.column name).itemNames) j.scope ++
        j.originNames ++ clauses.names j.scope)
  | insert (t : Table) (data : Supply) :
    Mentions (insert t .plain data none) (t.schema.table :: data.names t.columns)
  | change (t : Table) (changes : Supply) {key : List Value} (hkey : t.schema.Addressed key) :
    Mentions (change t changes key hkey)
      (t.schema.table :: changes.assignedNames t.plainColumns ++ t.schema.primaryKey)
  | lookup (t : Table) {key : List Value} (hkey : t.schema.Addressed key) :
    Mentions (lookup t key hkey) (t.schema.table :: t.schema.primaryKey)
  | remove (t : Table) {key : List Value} (hkey : t.schema.Addressed key) :
    Mentions (remove t key hkey) (t.schema.table :: t.schema.primaryKey)
  | changeWhere (t : Table) (condition : Condition) (changes : Supply) :
    Mentions (changeWhere t condition changes)
      (t.schema.table :: changes.assignedNames t.columns ++ condition.names t.scope)
  | removeWhere (t : Table) (condition : Condition) :
    Mentions (removeWhere t condition) (t.schema.table :: condition.names t.scope)

/-- The composition asks for nothing that dialects say differently: its insert, if it is one, does
nothing about a row whose key is taken. -/
def Plain : Composition → Prop
  | insert _ mode _ onConflict => mode = .plain ∧ onConflict = none
  | _ => True

variable {c : Composition} {d e : Dialect} {names : List String}

theorem Plain.exists_mentions (h : c.Plain) : ∃ names, c.Mentions names := by
  cases c with
  | select r hr projection clauses =>
    cases hr with
    | gateway g => exact ⟨_, .ofGateway g projection clauses⟩
    | join hj => exact ⟨_, .ofJoin hj projection clauses⟩
  | insert t mode data onConflict =>
    obtain ⟨rfl, rfl⟩ := h
    exact ⟨_, .insert t data⟩
  | change t changes key hkey => exact ⟨_, .change t changes hkey⟩
  | lookup t key hkey => exact ⟨_, .lookup t hkey⟩
  | remove t key hkey => exact ⟨_, .remove t hkey⟩
  | changeWhere t condition changes => exact ⟨_, .changeWhere t condition changes⟩
  | removeWhere t condition => exact ⟨_, .removeWhere t condition⟩

theorem Plain.fragment_eq (h : c.Plain) (d e : Dialect) : c.fragment d = c.fragment e := by
  cases c with
  | insert t mode data onConflict =>
    obtain ⟨rfl, rfl⟩ := h
    exact t.insertion_plain data d e
  | _ => rfl

theorem Mentions.names_eq (hm : c.Mentions names) (h : c.fragment d = .ok f) :
    f.names = names := by
  cases hm with
  | ofGateway g projection clauses =>
    have hselect : g.relation.select projection clauses = .ok f := h
    have hrows : g.relation.projection.names = [] := by simp [Gateway.relation]
    have horigin : ∀ k, g.relation.origin = .ok k → k.names = [g.schema.table] := by
      intro k hk
      cases hk
      simp [Gateway.table]
    have hitem : ∀ name, (g.relation.item name).names = [(g.table.scope.column name).name] :=
      fun name => Column.names_reference _
    have hscope : g.relation.scope = g.table.scope := rfl
    rw [Relation.names_select hrows hitem horigin hselect, hscope]
  | ofJoin hj projection clauses =>
    rename_i j
    have hselect : j.relation.select projection clauses = .ok f := h
    have hrows : j.relation.projection.names = j.columns.flatMap Column.itemNames := by
      simp [Join.relation, Fragment.names_joined_map]
    have hitem : ∀ name, (j.relation.item name).names = (j.scope.column name).itemNames :=
      fun name => Column.names_item _
    have hscope : j.relation.scope = j.scope := rfl
    rw [Relation.names_select hrows hitem (fun k hk => Join.names_origin hk) hselect, hscope]
  | insert t data => exact Table.names_insertion h
  | change t changes hkey => exact Table.names_change hkey.length h
  | lookup t hkey =>
    cases h
    exact Table.names_lookup hkey.length
  | remove t hkey =>
    cases h
    exact Table.names_removal hkey.length
  | changeWhere t condition changes => exact Table.names_changeWhere h
  | removeWhere t condition => exact Table.names_removalWhere h

/-- The composition as a statement of a dialect. -/
def statement (d : Dialect) (c : Composition) : Except Error Statement := do
  let f ← c.fragment d
  match f.statement? d with
  | some q => return q
  | none => throw .unbindable

/-- This is the statement that a session prepares. -/
theorem result_prepare {σ : Type} (c : Composition) (db : Database σ) (about table : String)
    (state : σ) :
    ((Session.ofExcept (c.fragment db.dialect) >>= db.prepare about table) state).result =
      c.statement db.dialect := by
  unfold statement
  cases c.fragment db.dialect with
  | error e => rfl
  | ok f =>
    show ((db.prepare about table f) state).result = (match f.statement? db.dialect with
      | some q => pure q
      | none => throw Error.unbindable)
    unfold Database.prepare
    cases f.statement? db.dialect <;> rfl

theorem statement_eq_ok {q : Statement} :
    c.statement d = .ok q ↔ ∃ f, c.fragment d = .ok f ∧
      f.values.mapM Value.toDatum? = some q.params ∧ q.sql = f.text d := by
  rw [statement, bind_eq_ok]
  refine exists_congr fun f => and_congr_right fun _ => ?_
  rw [Fragment.statement?, Statement.bind?]
  cases hparams : f.values.mapM Value.toDatum? with
  | none => simp [throw, throwThe, MonadExceptOf.throw]
  | some params =>
    rw [Option.map_some]
    constructor
    · intro h
      cases h
      exact ⟨rfl, rfl⟩
    · rintro ⟨h, hsql⟩
      cases h
      rw [← hsql]
      rfl

/-- In any two dialects a composition becomes a statement or fails alike, with the same parameters,
and the readers of the two texts find the same characters and names: those that it refers to. -/
theorem dialects_agree (c : Composition) (hplain : c.Plain) (hraw : c.RawAvoids false)
    (d e : Dialect) :
    ((∃ p, c.statement d = .ok p) ↔ ∃ q, c.statement e = .ok q) ∧
      ∃ names, c.Mentions names ∧ ∀ p q, c.statement d = .ok p → c.statement e = .ok q →
        p.params = q.params ∧ ∃ ls, d.lexemes p.sql = some ls ∧ e.lexemes q.sql = some ls ∧
          ls.filterMap Lexeme.name? = names := by
  have hsame := hplain.fragment_eq d e
  have htransfer {d e : Dialect} (hde : c.fragment d = c.fragment e) {p : Statement}
      (hp : c.statement d = .ok p) : ∃ q, c.statement e = .ok q := by
    obtain ⟨f, hf, hparams, -⟩ := statement_eq_ok.1 hp
    exact ⟨⟨f.text e, p.params⟩, statement_eq_ok.2 ⟨f, hde ▸ hf, hparams, rfl⟩⟩
  obtain ⟨names, hm⟩ := hplain.exists_mentions
  refine ⟨⟨fun ⟨_, hp⟩ => htransfer hsame hp, fun ⟨_, hq⟩ => htransfer hsame.symm hq⟩, names, hm,
    fun p q hp hq => ?_⟩
  obtain ⟨f, hf, hparams, hsql⟩ := statement_eq_ok.1 hp
  obtain ⟨g, hg, hothers, hother⟩ := statement_eq_ok.1 hq
  -- both statements are written from one fragment
  obtain rfl : f = g := by
    rw [hsame, hg] at hf
    cases hf
    rfl
  have hseparate := (fragment_carries hraw hf).separate
  refine ⟨Option.some.inj (hparams ▸ hothers), f.lexemes.map Lexeme.unbound, ?_, ?_, ?_⟩
  · rw [hsql, Fragment.lexemes_text d hseparate]
  · rw [hother, Fragment.lexemes_text e hseparate]
  · rw [Fragment.names_unbound]
    exact hm.names_eq hf

theorem dialects_agree_hostileUpdate :
    ∃ p q ls, hostileUpdate.statement .mssql = .ok p ∧ hostileUpdate.statement .sqlite = .ok q ∧
      p.params = q.params ∧ p.params = [.text (some "?"), .int32 (some 1), .int32 (some 2)] ∧
      Dialect.mssql.lexemes p.sql = some ls ∧ Dialect.sqlite.lexemes q.sql = some ls ∧
      ls.filterMap Lexeme.name? = ["o]d\"d?", "na\"me?", "i]]d?"] := by
  have hwritten : Avoids false "archived = 0" := avoids_of_isPlainWord (by decide)
  have hraw : hostileUpdate.RawAvoids false := ⟨trivial, hwritten, trivial⟩
  obtain ⟨hboth, names, hm, hagree⟩ := dialects_agree hostileUpdate trivial hraw .mssql .sqlite
  have hp : hostileUpdate.statement .mssql = .ok _ := rfl
  obtain ⟨q, hq⟩ := hboth.1 ⟨_, hp⟩
  obtain ⟨hparams, ls, hfirst, hsecond, hnames⟩ := hagree _ q hp hq
  cases hm
  exact ⟨_, q, ls, hp, hq, hparams, rfl, hfirst, hsecond, hnames⟩

end Composition
end SqlMapper
