import SqlMapper.Gateway.Basic
/-! All that programs can ask of gateways and of chains of clauses, and the routines that they make
of it. However long a routine is, it reaches the connection through single calls and transactions
only, so what holds of these carries over to it. -/
namespace SqlMapper

variable {σ ε ε' α β : Type} {stage : Stage}

/-- What can be asked of a gateway. -/
inductive Request (α : Type) : Type → Type
  | add (data : Supply) : Request α (Option α)
  | addOrSkip (data : Supply) : Request α (Option α)
  | addOrReplace (data : Supply) : Request α (Option α)
  | addOrChange (data : Supply) (changes : Option Supply) : Request α (Option α)
  | change (data : Supply) (changes : Option Supply) : Request α (Option α)
  | changeWhere (condition : Condition) (data : Supply) : Request α Nat
  | remove (data : Supply) : Request α Nat
  | removeById (id : RowId) : Request α Nat
  | removeWhere (condition : Condition) : Request α Nat
  | ofKeyIn (data : Supply) : Request α (List α)
  | byId (id : RowId) : Request α (Option α)
  | like (data : Supply) : Request α (List α)
  | all : Request α (List α)

def Request.run (g : Gateway σ α) : Request α β → Session σ Error β
  | add data => g.add data
  | addOrSkip data => g.addOrSkip data
  | addOrReplace data => g.addOrReplace data
  | addOrChange data changes => g.addOrChange data changes
  | change data changes => g.change data changes
  | changeWhere condition data => g.changeWhere condition data
  | remove data => g.remove data
  | removeById id => g.removeById id
  | removeWhere condition => g.removeWhere condition
  | ofKeyIn data => g.ofKeyIn data
  | byId id => g.byId id
  | like data => g.like data
  | all => g.all

/-- What a chain of clauses can be used for. -/
inductive Reading (α : Type) : Type → Type
  | statement : Reading α Statement
  | receive : Reading α (Received α)
  | collect : Reading α (List α)
  | pick (names : List String) : Reading α (List Row)
  | count (name : String) : Reading α UInt64

def Reading.run (r : Relation α) (db : Database σ) (clauses : Clauses stage) :
    Reading α β → Session σ Error β
  | statement => r.statement db clauses
  | receive => r.receive db clauses
  | collect => r.collect db clauses
  | pick names => r.pick db names clauses
  | count name => r.count db name clauses

/-- An operation on the table of a gateway, or with a chain of clauses on a table or a join. -/
inductive Operation (σ : Type) : Type → Type 1
  | gateway {α β : Type} (g : Gateway σ α) (hg : g.schema.checked = .ok g.schema)
    (request : Request α β) : Operation σ β
  | relation {α β : Type} {stage : Stage} (db : Database σ) (r : Relation α)
    (clauses : Clauses stage) (reading : Reading α β) : Operation σ β

namespace Operation

def database : Operation σ β → Database σ
  | gateway g _ _ => g.database
  | relation db _ _ _ => db

def run : Operation σ β → Session σ Error β
  | gateway g _ request => request.run g
  | relation db r clauses reading => reading.run r db clauses

end Operation

/-- What programs do with a database: operations one after another, each chosen by the results of
those before it, errors that are handled or reported in other words, and transactions of
routines. -/
inductive Database.Routine (db : Database σ) : {ε α : Type} → Session σ ε α → Prop
  | pure {ε α : Type} (a : α) : Routine db (pure a : Session σ ε α)
  | fail {ε α : Type} (e : ε) : Routine db (Session.fail e : Session σ ε α)
  | bind {ε α β : Type} {x : Session σ ε α} {f : α → Session σ ε β} (hx : Routine db x)
    (hf : ∀ a, Routine db (f a)) : Routine db (x >>= f)
  | attempt {ε ε' α : Type} {x : Session σ ε α} (hx : Routine db x) :
    Routine db (x.attempt : Session σ ε' (Except ε α))
  | mapError {ε ε' α : Type} {x : Session σ ε α} (f : ε → ε') (hx : Routine db x) :
    Routine db (x.mapError f)
  | operation {α : Type} (o : Operation σ α) (h : o.database = db) : Routine db o.run
  | transaction {α : Type} {unit : Session σ UnitFailure α} (hu : Routine db unit) :
    Routine db (db.transaction unit)

/-- The session reaches the connection through calls and transactions of the database only. -/
inductive Session.Through (db : Database σ) : {ε α : Type} → Session σ ε α → Prop
  | pure {ε α : Type} (a : α) : Through db (pure a : Session σ ε α)
  | fail {ε α : Type} (e : ε) : Through db (Session.fail e : Session σ ε α)
  | bind {ε α β : Type} {x : Session σ ε α} {f : α → Session σ ε β} (hx : Through db x)
    (hf : ∀ a, Through db (f a)) : Through db (x >>= f)
  | attempt {ε ε' α : Type} {x : Session σ ε α} (hx : Through db x) :
    Through db (x.attempt : Session σ ε' (Except ε α))
  | mapError {ε ε' α : Type} {x : Session σ ε α} (f : ε → ε') (hx : Through db x) :
    Through db (x.mapError f)
  | remark {ε : Type} (d : Diagnostic) : Through db (Session.remark d : Session σ ε Unit)
  | query (q : Statement) : Through db (db.query q)
  | execute (q : Statement) : Through db (db.execute q)
  | transaction {α : Type} {unit : Session σ UnitFailure α} (hu : Through db unit) :
    Through db (db.transaction unit)

theorem Session.through_ofExcept {db : Database σ} (r : Except ε α) :
    (ofExcept r : Session σ ε α).Through db := by
  cases r with
  | ok a => exact .pure a
  | error e => exact .fail e

open Session

theorem Database.through_prepare (db : Database σ) (about table : String) (f : Fragment) :
    (db.prepare about table f).Through db := by
  refine .bind (.remark _) fun _ => ?_
  cases f.statement? db.dialect with
  | some q => exact .pure q
  | none => exact .fail _

namespace Relation

variable (r : Relation α) (db : Database σ) (clauses : Clauses stage)

theorem through_prepare (f : Except Error Fragment) : (r.prepare db f).Through db :=
  .bind (through_ofExcept f) fun f => db.through_prepare _ _ f

theorem through_receive : (r.receive db clauses).Through db :=
  .bind (r.through_prepare db _) fun q => .bind (.query q) fun _ => .pure _

theorem through_collect : (r.collect db clauses).Through db := by
  refine .bind (r.through_receive db clauses) fun received => ?_
  cases received.outcome with
  | ok _ => exact .pure _
  | error e => exact .fail _

theorem through_reading (reading : Reading α β) : (reading.run r db clauses).Through db := by
  cases reading with
  | statement => exact r.through_prepare db _
  | receive => exact r.through_receive db clauses
  | collect => exact r.through_collect db clauses
  | pick names => exact .bind (r.through_prepare db _) fun q => .query q
  | count name =>
    exact .bind (r.through_prepare db _) fun q => .bind (.query q) fun _ => through_ofExcept _

end Relation

namespace Gateway

variable (g : Gateway σ α)

theorem through_execute (f : Fragment) : (g.execute f).Through g.database :=
  .bind (g.database.through_prepare _ _ f) fun q => .execute q

theorem through_ofKey (key : List Value) : (g.ofKey key).Through g.database :=
  .bind (g.database.through_prepare _ _ _) fun q => .bind (.query q) fun _ => through_ofExcept _

theorem through_byId (id : RowId) : (g.byId id).Through g.database := by
  refine .bind (through_ofExcept _) fun key => .bind (g.through_ofKey key) fun found => ?_
  split
  · exact .pure _
  · exact .pure _
  · exact .fail _

theorem through_addedId (generated : String) (data : Supply) :
    (g.addedId generated data).Through g.database := by
  unfold addedId
  split
  · exact .pure _
  · refine .bind (.query _) fun rows => ?_
    cases rows.head?.bind (·.datumAt? 0) with
    | none => exact .fail _
    | some d =>
      dsimp only
      split
      · exact .fail _
      · exact .pure _

theorem through_added (data : Supply) : (g.added data).Through g.database := by
  unfold added
  split
  · refine .bind (g.through_addedId _ data) fun id => ?_
    refine .bind (g.through_byId (.scalar id)) fun found => ?_
    cases found with
    | some a => exact .pure a
    | none => exact .fail _
  · refine .bind (g.relation.through_collect g.database _) fun found => ?_
    split
    · exact .fail _
    · exact .pure _
    · exact .fail _

theorem through_insert (mode : InsertMode) (data : Supply) (onConflict : Option Supply) :
    (g.insert mode data onConflict).Through g.database := by
  refine .bind (through_ofExcept _) fun f => .bind (g.through_execute f) fun count => ?_
  split
  · exact .pure none
  · exact .bind (g.through_added data) fun a => .pure _

theorem through_change (data : Supply) (changes : Option Supply) :
    (g.change data changes).Through g.database := by
  refine .bind (through_ofExcept _) fun key => .bind (through_ofExcept _) fun f => ?_
  refine .bind (g.through_execute f) fun _ => .bind (g.through_ofKey key) fun found => ?_
  -- a remark if the row was not found again
  split
  · exact .bind (.remark _) fun _ => .pure _
  · exact .pure _

theorem through_remove (data : Supply) : (g.remove data).Through g.database := by
  unfold remove
  split
  · exact g.through_execute _
  · exact .fail _
  · exact .fail _

theorem through_request (request : Request α β) : (request.run g).Through g.database := by
  cases request with
  | add data => exact g.through_insert .plain data none
  | addOrSkip data => exact g.through_insert .ignore data none
  | addOrReplace data => exact g.through_insert .overwrite data none
  | addOrChange data changes => exact g.through_insert .plain data _
  | change data changes => exact g.through_change data changes
  | changeWhere condition data =>
    exact .bind (through_ofExcept _) fun f =>
      .bind (g.database.through_prepare _ _ f) fun q => .execute q
  | remove data => exact g.through_remove data
  | removeById id => exact .bind (through_ofExcept _) fun key => g.through_execute _
  | removeWhere condition =>
    exact .bind (through_ofExcept _) fun f =>
      .bind (g.database.through_prepare _ _ f) fun q => .execute q
  | ofKeyIn data => exact .bind (through_ofExcept _) fun key => g.through_ofKey key
  | byId id => exact g.through_byId id
  | like data => exact g.relation.through_collect g.database _
  | all => exact g.relation.through_collect g.database _

end Gateway

theorem Operation.through (o : Operation σ β) : o.run.Through o.database := by
  cases o with
  | gateway g _ request => exact g.through_request request
  | relation db r clauses reading => exact r.through_reading db clauses reading

theorem Database.Routine.through {db : Database σ} {x : Session σ ε α} (h : db.Routine x) :
    x.Through db := by
  induction h with
  | pure a => exact .pure a
  | fail e => exact .fail e
  | bind _ _ ihx ihf => exact .bind ihx ihf
  | attempt _ ih => exact .attempt ih
  | mapError f _ ih => exact .mapError f ih
  | operation o h =>
    subst h
    exact o.through
  | transaction _ ih => exact .transaction ih

end SqlMapper
