import SqlMapper.Session.Basic
import SqlMapper.Session.Connection
import SqlMapper.Sql.Scope

namespace SqlMapper

/-- A connection with what statements for it are composed by. -/
structure Database (σ : Type) where
  connection : Connection σ
  dialect : Dialect
  /-- What separates an alias from a column name. -/
  delimiter : String := defaultDelimiter

namespace Database

variable {σ α : Type}

/-- Call the connection with a statement, and log the statement before and the outcome after. -/
def call (s : Statement) (run : σ → Except Failure α × σ) (outcome : α → LogEvent) :
    Session σ Error α := fun state =>
  match run state with
  | (.ok a, state) => ⟨.ok a, [.log (.before s), .call s, .log (outcome a)], state⟩
  | (.error f, state) =>
    let e := Error.failed s.sql f
    ⟨.error e, [.log (.before s), .call s, .log (.failed e)], state⟩

def query (db : Database σ) (s : Statement) : Session σ Error (List Row) :=
  call s (db.connection.query s) fun rows => .rows s rows.length

def execute (db : Database σ) (s : Statement) : Session σ Error Nat :=
  call s (db.connection.exec s) fun _ => .done s true

def control (db : Database σ) (c : Control) : Session σ Error Unit :=
  call c.statement (db.connection.control c) fun _ => .done c.statement true

/-- Prepare a fragment as a statement, with a remark about it. -/
def prepare (db : Database σ) (about table : String) (f : Fragment) :
    Session σ Error Statement := do
  Session.remark ⟨.debug, about,
    [("table", table), ("sql", f.text db.dialect), ("param_count", toString f.values.length)]⟩
  match f.statement? db.dialect with
  | some s => return s
  | none => Session.fail .unbindable

/-- Run a unit of work in a transaction, which is committed if the unit succeeds. -/
def transaction (db : Database σ) (unit : Session σ UnitFailure α) : Session σ Error α := do
  db.control .start
  match ← unit.attempt with
  | .ok a =>
    match ← (db.control .commit).attempt with
    | .ok () => return a
    | .error e =>
      -- a rollback that fails as well is only logged
      let _ : Except Error Unit ← (db.control .rollback).attempt
      Session.fail e
  | .error f =>
    let _ : Except Error Unit ← (db.control .rollback).attempt
    Session.fail f.toError

end Database
end SqlMapper
