import SqlMapper.Session.Connection
import SqlMapper.Store.Stored

namespace SqlMapper

/-- A statement that runs for its rows. Each step gives a row, or ends it, or fails; with it stands the
state of the engine if the statement is left there. -/
inductive Cursor (σ : Type) where
  | row (values : List Stored) (left : σ) (next : Cursor σ)
  | done (left : σ)
  | failed (left : σ)

/-- An engine for statements that are written as `Q`. What these do to its states `σ` is up to the
engine; `π` are its prepared statements. -/
structure Engine (Q σ π : Type) where
  /-- The statements that control transactions. -/
  control : Control → Q
  /-- Understand a statement, if it is one for the state. -/
  prepare : σ → Q → Option π
  columnNames : π → List String
  /-- Run a statement for its rows, with values for its marks unless they are refused. -/
  start : σ → π → List Stored → Option (Cursor σ)
  /-- Run a statement to its end for the number of rows that it changes. -/
  execute : σ → π → List Stored → Option Nat × σ
  /-- Run a script, which may fail. -/
  script : σ → Q → Bool × σ

/-- A row as it is read: each column takes the next value. -/
def readFields : List String → List Stored → Except StoreFault (List (String × Datum))
  | [], _ => .ok []
  | _ :: _, [] => .error .column
  | name :: names, v :: values => do
    let d ← v.toDatum
    let fields ← readFields names values
    return (name, d) :: fields

/-- Read all rows. The first that cannot be read is the last that is asked for. -/
def Cursor.fetch {σ : Type} (names : List String) : Cursor σ → Except StoreFault (List Row) × σ
  | row values left next =>
    match readFields names values with
    | .ok fields =>
      let (rows, t) := next.fetch names
      (rows.map (⟨fields⟩ :: ·), t)
    | .error f => (.error f, left)
  | done left => (.ok [], left)
  | failed left => (.error .fetch, left)

namespace Engine

variable {Q σ π α : Type} (E : Engine Q σ π)

/-- Issue a statement with parameters. All of them are converted before anything is run. -/
def issue (s : σ) (q : Q) (params : List Datum)
    (run : π → List Stored → Except StoreFault α × σ) : Except StoreFault α × σ :=
  match E.prepare s q with
  | none => (.error .prepare, s)
  | some p =>
    match params.mapM Datum.toStored with
    | .error f => (.error f, s)
    | .ok values => run p values

def query (s : σ) (q : Q) (params : List Datum) : Except StoreFault (List Row) × σ :=
  E.issue s q params fun p values =>
    match E.start s p values with
    | none => (.error .query, s)
    | some cursor => cursor.fetch (E.columnNames p)

/-- Execute a statement for the number of rows that it changed. -/
def exec (s : σ) (q : Q) (params : List Datum) : Except StoreFault Nat × σ :=
  E.issue s q params fun p values =>
    match E.execute s p values with
    | (some count, t) => (.ok count, t)
    | (none, t) => (.error .statement, t)

/-- A call of a connection to an engine. -/
inductive Call (Q : Type) where
  | query (q : Q) (params : List Datum)
  | exec (q : Q) (params : List Datum)
  | batch (q : Q)
  /-- Control a transaction by an ordinary statement. -/
  | control (c : Control)
deriving DecidableEq

inductive Answer where
  | done
  | affected (count : Nat)
  | rows (rows : List Row)
deriving DecidableEq

/-- Make a call, for its answer and the state of the engine after it. -/
def step (s : σ) : Call Q → Except StoreFault Answer × σ
  | .query q params =>
    let (r, t) := E.query s q params
    (r.map .rows, t)
  | .exec q params =>
    let (r, t) := E.exec s q params
    (r.map .affected, t)
  | .batch q =>
    let (succeeds, t) := E.script s q
    (if succeeds then .ok .done else .error .batch, t)
  | .control c =>
    let (r, t) := E.exec s (E.control c) []
    (r.map fun _ => .done, t)

end Engine
end SqlMapper
