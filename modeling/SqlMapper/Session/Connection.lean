import SqlMapper.Failure
import SqlMapper.Sql.Fragment

namespace SqlMapper

/-- A statement that controls a transaction. -/
inductive Control where
  | start
  | commit
  | rollback
deriving DecidableEq, Repr

def Control.statement : Control → Statement
  | .start => ⟨"BEGIN", []⟩
  | .commit => ⟨"COMMIT", []⟩
  | .rollback => ⟨"ROLLBACK", []⟩

/-- A connection with states of type `σ`. -/
structure Connection (σ : Type) where
  /-- Run a query for its rows. -/
  query : Statement → σ → Except Failure (List Row) × σ
  /-- Run a statement for the number of rows that it affects. -/
  exec : Statement → σ → Except Failure Nat × σ
  control : Control → σ → Except Failure Unit × σ

namespace Connection

variable {σ τ : Type}

/-- A connection that controls transactions by ordinary statements. -/
def ofStatements (query : Statement → σ → Except Failure (List Row) × σ)
    (exec : Statement → σ → Except Failure Nat × σ) : Connection σ where
  query := query
  exec := exec
  control c s :=
    let (r, s) := exec c.statement s
    (r.map fun _ => (), s)

/-- A connection whose state is kept beside another value. -/
def beside (τ : Type) (c : Connection σ) : Connection (σ × τ) where
  query q s :=
    let (r, t) := c.query q s.1
    (r, t, s.2)
  exec q s :=
    let (r, t) := c.exec q s.1
    (r, t, s.2)
  control q s :=
    let (r, t) := c.control q s.1
    (r, t, s.2)

end Connection
inductive Reply where
  | rows (rows : List Row)
  | affected (count : Nat)
  | fail (failure : Failure)
deriving DecidableEq

namespace Script

def query (_ : Statement) : List Reply → Except Failure (List Row) × List Reply
  | [] => (.ok [], [])
  | .rows rows :: rest => (.ok rows, rest)
  | .affected _ :: rest => (.error ⟨[], "scripted an affected count for a query"⟩, rest)
  | .fail f :: rest => (.error f, rest)

def exec (_ : Statement) : List Reply → Except Failure Nat × List Reply
  | [] => (.ok 0, [])
  | .rows _ :: rest => (.error ⟨[], "scripted rows for a statement"⟩, rest)
  | .affected count :: rest => (.ok count, rest)
  | .fail f :: rest => (.error f, rest)

/-- A connection by a script. Controls of transactions take no reply; they succeed unless they are
among the failing ones. -/
def connection (failing : List Control) : Connection (List Reply) where
  query := query
  exec := exec
  control c replies :=
    (if c ∈ failing then .error ⟨[], c.statement.sql ++ " failed"⟩ else .ok (), replies)

/-- A connection by a script whose controls are ordinary statements. -/
def plainConnection : Connection (List Reply) := .ofStatements query exec

end Script
end SqlMapper
