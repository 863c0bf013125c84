import SqlMapper.Entity.FieldType
import SqlMapper.Entity.Schema

namespace SqlMapper

/-- A failure of something outside, such as a connection, with the contexts in which it was
reported, the outermost first. -/
structure Failure where
  contexts : List String
  cause : String
deriving DecidableEq, Repr

/-- The text of the outermost report. -/
def Failure.message (f : Failure) : String := f.contexts.head?.getD f.cause

/-- What is wrong with a composite key. -/
inductive KeyFault where
  | missingInInput (column : String)
  | missingInId (column : String)
  /-- A single value in place of named ones. -/
  | notNamed
deriving DecidableEq, Repr

def KeyFault.message : KeyFault → String
  | missingInInput column => "primary key \x60" ++ column ++ "\x60 should exist in input"
  | missingInId column => "primary key \x60" ++ column ++ "\x60 should exist in id"
  | notNamed => "id should name every primary key column"

/-- An error of composing or running a statement. -/
inductive Error where
  | schema (fault : SchemaFault)
  | misplaced (m : Misplaced)
  /-- A key column is not set. -/
  | missingKey (table column : String)
  | compositeKey (table : String) (fault : KeyFault)
  /-- Named values for a key of one column. -/
  | simpleKey (table : String)
  | addedRowNotFound (table : String)
  | generatedIdNotFound
  /-- Several rows look like the inserted one. -/
  | ambiguous (table : String) (count : Nat)
  /-- Several rows share a key. -/
  | sharedKey (table : String) (count : Nat)
  /-- The connection failed at a statement. -/
  | failed (statement : String) (failure : Failure)
  /-- A value that cannot travel was bound. -/
  | unbindable
  | decode (e : DecodeError)
  /-- A unit of work failed for a reason of its own. -/
  | rolledBack (failure : Failure)
deriving DecidableEq

def Error.message : Error → String
  | schema fault => "schema error: " ++ fault.message
  | misplaced m =>
    "operation not supported: " ++ m.operand.name ++ " cannot be used in " ++ m.position.label ++
      " position"
  | missingKey table column =>
    "primary key \x60" ++ column ++ "\x60 should exist on \x60" ++ table ++ "\x60"
  | compositeKey table fault =>
    "table \x60" ++ table ++ "\x60 uses a composite key: " ++ fault.message
  | simpleKey table =>
    "table \x60" ++ table ++
      "\x60 uses a simple primary key, input should be an integer or string"
  | addedRowNotFound table => "not found: inserted row of \x60" ++ table ++ "\x60"
  | generatedIdNotFound => "not found: last insert id"
  | ambiguous table count =>
    "multiple (" ++ toString count ++ ") rows of \x60" ++ table ++ "\x60 match after insert"
  | sharedKey table count =>
    "find by id on \x60" ++ table ++ "\x60 should have only one result, got " ++ toString count
  | failed statement failure =>
    "failed to execute \x60" ++ statement ++ "\x60: " ++ failure.message
  | unbindable =>
    "conversion error: unsupported values require explicit conversion before binding"
  | decode e => "conversion error: " ++ e.message
  | rolledBack failure => "transaction rolled back: " ++ failure.message

/-- How a unit of work fails: with an error of this library, whatever contexts it was reported in,
or with a failure from outside. -/
inductive UnitFailure where
  | own (contexts : List String) (error : Error)
  | foreign (failure : Failure)
deriving DecidableEq

namespace UnitFailure

def inContext (context : String) : UnitFailure → UnitFailure
  | own contexts error => own (context :: contexts) error
  | foreign f => foreign ⟨context :: f.contexts, f.cause⟩

/-- The error of the rolled back transaction: the library's own errors stay what they are. -/
def toError : UnitFailure → Error
  | own _ error => error
  | foreign f => .rolledBack f

end UnitFailure
end SqlMapper
