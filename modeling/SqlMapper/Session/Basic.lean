import SqlMapper.Failure
import SqlMapper.Sql.Fragment

namespace SqlMapper

inductive Level where
  | debug
  | warn
deriving DecidableEq, Repr

def Level.name : Level → String
  | .debug => "DEBUG"
  | .warn => "WARN"

structure Diagnostic where
  level : Level
  message : String
  details : List (String × String)
deriving DecidableEq, Repr

/-- An event of the statement log. -/
inductive LogEvent where
  /-- A statement is about to run. -/
  | before (s : Statement)
  /-- A query returned rows. -/
  | rows (s : Statement) (count : Nat)
  /-- A statement that returns no rows is done. -/
  | done (s : Statement) (success : Bool)
  | failed (e : Error)
deriving DecidableEq

def LogEvent.diagnostic : LogEvent → Diagnostic
  | before s =>
    ⟨.debug, "executing statement", [("sql", s.sql), ("param_count", toString s.params.length)]⟩
  | rows s count => ⟨.debug, "query complete", [("sql", s.sql), ("rows", toString count)]⟩
  | done s success =>
    ⟨.debug, "statement complete", [("sql", s.sql), ("success", toString success)]⟩
  | failed e => ⟨.warn, "statement failed", [("error", e.message)]⟩

/-- An entry of a session's journal. -/
inductive Entry where
  /-- The connection received a statement. -/
  | call (s : Statement)
  | log (e : LogEvent)
  | note (d : Diagnostic)
deriving DecidableEq

namespace Entry

def call? : Entry → Option Statement
  | call s => some s
  | _ => none

def log? : Entry → Option LogEvent
  | log e => some e
  | _ => none

def note? : Entry → Option Diagnostic
  | note d => some d
  | _ => none

/-- All that is said of an entry where the statement log is traced. -/
def trace? : Entry → Option Diagnostic
  | log e => some e.diagnostic
  | note d => some d
  | call _ => none

end Entry
/-- A run of a session. -/
structure Run (σ ε α : Type) where
  result : Except ε α
  /-- The entries that the run adds. -/
  journal : List Entry
  /-- The state of the connection after it. -/
  state : σ

/-- A computation on a connection with states of type `σ`. -/
def Session (σ ε α : Type) : Type := σ → Run σ ε α

namespace Session

variable {σ ε ε' α β : Type}

def pure (a : α) : Session σ ε α := fun s => ⟨.ok a, [], s⟩

def fail (e : ε) : Session σ ε α := fun s => ⟨.error e, [], s⟩

def bind (x : Session σ ε α) (f : α → Session σ ε β) : Session σ ε β := fun s =>
  match x s with
  | ⟨.error e, journal, t⟩ => ⟨.error e, journal, t⟩
  | ⟨.ok a, journal, t⟩ =>
    let rest := f a t
    ⟨rest.result, journal ++ rest.journal, rest.state⟩

instance : Monad (Session σ ε) where
  pure := pure
  bind := bind

instance : LawfulMonad (Session σ ε) := LawfulMonad.mk' (Session σ ε)
  (fun x => by
    funext s
    show bind x (fun a => pure a) s = x s
    simp only [bind, pure]
    rcases x s with ⟨_ | _, _, _⟩ <;> simp)
  (fun _ _ => rfl)
  (fun x f g => by
    funext s
    show bind (bind x f) g s = bind x (fun a => bind (f a) g) s
    simp only [bind]
    rcases x s with ⟨_ | a, _, t⟩
    · rfl
    · simp only
      rcases f a t with ⟨_ | _, _, _⟩ <;> simp)

def ofExcept : Except ε α → Session σ ε α
  | .ok a => pure a
  | .error e => fail e

/-- The result of a session as a value; this never fails. -/
def attempt (x : Session σ ε α) : Session σ ε' (Except ε α) := fun s =>
  let r := x s
  ⟨.ok r.result, r.journal, r.state⟩

def mapError (f : ε → ε') (x : Session σ ε α) : Session σ ε' α := fun s =>
  let r := x s
  ⟨r.result.mapError f, r.journal, r.state⟩

def remark (d : Diagnostic) : Session σ ε Unit := fun s => ⟨.ok (), [.note d], s⟩

end Session
end SqlMapper
