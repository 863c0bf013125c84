import SqlMapper.Session.Database
/-! What a connection is asked and what it answers, as the connection itself could write it down.
The record is kept in the state of the connection and not in a journal, so that the two can be
compared. -/
namespace SqlMapper

variable {σ ε ε' α β : Type}

/-- A call of a connection with the answer to it. -/
inductive Exchange where
  | query (s : Statement) (answer : Except Failure (List Row))
  | execute (s : Statement) (answer : Except Failure Nat)
  | control (c : Control) (answer : Except Failure Unit)

namespace Exchange

def statement : Exchange → Statement
  | query s _ => s
  | execute s _ => s
  | control c _ => c.statement

/-- What the statement log says of the answer. -/
def outcome : Exchange → LogEvent
  | query s (.ok rows) => .rows s rows.length
  | query s (.error f) => .failed (.failed s.sql f)
  | execute s (.ok _) => .done s true
  | execute s (.error f) => .failed (.failed s.sql f)
  | control c (.ok _) => .done c.statement true
  | control c (.error f) => .failed (.failed c.statement.sql f)

def events (x : Exchange) : List LogEvent := [.before x.statement, x.outcome]

/-- The call as a journal has it, between its two events. -/
def entries (x : Exchange) : List Entry :=
  [.log (.before x.statement), .call x.statement, .log x.outcome]

theorem log_flatMap_entries (xs : List Exchange) :
    (xs.flatMap entries).filterMap Entry.log? = xs.flatMap events := by
  rw [List.filterMap_flatMap]
  rfl

theorem filter_flatMap_entries (xs : List Exchange) :
    (xs.flatMap entries).filter (·.note?.isNone) = xs.flatMap entries := by
  rw [List.filter_flatMap]
  rfl

end Exchange

/-- The connection with a record of its calls beside its state. -/
def Connection.recorded (c : Connection σ) : Connection (σ × List Exchange) where
  query q s :=
    let (r, t) := c.query q s.1
    (r, t, s.2 ++ [.query q r])
  exec q s :=
    let (r, t) := c.exec q s.1
    (r, t, s.2 ++ [.execute q r])
  control q s :=
    let (r, t) := c.control q s.1
    (r, t, s.2 ++ [.control q r])

def Database.recorded (db : Database σ) : Database (σ × List Exchange) :=
  ⟨db.connection.recorded, db.dialect, db.delimiter⟩

/-- What ends a transaction that was begun. -/
inductive Closing : List Exchange → Prop
  | committed : Closing [.control .commit (.ok ())]
  | rolledBack (answer : Except Failure Unit) : Closing [.control .rollback answer]
  | uncommitted (f : Failure) (answer : Except Failure Unit) :
    Closing [.control .commit (.error f), .control .rollback answer]

/-- Every transaction that was begun is closed, once and after those that were begun in it; and
nothing else is closed. -/
inductive Bracketed : List Exchange → Prop
  | nil : Bracketed []
  | query {s : Statement} {answer : Except Failure (List Row)} {rest : List Exchange}
    (h : Bracketed rest) : Bracketed (.query s answer :: rest)
  | execute {s : Statement} {answer : Except Failure Nat} {rest : List Exchange}
    (h : Bracketed rest) : Bracketed (.execute s answer :: rest)
  | unopened {f : Failure} {rest : List Exchange} (h : Bracketed rest) :
    Bracketed (.control .start (.error f) :: rest)
  | opened {inner closing rest : List Exchange} (hi : Bracketed inner) (hc : Closing closing)
    (h : Bracketed rest) : Bracketed (.control .start (.ok ()) :: (inner ++ closing ++ rest))

theorem Bracketed.append {xs ys : List Exchange} (hx : Bracketed xs) (hy : Bracketed ys) :
    Bracketed (xs ++ ys) := by
  induction hx with
  | nil => exact hy
  | query _ ih => exact .query ih
  | execute _ ih => exact .execute ih
  | unopened _ ih => exact .unopened ih
  | opened hi hc _ _ ih =>
    have h := Bracketed.opened hi hc ih
    rw [← List.append_assoc] at h
    exact h

/-- What a run adds to the record of its connection; its journal has the same calls. -/
structure Run.Adds (r : Run (σ × List Exchange) ε α) (before added : List Exchange) : Prop where
  record : r.state.2 = before ++ added
  journal : r.journal.filter (·.note?.isNone) = added.flatMap Exchange.entries
  bracketed : Bracketed added

namespace Session

variable {s t : σ} {a : α} {e : ε} {journal : List Entry}

theorem run_bind_of_ok {x : Session σ ε α} {f : α → Session σ ε β}
    (h : x s = ⟨.ok a, journal, t⟩) :
    (x >>= f) s = ⟨(f a t).result, journal ++ (f a t).journal, (f a t).state⟩ := by
  show Session.bind x f s = _
  unfold Session.bind
  rw [h]

theorem run_bind_of_error {x : Session σ ε α} {f : α → Session σ ε β}
    (h : x s = ⟨.error e, journal, t⟩) : (x >>= f) s = ⟨.error e, journal, t⟩ := by
  show Session.bind x f s = _
  unfold Session.bind
  rw [h]

theorem run_attempt {x : Session σ ε α} {r : Except ε α} (h : x s = ⟨r, journal, t⟩) :
    (x.attempt : Session σ ε' (Except ε α)) s = ⟨.ok r, journal, t⟩ := by
  unfold attempt
  rw [h]

/-- Whatever the session does to the connection is in its journal. -/
def Recorded (x : Session (σ × List Exchange) ε α) : Prop := ∀ s, ∃ xs, (x s).Adds s.2 xs

theorem recorded_of_silent {x : Session (σ × List Exchange) ε α}
    (h : ∀ s, (x s).state = s ∧ (x s).journal.filter (·.note?.isNone) = []) : x.Recorded := by
  intro s
  obtain ⟨hstate, hjournal⟩ := h s
  refine ⟨[], ?_, hjournal, .nil⟩
  rw [hstate, List.append_nil]

theorem Recorded.bind {x : Session (σ × List Exchange) ε α}
    {f : α → Session (σ × List Exchange) ε β} (hx : x.Recorded) (hf : ∀ a, (f a).Recorded) :
    (x >>= f).Recorded := by
  intro s
  obtain ⟨xs, hxs⟩ := hx s
  rcases hrun : x s with ⟨r, journal, t⟩
  rw [hrun] at hxs
  cases r with
  | error e => exact ⟨xs, run_bind_of_error hrun ▸ ⟨hxs.record, hxs.journal, hxs.bracketed⟩⟩
  | ok a =>
    obtain ⟨ys, hys⟩ := hf a t
    rw [run_bind_of_ok hrun]
    -- what the rest adds stands behind what was added before
    refine ⟨xs ++ ys, ?_, ?_, hxs.bracketed.append hys.bracketed⟩
    · rw [← List.append_assoc, ← hxs.record]
      exact hys.record
    · rw [List.filter_append, List.flatMap_append, ← hxs.journal, ← hys.journal]

theorem Recorded.attempt {x : Session (σ × List Exchange) ε α} (hx : x.Recorded) :
    (x.attempt : Session (σ × List Exchange) ε' (Except ε α)).Recorded := by
  intro s
  obtain ⟨xs, hxs⟩ := hx s
  exact ⟨xs, hxs.record, hxs.journal, hxs.bracketed⟩

theorem Recorded.mapError {x : Session (σ × List Exchange) ε α} (f : ε → ε') (hx : x.Recorded) :
    (x.mapError f).Recorded := by
  intro s
  obtain ⟨xs, hxs⟩ := hx s
  exact ⟨xs, hxs.record, hxs.journal, hxs.bracketed⟩

/-- Run in `s`, the session makes the calls `xs`, ends with `r`, and leaves the state `t`. -/
structure Exchanges (x : Session (σ × List Exchange) ε α) (s : σ × List Exchange)
    (xs : List Exchange) (r : Except ε α) (t : σ × List Exchange) : Prop where
  result : (x s).result = r
  state : (x s).state = t
  record : t.2 = s.2 ++ xs

section Exchanges

variable {x : Session (σ × List Exchange) ε α} {f : α → Session (σ × List Exchange) ε β}
  {s t u : σ × List Exchange} {xs ys : List Exchange}

theorem exchanges_pure (a : α) (s : σ × List Exchange) :
    (Pure.pure a : Session (σ × List Exchange) ε α).Exchanges s [] (.ok a) s :=
  ⟨rfl, rfl, (List.append_nil _).symm⟩

theorem exchanges_ofExcept (r : Except ε α) (s : σ × List Exchange) :
    (ofExcept r : Session (σ × List Exchange) ε α).Exchanges s [] r s := by
  cases r <;> exact ⟨rfl, rfl, (List.append_nil _).symm⟩

theorem Exchanges.bind {r : Except ε β} (hx : x.Exchanges s xs (.ok a) t)
    (hf : (f a).Exchanges t ys r u) : (x >>= f).Exchanges s (xs ++ ys) r u := by
  rcases hrun : x s with ⟨r', journal, t'⟩
  obtain rfl : r' = .ok a := (congrArg Run.result hrun).symm.trans hx.result
  obtain rfl : t' = t := (congrArg Run.state hrun).symm.trans hx.state
  have hbind := run_bind_of_ok (f := f) hrun
  refine ⟨?_, ?_, ?_⟩
  · rw [hbind]
    exact hf.result
  · rw [hbind]
    exact hf.state
  · rw [hf.record, hx.record, List.append_assoc]

theorem Exchanges.bind_of_error (hx : x.Exchanges s xs (.error e) t) :
    (x >>= f).Exchanges s xs (.error e) t := by
  rcases hrun : x s with ⟨r', journal, t'⟩
  obtain rfl : r' = .error e := (congrArg Run.result hrun).symm.trans hx.result
  obtain rfl : t' = t := (congrArg Run.state hrun).symm.trans hx.state
  have hbind := run_bind_of_error (f := f) hrun
  exact ⟨congrArg Run.result hbind, congrArg Run.state hbind, hx.record⟩

end Exchanges

end Session

namespace Database

variable {s : σ × List Exchange} {t : σ} {q : Statement} {db : Database σ}

/-- A call is one exchange, and the journal has that and nothing else. -/
theorem call_recorded {run : σ → Except Failure α × σ} {outcome : α → LogEvent}
    {exchange : Except Failure α → Exchange} {r : Except Failure α}
    (hs : ∀ r, (exchange r).statement = q) (ho : ∀ a, (exchange (.ok a)).outcome = outcome a)
    (he : ∀ f, (exchange (.error f)).outcome = .failed (.failed q.sql f))
    (h : run s.1 = (r, t)) :
    call q (fun s => ((run s.1).1, (run s.1).2, s.2 ++ [exchange (run s.1).1])) outcome s =
      ⟨r.mapError (.failed q.sql), (exchange r).entries, (t, s.2 ++ [exchange r])⟩ := by
  unfold call Exchange.entries
  cases r with
  | ok a =>
    simp only [h, hs, ho]
    rfl
  | error f =>
    simp only [h, hs, he]
    rfl

theorem query_recorded {r : Except Failure (List Row)} (h : db.connection.query q s.1 = (r, t)) :
    db.recorded.query q s =
      ⟨r.mapError (.failed q.sql), (Exchange.query q r).entries, (t, s.2 ++ [.query q r])⟩ :=
  call_recorded (fun _ => rfl) (fun _ => rfl) (fun _ => rfl) h

theorem execute_recorded {r : Except Failure Nat} (h : db.connection.exec q s.1 = (r, t)) :
    db.recorded.execute q s =
      ⟨r.mapError (.failed q.sql), (Exchange.execute q r).entries, (t, s.2 ++ [.execute q r])⟩ :=
  call_recorded (fun _ => rfl) (fun _ => rfl) (fun _ => rfl) h

theorem control_recorded {c : Control} {r : Except Failure Unit}
    (h : db.connection.control c s.1 = (r, t)) :
    db.recorded.control c s =
      ⟨r.mapError (.failed c.statement.sql), (Exchange.control c r).entries,
        (t, s.2 ++ [.control c r])⟩ :=
  call_recorded (fun _ => rfl) (fun _ => rfl) (fun _ => rfl) h

theorem exchanges_query (db : Database σ) (q : Statement) (s : σ × List Exchange) :
    ∃ answer u, (db.recorded.query q).Exchanges s [.query q answer]
      (answer.mapError (.failed q.sql)) u := by
  rcases h : db.connection.query q s.1 with ⟨answer, t⟩
  have hrun := query_recorded h
  exact ⟨answer, _, congrArg Run.result hrun, congrArg Run.state hrun, rfl⟩

theorem exchanges_execute (db : Database σ) (q : Statement) (s : σ × List Exchange) :
    ∃ answer u, (db.recorded.execute q).Exchanges s [.execute q answer]
      (answer.mapError (.failed q.sql)) u := by
  rcases h : db.connection.exec q s.1 with ⟨answer, t⟩
  have hrun := execute_recorded h
  exact ⟨answer, _, congrArg Run.result hrun, congrArg Run.state hrun, rfl⟩

/-- A fragment is prepared without a call, unless one of its values cannot travel. -/
theorem exchanges_prepare (db : Database σ) (about table : String) (f : Fragment)
    (s : σ × List Exchange) :
    (db.recorded.prepare about table f).Exchanges s []
      ((f.statement? db.dialect).elim (.error .unbindable) .ok) s := by
  have hremark : (Session.remark ⟨.debug, about, [("table", table), ("sql", f.text db.dialect),
      ("param_count", toString f.values.length)]⟩ :
      Session (σ × List Exchange) Error Unit).Exchanges s [] (.ok ()) s :=
    ⟨rfl, rfl, (List.append_nil _).symm⟩
  unfold prepare
  rw [show db.recorded.dialect = db.dialect from rfl]
  cases f.statement? db.dialect with
  | some q => exact hremark.bind (Session.exchanges_pure q s)
  | none => exact hremark.bind (Session.exchanges_ofExcept (.error Error.unbindable) s)

theorem exchanges_prepared {db : Database σ} {f : Fragment} {q : Statement} (about table : String)
    (h : f.statement? db.dialect = some q) (s : σ × List Exchange) :
    (db.recorded.prepare about table f).Exchanges s [] (.ok q) s := by
  have hprepare := db.exchanges_prepare about table f s
  rw [h] at hprepare
  exact hprepare

theorem recorded_query (q : Statement) : (db.recorded.query q).Recorded := by
  intro s
  rcases h : db.connection.query q s.1 with ⟨r, t⟩
  rw [query_recorded h]
  exact ⟨[.query q r], rfl, rfl, .query .nil⟩

theorem recorded_execute (q : Statement) : (db.recorded.execute q).Recorded := by
  intro s
  rcases h : db.connection.exec q s.1 with ⟨r, t⟩
  rw [execute_recorded h]
  exact ⟨[.execute q r], rfl, rfl, .execute .nil⟩

end Database
end SqlMapper
