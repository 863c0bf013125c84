import SqlMapper.Proofs.Session.Exchange

namespace SqlMapper.Database

variable {σ α : Type} {db : Database σ} {unit : Session (σ × List Exchange) UnitFailure α}
  {s : σ × List Exchange} {t u v w : σ} {f : Failure} {inner : List Exchange}

/-- The transaction was begun, and its unit ended with `r` after the calls `inner`. -/
structure Reaches (db : Database σ) (unit : Session (σ × List Exchange) UnitFailure α)
    (s : σ × List Exchange) (r : Except UnitFailure α) (inner : List Exchange) (u : σ) : Prop where
  begun : ∃ t journal, db.connection.control .start s.1 = (.ok (), t) ∧
    unit (t, s.2 ++ [.control .start (.ok ())]) =
      ⟨r, journal, (u, s.2 ++ [.control .start (.ok ())] ++ inner)⟩
  bracketed : Bracketed inner

/-- How a transaction goes: the calls that the connection receives for it with its answers, the
result, and the state that the connection is left in. -/
inductive Transacts (db : Database σ) (unit : Session (σ × List Exchange) UnitFailure α)
    (s : σ × List Exchange) : List Exchange → Except Error α → σ → Prop
  /-- It could not be begun, and the unit is not run. -/
  | unopened {f : Failure} {t : σ} (h : db.connection.control .start s.1 = (.error f, t)) :
    Transacts db unit s [.control .start (.error f)] (.error (.failed "BEGIN" f)) t
  | committed {a : α} {inner : List Exchange} {u v : σ} (h : db.Reaches unit s (.ok a) inner u)
    (hc : db.connection.control .commit u = (.ok (), v)) :
    Transacts db unit s
      (.control .start (.ok ()) :: (inner ++ [.control .commit (.ok ())])) (.ok a) v
  | uncommitted {a : α} {inner : List Exchange} {u v w : σ} {f : Failure}
    {answer : Except Failure Unit} (h : db.Reaches unit s (.ok a) inner u)
    (hc : db.connection.control .commit u = (.error f, v))
    (hr : db.connection.control .rollback v = (answer, w)) :
    Transacts db unit s
      (.control .start (.ok ()) :: (inner ++
        [.control .commit (.error f), .control .rollback answer])) (.error (.failed "COMMIT" f)) w
  /-- The unit failed with an error of this library. -/
  | own {contexts : List String} {e : Error} {inner : List Exchange} {u v : σ}
    {answer : Except Failure Unit} (h : db.Reaches unit s (.error (.own contexts e)) inner u)
    (hr : db.connection.control .rollback u = (answer, v)) :
    Transacts db unit s
      (.control .start (.ok ()) :: (inner ++ [.control .rollback answer])) (.error e) v
  /-- The unit failed for another reason. -/
  | foreign {f : Failure} {inner : List Exchange} {u v : σ} {answer : Except Failure Unit}
    (h : db.Reaches unit s (.error (.foreign f)) inner u)
    (hr : db.connection.control .rollback u = (answer, v)) :
    Transacts db unit s
      (.control .start (.ok ()) :: (inner ++ [.control .rollback answer]))
      (.error (.rolledBack f)) v

theorem Transacts.bracketed {xs : List Exchange} {r : Except Error α}
    (h : db.Transacts unit s xs r t) : Bracketed xs := by
  have close {inner closing : List Exchange} (hi : Bracketed inner) (hc : Closing closing) :
      Bracketed (.control .start (.ok ()) :: (inner ++ closing)) := by
    have hall := Bracketed.opened hi hc .nil
    rw [List.append_nil] at hall
    exact hall
  cases h with
  | unopened => exact .unopened .nil
  | committed h => exact close h.bracketed .committed
  | uncommitted h => exact close h.bracketed (.uncommitted _ _)
  | own h => exact close h.bracketed (.rolledBack _)
  | foreign h => exact close h.bracketed (.rolledBack _)

theorem Transacts.committed_of_ok {xs : List Exchange} {a : α}
    (h : db.Transacts unit s xs (.ok a) t) : xs.getLast? = some (.control .commit (.ok ())) := by
  cases h with
  | committed => rw [← List.cons_append, List.getLast?_concat]

/-- The journal has the calls of the unit between those of the transaction. -/
theorem Transacts.adds {closing : List Exchange} {r : Except Error α} {journal : List Entry}
    (h : db.Transacts unit s (.control .start (.ok ()) :: (inner ++ closing)) r v)
    (hj : journal.filter (·.note?.isNone) = inner.flatMap Exchange.entries) :
    Run.Adds ⟨r, (Exchange.control .start (.ok ())).entries ++ (journal ++
      closing.flatMap Exchange.entries),
      (v, s.2 ++ [.control .start (.ok ())] ++ inner ++ closing)⟩
      s.2 (.control .start (.ok ()) :: (inner ++ closing)) := by
  refine ⟨by simp, ?_, h.bracketed⟩
  rw [List.filter_append, List.filter_append, hj, Exchange.filter_flatMap_entries,
    List.flatMap_cons, List.flatMap_append]
  rfl

theorem transaction_unopened (h : db.connection.control .start s.1 = (.error f, t)) :
    db.recorded.transaction unit s =
      ⟨.error (.failed "BEGIN" f), (Exchange.control .start (.error f)).entries,
        (t, s.2 ++ [.control .start (.error f)])⟩ :=
  Session.run_bind_of_error (control_recorded h)

theorem attempt_control {c : Control} {r : Except Failure Unit}
    (h : db.connection.control c s.1 = (r, t)) :
    ((db.recorded.control c).attempt : Session (σ × List Exchange) Error (Except Error Unit)) s =
      ⟨.ok (r.mapError (.failed c.statement.sql)), (Exchange.control c r).entries,
        (t, s.2 ++ [.control c r])⟩ :=
  Session.run_attempt (control_recorded h)

section opened

variable {a : α} {e : UnitFailure} {journal : List Entry} {answer : Except Failure Unit}

theorem transaction_committed (h : db.connection.control .start s.1 = (.ok (), t))
    (hu : unit (t, s.2 ++ [.control .start (.ok ())]) = ⟨.ok a, journal, (u, inner)⟩)
    (hc : db.connection.control .commit u = (.ok (), v)) :
    db.recorded.transaction unit s =
      ⟨.ok a, (Exchange.control .start (.ok ())).entries ++
        (journal ++ (Exchange.control .commit (.ok ())).entries),
        (v, inner ++ [.control .commit (.ok ())])⟩ := by
  unfold transaction
  rw [Session.run_bind_of_ok (control_recorded h), Session.run_bind_of_ok (Session.run_attempt hu)]
  dsimp only
  rw [Session.run_bind_of_ok (attempt_control hc)]
  rfl

theorem transaction_uncommitted (h : db.connection.control .start s.1 = (.ok (), t))
    (hu : unit (t, s.2 ++ [.control .start (.ok ())]) = ⟨.ok a, journal, (u, inner)⟩)
    (hc : db.connection.control .commit u = (.error f, v))
    (hr : db.connection.control .rollback v = (answer, w)) :
    db.recorded.transaction unit s =
      ⟨.error (.failed "COMMIT" f), (Exchange.control .start (.ok ())).entries ++ (journal ++
        ((Exchange.control .commit (.error f)).entries ++
          (Exchange.control .rollback answer).entries)),
        (w, inner ++ [.control .commit (.error f)] ++ [.control .rollback answer])⟩ := by
  unfold transaction
  rw [Session.run_bind_of_ok (control_recorded h), Session.run_bind_of_ok (Session.run_attempt hu)]
  dsimp only
  rw [Session.run_bind_of_ok (attempt_control hc)]
  dsimp only [Except.mapError]
  rw [Session.run_bind_of_ok (attempt_control hr)]
  rfl

theorem transaction_rolledBack (h : db.connection.control .start s.1 = (.ok (), t))
    (hu : unit (t, s.2 ++ [.control .start (.ok ())]) = ⟨.error e, journal, (u, inner)⟩)
    (hr : db.connection.control .rollback u = (answer, v)) :
    db.recorded.transaction unit s =
      ⟨.error e.toError, (Exchange.control .start (.ok ())).entries ++
        (journal ++ (Exchange.control .rollback answer).entries),
        (v, inner ++ [.control .rollback answer])⟩ := by
  unfold transaction
  rw [Session.run_bind_of_ok (control_recorded h), Session.run_bind_of_ok (Session.run_attempt hu)]
  dsimp only
  rw [Session.run_bind_of_ok (attempt_control hr)]
  rfl

end opened

/-- A transaction of a unit whose calls are all in its journal goes its way, and its own calls are
in the journal as well. -/
theorem transacts_of_recorded (db : Database σ) (hu : unit.Recorded) (s : σ × List Exchange) :
    ∃ xs, (db.recorded.transaction unit s).Adds s.2 xs ∧
      db.Transacts unit s xs (db.recorded.transaction unit s).result
        (db.recorded.transaction unit s).state.1 := by
  rcases h : db.connection.control .start s.1 with ⟨begun, t⟩
  cases begun with
  | error f =>
    rw [transaction_unopened h]
    exact ⟨_, ⟨rfl, rfl, .unopened .nil⟩, .unopened h⟩
  | ok _ =>
    obtain ⟨inner, hinner⟩ := hu (t, s.2 ++ [.control .start (.ok ())])
    rcases hrun : unit (t, s.2 ++ [.control .start (.ok ())]) with ⟨r, journal, u, record⟩
    rw [hrun] at hinner
    obtain ⟨hrecord, hjournal, hbracketed⟩ := hinner
    obtain rfl : record = s.2 ++ [.control .start (.ok ())] ++ inner := hrecord
    have hreaches : db.Reaches unit s r inner u := ⟨⟨t, journal, h, hrun⟩, hbracketed⟩
    cases r with
    | ok a =>
      rcases hc : db.connection.control .commit u with ⟨committed, v⟩
      cases committed with
      | ok _ =>
        have hgoes := Transacts.committed hreaches hc
        rw [transaction_committed h hrun hc]
        exact ⟨_, hgoes.adds hjournal, hgoes⟩
      | error f =>
        rcases hr : db.connection.control .rollback v with ⟨answer, w⟩
        have hgoes := Transacts.uncommitted hreaches hc hr
        rw [transaction_uncommitted h hrun hc hr, List.append_assoc _ [_] [_]]
        exact ⟨_, hgoes.adds hjournal, hgoes⟩
    | error e =>
      rcases hr : db.connection.control .rollback u with ⟨answer, v⟩
      rw [transaction_rolledBack h hrun hr]
      cases e with
      | own contexts e =>
        have hgoes := Transacts.own hreaches hr
        exact ⟨_, hgoes.adds hjournal, hgoes⟩
      | foreign f =>
        have hgoes := Transacts.foreign hreaches hr
        exact ⟨_, hgoes.adds hjournal, hgoes⟩

theorem recorded_transaction (hu : unit.Recorded) : (db.recorded.transaction unit).Recorded := by
  intro s
  obtain ⟨xs, hadds, -⟩ := transacts_of_recorded db hu s
  exact ⟨xs, hadds⟩

end SqlMapper.Database
