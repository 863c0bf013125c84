import SqlMapper.Session.Connection
import SqlMapper.Proofs.Session.Transaction
import SqlMapper.Proofs.Gateway.Operation

namespace SqlMapper

variable {σ ε α : Type} {db : Database σ}

theorem Entry.filterMap_log_filter (journal : List Entry) :
    (journal.filter (·.note?.isNone)).filterMap log? = journal.filterMap log? := by
  rw [List.filterMap_filter]
  congr 1
  funext e
  cases e <;> rfl

theorem Session.Through.recorded {x : Session (σ × List Exchange) ε α}
    (h : x.Through db.recorded) : x.Recorded := by
  induction h with
  | pure a => exact recorded_of_silent fun _ => ⟨rfl, rfl⟩
  | fail e => exact recorded_of_silent fun _ => ⟨rfl, rfl⟩
  | bind _ _ ihx ihf => exact ihx.bind ihf
  | attempt _ ih => exact ih.attempt
  | mapError f _ ih => exact ih.mapError f
  | remark d => exact recorded_of_silent fun _ => ⟨rfl, rfl⟩
  | query q => exact Database.recorded_query q
  | execute q => exact Database.recorded_execute q
  | transaction _ ih => exact Database.recorded_transaction ih

namespace Database

/-- A transaction of any routine goes one of the ways that a transaction can go. Its controls are
well bracketed, and it succeeds only with a commit. -/
theorem transaction_bracketed {unit : Session (σ × List Exchange) UnitFailure α}
    (h : db.recorded.Routine unit) (s : σ × List Exchange) :
    ∃ xs, (db.recorded.transaction unit s).state.2 = s.2 ++ xs ∧
      db.Transacts unit s xs (db.recorded.transaction unit s).result
        (db.recorded.transaction unit s).state.1 ∧ Bracketed xs ∧
      ∀ a, (db.recorded.transaction unit s).result = .ok a →
        xs.getLast? = some (.control .commit (.ok ())) := by
  obtain ⟨xs, hadds, hgoes⟩ := transacts_of_recorded db h.through.recorded s
  refine ⟨xs, hadds.record, hgoes, hadds.bracketed, fun a ha => ?_⟩
  rw [ha] at hgoes
  exact hgoes.committed_of_ok

/-- A connection by a script that can only begin transactions, and writes its calls down. -/
def stuck : Database (List Reply) := ⟨Script.connection [.commit, .rollback], .sqlite, "::"⟩

/-- A unit that goes on after an inner transaction failed. -/
def stubborn : Session (List Reply × List Exchange) UnitFailure Nat := do
  let _ : Except Error Nat ←
    (stuck.recorded.transaction (Session.fail (.foreign ⟨[], "no"⟩))).attempt
  return 7

theorem transaction_bracketed_stubborn :
    (stuck.recorded.transaction stubborn ([], [])).result =
        .error (.failed "COMMIT" ⟨[], "COMMIT failed"⟩) ∧
      Bracketed [.control .start (.ok ()), .control .start (.ok ()),
        .control .rollback (.error ⟨[], "ROLLBACK failed"⟩),
        .control .commit (.error ⟨[], "COMMIT failed"⟩),
        .control .rollback (.error ⟨[], "ROLLBACK failed"⟩)] := by
  have hunit : stuck.recorded.Routine stubborn :=
    .bind (.attempt (.transaction (.fail _))) fun _ => .pure 7
  obtain ⟨xs, hrecord, -, hbracketed, -⟩ := transaction_bracketed hunit ([], [])
  refine ⟨rfl, ?_⟩
  rw [List.nil_append] at hrecord
  rw [← hrecord] at hbracketed
  exact hbracketed

/-- The log of a routine is one pair of events after another, one pair for each call that the
connection received; and in the journal the call stands between the two. -/
theorem log_eq_events {x : Session (σ × List Exchange) ε α} (h : db.recorded.Routine x)
    (s : σ × List Exchange) :
    ∃ xs, (x s).state.2 = s.2 ++ xs ∧
      (x s).journal.filterMap Entry.log? = xs.flatMap Exchange.events ∧
      (x s).journal.filter (·.note?.isNone) = xs.flatMap Exchange.entries := by
  obtain ⟨xs, hadds⟩ := h.through.recorded s
  refine ⟨xs, hadds.record, ?_, hadds.journal⟩
  rw [← Entry.filterMap_log_filter, hadds.journal, Exchange.log_flatMap_entries]

/-- A connection by a script that cannot roll back, and a table on it. -/
def flaky : Database (List Reply) := ⟨Script.connection [.rollback], .sqlite, "::"⟩

def tags : Gateway (List Reply × List Exchange) Row :=
  ⟨flaky.recorded, ⟨"tags", ["name"], ["name"], []⟩, fun row => .ok row⟩

/-- An insert in a transaction that fails, and then a look-up. -/
def insertAndLook : Session (List Reply × List Exchange) Error (Option Row) := do
  let tag : Supply := (FieldMap.ofList [("name", .value (.text (some "a")))]).supply
  let _ : Except Error (Option Row) ←
    (flaky.recorded.transaction ((tags.add tag).mapError (.own []))).attempt
  tags.byId (.scalar (.text (some "a")))

theorem log_eq_events_insertAndLook :
    let insert : Statement := ⟨"INSERT INTO \"tags\" (\"name\") VALUES (?)", [.text (some "a")]⟩
    let select : Statement := ⟨"SELECT * FROM \"tags\" WHERE \"name\"=?", [.text (some "a")]⟩
    let run := insertAndLook ([.fail ⟨[], "disk full"⟩], [])
    run.state.2 = [.control .start (.ok ()), .execute insert (.error ⟨[], "disk full"⟩),
        .control .rollback (.error ⟨[], "ROLLBACK failed"⟩), .query select (.ok [])] ∧
      run.journal.filterMap Entry.log? =
        [.before ⟨"BEGIN", []⟩, .done ⟨"BEGIN", []⟩ true,
          .before insert, .failed (.failed insert.sql ⟨[], "disk full"⟩),
          .before ⟨"ROLLBACK", []⟩, .failed (.failed "ROLLBACK" ⟨[], "ROLLBACK failed"⟩),
          .before select, .rows select 0] := by
  intro insert select run
  have hadd (data : Supply) : flaky.recorded.Routine (tags.add data) :=
    .operation (.gateway tags rfl (.add data)) rfl
  have hbyId (id : RowId) : flaky.recorded.Routine (tags.byId id) :=
    .operation (.gateway tags rfl (.byId id)) rfl
  have hroutine : flaky.recorded.Routine insertAndLook :=
    .bind (.attempt (.transaction (.mapError _ (hadd _)))) fun _ => hbyId _
  obtain ⟨xs, hrecord, hlog, -⟩ := log_eq_events hroutine ([.fail ⟨[], "disk full"⟩], [])
  have hxs : xs = run.state.2 := hrecord.symm
  exact ⟨rfl, by rw [hlog, hxs]; rfl⟩

end Database
end SqlMapper
