import SqlMapper.Session.Database

namespace SqlMapper

structure Seen (σ ε α : Type) where
  result : Except ε α
  calls : List Statement
  state : σ

def Seen.after {σ ε α : Type} (calls : List Statement) (r : Seen σ ε α) : Seen σ ε α :=
  { r with calls := calls ++ r.calls }

@[simp] theorem Seen.after_mk {σ ε α : Type} (before calls : List Statement) (r : Except ε α)
    (s : σ) : Seen.after before ⟨r, calls, s⟩ = ⟨r, before ++ calls, s⟩ := rfl

namespace Session

variable {σ ε α β : Type} {x : Session σ ε α} {f : α → Session σ ε β} {s t : σ} {a : α} {e : ε}
  {calls : List Statement}

def seen (x : Session σ ε α) (s : σ) : Seen σ ε α :=
  ⟨(x s).result, (x s).journal.filterMap Entry.call?, (x s).state⟩

theorem seen_pure (a : α) (s : σ) : (Pure.pure a : Session σ ε α).seen s = ⟨.ok a, [], s⟩ := rfl

theorem seen_fail (e : ε) (s : σ) : (fail e : Session σ ε α).seen s = ⟨.error e, [], s⟩ := rfl

theorem seen_ofExcept (r : Except ε α) (s : σ) : (ofExcept r).seen s = ⟨r, [], s⟩ := by
  cases r <;> rfl

theorem seen_bind_of_ok (h : x.seen s = ⟨.ok a, calls, t⟩) :
    (x >>= f).seen s = ((f a).seen t).after calls := by
  have hbind : (x >>= f) s = Session.bind x f s := rfl
  unfold seen at h ⊢
  rw [hbind]
  unfold Session.bind
  rcases hx : x s with ⟨r, journal, u⟩
  rw [hx] at h
  obtain ⟨rfl, rfl, rfl⟩ := Seen.mk.inj h
  simp [Seen.after, List.filterMap_append]

theorem seen_bind_of_error (h : x.seen s = ⟨.error e, calls, t⟩) :
    (x >>= f).seen s = ⟨.error e, calls, t⟩ := by
  have hbind : (x >>= f) s = Session.bind x f s := rfl
  unfold seen at h ⊢
  rw [hbind]
  unfold Session.bind
  rcases hx : x s with ⟨r, journal, u⟩
  rw [hx] at h
  obtain ⟨rfl, rfl, rfl⟩ := Seen.mk.inj h
  rfl

/-- Whatever follows, the calls before it stay in front. -/
theorem exists_calls_bind (h : (x.seen s).calls = calls) :
    ∃ later, ((x >>= f).seen s).calls = calls ++ later := by
  rcases hx : x.seen s with ⟨r, before, t⟩
  obtain rfl : before = calls := by rw [← h, hx]
  cases r with
  | error e => exact ⟨[], by rw [seen_bind_of_error hx, List.append_nil]⟩
  | ok a => exact ⟨((f a).seen t).calls, by rw [seen_bind_of_ok hx, Seen.after]⟩

end Session

namespace Database

variable {σ α : Type} {s t : σ} {q : Statement} {db : Database σ}

theorem seen_call {run : σ → Except Failure α × σ} {outcome : α → LogEvent}
    {r : Except Failure α} (h : run s = (r, t)) :
    (call q run outcome).seen s = ⟨r.mapError (.failed q.sql), [q], t⟩ := by
  unfold Session.seen call
  simp only [h]
  cases r <;> rfl

theorem seen_query {r : Except Failure (List Row)} (h : db.connection.query q s = (r, t)) :
    (db.query q).seen s = ⟨r.mapError (.failed q.sql), [q], t⟩ :=
  seen_call h

theorem seen_execute {r : Except Failure Nat} (h : db.connection.exec q s = (r, t)) :
    (db.execute q).seen s = ⟨r.mapError (.failed q.sql), [q], t⟩ :=
  seen_call h

/-- A fragment is prepared without a call. -/
theorem seen_prepare {about table : String} {f : Fragment} (h : f.statement? db.dialect = some q) :
    (db.prepare about table f).seen s = ⟨.ok q, [], s⟩ := by
  unfold prepare
  -- the remark is in the journal, but is no call
  rw [Session.seen_bind_of_ok (x := Session.remark _) rfl, h]
  rfl

end Database
end SqlMapper
