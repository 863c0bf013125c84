import SqlMapper.Entity.Basic
import SqlMapper.Value.Basic
import SqlMapper.Proofs.Calendar.RoundTrip
import SqlMapper.Proofs.Store.Kept
import SqlMapper.Proofs.Outcome

namespace SqlMapper

/-- Leap seconds follow the last second of a minute. -/
def ScalarType.LeapsLast : (t : ScalarType) → t.Carrier → Prop
  | clock, c => c.LeapsLast
  | dateTime, t | instant, t => t.clock.LeapsLast
  | _, _ => True

/-- The value that is read for a value which travelled. Only leap seconds can make a difference. -/
def ScalarType.shown : (t : ScalarType) → t.Carrier → t.Carrier
  | clock, c => c.shown
  | dateTime, t | instant, t => t.shown
  | _, v => v

/-- Whether a value is read again after it travelled. Floating-point numbers and JSON are left out
here, and moments of other years than 0 to 9999 have no form of RFC 3339. -/
def ScalarType.Travels : (t : ScalarType) → t.Carrier → Prop
  | single, _ | double, _ | json, _ => False
  | instant, t => 0 ≤ t.date.year ∧ t.date.year ≤ 9999
  | _, _ => True

def ScalarType.Exact (t : ScalarType) (v : t.Carrier) : Prop := t.Travels v ∧ t.LeapsLast v

/-- Whether the field has an exact value, or may be unset and has an exact value or none. -/
def FieldType.Exact : (t : FieldType) → t.Carrier → Prop
  | required t, v => t.Exact v
  | optional (required t), v => ∀ w ∈ v, t.Exact w
  | _, _ => False

def Entity.Exact : {columns : Columns} → Entity columns → Prop
  | [], _ => True
  | (_, t) :: _, (value, others) => t.Exact value ∧ others.Exact

/-- The type is none that a program brought along. -/
def FieldType.IsPlain : FieldType → Prop
  | required _ => True
  | optional t => t.IsPlain
  | own _ => False

/-- How a datum comes from a bound value into a row. -/
inductive Passage where
  | direct
  /-- By way of the store. -/
  | stored

def Passage.carry : Passage → Datum → Except StoreFault Datum
  | direct, d => .ok d
  | stored, d => d.stored

/-- The data that the row has under a name. -/
def Row.under (row : Row) (name : String) : List Datum :=
  (row.fields.filter fun f => name = f.1).map (·.2)

/-- The row has one datum under the name, that of the supplied value; and for an unset field nothing
but `NULL`. -/
def Row.HoldsField (passage : Passage) (row : Row) (name : String) : Option Supplied → Prop
  | some (.value v) =>
    ∃ d carried, v.toDatum? = some d ∧ passage.carry d = .ok carried ∧ row.under name = [carried]
  | none => ∀ d ∈ row.under name, d.isNull
  | some _ => False

def Row.Holds {columns : Columns} (passage : Passage) (row : Row) (e : Entity columns) : Prop :=
  ∀ c ∈ columns, row.HoldsField passage c.1 (e.supply c.1)

namespace Decode

theorem int32_toInt (v : Int32) : int32 v.toInt = .ok v := by
  have hlow := v.le_toInt
  have hhigh := v.toInt_lt
  rw [int32, if_pos (by omega), Int32.ofInt_toInt]

theorem uint32_toNat (v : UInt32) : uint32 v.toNat = .ok v := by
  have hhigh := v.toNat_lt
  rw [uint32, if_pos (by omega), Int.toNat_natCast, UInt32.ofNat_toNat]

theorem uint64_toNat (v : UInt64) : uint64 v.toNat = .ok v := by
  have hhigh := v.toNat_lt
  rw [uint64, if_pos (by omega), Int.toNat_natCast, UInt64.ofNat_toNat]

theorem moment_instant {t : DateTime} (h : 0 ≤ t.date.year ∧ t.date.year ≤ 9999) :
    moment (String.ofList (Calendar.instant t)) = .ok t.shown := by
  simp only [moment, String.toList_ofList, Calendar.readMoment?_instant, if_pos h]

theorem moment_dateTime (t : DateTime) :
    moment (String.ofList (Calendar.dateTime t)) = .ok t.shown := by
  simp only [moment, String.toList_ofList, Calendar.readMoment?_dateTime]

theorem date_date (d : Date) : date (String.ofList (Calendar.date d)) = .ok d := by
  simp only [date, String.toList_ofList, Calendar.readDate?_date]

theorem clock_clock (c : Clock) : clock (String.ofList (Calendar.clock c)) = .ok c.shown := by
  simp only [clock, String.toList_ofList, Calendar.readClock?_clock]

end Decode

namespace ScalarType

theorem shown_eq_self_iff (t : ScalarType) {v : t.Carrier} : t.shown v = v ↔ t.LeapsLast v := by
  cases t with
  | clock => exact Clock.shown_eq_self_iff
  | dateTime | instant => exact DateTime.shown_eq_self_iff
  | _ => exact iff_of_true rfl trivial

theorem read_of_toDatum? (t : ScalarType) {v : t.Carrier} {d : Datum} (hv : t.Travels v)
    (hd : (t.toValue v).toDatum? = some d) : d.isNull = false ∧ t.read d = .ok (t.shown v) := by
  -- numbers, texts and bytes travel as they are, and what is left is read from its text
  cases t <;> cases hd <;> refine ⟨rfl, ?_⟩
  case single => cases hv
  case double => cases hv
  case json => cases hv
  case instant => simp only [Option.map_some, read, shown, Decode.moment_instant hv]
  case dateTime => simp only [Option.map_some, read, shown, Decode.moment_dateTime]
  case date => simp only [Option.map_some, read, shown, Decode.date_date]
  case clock => simp only [Option.map_some, read, shown, Decode.clock_clock]
  all_goals rfl

/-- From the store, numbers are read as signed ones and dates and times as texts. -/
theorem read_of_stored (t : ScalarType) {v : t.Carrier} {d carried : Datum} (hv : t.Travels v)
    (hd : (t.toValue v).toDatum? = some d) (hc : d.stored = .ok carried) :
    carried.isNull = false ∧ t.read carried = .ok (t.shown v) := by
  have htext {raw : String} {x : Datum} (hx : (Stored.ofText raw).toDatum = .ok x) :
      x = .text (some raw) := by
    rw [Stored.toDatum_ofText] at hx
    exact (Except.ok.inj hx).symm
  cases t <;> cases hd
  case single => cases hv
  case double => cases hv
  case json => cases hv
  case bool =>
    cases hc
    refine ⟨rfl, ?_⟩
    cases v <;> rfl
  case int32 =>
    cases hc
    refine ⟨rfl, ?_⟩
    show read int32 _ = .ok v
    rw [read, Int32.toInt_toInt64, Decode.int32_toInt]
  case int64 =>
    cases hc
    exact ⟨rfl, rfl⟩
  case uint32 =>
    cases hc
    have hhigh := v.toNat_lt
    refine ⟨rfl, ?_⟩
    show read uint32 _ = .ok v
    rw [read, Int64.toInt_ofNat_of_lt (by omega), Decode.uint32_toNat]
  case uint64 =>
    -- what was kept is not beyond the signed numbers
    obtain ⟨s, hs, hc⟩ := bind_eq_ok.1 hc
    simp only [Datum.toStored] at hs
    split at hs
    · rename_i hle
      cases hs
      cases hc
      refine ⟨rfl, ?_⟩
      show read uint64 _ = .ok v
      rw [read, Int64.toInt_ofNat_of_lt (by omega), Decode.uint64_toNat]
    · cases hs
  case text =>
    obtain rfl := htext hc
    exact ⟨rfl, rfl⟩
  case bytes =>
    cases hc
    exact ⟨rfl, rfl⟩
  case instant =>
    obtain rfl := htext hc
    exact ⟨rfl, by simp only [read, shown, Decode.moment_instant hv]⟩
  case dateTime =>
    obtain rfl := htext hc
    exact ⟨rfl, by simp only [read, shown, Decode.moment_dateTime]⟩
  case date =>
    obtain rfl := htext hc
    exact ⟨rfl, by simp only [read, shown, Decode.date_date]⟩
  case clock =>
    obtain rfl := htext hc
    exact ⟨rfl, by simp only [read, shown, Decode.clock_clock]⟩

theorem read_of_carry (passage : Passage) (t : ScalarType) {v : t.Carrier} {d carried : Datum}
    (hv : t.Travels v) (hd : (t.toValue v).toDatum? = some d)
    (hc : passage.carry d = .ok carried) :
    carried.isNull = false ∧ t.read carried = .ok (t.shown v) := by
  cases passage with
  | direct =>
    cases hc
    exact t.read_of_toDatum? hv hd
  | stored => exact t.read_of_stored hv hd hc

theorem exists_toDatum? (t : ScalarType) (v : t.Carrier) :
    ∃ d, (t.toValue v).toDatum? = some d := by
  cases t <;> exact ⟨_, rfl⟩

end ScalarType

theorem Row.get?_eq_head?_under (row : Row) (name : String) :
    row.get? name = (row.under name).head? := by
  unfold get? under
  induction row.fields with
  | nil => rfl
  | cons f rest ih =>
    obtain ⟨other, d⟩ := f
    by_cases h : name = other
    · simp [h]
    · rw [List.lookup_cons, beq_false_of_ne h, ih]
      simp [h]

theorem FieldType.readField_of_holdsField {passage : Passage} {row : Row} {name : String}
    (t : FieldType) {v : t.Carrier} (hv : t.Exact v)
    (h : row.HoldsField passage name (t.supplied v)) : t.readField row name = .ok v := by
  -- a set field is read from the only datum of its name
  have hset {u : ScalarType} {w : u.Carrier} (hw : u.Exact w)
      (hheld : row.HoldsField passage name (some (.value (u.toValue w)))) :
      ∃ d, row.get? name = some d ∧ d.isNull = false ∧ u.read d = .ok w := by
    obtain ⟨d, carried, hd, hcarry, hunder⟩ := hheld
    have hread := u.read_of_carry passage hw.1 hd hcarry
    rw [u.shown_eq_self_iff.2 hw.2] at hread
    refine ⟨carried, ?_, hread⟩
    rw [Row.get?_eq_head?_under, hunder]
    rfl
  match t, v, hv, h with
  | required t, v, hv, h =>
    obtain ⟨d, hget, -, hread⟩ := hset hv h
    simp only [readField, hget, hread]
  | optional (required t), some w, hv, h =>
    obtain ⟨d, hget, hnull, hread⟩ := hset (hv w rfl) h
    simp only [readField, hget, hnull, hread]
    rfl
  | optional (required t), none, _, h =>
    -- an unset one is missing or has a `NULL`
    cases hget : row.get? name with
    | none => simp only [readField, hget]
    | some d =>
      rw [Row.get?_eq_head?_under] at hget
      have hnull : d.isNull = true := h d (List.mem_of_head? hget)
      simp only [readField, Row.get?_eq_head?_under, hget, hnull, if_true]

namespace FieldType

variable {t : FieldType} {v : t.Carrier} {u : Supplied}

theorem Exact.isPlain (h : t.Exact v) : t.IsPlain := by
  match t, v, h with
  | required _, _, _ => trivial
  | optional (required _), _, _ => trivial

theorem exists_toValue_of_supplied (ht : t.IsPlain) (h : t.supplied v = some u) :
    ∃ (s : ScalarType) (w : s.Carrier), u = .value (s.toValue w) := by
  induction t with
  | required t => exact ⟨t, v, (Option.some.inj h).symm⟩
  | optional t ih =>
    obtain ⟨w, -, hw⟩ := Option.bind_eq_some_iff.1 h
    exact ih ht hw
  | own t => exact ht.elim

end FieldType

namespace Entity

theorem decode_of_forall_holdsField {passage : Passage} {row : Row} {columns : Columns}
    (hnodup : (columns.map (·.1)).Nodup) {e : Entity columns} (he : e.Exact)
    (h : row.Holds passage e) : decode row columns = .ok e := by
  -- column by column, as the row is read
  induction e with
  | nil => rfl
  | @cons name type rest value others ih =>
    rw [List.map_cons, List.nodup_cons] at hnodup
    obtain ⟨hfirst, hrest⟩ := List.forall_mem_cons.1 h
    have hvalue : type.readField row name = .ok value := by
      apply type.readField_of_holdsField he.1
      simpa only [supply_cons, if_true] using hfirst
    have hothers : row.Holds passage others := by
      intro c hc
      -- no other column has the first name
      have hne : c.1 ≠ name := fun hname => hnodup.1 (List.mem_map.2 ⟨c, hc, hname⟩)
      simpa only [supply_cons, if_neg hne] using hrest c hc
    exact bind_eq_ok.2 ⟨value, hvalue, bind_eq_ok.2 ⟨others, ih hnodup.2 he.2 hothers, rfl⟩⟩

theorem Exact.isPlain {columns : Columns} {e : Entity columns} (he : e.Exact) :
    ∀ c ∈ columns, c.2.IsPlain := by
  induction e with
  | nil => exact List.forall_mem_nil _
  | cons value others ih => exact List.forall_mem_cons.2 ⟨he.1.isPlain, ih he.2⟩

theorem exists_toValue_of_supply {columns : Columns} {e : Entity columns} {name : String}
    {u : Supplied} (hplain : ∀ c ∈ columns, c.2.IsPlain) (h : e.supply name = some u) :
    ∃ (t : ScalarType) (v : t.Carrier), u = .value (t.toValue v) := by
  induction e with
  | nil => cases h
  | cons value others ih =>
    rw [List.forall_mem_cons] at hplain
    rw [supply_cons] at h
    split at h
    · exact FieldType.exists_toValue_of_supplied hplain.1 h
    · exact ih hplain.2 h

/-- An entity is read back from every row that holds it. What it supplies are values with data, of
which the store refuses the unsigned numbers beyond the signed ones and no others; and a `NULL` that
was stored is a `NULL`. -/
theorem decode_of_holds (declaration : Declaration) (e : Entity declaration.columns)
    (he : e.Exact) :
    (∀ passage row, row.Holds passage e → decode row declaration.columns = .ok e) ∧
    (∀ name u, e.supply name = some u → ∃ v d, u = .value v ∧ v.toDatum? = some d ∧
      (d.ExceedsSigned → d.toStored = .error .unsignedRange) ∧
      (¬d.ExceedsSigned → ∃ carried, d.stored = .ok carried)) ∧
    ∀ d : Datum, d.isNull → d.stored = .ok (.text none) := by
  refine ⟨fun passage row h => decode_of_forall_holdsField declaration.columns_nodup he h,
    fun name u hu => ?_, fun d => Datum.stored_of_isNull⟩
  obtain ⟨t, v, rfl⟩ := exists_toValue_of_supply he.isPlain hu
  obtain ⟨d, hd⟩ := t.exists_toDatum? v
  exact ⟨_, d, rfl, hd, Datum.toStored_of_exceedsSigned, Datum.exists_stored⟩

/-- A declaration with fields of all types that come back. -/
def readings : Declaration where
  table := "readings"
  columns := [("id", .required .uint64), ("valid", .required .bool), ("delta", .required .int32),
    ("total", .required .int64), ("count", .required .uint32), ("name", .required .text),
    ("raw", .optional (.required .bytes)), ("day", .required .date), ("start", .required .clock),
    ("noted", .required .dateTime), ("sent", .optional (.required .instant)),
    ("score", .optional (.required .double))]
  primaryKey := ["id"]
  autoIncrement := []

/-- The last nanosecond of a leap second. -/
def leap : Clock := ⟨23, 59, 59, 1999999999, by decide, by decide, by decide, by decide⟩

def reading (id : UInt64) : Entity readings.columns :=
  .cons id <| .cons true <| .cons (-2147483648 : Int32) <| .cons (-9223372036854775808 : Int64) <|
  .cons (4294967295 : UInt32) <| .cons "é" <| .cons (some [0, 255]) <|
  .cons ⟨-1, 2, 28, by decide, by decide, by decide⟩ <| .cons leap <|
  .cons ⟨⟨10000, 1, 1, by decide, by decide, by decide⟩, leap⟩ <|
  .cons (some ⟨⟨0, 2, 29, by decide, by decide, by decide⟩, leap⟩) <| .cons none .nil

/-- The reading as it is on the wire, out of order and with a column of another name. -/
def wireRow : Row :=
  ⟨[("sent", .timestamp (some "0000-02-29T23:59:60.999999999+00:00")), ("other", .boolean none),
    ("noted", .timestamp (some "+10000-01-01 23:59:60.999999999")), ("score", .int32 none),
    ("start", .time (some "23:59:60.999999999")), ("day", .date (some "-0001-02-28")),
    ("raw", .binary (some [0, 255])), ("name", .text (some "é")),
    ("count", .uint32 (some 4294967295)), ("total", .int64 (some (-9223372036854775808))),
    ("delta", .int32 (some (-2147483648))), ("valid", .boolean (some true)),
    ("id", .uint64 (some 18446744073709551615))]⟩

/-- The reading as it comes back from the store, without its unset field. -/
def storedRow : Row :=
  ⟨[("valid", .int64 (some 1)), ("id", .int64 (some 9223372036854775807)),
    ("delta", .int64 (some (-2147483648))), ("total", .int64 (some (-9223372036854775808))),
    ("count", .int64 (some 4294967295)), ("name", .text (some "é")),
    ("raw", .binary (some [0, 255])), ("day", .text (some "-0001-02-28")),
    ("start", .text (some "23:59:60.999999999")),
    ("noted", .text (some "+10000-01-01 23:59:60.999999999")),
    ("sent", .text (some "0000-02-29T23:59:60.999999999+00:00"))]⟩

theorem decode_of_holds_readings :
    decode wireRow readings.columns = .ok (reading 18446744073709551615) ∧
    decode storedRow readings.columns = .ok (reading 9223372036854775807) ∧
    (Datum.uint64 (some 18446744073709551615)).toStored = .error .unsignedRange := by
  have hexact (id : UInt64) : (reading id).Exact :=
    have hleap : 1000000000 ≤ leap.nano → leap.second = 59 := fun _ => rfl
    ⟨⟨trivial, trivial⟩, ⟨trivial, trivial⟩, ⟨trivial, trivial⟩, ⟨trivial, trivial⟩,
      ⟨trivial, trivial⟩, ⟨trivial, trivial⟩, fun _ _ => ⟨trivial, trivial⟩, ⟨trivial, trivial⟩,
      ⟨trivial, hleap⟩, ⟨trivial, hleap⟩,
      fun w hw => by cases hw; exact ⟨⟨by decide, by decide⟩, hleap⟩, nofun, trivial⟩
  have hall (id : UInt64) := decode_of_holds readings (reading id) (hexact id)
  have hwire : wireRow.Holds .direct (reading 18446744073709551615) := by
    have hfield {name : String} {v : Value} {d : Datum} (hd : v.toDatum? = some d)
        (hunder : wireRow.under name = [d]) :
        wireRow.HoldsField .direct name (some (.value v)) := ⟨d, d, hd, rfl, hunder⟩
    have hunset : wireRow.HoldsField .direct "score" none := by
      have hunder : wireRow.under "score" = [.int32 none] := rfl
      intro d hd
      rw [hunder, List.mem_singleton] at hd
      rw [hd]
      rfl
    simp only [Row.Holds, readings, List.forall_mem_cons]
    exact ⟨hfield rfl rfl, hfield rfl rfl, hfield rfl rfl, hfield rfl rfl, hfield rfl rfl,
      hfield rfl rfl, hfield rfl rfl, hfield rfl rfl, hfield rfl rfl, hfield rfl rfl,
      hfield rfl rfl, hunset, nofun⟩
  have hstored : storedRow.Holds .stored (reading 9223372036854775807) := by
    have hnumber {name : String} {v : Value} {d carried : Datum} (hd : v.toDatum? = some d)
        (hc : d.stored = .ok carried) (hunder : storedRow.under name = [carried]) :
        storedRow.HoldsField .stored name (some (.value v)) := ⟨d, carried, hd, hc, hunder⟩
    have htext {name raw : String} {v : Value} {d : Datum} (hd : v.toDatum? = some d)
        (hc : d.toStored = .ok (.ofText raw))
        (hunder : storedRow.under name = [.text (some raw)]) :
        storedRow.HoldsField .stored name (some (.value v)) :=
      ⟨d, _, hd, bind_eq_ok.2 ⟨_, hc, Stored.toDatum_ofText raw⟩, hunder⟩
    have hunset : storedRow.HoldsField .stored "score" none := by
      have hunder : storedRow.under "score" = [] := rfl
      intro d hd
      rw [hunder] at hd
      cases hd
    simp only [Row.Holds, readings, List.forall_mem_cons]
    exact ⟨hnumber rfl rfl rfl, hnumber rfl rfl rfl, hnumber rfl rfl rfl, hnumber rfl rfl rfl,
      hnumber rfl rfl rfl, htext rfl rfl rfl, hnumber rfl rfl rfl, htext rfl rfl rfl,
      htext rfl rfl rfl, htext rfl rfl rfl, htext rfl rfl rfl, hunset, nofun⟩
  obtain ⟨-, hset, -⟩ := hall 18446744073709551615
  obtain ⟨v, d, hv, hd, hbeyond, -⟩ := hset "id" _ rfl
  refine ⟨(hall _).1 .direct wireRow hwire, (hall _).1 .stored storedRow hstored, ?_⟩
  cases hv
  cases hd
  have hlarge : 9223372036854775807 < (18446744073709551615 : UInt64).toNat := by decide
  exact hbeyond hlarge

/-- A leap second inside of a minute. -/
def innerLeap : Clock := ⟨23, 56, 4, 1333333333, by decide, by decide, by decide, by decide⟩

/-- The second after, which is written in the same way. -/
def afterInnerLeap : Clock := ⟨23, 56, 5, 333333333, by decide, by decide, by decide, by decide⟩

def starts : Declaration where
  table := "starts"
  columns := [("start", .required .clock)]
  primaryKey := ["start"]
  autoIncrement := []

def startRow : Row := ⟨[("start", .time (some "23:56:05.333333333"))]⟩

theorem decode_of_holds_innerLeap :
    startRow.Holds .direct (cons innerLeap nil : Entity starts.columns) ∧
      decode startRow starts.columns = .ok (cons afterInnerLeap nil) ∧
      afterInnerLeap ≠ innerLeap := by
  refine ⟨?_, by rfl, by decide⟩
  simp only [Row.Holds, List.forall_mem_singleton]
  exact ⟨_, _, rfl, rfl, rfl⟩

end Entity
end SqlMapper
