import SqlMapper.Proofs.Entity.RoundTrip

namespace SqlMapper

/-- The integer that a datum carries, if it carries one. -/
def Datum.integer? : Datum → Option Int
  | int32 v => v.map Int32.toInt
  | int64 v => v.map Int64.toInt
  | uint32 v => v.map fun n => n.toNat
  | uint64 v => v.map fun n => n.toNat
  | _ => none

/-- The types of fields that hold integers. -/
inductive IntegerType where
  | int32
  | int64
  | uint32
  | uint64

namespace IntegerType

@[reducible] def scalar : IntegerType → ScalarType
  | int32 => .int32
  | int64 => .int64
  | uint32 => .uint32
  | uint64 => .uint64

/-- The least and the greatest integer of the type. -/
def bounds : IntegerType → Int × Int
  | int32 => (-2147483648, 2147483647)
  | int64 => (-9223372036854775808, 9223372036854775807)
  | uint32 => (0, 4294967295)
  | uint64 => (0, 18446744073709551615)

/-- Whether the integer is one of the type. -/
def Has (t : IntegerType) (i : Int) : Prop := t.bounds.1 ≤ i ∧ i ≤ t.bounds.2

def toInt : (t : IntegerType) → t.scalar.Carrier → Int
  | int32, n => Int32.toInt n
  | int64, n => Int64.toInt n
  | uint32, n => UInt32.toNat n
  | uint64, n => UInt64.toNat n

/-- The variants of data that the type is read from. Unsigned data of 64 bits are not read as a type
of 32 bits, however small they are. -/
inductive Accepts : IntegerType → Datum → Prop
  | int32 (t : IntegerType) (v : Option Int32) : Accepts t (.int32 v)
  | int64 (t : IntegerType) (v : Option Int64) : Accepts t (.int64 v)
  | uint32 (t : IntegerType) (v : Option UInt32) : Accepts t (.uint32 v)
  | signedWide (v : Option UInt64) : Accepts .int64 (.uint64 v)
  | unsignedWide (v : Option UInt64) : Accepts .uint64 (.uint64 v)

end IntegerType

/-- The datum is the first of its name in the row. -/
def Row.First (row : Row) (name : String) (d : Datum) : Prop :=
  ∃ before after, row.fields = before ++ (name, d) :: after ∧ ∀ f ∈ before, f.1 ≠ name

def Row.Lacks (row : Row) (name : String) : Prop := ∀ f ∈ row.fields, f.1 ≠ name

namespace Row

variable {row : Row} {name : String} {d : Datum}

theorem get?_eq_some_iff : row.get? name = some d ↔ row.First name d := by
  simp only [get?, First, List.lookup_eq_some_iff, bne_iff_ne, ne_comm]

theorem get?_eq_none_iff : row.get? name = none ↔ row.Lacks name := by
  simp only [get?, Lacks, List.lookup_eq_none_iff, bne_iff_ne, ne_comm]

theorem first_or_lacks (row : Row) (name : String) : (∃ d, row.First name d) ∨ row.Lacks name := by
  cases h : row.get? name with
  | some d => exact .inl ⟨d, get?_eq_some_iff.1 h⟩
  | none => exact .inr (get?_eq_none_iff.1 h)

end Row

namespace Decode

theorem int64_toInt (v : Int64) : int64 v.toInt = .ok v := by
  have hlow := v.le_toInt
  have hhigh := v.toInt_lt
  rw [int64, if_pos (by omega), Int64.ofInt_toInt]

end Decode

namespace IntegerType

variable {t : IntegerType} {i : Int} {d : Datum}

/-- What is read of an integer from elsewhere. -/
def narrow : (t : IntegerType) → Int → Except DecodeError t.scalar.Carrier
  | int32 => Decode.int32
  | int64 => Decode.int64
  | uint32 => Decode.uint32
  | uint64 => Decode.uint64

theorem narrow_toInt (t : IntegerType) (n : t.scalar.Carrier) : t.narrow (t.toInt n) = .ok n := by
  cases t with
  | int32 => exact Decode.int32_toInt n
  | int64 => exact Decode.int64_toInt n
  | uint32 => exact Decode.uint32_toNat n
  | uint64 => exact Decode.uint64_toNat n

/-- An integer of the type keeps its value. -/
theorem exists_narrow (h : t.Has i) : ∃ n, t.narrow i = .ok n ∧ t.toInt n = i := by
  obtain ⟨hlow, hhigh⟩ := h
  cases t with
  | int32 =>
    simp only [bounds] at hlow hhigh
    exact ⟨Int32.ofInt i, if_pos (by omega), Int32.toInt_ofInt_of_le (by omega) (by omega)⟩
  | int64 =>
    simp only [bounds] at hlow hhigh
    exact ⟨Int64.ofInt i, if_pos (by omega), Int64.toInt_ofInt_of_le (by omega) (by omega)⟩
  | uint32 =>
    simp only [bounds] at hlow hhigh
    have hsize : i.toNat < UInt32.size := (show i.toNat < 2 ^ 32 by omega)
    refine ⟨UInt32.ofNat i.toNat, if_pos (by omega), ?_⟩
    rw [toInt, UInt32.toNat_ofNat_of_lt' hsize, Int.toNat_of_nonneg hlow]
  | uint64 =>
    simp only [bounds] at hlow hhigh
    have hsize : i.toNat < UInt64.size := (show i.toNat < 2 ^ 64 by omega)
    refine ⟨UInt64.ofNat i.toNat, if_pos (by omega), ?_⟩
    rw [toInt, UInt64.toNat_ofNat_of_lt' hsize, Int.toNat_of_nonneg hlow]

theorem narrow_of_not_has (h : ¬t.Has i) : t.narrow i = .error .outOfRange := by
  cases t <;> simp only [Has, bounds] at h <;> exact if_neg (by omega)

theorem narrow_eq_ok_iff (t : IntegerType) {n : t.scalar.Carrier} :
    t.narrow i = .ok n ↔ t.toInt n = i := by
  constructor
  · intro h
    by_cases hi : t.Has i
    · obtain ⟨m, hm, hmi⟩ := exists_narrow hi
      obtain rfl : n = m := Except.ok.inj (h.symm.trans hm)
      exact hmi
    · rw [narrow_of_not_has hi] at h
      cases h
  · rintro rfl
    exact t.narrow_toInt n

/-- A datum of an accepted variant is read by its integer alone. -/
theorem read_eq_narrow (h : t.Accepts d) (hi : d.integer? = some i) :
    t.scalar.read d = t.narrow i := by
  -- what is read without a test, from the own variant or a narrower one, would pass the test
  cases h with
  | int32 v =>
    obtain ⟨n, rfl, rfl⟩ := Option.map_eq_some_iff.1 hi
    cases t with
    | int32 => exact (int32.narrow_toInt n).symm
    | int64 => exact (int64.narrow_eq_ok_iff.2 (Int32.toInt_toInt64 n)).symm
    | uint32 => rfl
    | uint64 => rfl
  | int64 v =>
    obtain ⟨n, rfl, rfl⟩ := Option.map_eq_some_iff.1 hi
    cases t with
    | int32 => rfl
    | int64 => exact (int64.narrow_toInt n).symm
    | uint32 => rfl
    | uint64 => rfl
  | uint32 v =>
    obtain ⟨n, rfl, rfl⟩ := Option.map_eq_some_iff.1 hi
    cases t with
    | int32 => rfl
    | int64 => rfl
    | uint32 => exact (uint32.narrow_toInt n).symm
    | uint64 =>
      have hwiden : toInt uint64 n.toUInt64 = n.toNat := congrArg Nat.cast n.toNat_toUInt64
      exact (uint64.narrow_eq_ok_iff.2 hwiden).symm
  | signedWide v =>
    obtain ⟨n, rfl, rfl⟩ := Option.map_eq_some_iff.1 hi
    rfl
  | unsignedWide v =>
    obtain ⟨n, rfl, rfl⟩ := Option.map_eq_some_iff.1 hi
    exact (uint64.narrow_toInt n).symm

/-- Other variants are not read, and neither is `NULL`. -/
theorem read_of_refused (h : ¬t.Accepts d ∨ d.integer? = none) :
    t.scalar.read d = .error (.expected t.scalar) := by
  have hnull (ha : t.Accepts d) : d.integer? = none := h.resolve_left (not_not_intro ha)
  cases d with
  | int32 v =>
    obtain rfl := Option.map_eq_none_iff.1 (hnull (.int32 t v))
    cases t <;> rfl
  | int64 v =>
    obtain rfl := Option.map_eq_none_iff.1 (hnull (.int64 t v))
    cases t <;> rfl
  | uint32 v =>
    obtain rfl := Option.map_eq_none_iff.1 (hnull (.uint32 t v))
    cases t <;> rfl
  | uint64 v =>
    cases t with
    | int32 => rfl
    | uint32 => rfl
    | int64 =>
      obtain rfl := Option.map_eq_none_iff.1 (hnull (.signedWide v))
      rfl
    | uint64 =>
      obtain rfl := Option.map_eq_none_iff.1 (hnull (.unsignedWide v))
      rfl
  | _ => cases t <;> rfl

/-- How fields of the type are read. -/
structure ReadsExactly (t : IntegerType) : Prop where
  /-- Only the integer that the datum carries is ever read for it. -/
  exact : ∀ d n, t.scalar.read d = .ok n → d.integer? = some (t.toInt n)
  /-- In the accepted variants all integers of the type are read, -/
  inRange : ∀ d i, t.Accepts d → d.integer? = some i → t.Has i →
    ∃ n, t.scalar.read d = .ok n ∧ t.toInt n = i
  /-- and no others; -/
  outOfRange : ∀ d i, t.Accepts d → d.integer? = some i → ¬t.Has i →
    t.scalar.read d = .error .outOfRange
  /-- and nothing else is read. -/
  refused : ∀ d, ¬t.Accepts d ∨ d.integer? = none →
    t.scalar.read d = .error (.expected t.scalar)
  /-- A field is read from the first datum of its name. -/
  first : ∀ row name d, Row.First row name d →
    (FieldType.required t.scalar).readField row name = t.scalar.read d
  missing : ∀ row name, Row.Lacks row name →
    (FieldType.required t.scalar).readField row name = .error (.missing name)
  /-- An optional one is unset just if there is none or that is `NULL`, -/
  unset : ∀ row name, (FieldType.optional t.scalar).readField row name = .ok none ↔
    Row.Lacks row name ∨ ∃ d, Row.First row name d ∧ d.isNull
  /-- and otherwise it is read as if it were not optional. -/
  set : ∀ row name, (FieldType.optional t.scalar).readField row name ≠ .ok none →
    (FieldType.optional t.scalar).readField row name =
      ((FieldType.required t.scalar).readField row name).map some
  /-- What a field binds is read again as the field, wherever it stands. -/
  again : ∀ n, ∃ v d, (FieldType.required t.scalar).supplied n = some (.value v) ∧
    (FieldType.optional t.scalar).supplied (some n) = some (.value v) ∧ v.toDatum? = some d ∧
    ∀ row name, Row.First row name d →
      (FieldType.required t.scalar).readField row name = .ok n ∧
      (FieldType.optional t.scalar).readField row name = .ok (some n)

end IntegerType

namespace FieldType

variable {row : Row} {name : String} {d : Datum} (t : ScalarType)

theorem readField_required_of_first (h : row.First name d) :
    (required t).readField row name = t.read d := by
  simp only [readField, Row.get?_eq_some_iff.2 h]

theorem readField_required_of_lacks (h : row.Lacks name) :
    (required t).readField row name = .error (.missing name) := by
  simp only [readField, Row.get?_eq_none_iff.2 h]

theorem readField_optional_of_first (h : row.First name d) :
    (optional t).readField row name = if d.isNull then .ok none else (t.read d).map some := by
  simp only [readField, Row.get?_eq_some_iff.2 h]

theorem readField_optional_of_lacks (h : row.Lacks name) :
    (optional t).readField row name = .ok none := by
  simp only [readField, Row.get?_eq_none_iff.2 h]

theorem readField_optional_eq_none_iff : (optional t).readField row name = .ok none ↔
    row.Lacks name ∨ ∃ d, row.First name d ∧ d.isNull := by
  constructor
  · intro h
    rcases row.first_or_lacks name with ⟨d, hd⟩ | hlacks
    · rw [readField_optional_of_first t hd] at h
      split at h
      · exact .inr ⟨d, hd, ‹_›⟩
      · -- what is read of a datum is there
        obtain ⟨v, -, hv⟩ := map_eq_ok.1 h
        cases hv
    · exact .inl hlacks
  · rintro (hlacks | ⟨d, hd, hnull⟩)
    · exact readField_optional_of_lacks t hlacks
    · rw [readField_optional_of_first t hd, if_pos hnull]

theorem readField_optional_eq_map (h : (optional t).readField row name ≠ .ok none) :
    (optional t).readField row name = ((required t).readField row name).map some := by
  rcases row.first_or_lacks name with ⟨d, hd⟩ | hlacks
  · have hset : ¬d.isNull := fun hnull =>
      h ((readField_optional_eq_none_iff t).2 (.inr ⟨d, hd, hnull⟩))
    rw [readField_optional_of_first t hd, if_neg hset, readField_required_of_first t hd]
  · exact absurd (readField_optional_of_lacks t hlacks) h

end FieldType

namespace IntegerType

theorem travels_scalar (t : IntegerType) (n : t.scalar.Carrier) : t.scalar.Travels n := by
  cases t <;> trivial

theorem shown_scalar (t : IntegerType) (n : t.scalar.Carrier) : t.scalar.shown n = n := by
  cases t <;> rfl

theorem reads_exactly (t : IntegerType) : t.ReadsExactly where
  exact d n h := by
    by_cases hrefused : ¬t.Accepts d ∨ d.integer? = none
    · rw [read_of_refused hrefused] at h
      cases h
    · obtain ⟨haccepts, hcarries⟩ := not_or.1 hrefused
      obtain ⟨i, hi⟩ := Option.ne_none_iff_exists'.1 hcarries
      rw [read_eq_narrow (not_not.1 haccepts) hi] at h
      rw [hi, t.narrow_eq_ok_iff.1 h]
  inRange d i haccepts hi hhas := by
    rw [read_eq_narrow haccepts hi]
    exact exists_narrow hhas
  outOfRange d i haccepts hi hhas := by
    rw [read_eq_narrow haccepts hi]
    exact narrow_of_not_has hhas
  refused d := read_of_refused
  first row name d := FieldType.readField_required_of_first t.scalar
  missing row name := FieldType.readField_required_of_lacks t.scalar
  unset row name := FieldType.readField_optional_eq_none_iff t.scalar
  set row name := FieldType.readField_optional_eq_map t.scalar
  again n := by
    obtain ⟨d, hd⟩ := t.scalar.exists_toDatum? n
    obtain ⟨hset, hread⟩ := t.scalar.read_of_toDatum? (t.travels_scalar n) hd
    rw [t.shown_scalar n] at hread
    refine ⟨_, d, rfl, rfl, hd, fun row name hfirst => ?_⟩
    rw [FieldType.readField_required_of_first _ hfirst,
      FieldType.readField_optional_of_first _ hfirst, hset, hread]
    exact ⟨rfl, rfl⟩

/-- Numbers at the ends of the types. Under one name there is a `NULL` behind the number, and under
another one before it. -/
def limits : Row :=
  ⟨[("most", .uint32 (some 4294967295)), ("most", .int64 none), ("least", .int64 (some (-1))),
    ("beyond", .uint64 (some 9223372036854775808)), ("unset", .text none),
    ("unset", .int32 (some 1))]⟩

theorem reads_exactly_limits :
    (FieldType.required .int64).readField limits "most" = .ok 4294967295 ∧
    (FieldType.required .int32).readField limits "most" = .error .outOfRange ∧
    (FieldType.required .uint64).readField limits "least" = .error .outOfRange ∧
    (FieldType.required .int64).readField limits "beyond" = .error .outOfRange ∧
    (FieldType.required .uint32).readField limits "beyond" = .error (.expected .uint32) ∧
    (FieldType.optional (.required .int32)).readField limits "unset" = .ok none := by
  have hmost : limits.First "most" (.uint32 (some 4294967295)) := ⟨[], _, rfl, by simp⟩
  have hleast : limits.First "least" (.int64 (some (-1))) :=
    ⟨limits.fields.take 2, _, rfl, by decide⟩
  have hbeyond : limits.First "beyond" (.uint64 (some 9223372036854775808)) :=
    ⟨limits.fields.take 3, _, rfl, by decide⟩
  have hunset : limits.First "unset" (.text none) := ⟨limits.fields.take 4, _, rfl, by decide⟩
  have hread := reads_exactly
  refine ⟨?_, ?_, ?_, ?_, ?_, ?_⟩
  · obtain ⟨n, hn, hi⟩ := (hread int64).inRange (.uint32 (some 4294967295)) 4294967295
      (.uint32 int64 _) rfl ⟨by decide, by decide⟩
    obtain rfl : n = (4294967295 : Int64) := Int64.toInt_inj.1 hi
    exact ((hread int64).first _ _ _ hmost).trans hn
  · refine ((hread int32).first _ _ _ hmost).trans ?_
    exact (hread int32).outOfRange _ 4294967295 (.uint32 int32 _) rfl
      fun h => absurd h.2 (by decide)
  · refine ((hread uint64).first _ _ _ hleast).trans ?_
    exact (hread uint64).outOfRange _ (-1) (.int64 uint64 _) rfl
      fun h => absurd h.1 (by decide)
  · refine ((hread int64).first _ _ _ hbeyond).trans ?_
    exact (hread int64).outOfRange _ 9223372036854775808 (.signedWide _) rfl
      fun h => absurd h.2 (by decide)
  · refine ((hread uint32).first _ _ _ hbeyond).trans ?_
    exact (hread uint32).refused _ (.inl nofun)
  · exact ((hread int32).unset _ _).2 (.inr ⟨_, hunset, rfl⟩)

end IntegerType
end SqlMapper
