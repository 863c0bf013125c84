import SqlMapper.Store.Stored

namespace SqlMapper

theorem toList_loop_eq_append_drop (bytes : ByteArray) (i : Nat) (acc : List UInt8) :
    ByteArray.toList.loop bytes i acc = acc.reverse ++ bytes.data.toList.drop i := by
  induction i, acc using ByteArray.toList.loop.induct bytes with
  | case1 i acc hi ih =>
    have hlength : i < bytes.data.toList.length := by simpa using hi
    have hget : bytes.get! i = bytes.data.toList[i] := getElem!_pos bytes.data i hi
    rw [ByteArray.toList.loop, if_pos hi, ih, List.drop_eq_getElem_cons hlength, hget]
    simp
  | case2 i acc hi =>
    have hlength : bytes.data.toList.length ≤ i := by simpa using hi
    rw [ByteArray.toList.loop, if_neg hi, List.drop_eq_nil_of_le hlength, List.append_nil]

/-- Nothing is lost where bytes are kept as a list. -/
theorem mk_toArray_toList (bytes : ByteArray) : ⟨bytes.toList.toArray⟩ = bytes := by
  have hlist : bytes.toList = bytes.data.toList := toList_loop_eq_append_drop bytes 0 []
  rw [hlist]

theorem Stored.toDatum_ofText (s : String) : (ofText s).toDatum = .ok (.text (some s)) := by
  have hread : String.fromUTF8? s.toUTF8 = some s := dif_pos s.isValidUTF8
  simp only [ofText, toDatum, mk_toArray_toList, hread]

namespace Datum

variable {d : Datum} {f : StoreFault}

/-- The datum after the store has kept it and given it back. -/
def stored (d : Datum) : Except StoreFault Datum := d.toStored >>= Stored.toDatum

/-- Whether the datum is an unsigned number that no signed one of 64 bits equals. -/
def ExceedsSigned : Datum → Prop
  | uint64 (some n) => 9223372036854775807 < n.toNat
  | _ => False

theorem toStored_of_isNull (h : d.isNull) : d.toStored = .ok .null := by
  cases d <;> rename_i value <;> cases value <;> first | rfl | cases h

theorem stored_of_isNull (h : d.isNull) : d.stored = .ok (.text none) := by
  rw [stored, toStored_of_isNull h]
  rfl

theorem toStored_of_exceedsSigned (h : d.ExceedsSigned) : d.toStored = .error .unsignedRange := by
  unfold ExceedsSigned at h
  split at h
  · exact if_neg (Nat.not_le.2 h)
  · cases h

/-- What a datum is read as from the store: integers are signed ones of 64 bits, numbers are in
double precision, dates and times are texts, and there is one `NULL`, which a NaN becomes too. -/
def image : Datum → Datum
  | boolean (some v) => int64 (some (if v then 1 else 0))
  | int32 (some v) => int64 (some v.toInt64)
  | int64 (some v) => int64 (some v)
  | uint32 (some v) => int64 (some (Int64.ofNat v.toNat))
  | uint64 (some v) => int64 (some (Int64.ofNat v.toNat))
  | single (some v) => if v.toDouble.isNaN then text none else double (some v.toDouble)
  | double (some v) => if v.isNaN then text none else double (some v)
  | text (some s) => text (some s)
  | date (some s) => text (some s)
  | time (some s) => text (some s)
  | timestamp (some s) => text (some s)
  | binary (some v) => binary (some v)
  | _ => text none

/-- All numbers but the unsigned ones beyond the signed ones fit, and every text is UTF-8. -/
theorem exists_toStored (h : ¬d.ExceedsSigned) :
    ∃ v carried, d.toStored = .ok v ∧ v.toDatum = .ok carried ∧ v.kept.toDatum = .ok d.image := by
  have hdouble (x : Double) : (Stored.real x).kept.toDatum =
      .ok (if x.isNaN then text none else double (some x)) := by
    show (if x.isNaN then Stored.null else .real x).toDatum = _
    split <;> rfl
  have htext (s : String) : (Stored.ofText s).toDatum = .ok (text (some s)) :=
    Stored.toDatum_ofText s
  cases d <;> rename_i value <;> cases value
  case uint64.some n =>
    have hsigned : n.toNat ≤ 9223372036854775807 := Nat.not_lt.1 h
    exact ⟨_, _, if_pos hsigned, rfl, rfl⟩
  case single.some x => exact ⟨_, _, rfl, rfl, hdouble _⟩
  case double.some x => exact ⟨_, _, rfl, rfl, hdouble _⟩
  case text.some s => exact ⟨_, _, rfl, htext s, htext s⟩
  case date.some s => exact ⟨_, _, rfl, htext s, htext s⟩
  case time.some s => exact ⟨_, _, rfl, htext s, htext s⟩
  case timestamp.some s => exact ⟨_, _, rfl, htext s, htext s⟩
  all_goals exact ⟨_, _, rfl, rfl, rfl⟩

theorem exists_stored (h : ¬d.ExceedsSigned) : ∃ carried, d.stored = .ok carried := by
  obtain ⟨v, carried, hv, hcarried, -⟩ := exists_toStored h
  exact ⟨carried, by rw [stored, hv]; exact hcarried⟩

/-- Nothing else is refused. -/
theorem toStored_eq_error (h : d.toStored = .error f) : f = .unsignedRange := by
  by_cases hd : d.ExceedsSigned
  · rw [toStored_of_exceedsSigned hd] at h
    exact (Except.error.inj h).symm
  · obtain ⟨v, -, hv, -⟩ := exists_toStored hd
    rw [h] at hv
    cases hv

theorem toDatum_kept {v : Stored} (h : d.toStored = .ok v) : v.kept.toDatum = .ok d.image := by
  have hd : ¬d.ExceedsSigned := by
    intro hd
    rw [toStored_of_exceedsSigned hd] at h
    cases h
  obtain ⟨w, -, hw, -, himage⟩ := exists_toStored hd
  obtain rfl : v = w := Except.ok.inj (h.symm.trans hw)
  exact himage

/-- What was read from the store fits into it. -/
theorem not_exceedsSigned_image (d : Datum) : ¬d.image.ExceedsSigned := by
  have hdouble (x : Double) :
      ¬(if x.isNaN then text none else double (some x)).ExceedsSigned := by
    split <;> exact id
  cases d <;> rename_i value <;> cases value
  case single.some x => exact hdouble _
  case double.some x => exact hdouble _
  all_goals exact id

theorem exists_toStored_image (d : Datum) : ∃ v, d.image.toStored = .ok v := by
  obtain ⟨v, -, hv, -⟩ := exists_toStored d.not_exceedsSigned_image
  exact ⟨v, hv⟩

/-- What was read from the store is read as it is again. -/
@[simp] theorem image_image (d : Datum) : d.image.image = d.image := by
  have hdouble (x : Double) : image (if x.isNaN then text none else double (some x)) =
      if x.isNaN then text none else double (some x) := by
    split
    · rfl
    · rename_i hx
      exact if_neg hx
  cases d <;> rename_i value <;> cases value
  case single.some x => exact hdouble _
  case double.some x => exact hdouble _
  all_goals rfl

end Datum
end SqlMapper
