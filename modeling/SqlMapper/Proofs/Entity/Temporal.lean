import SqlMapper.Proofs.Entity.RoundTrip
/-! Calendar values travel as texts, in a variant of their own or, from the store, as any other text.
A date, a time of day and a day with its time are read back from both, in all years of the calendar.
A moment is read back in the years 0 to 9999, and in all others it is refused: its text begins with a
sign then, and the letter in it keeps it apart from a day with its time. Only a leap second that does
not follow the last second of a minute is lost, as it is written like the second after. -/
namespace SqlMapper

/-- How the texts of a calendar type are put on the wire. -/
inductive ScalarType.TravelsAs : ScalarType → (String → Datum) → Prop
  | date : TravelsAs date fun raw => .date (some raw)
  | clock : TravelsAs clock fun raw => .time (some raw)
  | dateTime : TravelsAs dateTime fun raw => .timestamp (some raw)
  | instant : TravelsAs instant fun raw => .timestamp (some raw)

/-- The row has the text under the name: first there, as it was sent or as the store gave it back. -/
def Row.Shows (row : Row) (name : String) (own : String → Datum) (raw : String) : Prop :=
  row.get? name = some (own raw) ∨ row.get? name = some (.text (some raw))

namespace ScalarType.TravelsAs

variable {t : ScalarType} {own : String → Datum} {row : Row} {name raw : String}

theorem exists_toDatum? (h : t.TravelsAs own) (v : t.Carrier) :
    ∃ raw, (t.toValue v).toDatum? = some (own raw) := by
  cases h <;> exact ⟨_, rfl⟩

/-- The store knows no calendar. -/
theorem stored (h : t.TravelsAs own) (raw : String) :
    (own raw).stored = .ok (.text (some raw)) := by
  have htext : (Stored.ofText raw).toDatum = .ok (.text (some raw)) := Stored.toDatum_ofText raw
  cases h <;> exact htext

theorem read_text (h : t.TravelsAs own) (raw : String) :
    t.read (.text (some raw)) = t.read (own raw) := by
  cases h <;> rfl

/-- A field is read from its text alone, whichever variant shows it. -/
theorem readField (h : t.TravelsAs own) (hrow : row.Shows name own raw) :
    (FieldType.required t).readField row name = t.read (own raw) := by
  rcases hrow with hown | htext
  · simp only [FieldType.readField, hown]
  · simp only [FieldType.readField, htext, h.read_text raw]

theorem readField_optional (h : t.TravelsAs own) (hrow : row.Shows name own raw) :
    (FieldType.optional t).readField row name = (t.read (own raw)).map some := by
  have hnull : (own raw).isNull = false := by cases h <;> rfl
  rcases hrow with hown | htext
  · simp only [FieldType.readField, hown, hnull]
    rfl
  · have hset : (Datum.text (some raw)).isNull = false := rfl
    simp only [FieldType.readField, htext, hset, h.read_text raw]
    rfl

end ScalarType.TravelsAs

namespace ScalarType

/-- Dates, times of day and days with their times are read as they are shown, from the text that is
sent for them as from the one that the store keeps. They come back just if their leap seconds follow
the last second of a minute. -/
theorem read_local {t : ScalarType} {own : String → Datum} (h : t.TravelsAs own)
    (hlocal : t ≠ instant) (v : t.Carrier) :
    (∃ raw, (t.toValue v).toDatum? = some (own raw) ∧
      (own raw).stored = .ok (.text (some raw)) ∧
      ∀ row name, Row.Shows row name own raw →
        (FieldType.required t).readField row name = .ok (t.shown v) ∧
        (FieldType.optional t).readField row name = .ok (some (t.shown v))) ∧
      (t.shown v = v ↔ t.LeapsLast v) := by
  have htravels : t.Travels v := by
    cases h with
    | instant => exact absurd rfl hlocal
    | _ => trivial
  obtain ⟨raw, hraw⟩ := h.exists_toDatum? v
  have hread : t.read (own raw) = .ok (t.shown v) := (t.read_of_toDatum? htravels hraw).2
  refine ⟨⟨raw, hraw, h.stored raw, fun row name hrow => ?_⟩, t.shown_eq_self_iff⟩
  rw [h.readField hrow, h.readField_optional hrow, hread]
  exact ⟨rfl, rfl⟩

/-- The first day of the calendar. -/
def firstDay : Date := ⟨-262143, 1, 1, by decide, (by decide : 0 < 1 ∧ 1 ≤ 12), by decide⟩

/-- The last nanosecond of the calendar, in a leap second. -/
def lastMoment : DateTime := ⟨⟨262142, 12, 31, by decide, by decide, by decide⟩, Entity.leap⟩

/-- Under two names there are a day as it was sent and a moment as the store gave it back. -/
theorem read_local_limits :
    (FieldType.required date).readField
        ⟨[("day", .date (some "-262143-01-01")), ("day", .text none)]⟩ "day" = .ok firstDay ∧
      (FieldType.optional dateTime).readField
        ⟨[("day", .date none), ("noted", .text (some "+262142-12-31 23:59:60.999999999"))]⟩
        "noted" = .ok (some lastMoment) := by
  obtain ⟨⟨raw, hraw, -, hday⟩, -⟩ := read_local .date (by decide) firstDay
  obtain rfl : "-262143-01-01" = raw :=
    Option.some.inj (Datum.date.inj (Option.some.inj hraw))
  obtain ⟨⟨raw, hraw, -, hnoted⟩, -⟩ := read_local .dateTime (by decide) lastMoment
  obtain rfl : "+262142-12-31 23:59:60.999999999" = raw :=
    Option.some.inj (Datum.timestamp.inj (Option.some.inj hraw))
  exact ⟨(hday _ _ (.inl rfl)).1, (hnoted _ _ (.inr rfl)).2⟩

/-- A leap second inside of a minute comes back as the second after. -/
theorem read_local_innerLeap :
    (clock.toValue Entity.innerLeap).toDatum? = some (.time (some "23:56:05.333333333")) ∧
      (FieldType.required clock).readField ⟨[("start", .time (some "23:56:05.333333333"))]⟩
        "start" = .ok Entity.afterInnerLeap ∧
      Entity.afterInnerLeap ≠ Entity.innerLeap :=
  ⟨rfl, rfl, by decide⟩

/-- A moment is read as it is shown in the years that have four digits, and so comes back just if its
leap second follows the last second of a minute. In all other years its text is refused. -/
theorem read_instant (v : DateTime) :
    (∃ raw, (instant.toValue v).toDatum? = some (.timestamp (some raw)) ∧
      (Datum.timestamp (some raw)).stored = .ok (.text (some raw)) ∧
      ∀ row name, Row.Shows row name (fun raw => .timestamp (some raw)) raw →
        (FieldType.required instant).readField row name =
          if 0 ≤ v.date.year ∧ v.date.year ≤ 9999 then .ok v.shown
          else .error (.timestamp raw)) ∧
      (v.shown = v ↔ v.clock.LeapsLast) := by
  have h : TravelsAs instant fun raw => .timestamp (some raw) := .instant
  refine ⟨⟨String.ofList (Calendar.instant v), rfl, h.stored _, fun row name hrow => ?_⟩,
    DateTime.shown_eq_self_iff⟩
  -- both forms are tried on the text
  have hread := Calendar.readMoment?_instant v
  rw [h.readField hrow]
  show Decode.moment (String.ofList (Calendar.instant v)) = _
  unfold Decode.moment
  rw [String.toList_ofList, hread]
  split_ifs <;> rfl

/-- A leap second at the start of the calendar's year 0, and the moment after the last one that comes
back. -/
theorem read_instant_limits :
    (FieldType.required instant).readField
        ⟨[("sent", .text (some "0000-02-29T23:59:60.999999999+00:00"))]⟩ "sent" =
      .ok ⟨⟨0, 2, 29, by decide, by decide, by decide⟩, Entity.leap⟩ ∧
    (FieldType.required instant).readField
        ⟨[("sent", .timestamp (some "+10000-01-01T00:00:00+00:00"))]⟩ "sent" =
      .error (.timestamp "+10000-01-01T00:00:00+00:00") := by
  obtain ⟨⟨raw, hraw, -, hleap⟩, -⟩ :=
    read_instant ⟨⟨0, 2, 29, by decide, by decide, by decide⟩, Entity.leap⟩
  obtain rfl : "0000-02-29T23:59:60.999999999+00:00" = raw :=
    Option.some.inj (Datum.timestamp.inj (Option.some.inj hraw))
  obtain ⟨⟨raw, hraw, -, hlate⟩, -⟩ := read_instant
    ⟨⟨10000, 1, 1, by decide, by decide, by decide⟩,
      ⟨0, 0, 0, 0, by decide, by decide, by decide, by decide⟩⟩
  obtain rfl : "+10000-01-01T00:00:00+00:00" = raw :=
    Option.some.inj (Datum.timestamp.inj (Option.some.inj hraw))
  exact ⟨hleap _ _ (.inr rfl), hlate _ _ (.inl rfl)⟩

/-- In a moment, too, it comes back as the second after. -/
theorem read_instant_innerLeap :
    (instant.toValue ⟨⟨2016, 12, 31, by decide, by decide, by decide⟩, Entity.innerLeap⟩).toDatum? =
        some (.timestamp (some "2016-12-31T23:56:05.333333333+00:00")) ∧
      (FieldType.required instant).readField
        ⟨[("sent", .timestamp (some "2016-12-31T23:56:05.333333333+00:00"))]⟩ "sent" =
        .ok ⟨⟨2016, 12, 31, by decide, by decide, by decide⟩, Entity.afterInnerLeap⟩ ∧
      Entity.afterInnerLeap ≠ Entity.innerLeap :=
  ⟨rfl, rfl, by decide⟩

end ScalarType
end SqlMapper
