import SqlMapper.Supply.FieldMap
import SqlMapper.Proofs.Outcome
import SqlMapper.Proofs.Sql.Carries

namespace SqlMapper

variable {slots : Bool}

namespace Comparison

/-- The values that a comparison binds. -/
def bound : Comparison → List Value
  | like v | less v | lessEqual v | greater v | greaterEqual v | notEqual v => [v]
  | among values => values
  | notNull | isNull | passed | toCome => []

theorem among_carries (values : List Value) :
    (among values).fragment.Carries slots values := by
  cases values with
  | nil => exact .word
  | cons v vs =>
    -- one slot for each value, and no slot without values
    have hlist : Fragment.Carries slots (Fragment.joined "," ((v :: vs).map fun v => [.slot v]))
        ((v :: vs).flatMap fun v => [v]) :=
      .joined_map fun v _ => Fragment.Carries.slot v
    rw [List.flatMap_singleton'] at hlist
    have hopen : Fragment.Carries slots
        (.word "IN (" :: Fragment.joined "," ((v :: vs).map fun v => [.slot v])) (v :: vs) :=
      hlist.word_cons
    have hall := hopen.append_word (w := ")") .nil
    rw [List.append_nil] at hall
    exact hall

theorem fragment_carries (q : Comparison) : q.fragment.Carries slots q.bound := by
  cases q with
  | notNull => exact .word
  | isNull => exact .word
  | like v => exact (Fragment.Carries.slot v).word_cons
  | among values => exact among_carries values
  | less v => exact (Fragment.Carries.slot v).word_cons
  | lessEqual v => exact (Fragment.Carries.slot v).word_cons
  | greater v => exact (Fragment.Carries.slot v).word_cons
  | greaterEqual v => exact (Fragment.Carries.slot v).word_cons
  | notEqual v => exact (Fragment.Carries.slot v).word_cons
  | passed => exact .word
  | toCome => exact .word

end Comparison

namespace Expression

/-- The values that an expression binds where it gives a column its value. -/
def bound : Expression → List Value
  | add v | subtract v | bitwiseAnd v | bitwiseOr v | numberToAddress v => [v]
  | addressToNumber address => [.text (some address)]
  | increment | decrement | currentDate | currentTime | now | null | daysFromNow _
  | hoursFromNow _ => []

theorem change_carries {e : Expression} {f : Fragment} (h : e.change? = some f) :
    f.Carries slots e.bound ∧ f.Leads := by
  have hslot {w : String} (v : Value) (hw : isPlainWord w) :
      Fragment.Carries slots [.word w, .slot v] [v] ∧ Fragment.Leads [.word w, .slot v] :=
    ⟨(Fragment.Carries.slot v).word_cons hw, Fragment.leads_word hw⟩
  -- only six expressions change the column
  cases e <;> cases h
  case increment => exact ⟨.word, Fragment.leads_word⟩
  case decrement => exact ⟨.word, Fragment.leads_word⟩
  case add v => exact hslot v (by decide)
  case subtract v => exact hslot v (by decide)
  case bitwiseAnd v => exact hslot v (by decide)
  case bitwiseOr v => exact hslot v (by decide)

theorem later_carries (n : Int64) {unit : String} (h : isPlainWord unit) :
    (later n unit).Carries slots [] := by
  have hunit : isPlainWord (" " ++ unit ++ ")") :=
    isPlainWord_append (isPlainWord_append (by decide) h) (by decide)
  have hnumber := isPlainWord_toString_int n.toInt
  exact ((Fragment.Carries.word hunit).word_cons hnumber).word_cons

theorem standalone_carries {e : Expression} (h : e.change? = none) :
    e.standalone.Carries slots e.bound := by
  have hcall {w : String} (v : Value) (hw : isPlainWord w) :
      Fragment.Carries slots [.word (w ++ "("), .slot v, .word ")"] [v] :=
    have hclose : Fragment.Carries slots [.word ")"] [] := .word
    (hclose.slot_cons v).word_cons (isPlainWord_append hw (by decide))
  cases e with
  -- those that change the column are never written without it
  | increment => cases h
  | decrement => cases h
  | add v => cases h
  | subtract v => cases h
  | bitwiseAnd v => cases h
  | bitwiseOr v => cases h
  | currentDate => exact .word
  | currentTime => exact .word
  | now => exact .word
  | null => exact .word
  | daysFromNow n => exact later_carries n (by decide)
  | hoursFromNow n => exact later_carries n (by decide)
  | addressToNumber address => exact hcall _ (by decide)
  | numberToAddress v => exact hcall _ (by decide)

theorem assignment_carries (e : Expression) {column : Fragment} (hc : column.Carries slots []) :
    (e.assignment column).Carries slots e.bound := by
  unfold assignment
  cases h : e.change? with
  | some f =>
    obtain ⟨hf, hlead⟩ : f.Carries slots e.bound ∧ f.Leads := change_carries h
    exact (hc.append_word hc).append hf hlead
  | none => exact hc.append_word (standalone_carries h)

theorem applied_carries (e : Expression) {column : Fragment} (hc : column.Carries slots []) :
    (e.applied column).Carries slots [] := by
  have hcall {w : String} (hw : isPlainWord w) :
      Fragment.Carries slots (.word (w ++ "(") :: column ++ [.word ")"]) [] :=
    (hc.word_cons (isPlainWord_append hw (by decide))).append_word .nil
  cases e <;> first | exact Fragment.Carries.nil | exact hcall (by decide)

theorem change?_eq_none_of_insert {e : Expression} (h : Position.insert ∈ e.positions) :
    e.change? = none := by
  cases e <;> first | rfl | simp [positions] at h

end Expression

namespace Supplied

def bound : Supplied → List Value
  | value v => [v]
  | expression e => e.bound
  | comparison q => q.bound

theorem equality_carries {c : Column} (hc : c.reference.Carries slots []) (v : Value) :
    Fragment.Carries slots (c.reference ++ [.word "=", .slot v]) [v] :=
  hc.append_word (Fragment.Carries.slot v)

theorem term_carries {c : Column} (hc : c.reference.Carries slots []) {v : Supplied}
    {f : Fragment} (h : v.term c = .ok f) : f.Carries slots v.bound := by
  cases v with
  | value v =>
    cases h
    exact equality_carries hc v
  | comparison q =>
    cases h
    exact hc.append_word q.fragment_carries
  | expression e => cases h

theorem insertSlot_carries {c : Column} {v : Supplied} {s : Slot} (h : v.insertSlot c = .ok s) :
    s.fragment.Carries slots v.bound := by
  cases v with
  | value v =>
    cases h
    exact Fragment.Carries.slot v
  | comparison q => cases h
  | expression e =>
    obtain ⟨f, hf, rfl⟩ := map_eq_ok.1 h
    unfold Expression.render at hf
    split at hf
    · -- what is allowed here does not change the column
      rename_i hallowed
      cases hf
      exact e.standalone_carries (Expression.change?_eq_none_of_insert hallowed)
    · cases hf

theorem updateSlot_carries {c : Column} (hc : c.WellQualified) {v : Supplied} {s : Slot}
    (h : v.updateSlot c = .ok s) : s.fragment.Carries slots v.bound := by
  cases v with
  | value v =>
    cases h
    exact equality_carries (Column.reference_carries hc) v
  | comparison q => cases h
  | expression e =>
    obtain ⟨f, hf, rfl⟩ := map_eq_ok.1 h
    unfold Expression.render at hf
    split at hf
    · cases hf
      exact e.assignment_carries (Column.reference_carries hc)
    · cases hf

end Supplied

namespace Supply

/-- The values that are bound for some columns, one column after another. -/
def bound (data : Supply) (columns : List Column) : List Value :=
  (data.assigned columns).flatMap fun p => p.2.bound

theorem mem_assigned {data : Supply} {columns : List Column} {c : Column} {u : Supplied} :
    (c, u) ∈ data.assigned columns ↔ c ∈ columns ∧ data c.label = some u := by
  simp only [assigned, List.mem_filterMap, Option.map_eq_some_iff]
  constructor
  · rintro ⟨b, hb, w, hw, he⟩
    cases he
    exact ⟨hb, hw⟩
  · rintro ⟨hc, hu⟩
    exact ⟨c, hc, u, hu, rfl⟩

theorem mem_of_mem_assigned {data : Supply} {columns : List Column} {p : Column × Supplied}
    (h : p ∈ data.assigned columns) : p.1 ∈ columns :=
  (mem_assigned.1 h).1

theorem predicate_carries {data : Supply} {columns : List Column}
    (hc : ∀ p ∈ data.assigned columns, p.1.reference.Carries slots []) {f : Fragment}
    (h : data.predicate columns = .ok f) : f.Carries slots (data.bound columns) := by
  obtain ⟨terms, hterms, hf⟩ := bind_eq_ok.1 h
  cases hf
  rw [bound, List.flatMap_def]
  refine Fragment.Carries.joined ?_
  -- each term carries what is bound for its column
  rw [List.forall₂_map_right_iff]
  apply forall₂_of_mapM hterms
  intro p hp f hterm
  exact Supplied.term_carries (hc p hp) hterm

theorem slots_carries {data : Supply} {columns : List Column} {position : Position}
    {found : List Slot} (h : data.slots position columns = .ok found)
    (hs : ∀ p ∈ data.assigned columns, ∀ s, p.2.slot position p.1 = .ok s →
      s.fragment.Carries slots p.2.bound) {w : String} (hw : isPlainWord w := by decide) :
    (Fragment.joined w (found.map Slot.fragment)).Carries slots (data.bound columns) := by
  rw [bound, List.flatMap_def]
  refine Fragment.Carries.joined ?_ hw
  rw [List.forall₂_map_left_iff, List.forall₂_map_right_iff]
  exact forall₂_of_mapM h hs

end Supply
end SqlMapper
