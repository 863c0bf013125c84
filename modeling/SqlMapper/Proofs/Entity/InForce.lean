import Mathlib.Data.List.Induction
import SqlMapper.Entity.Schema
import SqlMapper.Proofs.Entity.Consistent
/-! What a registry answers after any calls. The schema of a type is the one that was last put in
force for it; that a registry keeps what it resolved, and drops what it refused, cannot be told from
its answers. -/
namespace SqlMapper.Registry

variable {κ : Type}

theorem put_of_consistent {s : Schema} (h : s.Consistent) (r : Registry κ) (key : κ) :
    r.put key s = (.ok s, r.enter key s) := by
  unfold put
  rw [Schema.checked_eq_ok_iff.2 ⟨h, rfl⟩]

theorem put_of_not_consistent {s : Schema} (h : ¬s.Consistent) (r : Registry κ) (key : κ) :
    r.put key s = (s.checked, r) := by
  unfold put
  cases hs : s.checked with
  | ok t => exact absurd (Schema.checked_eq_ok_iff.1 hs).1 h
  | error f => rfl

theorem fst_put (r : Registry κ) (key : κ) (s : Schema) : (r.put key s).1 = s.checked := by
  by_cases h : s.Consistent
  · rw [put_of_consistent h, Schema.checked_eq_ok_iff.2 ⟨h, rfl⟩]
  · rw [put_of_not_consistent h]

inductive Call (κ : Type) where
  /-- Put a schema in force for a type. -/
  | register (key : κ) (s : Schema)
  /-- Ask for the schema of a type. -/
  | resolve (key : κ)
  /-- Ask for the schema that a type declares. -/
  | declaration (key : κ)

namespace Call

/-- The type that the call is about. -/
def key : Call κ → κ
  | register key _ => key
  | resolve key => key
  | declaration key => key

/-- The schema that the call puts in force for a type: inconsistent ones are not. -/
def put? [DecidableEq κ] (key : κ) : Call κ → Option Schema
  | register k s => if k = key ∧ s.Consistent then some s else none
  | resolve _ => none
  | declaration _ => none

end Call

variable [DecidableEq κ]

/-- All schemas that calls put in force for a type, one after another. -/
def puts (key : κ) (calls : List (Call κ)) : List Schema := calls.filterMap (Call.put? key)

section Run

variable (declared : κ → Schema)

/-- A call, where all types have their declarations. -/
def step (r : Registry κ) : Call κ → Except SchemaFault Schema × Registry κ
  | .register key s => r.put key s
  | .resolve key => r.schemaFor key (declared key)
  | .declaration key => ((declared key).checked, r)

/-- The registry after some calls. -/
def after (calls : List (Call κ)) : Registry κ :=
  calls.foldl (fun r c => (r.step declared c).2) empty

/-- What a call answers after some other calls. -/
def answer (calls : List (Call κ)) (c : Call κ) : Except SchemaFault Schema :=
  ((after declared calls).step declared c).1

/-- The registry has what the calls put in force, and what it has besides are declarations. -/
structure Reflects (calls : List (Call κ)) (r : Registry κ) : Prop where
  put : ∀ key s, (puts key calls).getLast? = some s → r.get? key = some s
  declared : ∀ key s, puts key calls = [] → r.get? key = some s → s = declared key ∧ s.Consistent

end Run

variable {declared : κ → Schema} {calls : List (Call κ)} {r : Registry κ} {c : Call κ}

theorem get?_enter (r : Registry κ) (key other : κ) (s : Schema) :
    (r.enter key s).get? other = if key = other then some s else r.get? other := by
  unfold get? enter
  rw [List.lookup_cons]
  by_cases h : key = other
  · simp [h]
  · simp [h, beq_false_of_ne (Ne.symm h)]

/-- A call that fails leaves the registry as it was. -/
theorem step_of_error {f : SchemaFault} (h : (r.step declared c).1 = .error f) :
    (r.step declared c).2 = r := by
  have hput {key : κ} {s : Schema} (h : (r.put key s).1 = .error f) : (r.put key s).2 = r := by
    rw [fst_put] at h
    have hs : ¬s.Consistent := fun hs => by
      rw [Schema.checked_eq_ok_iff.2 ⟨hs, rfl⟩] at h
      cases h
    rw [put_of_not_consistent hs]
  cases c with
  | register key s => exact hput h
  | declaration key => rfl
  | resolve key =>
    simp only [step, schemaFor] at h ⊢
    cases hg : r.get? key with
    | some s => rfl
    | none =>
      rw [hg] at h
      exact hput h

theorem puts_append (key : κ) (calls others : List (Call κ)) :
    puts key (calls ++ others) = puts key calls ++ puts key others := List.filterMap_append

theorem puts_singleton (key : κ) (c : Call κ) : puts key [c] = (c.put? key).toList := by
  unfold puts
  cases h : c.put? key <;> simp [h]

theorem consistent_of_mem_puts {key : κ} {s : Schema} (h : s ∈ puts key calls) : s.Consistent := by
  obtain ⟨c, -, hc⟩ := List.mem_filterMap.1 h
  cases c with
  | register k s' =>
    obtain ⟨⟨-, hs⟩, he⟩ := Option.ite_none_right_eq_some.1 hc
    exact Option.some.inj he ▸ hs
  | resolve k => cases hc
  | declaration k => cases hc

theorem reflects_empty : Reflects declared [] (empty : Registry κ) where
  put key s h := by cases h
  declared key s _ h := by cases h

/-- A call that puts nothing in force changes nothing that a registry has to reflect. -/
theorem Reflects.append (h : Reflects declared calls r) (hc : ∀ key, c.put? key = none) :
    Reflects declared (calls ++ [c]) r := by
  have hsame (key : κ) : puts key (calls ++ [c]) = puts key calls := by
    rw [puts_append, puts_singleton, hc, Option.toList_none, List.append_nil]
  exact ⟨fun key s hs => h.put key s (hsame key ▸ hs),
    fun key s hs => h.declared key s (hsame key ▸ hs)⟩

theorem Reflects.enter {key : κ} {s : Schema} (h : Reflects declared calls r) (hs : s.Consistent) :
    Reflects declared (calls ++ [.register key s]) (r.enter key s) where
  put other t ht := by
    rw [puts_append, puts_singleton, Call.put?] at ht
    rw [get?_enter]
    by_cases ho : key = other
    · rw [if_pos ⟨ho, hs⟩] at ht
      rw [if_pos ho]
      simpa using ht
    · rw [if_neg fun hput => ho hput.1] at ht
      rw [if_neg ho]
      exact h.put other t (by simpa using ht)
  declared other t ht hg := by
    rw [puts_append, puts_singleton, Call.put?] at ht
    rw [get?_enter] at hg
    by_cases ho : key = other
    · rw [if_pos ⟨ho, hs⟩] at ht
      simp at ht
    · rw [if_neg fun hput => ho hput.1] at ht
      rw [if_neg ho] at hg
      exact h.declared other t (by simpa using ht) hg

/-- What was not put in force may be resolved to the declaration. -/
theorem Reflects.enter_declared {key : κ} (h : Reflects declared calls r)
    (hnone : r.get? key = none) (hs : (declared key).Consistent) :
    Reflects declared calls (r.enter key (declared key)) where
  put other t ht := by
    rw [get?_enter, if_neg]
    · exact h.put other t ht
    · rintro rfl
      rw [h.put key t ht] at hnone
      cases hnone
  declared other t ht hg := by
    rw [get?_enter] at hg
    split_ifs at hg with ho
    · cases hg
      exact ⟨ho ▸ rfl, hs⟩
    · exact h.declared other t ht hg

theorem Reflects.step (h : Reflects declared calls r) (c : Call κ) :
    Reflects declared (calls ++ [c]) (r.step declared c).2 := by
  cases c with
  | register key s =>
    show Reflects declared (calls ++ [.register key s]) (r.put key s).2
    by_cases hs : s.Consistent
    · rw [put_of_consistent hs]
      exact h.enter hs
    · rw [put_of_not_consistent hs]
      exact h.append fun other => if_neg fun ho => hs ho.2
  | declaration key => exact h.append fun _ => rfl
  | resolve key =>
    have happend : Reflects declared (calls ++ [.resolve key]) r := h.append fun _ => rfl
    show Reflects declared (calls ++ [.resolve key]) (r.schemaFor key (declared key)).2
    unfold schemaFor
    cases hg : r.get? key with
    | some s => exact happend
    | none =>
      by_cases hs : (declared key).Consistent
      · rw [put_of_consistent hs]
        exact happend.enter_declared hg hs
      · rw [put_of_not_consistent hs]
        exact happend

theorem after_append (declared : κ → Schema) (calls others : List (Call κ)) :
    after declared (calls ++ others) =
      others.foldl (fun r c => (r.step declared c).2) (after declared calls) := List.foldl_append

/-- Whatever was called, the registry reflects it. -/
theorem reflects_after (declared : κ → Schema) (calls : List (Call κ)) :
    Reflects declared calls (after declared calls) := by
  induction calls using List.reverseRecOn with
  | nil => exact reflects_empty
  | append_singleton calls c ih =>
    rw [after_append]
    exact ih.step c

/-- Resolving answers the last schema that was put in force, or else judges the declaration. -/
theorem answer_resolve (declared : κ → Schema) (calls : List (Call κ)) (key : κ) :
    answer declared calls (.resolve key) =
      match (puts key calls).getLast? with
      | some s => .ok s
      | none => (declared key).checked := by
  have hreflects := reflects_after declared calls
  show ((after declared calls).schemaFor key (declared key)).1 = _
  unfold schemaFor
  cases hlast : (puts key calls).getLast? with
  | some s => rw [hreflects.put key s hlast]
  | none =>
    rw [List.getLast?_eq_none_iff] at hlast
    cases hg : (after declared calls).get? key with
    | none => exact fst_put _ key (declared key)
    | some s =>
      -- it was resolved before, and is the declaration
      obtain ⟨rfl, hs⟩ := hreflects.declared key s hlast hg
      exact (Schema.checked_eq_ok_iff.2 ⟨hs, rfl⟩).symm

theorem answer_register (declared : κ → Schema) (calls : List (Call κ)) (key : κ) (s : Schema) :
    answer declared calls (.register key s) = s.checked := fst_put _ key s

/-- What a call answers is decided by the schemas that were put in force for its type. -/
theorem answer_congr {others : List (Call κ)} (h : puts c.key calls = puts c.key others) :
    answer declared calls c = answer declared others c := by
  cases c with
  | register key s => rw [answer_register, answer_register]
  | declaration key => rfl
  | resolve key =>
    rw [answer_resolve, answer_resolve]
    rw [show puts key calls = puts key others from h]

/-- A registry never answers an inconsistent schema. A type has the schema that was last put in
force for it, or else its declaration if that is consistent; calls that fail, and calls about other
types, make no difference to it; and declarations are answered whatever is in force. -/
structure Governed (declared : κ → Schema) : Prop where
  consistent : ∀ calls c s, answer declared calls c = .ok s → s.Consistent
  registered : ∀ calls key s t,
    answer declared calls (.register key s) = .ok t ↔ s.Consistent ∧ t = s
  last : ∀ calls key s, (puts key calls).getLast? = some s →
    answer declared calls (.resolve key) = .ok s
  unregistered : ∀ calls key, puts key calls = [] →
    answer declared calls (.resolve key) = (declared key).checked
  failed : ∀ before c f later d, answer declared before c = .error f →
    answer declared (before ++ c :: later) d = answer declared (before ++ later) d
  others : ∀ before key s later d, d.key ≠ key →
    answer declared (before ++ .register key s :: later) d = answer declared (before ++ later) d
  declaration : ∀ calls key, answer declared calls (.declaration key) = (declared key).checked

theorem governed (declared : κ → Schema) : Governed declared where
  consistent calls c s h := by
    have hchecked {t : Schema} (h : t.checked = .ok s) : s.Consistent := by
      obtain ⟨ht, rfl⟩ := Schema.checked_eq_ok_iff.1 h
      exact ht
    cases c with
    | register key t => exact hchecked ((answer_register declared calls key t).symm.trans h)
    | declaration key => exact hchecked h
    | resolve key =>
      rw [answer_resolve] at h
      split at h
      · rename_i t ht
        cases h
        exact consistent_of_mem_puts (List.mem_of_getLast? ht)
      · exact hchecked h
  registered calls key s t := by rw [answer_register, Schema.checked_eq_ok_iff]
  last calls key s h := by rw [answer_resolve, h]
  unregistered calls key h := by rw [answer_resolve, h, List.getLast?_nil]
  failed before c f later d h := by
    -- the registry is the same without the call that failed
    have hsame : after declared (before ++ c :: later) = after declared (before ++ later) := by
      rw [after_append, after_append, List.foldl_cons, step_of_error h]
    unfold answer
    rw [hsame]
  others before key s later d h := by
    have hnil : puts d.key [.register key s] = [] := by simp [puts, Call.put?, Ne.symm h]
    apply answer_congr
    rw [← List.singleton_append, puts_append, puts_append, puts_append, hnil, List.nil_append]
  declaration calls key := rfl

end SqlMapper.Registry
