import Mathlib.Data.List.Forall2

namespace SqlMapper

variable {ε ε' α β γ δ : Type}

theorem bind_eq_ok {x : Except ε α} {f : α → Except ε β} {b : β} :
    (x >>= f) = .ok b ↔ ∃ a, x = .ok a ∧ f a = .ok b := by
  cases x <;> simp [bind, Except.bind]

theorem pure_eq_ok {a b : α} : (pure a : Except ε α) = .ok b ↔ a = b := by
  simp [pure, Except.pure]

theorem map_eq_ok {x : Except ε α} {f : α → β} {b : β} :
    x.map f = .ok b ↔ ∃ a, x = .ok a ∧ f a = b := by
  cases x <;> simp [Except.map]

theorem mapError_eq_ok {x : Except ε α} {f : ε → ε'} {a : α} :
    x.mapError f = .ok a ↔ x = .ok a := by
  cases x <;> simp [Except.mapError]

theorem guard_eq_ok {p : Prop} [Decidable p] {e : ε} {x : Except ε α} {a : α} :
    (if p then .error e else x) = .ok a ↔ ¬p ∧ x = .ok a := by
  by_cases hp : p <;> simp [hp]

theorem mapM_eq_ok {f : α → Except ε β} {xs : List α} {ys : List β} :
    xs.mapM f = .ok ys ↔ List.Forall₂ (fun x y => f x = .ok y) xs ys := by
  induction xs generalizing ys with
  | nil =>
    rw [List.mapM_nil, pure_eq_ok, List.forall₂_nil_left_iff]
    exact eq_comm
  | cons x xs ih =>
    rw [List.mapM_cons, bind_eq_ok, List.forall₂_cons_left_iff]
    constructor
    · rintro ⟨y, hy, h⟩
      obtain ⟨rest, hrest, h⟩ := bind_eq_ok.1 h
      exact ⟨y, rest, hy, ih.1 hrest, (pure_eq_ok.1 h).symm⟩
    · rintro ⟨y, rest, hy, hrest, rfl⟩
      exact ⟨y, hy, bind_eq_ok.2 ⟨rest, ih.2 hrest, rfl⟩⟩

/-- The first member that fails decides the error. -/
theorem mapM_eq_error {f : α → Except ε β} {xs : List α} {e : ε} :
    xs.mapM f = .error e ↔ ∃ before x after, xs = before ++ x :: after ∧
      (∀ y ∈ before, ∃ b, f y = .ok b) ∧ f x = .error e := by
  induction xs with
  | nil => simp [List.mapM_nil, pure, Except.pure]
  | cons x xs ih =>
    rw [List.mapM_cons]
    cases hx : f x with
    | error e' =>
      constructor
      · intro h
        cases h
        exact ⟨[], x, xs, rfl, by simp, hx⟩
      · rintro ⟨before, y, after, hxs, hbefore, hy⟩
        cases before with
        | nil =>
          cases hxs
          cases hx.symm.trans hy
          rfl
        | cons z before =>
          -- the head fails, so it cannot stand before the failing member
          cases hxs
          obtain ⟨b, hb⟩ := hbefore x (List.mem_cons_self ..)
          cases hx.symm.trans hb
    | ok b =>
      have hrest : ((Except.ok b : Except ε β) >>= fun y => xs.mapM f >>= fun ys =>
          pure (y :: ys)) = .error e ↔ xs.mapM f = .error e := by
        cases xs.mapM f <;> simp [bind, Except.bind, pure, Except.pure]
      rw [hrest, ih]
      constructor
      · rintro ⟨before, y, after, rfl, hbefore, hy⟩
        exact ⟨x :: before, y, after, rfl, List.forall_mem_cons.2 ⟨⟨b, hx⟩, hbefore⟩, hy⟩
      · rintro ⟨before, y, after, hxs, hbefore, hy⟩
        cases before with
        | nil =>
          cases hxs
          cases hx.symm.trans hy
        | cons z before =>
          cases hxs
          exact ⟨before, y, after, rfl, (List.forall_mem_cons.1 hbefore).2, hy⟩

theorem exists_mapM_eq_ok {f : α → Except ε β} {xs : List α} (h : ∀ x ∈ xs, ∃ y, f x = .ok y) :
    ∃ ys, xs.mapM f = .ok ys := by
  induction xs with
  | nil => exact ⟨[], rfl⟩
  | cons x xs ih =>
    rw [List.forall_mem_cons] at h
    obtain ⟨y, hy⟩ := h.1
    obtain ⟨ys, hys⟩ := ih h.2
    exact ⟨y :: ys, mapM_eq_ok.2 (.cons hy (mapM_eq_ok.1 hys))⟩

/-- Every member of the one list is related to its partner in the other. -/
theorem exists_of_forall₂ {R : α → β → Prop} {xs : List α} {ys : List β}
    (h : List.Forall₂ R xs ys) {x : α} (hx : x ∈ xs) : ∃ y, R x y := by
  obtain ⟨n, hn, rfl⟩ := List.mem_iff_getElem.1 hx
  exact ⟨_, h.get hn (h.length_eq ▸ hn)⟩

theorem exists_of_mapM_eq_ok {f : α → Except ε β} {xs : List α} {ys : List β}
    (h : xs.mapM f = .ok ys) : ∀ x ∈ xs, ∃ y, f x = .ok y := fun _ =>
  exists_of_forall₂ (mapM_eq_ok.1 h)

/-- What holds of every member with its result holds of the lists. -/
theorem forall₂_of_mapM {f : α → Except ε β} {R : β → α → Prop} {xs : List α} {ys : List β}
    (h : xs.mapM f = .ok ys) (hR : ∀ x ∈ xs, ∀ y, f x = .ok y → R y x) : List.Forall₂ R ys xs := by
  have hall := mapM_eq_ok.1 h
  -- by the results, so that each member comes with the equation for its own
  induction hall with
  | nil => exact .nil
  | @cons x y xs ys hxy hrest ih =>
    have htail := ih (mapM_eq_ok.2 hrest) fun x hx => hR x (List.mem_cons_of_mem _ hx)
    exact .cons (hR x (List.mem_cons_self ..) y hxy) htail

theorem forall_of_mapM {f : α → Except ε β} {P : β → Prop} {xs : List α} {ys : List β}
    (h : xs.mapM f = .ok ys) (hP : ∀ x ∈ xs, ∀ y, f x = .ok y → P y) : ∀ y ∈ ys, P y := by
  have hall : List.Forall₂ (fun y _ => P y) ys xs := forall₂_of_mapM h hP
  intro y hy
  obtain ⟨_, hy⟩ := exists_of_forall₂ hall hy
  exact hy

/-- Two results fail alike: the errors of the one are those of the other. -/
def FailsLike (x : Except ε α) (y : Except ε β) : Prop := ∀ e, x = .error e ↔ y = .error e

namespace FailsLike

theorem pure {a : α} {b : β} : FailsLike (Pure.pure a : Except ε α) (Pure.pure b) := by
  intro e
  constructor <;>
  · intro h
    cases h

theorem refl (x : Except ε α) : FailsLike x x := fun _ => Iff.rfl

theorem bind {x : Except ε α} {y : Except ε β} {f : α → Except ε γ} {g : β → Except ε δ}
    (h : FailsLike x y) (hfg : ∀ a b, x = .ok a → y = .ok b → FailsLike (f a) (g b)) :
    FailsLike (x >>= f) (y >>= g) := by
  intro e
  cases x with
  | error e' =>
    have hy : y = .error e' := (h e').1 rfl
    subst hy
    show (.error e' : Except ε γ) = .error e ↔ (.error e' : Except ε δ) = .error e
    rw [Except.error.injEq, Except.error.injEq]
  | ok a =>
    cases y with
    | error e' => cases (h e').2 rfl
    | ok b => exact hfg a b rfl rfl e

theorem exists_ok_iff {x : Except ε α} {y : Except ε β} (h : FailsLike x y) :
    (∃ a, x = .ok a) ↔ ∃ b, y = .ok b := by
  cases x with
  | error e => simp [(h e).1 rfl]
  | ok a =>
    cases y with
    | error e => cases (h e).2 rfl
    | ok b => simp

/-- Members that fail like lists of further ones: the whole fails like the lists one after another.
-/
theorem mapM_flatMap {f : α → Except ε β} {g : α → List γ} {k : γ → Except ε δ} {xs : List α}
    (h : ∀ x ∈ xs, FailsLike (f x) ((g x).mapM k)) :
    FailsLike (xs.mapM f) ((xs.flatMap g).mapM k) := by
  induction xs with
  | nil => exact pure
  | cons x xs ih =>
    rw [List.forall_mem_cons] at h
    rw [List.mapM_cons, List.flatMap_cons, List.mapM_append]
    exact h.1.bind fun _ _ _ _ => (ih h.2).bind fun _ _ _ _ => pure

end FailsLike

theorem mapM_eq_some {f : α → Option β} {xs : List α} {ys : List β} :
    xs.mapM f = some ys ↔ List.Forall₂ (fun x y => f x = some y) xs ys := by
  induction xs generalizing ys with
  | nil => simp [eq_comm]
  | cons x xs ih =>
    simp only [List.mapM_cons, Option.bind_eq_bind, Option.bind_eq_some_iff, Option.pure_def,
      Option.some.injEq, List.forall₂_cons_left_iff, ih]
    constructor
    · rintro ⟨y, hy, rest, hrest, rfl⟩
      exact ⟨y, rest, hy, hrest, rfl⟩
    · rintro ⟨y, rest, hy, hrest, rfl⟩
      exact ⟨y, hy, rest, hrest, rfl⟩

theorem exists_mapM_eq_some {f : α → Option β} {xs : List α} (h : ∀ x ∈ xs, ∃ y, f x = some y) :
    ∃ ys, xs.mapM f = some ys := by
  induction xs with
  | nil => exact ⟨[], rfl⟩
  | cons x xs ih =>
    rw [List.forall_mem_cons] at h
    obtain ⟨y, hy⟩ := h.1
    obtain ⟨ys, hys⟩ := ih h.2
    exact ⟨y :: ys, mapM_eq_some.2 (.cons hy (mapM_eq_some.1 hys))⟩

theorem mapM_eq_some_map {f : α → Option β} {g : α → β} {xs : List α}
    (h : ∀ x ∈ xs, f x = some (g x)) : xs.mapM f = some (xs.map g) := by
  rw [mapM_eq_some, List.forall₂_map_right_iff, List.forall₂_same]
  exact h

theorem mapM_eq_none {f : α → Option β} {x : α} {xs : List α} (hx : x ∈ xs) (h : f x = none) :
    xs.mapM f = none := by
  induction xs with
  | nil => cases hx
  | cons y xs ih =>
    rw [List.mapM_cons]
    rcases List.mem_cons.1 hx with rfl | hx
    · rw [h]
      rfl
    · rw [ih hx]
      cases f y <;> rfl

end SqlMapper
