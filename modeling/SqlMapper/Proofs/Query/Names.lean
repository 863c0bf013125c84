import SqlMapper.Query.Join
import SqlMapper.Proofs.Supply.Bound

namespace SqlMapper

variable {s : Scope} {stage : Stage}

namespace Column

@[simp] theorem names_reference (c : Column) : c.reference.names = [c.name] := by
  unfold reference
  split <;> simp

/-- The names of the column as an item: its own, and the label of a qualified one. -/
def itemNames (c : Column) : List String :=
  if c.qualifier.isEmpty then [c.name] else [c.name, c.label]

@[simp] theorem names_item (c : Column) : c.item.names = c.itemNames := by
  unfold item itemNames
  split <;> simp

end Column

theorem Comparison.names_fragment (q : Comparison) : q.fragment.names = [] := by
  cases q with
  | among values =>
    cases values with
    | nil => rfl
    | cons v vs =>
      have hslots : (Fragment.joined "," ((v :: vs).map fun v => [.slot v])).names = [] := by
        rw [Fragment.names_joined_map, List.flatMap_eq_nil_iff]
        exact fun v _ => rfl
      simp only [fragment, List.cons_append, Fragment.names_word_cons, Fragment.names_append,
        hslots]
      rfl
  | _ => simp [fragment]

namespace Expression

theorem names_change {e : Expression} {f : Fragment} (h : e.change? = some f) : f.names = [] := by
  cases e <;> cases h <;> simp

theorem names_standalone (e : Expression) : e.standalone.names = [] := by
  cases e <;> simp [standalone, function?, later]

theorem names_applied {e : Expression} (h : Position.order ∈ e.positions) (column : Fragment) :
    (e.applied column).names = column.names := by
  -- only the address functions order
  cases e with
  | addressToNumber _ | numberToAddress _ => simp [applied, function?]
  | _ => simp [positions] at h

end Expression

namespace Supplied

/-- The names in the assignment of a column. A change of the column names it again. -/
def assignedNames (c : Column) : Supplied → List String
  | expression e => if e.change?.isSome then [c.name, c.name] else [c.name]
  | value _ | comparison _ => [c.name]

variable {c : Column} {v : Supplied}

theorem names_term {f : Fragment} (h : v.term c = .ok f) : f.names = [c.name] := by
  cases v with
  | value v =>
    cases h
    simp
  | comparison q =>
    cases h
    simp [q.names_fragment]
  | expression e => cases h

theorem names_insertSlot {slot : Slot} (h : v.insertSlot c = .ok slot) :
    slot.fragment.names = [] := by
  cases v with
  | value v =>
    cases h
    rfl
  | comparison q => cases h
  | expression e =>
    obtain ⟨f, hf, rfl⟩ := map_eq_ok.1 h
    unfold Expression.render at hf
    split at hf
    · cases hf
      exact e.names_standalone
    · cases hf

theorem names_updateSlot {slot : Slot} (h : v.updateSlot c = .ok slot) :
    slot.fragment.names = v.assignedNames c := by
  cases v with
  | value v =>
    cases h
    simp [Slot.fragment, assignedNames]
  | comparison q => cases h
  | expression e =>
    obtain ⟨f, hf, rfl⟩ := map_eq_ok.1 h
    unfold Expression.render at hf
    split at hf
    · cases hf
      simp only [Slot.fragment, Expression.assignment, assignedNames]
      cases hchange : e.change? with
      | some g => simp [Expression.names_change hchange]
      | none => simp [e.names_standalone]
    · cases hf

end Supplied

namespace Supply

/-- The names of the columns that the data sets. -/
def names (data : Supply) (columns : List Column) : List String :=
  (data.assigned columns).map fun p => p.1.name

def assignedNames (data : Supply) (columns : List Column) : List String :=
  (data.assigned columns).flatMap fun p => p.2.assignedNames p.1

variable {data : Supply} {columns : List Column}

theorem names_predicate {f : Fragment} (h : data.predicate columns = .ok f) :
    f.names = data.names columns := by
  obtain ⟨terms, hterms, hf⟩ := bind_eq_ok.1 h
  cases hf
  rw [names, List.map_eq_flatMap]
  exact Fragment.names_joined_of_forall₂
    (forall₂_of_mapM hterms fun p _ f hf => Supplied.names_term hf)

theorem names_references (w : String) :
    (Fragment.joined w ((data.assigned columns).map fun p => p.1.reference)).names =
      data.names columns :=
  Fragment.names_joined_map_of_eq fun p => p.1.names_reference

theorem names_slots {found : List Slot} {position : Position} {w : String}
    {g : Column × Supplied → List String} (h : data.slots position columns = .ok found)
    (hg : ∀ p ∈ data.assigned columns, ∀ s, p.2.slot position p.1 = .ok s →
      s.fragment.names = g p) :
    (Fragment.joined w (found.map Slot.fragment)).names = (data.assigned columns).flatMap g := by
  refine Fragment.names_joined_of_forall₂ ?_
  rw [List.forall₂_map_left_iff]
  exact forall₂_of_mapM h hg

end Supply

namespace Condition

mutual

/-- The names that a condition refers to, from left to right. -/
def names (s : Scope) : Condition → List String
  | fields map => map.supply.names s.columns
  | all conditions => namesAll s conditions
  | any conditions => namesAll s conditions
  | not condition => names s condition
  | raw _ => []

def namesAll (s : Scope) : List Condition → List String
  | [] => []
  | condition :: rest => names s condition ++ namesAll s rest

end

mutual

theorem names_render : ∀ (c : Condition) {f : Fragment}, c.render s = .ok f → f.names = c.names s
  | fields map, f, h => by
    rw [render] at h
    rw [names, Supply.names_predicate h]
  | all conditions, f, h => by
    rw [render] at h
    obtain ⟨parts, hparts, hf⟩ := bind_eq_ok.1 h
    cases hf
    rw [names, Fragment.names_joined, names_renderAll conditions hparts]
  | any conditions, f, h => by
    rw [render] at h
    obtain ⟨parts, hparts, hf⟩ := bind_eq_ok.1 h
    cases hf
    rw [names, Fragment.names_joined, names_renderAll conditions hparts]
  | not condition, f, h => by
    rw [render] at h
    obtain ⟨inner, hinner, hf⟩ := bind_eq_ok.1 h
    cases hf
    simp [names, names_render condition hinner]
  | raw text, f, h => by
    rw [render] at h
    cases h
    simp [names]

theorem names_renderAll : ∀ (cs : List Condition) {fs : List Fragment},
    renderAll s cs = .ok fs → fs.flatMap Fragment.names = namesAll s cs
  | [], fs, h => by
    rw [renderAll] at h
    cases h
    rw [namesAll, List.flatMap_nil]
  | c :: cs, fs, h => by
    rw [renderAll] at h
    obtain ⟨f, hf, h⟩ := bind_eq_ok.1 h
    obtain ⟨rest, hrest, h⟩ := bind_eq_ok.1 h
    cases h
    rw [List.flatMap_cons, Fragment.names_inParens, names_render c hf, names_renderAll cs hrest,
      namesAll]

end

end Condition

/-- The names that an item of an ordering refers to. -/
def SortItem.names (s : Scope) : SortItem → List String
  | .column name | .expression name _ => [(s.column name).name]
  | .directed names _ => names.map fun name => (s.column name).name

theorem SortItem.names_render {item : SortItem} {f : Fragment} (h : item.render s = .ok f) :
    f.names = item.names s := by
  cases item with
  | column name =>
    cases h
    exact Column.names_reference _
  | directed names direction =>
    cases h
    exact Fragment.names_joined_map_of_eq fun name => by simp
  | expression name e =>
    simp only [render, Expression.render] at h
    split at h
    · rename_i hallowed
      cases h
      rw [Expression.names_applied hallowed, Column.names_reference, SortItem.names]
    · cases h

namespace Clauses

/-- The names that a chain of clauses refers to. -/
def names (s : Scope) {stage : Stage} : Clauses stage → List String
  | filter condition => condition.names s
  | groupBy clauses names => clauses.names s ++ names.map fun name => (s.column name).name
  | having clauses condition => clauses.names s ++ condition.names s
  | orderBy clauses _ items => clauses.names s ++ items.flatMap (SortItem.names s)
  | limit clauses _ _ _ => clauses.names s

theorem names_conditional (keyword : String) (f : Fragment) :
    (conditional keyword f).names = f.names := by
  unfold conditional
  split
  · rename_i hblank
    rw [Fragment.names_eq_nil_of_isBlank hblank, Fragment.names_nil]
  · exact Fragment.names_word_cons keyword f

theorem names_render (c : Clauses stage) {f : Fragment} (h : c.render s = .ok f) :
    f.names = c.names s := by
  induction c generalizing f with
  | filter condition =>
    obtain ⟨g, hg, hf⟩ := bind_eq_ok.1 h
    cases hf
    rw [names_conditional, condition.names_render hg, names]
  | groupBy clauses columns ih =>
    obtain ⟨front, hfront, hf⟩ := bind_eq_ok.1 h
    split at hf
    · -- a grouping by nothing is left out, and names nothing
      rename_i hempty
      cases hf
      rw [ih hfront, names, List.isEmpty_iff.1 hempty, List.map_nil, List.append_nil]
    · cases hf
      have hcolumns : (Fragment.joined ", " (columns.map (columnReference s))).names =
          columns.map fun name => (s.column name).name :=
        Fragment.names_joined_map_of_eq fun name => (s.column name).names_reference
      rw [Fragment.names_append, Fragment.names_word_cons, ih hfront, hcolumns, names]
  | having clauses condition ih =>
    obtain ⟨front, hfront, hf⟩ := bind_eq_ok.1 h
    obtain ⟨g, hg, hf⟩ := bind_eq_ok.1 hf
    cases hf
    rw [Fragment.names_append, names_conditional, ih hfront, condition.names_render hg, names]
  | orderBy clauses _ items ih =>
    obtain ⟨front, hfront, hf⟩ := bind_eq_ok.1 h
    split at hf
    · rename_i hempty
      cases hf
      rw [ih hfront, names, List.isEmpty_iff.1 hempty, List.flatMap_nil, List.append_nil]
    · obtain ⟨parts, hparts, hf⟩ := bind_eq_ok.1 hf
      cases hf
      have hitems : (Fragment.joined "," parts).names = items.flatMap (SortItem.names s) :=
        Fragment.names_joined_of_forall₂
          (forall₂_of_mapM hparts fun item _ f hf => SortItem.names_render hf)
      rw [Fragment.names_append, Fragment.names_word_cons, ih hfront, hitems, names]
  | limit clauses _ offset count ih =>
    obtain ⟨front, hfront, hf⟩ := bind_eq_ok.1 h
    split at hf <;> cases hf <;> simp [names, ih hfront]

end Clauses

namespace Join

/-- The names of a step: its table, and the columns of its condition. -/
def stepNames (delimiter previous : String) (step : JoinStep) : List String :=
  step.table.schema.table :: step.pairs.flatMap fun p =>
    [(Column.read p.1 previous delimiter).name,
      (Column.read p.2 step.table.qualifier delimiter).name]

def stepsNames (delimiter : String) : (previous : String) → List JoinStep → List String
  | _, [] => []
  | previous, step :: rest =>
    stepNames delimiter previous step ++ stepsNames delimiter step.table.qualifier rest

/-- The names of the tables with the columns that relate them. -/
def originNames (j : Join) : List String :=
  j.first.schema.table :: stepsNames j.delimiter j.first.qualifier j.steps

theorem names_table (t : AliasedTable) : t.fragment.names = [t.schema.table] := by
  simp [AliasedTable.fragment]

theorem names_conditionPair {delimiter previous qualifier : String} {pair : String × String}
    {f : Fragment} (h : conditionPair delimiter previous qualifier pair = .ok f) :
    f.names = [(Column.read pair.1 previous delimiter).name,
      (Column.read pair.2 qualifier delimiter).name] := by
  have hcolumn {raw expected : String} {g : Fragment}
      (hg : conditionColumn delimiter raw expected = .ok g) :
      g.names = [(Column.read raw expected delimiter).name] := by
    simp only [conditionColumn] at hg
    split at hg
    · cases hg
      exact Column.names_reference _
    · cases hg
  obtain ⟨left, hleft, h⟩ := bind_eq_ok.1 h
  obtain ⟨right, hright, h⟩ := bind_eq_ok.1 h
  cases h
  rw [Fragment.names_append, Fragment.names_word_cons, hcolumn hleft, hcolumn hright]
  rfl

theorem names_stepFragment {delimiter previous : String} {step : JoinStep} {f : Fragment}
    (h : stepFragment delimiter previous step = .ok f) :
    f.names = stepNames delimiter previous step := by
  unfold stepFragment at h
  split at h
  · -- without pairs there is no condition
    rename_i hempty
    cases h
    rw [Fragment.names_word_cons, names_table, stepNames, List.isEmpty_iff.1 hempty,
      List.flatMap_nil]
  · obtain ⟨pairs, hpairs, h⟩ := bind_eq_ok.1 h
    cases h
    have hon : (Fragment.joined " AND " pairs).names = step.pairs.flatMap fun p =>
        [(Column.read p.1 previous delimiter).name,
          (Column.read p.2 step.table.qualifier delimiter).name] :=
      Fragment.names_joined_of_forall₂
        (forall₂_of_mapM hpairs fun pair _ f hf => names_conditionPair hf)
    simp [names_table, hon, stepNames]

theorem names_stepFragments {delimiter : String} {steps : List JoinStep} {previous : String}
    {f : Fragment} (h : stepFragments delimiter previous steps = .ok f) :
    f.names = stepsNames delimiter previous steps := by
  induction steps generalizing previous f with
  | nil =>
    cases h
    rfl
  | cons step rest ih =>
    obtain ⟨g, hg, h⟩ := bind_eq_ok.1 h
    obtain ⟨k, hk, h⟩ := bind_eq_ok.1 h
    cases h
    rw [Fragment.names_append, names_stepFragment hg, ih hk, stepsNames]

theorem names_origin {j : Join} {f : Fragment} (h : j.origin = .ok f) :
    f.names = j.originNames := by
  obtain ⟨rest, hrest, h⟩ := bind_eq_ok.1 h
  cases h
  simp [names_table, names_stepFragments hrest, originNames]

end Join
end SqlMapper
