import Mathlib.Data.List.Nodup
import SqlMapper.Proofs.Entity.Consistent
import SqlMapper.Proofs.Query.Source

namespace SqlMapper

/-- The delimiter ends an alias: it begins with a character that no alias has. -/
def EndsAlias (delimiter : String) : Prop :=
  ∃ c cs, delimiter.toList = c :: cs ∧ c.isAlphanum = false

namespace Text

/-- A delimiter is found where it stands, if it cannot begin in what is before. -/
theorem splitFirst?_append {d : Char} {ds before rest : List Char} (h : d ∉ before) :
    splitFirst? (d :: ds) (before ++ d :: ds ++ rest) = some (before, rest) := by
  have hfound : after? (d :: ds) (d :: ds ++ rest) = some rest := after?_eq_some_iff.2 rfl
  induction before with
  | nil => exact splitFirst?_of_after? hfound
  | cons c cs ih =>
    have hc : d ≠ c := fun he => h (he ▸ List.mem_cons_self ..)
    have hrest := ih fun hm => h (List.mem_cons_of_mem _ hm)
    rw [List.cons_append, List.cons_append, splitFirst?, after?, if_neg hc, hrest]
    rfl

theorem splitFirst?_eq_none {delimiter s : List Char} (h : ¬delimiter <:+: s) :
    splitFirst? delimiter s = none := by
  cases hs : splitFirst? delimiter s with
  | none => rfl
  | some parts =>
    obtain ⟨before, rest⟩ := parts
    exact absurd ⟨before, rest, (eq_of_splitFirst? hs).symm⟩ h

end Text

namespace Column

theorem label_qualified {qualifier name delimiter : String} (h : isTableAlias qualifier.toList) :
    (qualified qualifier name delimiter).label = qualifier ++ delimiter ++ name := by
  have hne : qualifier ≠ "" := by
    rintro rfl
    simp [isTableAlias] at h
  simp [qualified, hne]

/-- A name without the delimiter is a name under the fallback alias. -/
theorem read_eq_qualified {raw fallback delimiter : String}
    (h : ¬delimiter.toList <:+: raw.toList) :
    read raw fallback delimiter = qualified fallback raw delimiter := by
  rw [read, Text.splitFirst?_eq_none h]

/-- Without a fallback alias, the label of a name is the name as it was given. -/
theorem label_read (raw delimiter : String) :
    (read raw "" delimiter).label = raw := by
  unfold read
  split
  · rename_i before rest hsplit
    split
    · -- the delimiter was between alias and name, and the label puts it back
      rename_i halias
      have hraw : raw.toList = before ++ delimiter.toList ++ rest := Text.eq_of_splitFirst? hsplit
      have hne : String.ofList before ≠ "" := by
        intro he
        have hnil : before = [] := by simpa using congrArg String.toList he
        simp [hnil, isTableAlias] at halias
      apply String.toList_injective
      simp [qualified, hne, hraw]
    · rfl
  · rfl

/-- What stands before the first delimiter of a label is its alias. -/
theorem splitFirst?_label {qualifier delimiter : String} (name : String)
    (hq : isTableAlias qualifier.toList) (hd : EndsAlias delimiter) :
    Text.splitFirst? delimiter.toList (qualifier ++ delimiter ++ name).toList =
      some (qualifier.toList, name.toList) := by
  obtain ⟨c, cs, hcs, hc⟩ := hd
  have hbefore : c ∉ qualifier.toList := fun hm => by
    rw [isAlphanum_of_isTableAlias hq c hm] at hc
    cases hc
  rw [String.toList_append, String.toList_append, hcs]
  exact Text.splitFirst?_append hbefore

/-- A label is read as the alias and the name that it was made of, whatever the fallback is. -/
theorem read_label {qualifier name delimiter : String} (fallback : String)
    (hq : isTableAlias qualifier.toList) (hd : EndsAlias delimiter) :
    read (qualifier ++ delimiter ++ name) fallback delimiter =
      qualified qualifier name delimiter := by
  rw [read, splitFirst?_label name hq hd]
  simp [hq]

end Column

namespace Join

/-- The join of a first table with further ones, joined one after another. -/
def build (schema : Schema) (qualifier delimiter : String) (steps : List JoinStep) :
    Except SchemaFault Join := do
  let j ← start schema qualifier delimiter
  steps.foldlM (fun j step => j.add step.kind step.table.schema step.table.qualifier step.pairs) j

/-- Every table has an alias of its own. -/
structure OwnAliases (j : Join) : Prop where
  valid : ∀ t ∈ j.tables, SqlMapper.isTableAlias t.qualifier.toList
  distinct : (j.tables.map (·.qualifier)).Nodup

theorem tables_add (j : Join) (step : JoinStep) :
    tables { j with steps := j.steps ++ [step] } = j.tables ++ [step.table] := by
  simp [tables]

theorem OwnAliases.add {j k : Join} {step : JoinStep} (hj : j.OwnAliases)
    (h : j.add step.kind step.table.schema step.table.qualifier step.pairs = .ok k) :
    k = { j with steps := j.steps ++ [step] } ∧ k.OwnAliases := by
  obtain ⟨hvalid, h⟩ := guard_eq_ok.1 h
  obtain ⟨hfree, h⟩ := guard_eq_ok.1 h
  cases h
  simp only [Bool.not_eq_true, Bool.not_eq_false'] at hvalid
  simp only [List.any_eq_true, decide_eq_true_eq, not_exists, not_and] at hfree
  refine ⟨rfl, ?_, ?_⟩
  · rw [tables_add, List.forall_mem_append]
    exact ⟨hj.valid, List.forall_mem_singleton.2 hvalid⟩
  · -- the new alias is none of those before
    rw [tables_add, List.map_append, List.nodup_append]
    refine ⟨hj.distinct, List.nodup_singleton _, ?_⟩
    rintro a ha b hb rfl
    obtain ⟨t, ht, rfl⟩ := List.mem_map.1 ha
    exact hfree t ht (List.mem_singleton.1 hb)

/-- Joining keeps the tables in their order, and succeeds only with aliases of their own. -/
theorem ownAliases_of_build {schema : Schema} {qualifier delimiter : String}
    {steps : List JoinStep} {j : Join} (h : build schema qualifier delimiter steps = .ok j) :
    j = ⟨delimiter, ⟨schema, qualifier⟩, steps⟩ ∧ j.OwnAliases := by
  -- what was joined so far stands before the steps that are left
  have hsteps : ∀ (steps : List JoinStep) (i : Join), i.OwnAliases →
      steps.foldlM (fun j step =>
        j.add step.kind step.table.schema step.table.qualifier step.pairs) i = .ok j →
      j = { i with steps := i.steps ++ steps } ∧ j.OwnAliases := by
    intro steps
    induction steps with
    | nil =>
      intro i hi hfold
      cases hfold
      exact ⟨by simp, hi⟩
    | cons step steps ih =>
      intro i hi hfold
      obtain ⟨k, hadd, hfold⟩ := bind_eq_ok.1 hfold
      obtain ⟨rfl, hk⟩ := hi.add hadd
      obtain ⟨rfl, hj⟩ := ih _ hk hfold
      exact ⟨by simp, hj⟩
  obtain ⟨i, hstart, hfold⟩ := bind_eq_ok.1 h
  unfold start at hstart
  split at hstart
  · rename_i hvalid
    cases hstart
    have hfirst : OwnAliases ⟨delimiter, ⟨schema, qualifier⟩, []⟩ :=
      ⟨by simpa [tables] using hvalid, by simp [tables]⟩
    obtain ⟨rfl, hj⟩ := hsteps steps _ hfirst hfold
    exact ⟨rfl, hj⟩
  · cases hstart

/-- The names of columns do not look like labels, and every table has each name once. -/
structure PlainNames (j : Join) : Prop where
  endsAlias : EndsAlias j.delimiter
  checked : ∀ t ∈ j.tables, t.schema.checked = .ok t.schema
  free : ∀ t ∈ j.tables, ∀ c ∈ t.schema.columns, ¬j.delimiter.toList <:+: c.toList

variable {j : Join}

theorem columns_eq (hp : j.PlainNames) :
    j.columns = j.tables.flatMap fun t =>
      t.schema.columns.map fun c => Column.qualified t.qualifier c j.delimiter := by
  refine List.flatMap_congr fun t ht => List.map_congr_left fun c hc => ?_
  exact Column.read_eq_qualified (hp.free t ht c hc)

theorem mem_columns (hp : j.PlainNames) {c : Column} (hc : c ∈ j.columns) :
    ∃ t ∈ j.tables, ∃ name ∈ t.schema.columns,
      c = Column.qualified t.qualifier name j.delimiter := by
  rw [columns_eq hp] at hc
  obtain ⟨t, ht, hc⟩ := List.mem_flatMap.1 hc
  obtain ⟨name, hname, rfl⟩ := List.mem_map.1 hc
  exact ⟨t, ht, name, hname, rfl⟩

/-- Each label is read as its own column. -/
theorem column_label (hj : j.OwnAliases) (hp : j.PlainNames) {c : Column} (hc : c ∈ j.columns) :
    j.scope.column c.label = c := by
  obtain ⟨t, ht, name, -, rfl⟩ := mem_columns hp hc
  rw [Column.label_qualified (hj.valid t ht)]
  exact Column.read_label _ (hj.valid t ht) hp.endsAlias

theorem nodup_columns (hj : j.OwnAliases) (hp : j.PlainNames) : j.columns.Nodup := by
  rw [columns_eq hp, List.nodup_flatMap]
  constructor
  · -- in one table the names differ
    intro t ht
    refine (Schema.nodup_columns_of_checked (hp.checked t ht)).map fun a b hab => ?_
    exact congrArg Column.name hab
  · -- and in two tables the aliases
    refine (List.pairwise_map.1 hj.distinct).imp fun {t u} htu => ?_
    intro c hct hcu
    obtain ⟨a, -, rfl⟩ := List.mem_map.1 hct
    obtain ⟨b, -, hab⟩ := List.mem_map.1 hcu
    exact htu (congrArg Column.qualifier hab).symm

theorem nodup_labels (hj : j.OwnAliases) (hp : j.PlainNames) : (j.columns.map (·.label)).Nodup := by
  refine (nodup_columns hj hp).map_on fun a ha b hb hab => ?_
  calc
    a = j.scope.column a.label := (column_label hj hp ha).symm
    _ = j.scope.column b.label := by rw [hab]
    _ = b := column_label hj hp hb

theorem item_eq {c : Column} (h : SqlMapper.isTableAlias c.qualifier.toList) :
    c.item = c.reference ++ [.word " AS ", .name c.label] := by
  have hne : c.qualifier ≠ "" := by
    intro he
    simp [he, isTableAlias] at h
  simp [Column.item, hne]

/-- Only a star counts rows, and that is no label. -/
theorem countTarget_label (hj : j.OwnAliases) (hp : j.PlainNames) {c : Column}
    (hc : c ∈ j.columns) : j.relation.countTarget c.label = c.reference := by
  have hstar : c.label ≠ "*" := by
    obtain ⟨t, ht, name, -, rfl⟩ := mem_columns hp hc
    rw [Column.label_qualified (hj.valid t ht)]
    intro he
    have hhead := congrArg (fun s => s.toList.head?) he
    have hvalid := hj.valid t ht
    cases hq : t.qualifier.toList with
    | nil => simp [hq, isTableAlias] at hvalid
    | cons a as =>
      obtain rfl : a = '*' := by simpa [hq] using hhead
      simp [hq, isTableAlias] at hvalid
  unfold Relation.countTarget
  rw [if_neg hstar]
  exact congrArg Column.reference (column_label hj hp hc)

end Join

namespace Supply

/-- Data for one name is a predicate of the one column with that label. -/
theorem predicate_ofList_singleton {columns : List Column} {c : Column} {v : Supplied}
    (hn : (columns.map (·.label)).Nodup) (hc : c ∈ columns) (hv : v.isSet) :
    (FieldMap.ofList [(c.label, v)]).supply.predicate columns = v.term c := by
  have hsupply (b : Column) : (FieldMap.ofList [(c.label, v)]).supply b.label =
      if b.label = c.label then some v else none := by
    show Option.filter Supplied.isSet (List.lookup b.label [(c.label, v)]) = _
    by_cases hb : b.label = c.label
    · simp [hb, hv]
    · simp [List.lookup_cons, beq_false_of_ne hb, hb]
  have hassigned : (FieldMap.ofList [(c.label, v)]).supply.assigned columns = [(c, v)] := by
    obtain ⟨before, after, rfl⟩ := List.append_of_mem hc
    -- all other columns have other labels
    have hother : ∀ b ∈ before ++ after, b.label ≠ c.label := by
      intro b hb he
      rw [List.map_append, List.map_cons, List.nodup_middle, List.nodup_cons, ← List.map_append]
        at hn
      exact hn.1 (he ▸ List.mem_map_of_mem hb)
    have hnone {others : List Column} (h : ∀ b ∈ others, b.label ≠ c.label) :
        (FieldMap.ofList [(c.label, v)]).supply.assigned others = [] := by
      refine List.filterMap_eq_nil_iff.2 fun b hb => ?_
      rw [hsupply, if_neg (h b hb)]
      rfl
    unfold assigned at hnone ⊢
    rw [List.filterMap_append, List.filterMap_cons, hsupply, if_pos rfl,
      hnone fun b hb => hother b (List.mem_append_left _ hb),
      hnone fun b hb => hother b (List.mem_append_right _ hb)]
    rfl
  rw [predicate, hassigned, List.mapM_cons, List.mapM_nil]
  dsimp only
  cases v.term c <;> rfl

end Supply

namespace Join

variable {j : Join}

/-- Every place where a name is read takes the label of the column for the column. -/
structure Addressable (j : Join) (c : Column) : Prop where
  resolved : j.scope.column c.label = c
  condition : ∀ v : Supplied, v.isSet →
    (Condition.fields (.ofList [(c.label, v)])).render j.scope = v.term c
  grouped : Clauses.columnReference j.scope c.label = c.reference
  ordered : (SortItem.column c.label).render j.scope = .ok c.reference
  directed : ∀ d : Direction, (SortItem.directed [c.label] d).render j.scope =
    .ok (c.reference ++ [.word (" " ++ d.label)])
  expressed : ∀ e : Expression, (SortItem.expression c.label e).render j.scope = e.render .order c
  selected : j.relation.item c.label = c.item
  counted : j.relation.countTarget c.label = c.reference

theorem addressable (hj : j.OwnAliases) (hp : j.PlainNames) {c : Column} (hc : c ∈ j.columns) :
    j.Addressable c := by
  have hread : j.scope.column c.label = c := column_label hj hp hc
  refine ⟨hread, fun v hv => ?_, ?_, ?_, fun d => ?_, fun e => ?_, ?_, countTarget_label hj hp hc⟩
  · rw [Condition.render]
    exact Supply.predicate_ofList_singleton (nodup_labels hj hp) hc hv
  · rw [Clauses.columnReference, hread]
  · rw [SortItem.render, hread]
  · simp only [SortItem.render, List.map_cons, List.map_nil, Fragment.joined, hread]
  · rw [SortItem.render, hread]
  · exact congrArg Column.item hread

/-- `FROM` introduces the first table, and a keyword of its own each further one. -/
theorem origin_introduces {f : Fragment} (h : j.origin = .ok f) :
    ∃ parts : List Fragment, f = .word "FROM " :: j.first.fragment ++ parts.flatten ∧
      List.Forall₂ (fun step part => .word step.kind.keyword :: step.table.fragment <+: part)
        j.steps parts := by
  have hstep {delimiter previous : String} {step : JoinStep} {g : Fragment}
      (hg : stepFragment delimiter previous step = .ok g) :
      .word step.kind.keyword :: step.table.fragment <+: g := by
    unfold stepFragment at hg
    split at hg
    · cases hg
      exact List.prefix_rfl
    · obtain ⟨pairs, -, hg⟩ := bind_eq_ok.1 hg
      cases hg
      exact List.prefix_append _ _
  have hsteps : ∀ (steps : List JoinStep) (previous : String) {g : Fragment},
      stepFragments j.delimiter previous steps = .ok g →
      ∃ parts : List Fragment, g = parts.flatten ∧
        List.Forall₂ (fun step part => .word step.kind.keyword :: step.table.fragment <+: part)
          steps parts := by
    intro steps
    induction steps with
    | nil =>
      intro previous g hg
      cases hg
      exact ⟨[], rfl, .nil⟩
    | cons step steps ih =>
      intro previous g hg
      obtain ⟨part, hpart, hg⟩ := bind_eq_ok.1 hg
      obtain ⟨others, hothers, hg⟩ := bind_eq_ok.1 hg
      cases hg
      obtain ⟨parts, rfl, hall⟩ := ih _ hothers
      exact ⟨part :: parts, rfl, .cons (hstep hpart) hall⟩
  obtain ⟨rest, hrest, h⟩ := bind_eq_ok.1 h
  cases h
  obtain ⟨parts, rfl, hall⟩ := hsteps _ _ hrest
  exact ⟨parts, rfl, hall⟩

/-- In a join that was built up of tables with plain names, the aliases are valid and differ, only
the first table is introduced by `FROM`, the columns are those of the tables one after another, the
labels differ and name the items of a whole row in this order, and each of them addresses its
column. -/
theorem labels_address_columns {schema : Schema} {qualifier delimiter : String}
    {steps : List JoinStep} (hb : build schema qualifier delimiter steps = .ok j)
    (hp : j.PlainNames) :
    j = ⟨delimiter, ⟨schema, qualifier⟩, steps⟩ ∧ j.OwnAliases ∧
      (∀ f, j.origin = .ok f → ∃ parts : List Fragment,
        f = .word "FROM " :: j.first.fragment ++ parts.flatten ∧
        List.Forall₂ (fun step part => .word step.kind.keyword :: step.table.fragment <+: part)
          j.steps parts) ∧
      j.columns = (j.tables.flatMap fun t => t.schema.columns.map fun c =>
        ⟨t.qualifier, c, t.qualifier ++ delimiter ++ c⟩) ∧
      (j.columns.map (·.label)).Nodup ∧
      j.relation.projection = Fragment.joined ","
        (j.columns.map fun c => c.reference ++ [.word " AS ", .name c.label]) ∧
      ∀ c ∈ j.columns, j.Addressable c := by
  obtain ⟨hj, ho⟩ := ownAliases_of_build hb
  have hdelimiter : j.delimiter = delimiter := congrArg Join.delimiter hj
  refine ⟨hj, ho, fun f hf => origin_introduces hf, ?_, nodup_labels ho hp, ?_, fun c hc =>
    addressable ho hp hc⟩
  · rw [columns_eq hp, hdelimiter]
    refine List.flatMap_congr fun t ht => List.map_congr_left fun c _ => ?_
    rw [← Column.label_qualified (ho.valid t ht)]
    rfl
  · have hitems : j.columns.map Column.item =
        j.columns.map fun c => c.reference ++ [.word " AS ", .name c.label] := by
      refine List.map_congr_left fun c hc => ?_
      obtain ⟨t, ht, name, -, rfl⟩ := mem_columns hp hc
      exact item_eq (ho.valid t ht)
    exact congrArg (Fragment.joined ",") hitems

def users : Schema := ⟨"users", ["id", ":"], ["id"], ["id"]⟩

/-- The posts of users, with column names that hold parts of the delimiter. -/
def posts : JoinStep :=
  ⟨.left, ⟨⟨"posts", ["id", ":u", "?"], ["id"], []⟩, "u1"⟩, [("id", ":u")]⟩

theorem labels_address_columns_posts :
    ∃ j, build users "u" "::" [posts] = .ok j ∧ j.PlainNames ∧
      j.columns.map (·.label) = ["u::id", "u:::", "u1::id", "u1:::u", "u1::?"] ∧
      j.OwnAliases ∧ ∀ c ∈ j.columns, j.Addressable c := by
  have hb : build users "u" "::" [posts] = .ok ⟨"::", ⟨users, "u"⟩, [posts]⟩ := rfl
  have hp : PlainNames ⟨"::", ⟨users, "u"⟩, [posts]⟩ := by
    refine ⟨⟨':', [':'], rfl, rfl⟩, ?_, ?_⟩
    · simp only [tables]
      decide
    · simp only [tables]
      decide
  obtain ⟨-, ho, -, -, -, -, haddress⟩ := labels_address_columns hb hp
  exact ⟨_, hb, hp, by decide, ho, haddress⟩

end Join
end SqlMapper
