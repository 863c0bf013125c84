import Mathlib.Data.List.Nodup
import SqlMapper.Proofs.Supply.Bound

namespace SqlMapper

namespace FieldMap

variable {r : FieldMap} {name : String} {u : Supplied}

/-- What was put last for a name. -/
def last (puts : List (String × Supplied)) (name : String) : Option Supplied :=
  puts.reverse.lookup name

theorem lookup_ofList (puts : List (String × Supplied)) (name : String) :
    (ofList puts).entries.lookup name = last puts name := by
  have hnone : empty.entries.lookup name = none := rfl
  rw [ofList, lookup_foldl_put, hnone, Option.or_none, last]

theorem supply_ofList (puts : List (String × Supplied)) (name : String) :
    (ofList puts).supply name = (last puts name).filter Supplied.isSet := by
  rw [supply, lookup_ofList]

/-- Names differ, so that each entry is what its name stands for. -/
theorem mem_entries_iff : (name, u) ∈ r.entries ↔ r.entries.lookup name = some u := by
  rw [List.lookup_eq_some_iff]
  constructor
  · intro h
    obtain ⟨before, after, he⟩ := List.append_of_mem h
    have hnodup := r.nodup
    rw [he, List.map_append, List.map_cons, List.nodup_middle, List.nodup_cons] at hnodup
    refine ⟨before, after, he, fun p hp => ?_⟩
    have hne : name ≠ p.1 := by
      intro hname
      have hmem : p.1 ∈ before.map (·.1) := List.mem_map_of_mem hp
      exact hnodup.1 (List.mem_append_left _ (hname ▸ hmem))
    simpa using hne
  · rintro ⟨before, after, he, -⟩
    rw [he]
    exact List.mem_append_right _ (List.mem_cons_self ..)

/-- The names of the set entries. -/
def setNames (r : FieldMap) : List String := (r.entries.filter fun e => e.2.isSet).map (·.1)

theorem length_setNames (r : FieldMap) : r.setNames.length = r.count := by
  rw [setNames, List.length_map, count, List.countP_eq_length_filter]

theorem nodup_setNames (r : FieldMap) : r.setNames.Nodup :=
  r.nodup.sublist (List.filter_sublist.map _)

theorem mem_setNames : name ∈ r.setNames ↔ (r.supply name).isSome := by
  rw [setNames, supply, List.mem_map, Option.isSome_iff_exists]
  simp only [List.mem_filter, Option.filter_eq_some_iff]
  constructor
  · rintro ⟨⟨n, u⟩, ⟨hmem, hset⟩, rfl⟩
    exact ⟨u, mem_entries_iff.1 hmem, hset⟩
  · rintro ⟨u, hlookup, hset⟩
    exact ⟨(name, u), ⟨mem_entries_iff.2 hlookup, hset⟩, rfl⟩

end FieldMap

namespace Supplied

/-- The term of a column as its text with the values that it binds: equality to a plain value, or
the comparison. An expression has none. -/
def criterion? (d : Dialect) (c : Column) : Supplied → Option (String × List Value)
  | value v => some (c.reference.text d ++ "=?", [v])
  | comparison q => some (c.reference.text d ++ " " ++ q.fragment.text d, q.bound)
  | expression _ => none

theorem criterion?_of_term {d : Dialect} {c : Column} {u : Supplied} {f : Fragment}
    (h : u.term c = .ok f) : u.criterion? d c = some (f.text d, f.values) := by
  have hreference : c.reference.values = [] := by
    unfold Column.reference
    split <;> rfl
  cases u with
  | value v =>
    cases h
    rw [criterion?, Fragment.text_append, Fragment.values_append, hreference]
    rfl
  | comparison q =>
    cases h
    have hcarries : q.fragment.Carries true q.bound := q.fragment_carries
    have hq : q.fragment.values = q.bound := hcarries.values_eq
    have hvalues : Fragment.values (.word " " :: q.fragment) = q.bound := hq
    rw [criterion?, Fragment.text_append, Fragment.text_word_cons, Fragment.values_append,
      hreference, hvalues, List.nil_append, String.append_assoc]
  | expression e => cases h

end Supplied

namespace Supply

variable {data : Supply} {columns : List Column} {f : Fragment} {d : Dialect}

/-- The columns that the data sets. -/
def setColumns (data : Supply) (columns : List Column) : List Column :=
  columns.filter fun c => (data c.label).isSome

theorem map_fst_assigned (data : Supply) (columns : List Column) :
    (data.assigned columns).map (·.1) = data.setColumns columns := by
  rw [assigned, List.map_filterMap, setColumns, ← List.filterMap_eq_filter]
  refine List.filterMap_congr fun c _ => ?_
  cases hc : data c.label <;> simp [Option.guard, hc]

/-- Columns that data sets come with what it supplies for them. -/
theorem forall₂_assigned {β : Type} {R : Column → Supplied → β → Prop} {xs : List β} :
    List.Forall₂ (fun p x => R p.1 p.2 x) (data.assigned columns) xs ↔
      List.Forall₂ (fun c x => ∃ u, data c.label = some u ∧ R c u x) (data.setColumns columns)
        xs := by
  induction columns generalizing xs with
  | nil =>
    show List.Forall₂ _ [] xs ↔ List.Forall₂ _ [] xs
    rw [List.forall₂_nil_left_iff, List.forall₂_nil_left_iff]
  | cons c columns ih =>
    cases hc : data c.label with
    | none =>
      have hassigned : data.assigned (c :: columns) = data.assigned columns := by
        simp [assigned, hc]
      have hset : data.setColumns (c :: columns) = data.setColumns columns := by
        simp [setColumns, hc]
      rw [hassigned, hset, ih]
    | some u =>
      have hassigned : data.assigned (c :: columns) = (c, u) :: data.assigned columns := by
        simp [assigned, hc]
      have hset : data.setColumns (c :: columns) = c :: data.setColumns columns := by
        simp [setColumns, hc]
      rw [hassigned, hset, List.forall₂_cons_left_iff, List.forall₂_cons_left_iff]
      simp only [ih, hc, Option.some.injEq, exists_eq_left']

/-- Only the labels of the columns are asked for. -/
theorem predicate_congr {others : Supply} (h : ∀ c ∈ columns, others c.label = data c.label) :
    others.predicate columns = data.predicate columns := by
  have hassigned : others.assigned columns = data.assigned columns :=
    List.filterMap_congr fun c hc => by rw [h c hc]
  rw [predicate, hassigned, predicate]

theorem predicate_eq_ok : data.predicate columns = .ok f ↔ ∃ terms,
    List.Forall₂ (fun c t => ∃ u, data c.label = some u ∧ u.term c = .ok t)
      (data.setColumns columns) terms ∧ Fragment.joined " AND " terms = f := by
  rw [predicate, bind_eq_ok]
  refine exists_congr fun terms => and_congr ?_ pure_eq_ok
  exact mapM_eq_ok.trans (forall₂_assigned (R := fun c u t => u.term c = .ok t))

/-- The first set column that holds an expression decides the error. -/
theorem predicate_eq_error {m : Misplaced} : data.predicate columns = .error m ↔
    ∃ before c after e, columns = before ++ c :: after ∧
      (∀ b ∈ before, ∀ e, data b.label ≠ some (.expression e)) ∧
      data c.label = some (.expression e) ∧ m = ⟨.expression e, .filter⟩ := by
  induction columns with
  | nil =>
    have hok : data.predicate [] = .ok [] := rfl
    rw [hok]
    simp
  | cons c columns ih =>
    have hstep : data.predicate (c :: columns) = .error m ↔
        (∃ e, data c.label = some (.expression e) ∧ m = ⟨.expression e, .filter⟩) ∨
          (∀ e, data c.label ≠ some (.expression e)) ∧ data.predicate columns = .error m := by
      unfold predicate
      cases hc : data c.label with
      | none =>
        have hassigned : data.assigned (c :: columns) = data.assigned columns := by
          simp [assigned, hc]
        simp [hassigned]
      | some u =>
        have hassigned : data.assigned (c :: columns) = (c, u) :: data.assigned columns := by
          simp [assigned, hc]
        rw [hassigned, List.mapM_cons]
        generalize (data.assigned columns).mapM (fun p => p.2.term p.1) = rest
        -- a value or comparison leaves the decision to the rest
        cases u with
        | expression e => simp [Supplied.term, bind, Except.bind, eq_comm]
        | value v => cases rest <;> simp [Supplied.term, bind, Except.bind, pure, Except.pure]
        | comparison q => cases rest <;> simp [Supplied.term, bind, Except.bind, pure, Except.pure]
    rw [hstep, ih]
    constructor
    · rintro (⟨e, he, hm⟩ | ⟨hc, before, b, after, e, rfl, hbefore, he, hm⟩)
      · exact ⟨[], c, columns, e, rfl, by simp, he, hm⟩
      · exact ⟨c :: before, b, after, e, rfl, List.forall_mem_cons.2 ⟨hc, hbefore⟩, he, hm⟩
    · rintro ⟨before, b, after, e, hcolumns, hbefore, he, hm⟩
      cases before with
      | nil =>
        obtain ⟨rfl, rfl⟩ := List.cons.inj hcolumns
        exact .inl ⟨e, he, hm⟩
      | cons a before =>
        obtain ⟨rfl, rfl⟩ := List.cons.inj hcolumns
        rw [List.forall_mem_cons] at hbefore
        exact .inr ⟨hbefore.1, before, b, after, e, rfl, hbefore.2, he, hm⟩

/-- What is set in the maps of columns with distinct labels, and in no others, is counted by the
columns. -/
theorem length_setColumns {r : FieldMap} (hn : (columns.map (·.label)).Nodup)
    (h : ∀ name, (r.supply name).isSome → name ∈ columns.map (·.label)) :
    (r.supply.setColumns columns).length = r.count := by
  have hlabels : ((r.supply.setColumns columns).map (·.label)).Nodup :=
    hn.sublist (List.filter_sublist.map _)
  -- neither list repeats a name, and they have the same ones
  have hperm : ((r.supply.setColumns columns).map (·.label)).Perm r.setNames := by
    rw [List.perm_ext_iff_of_nodup hlabels r.nodup_setNames]
    intro name
    rw [FieldMap.mem_setNames, setColumns, List.mem_map]
    simp only [List.mem_filter]
    constructor
    · rintro ⟨c, ⟨-, hset⟩, rfl⟩
      exact hset
    · intro hset
      obtain ⟨c, hc, rfl⟩ := List.mem_map.1 (h name hset)
      exact ⟨c, ⟨hc, hset⟩, rfl⟩
  calc
    (r.supply.setColumns columns).length = ((r.supply.setColumns columns).map (·.label)).length :=
      (List.length_map _).symm
    _ = r.setNames.length := hperm.length_eq
    _ = r.count := r.length_setNames

end Supply

namespace Column

/-- An alias without marks, which is every valid one, hides nothing from readers. -/
theorem reference_carries_of_avoids {c : Column} (h : Avoids true c.qualifier) :
    c.reference.Carries true [] := by
  unfold reference
  by_cases he : c.qualifier = ""
  · simpa [he] using Fragment.Carries.name c.name
  · have halias : isPlainWord c.qualifier := by
      rw [isPlainWord, Bool.and_eq_true, List.all_eq_true]
      exact ⟨by simpa using he, fun x hx => by rw [h x hx]; rfl⟩
    have hdot : isPlainWord (c.qualifier ++ ".") := isPlainWord_append halias (by decide)
    simpa [he] using (Fragment.Carries.name c.name).word_cons hdot

end Column

/-- A reader finds as many placeholders as there are values. -/
theorem Fragment.Carries.exists_lexemes (d : Dialect) {f : Fragment} {vs : List Value}
    (h : f.Carries true vs) :
    ∃ ls, d.lexemes (f.text d) = some ls ∧ ls.count (.char placeholder) = vs.length := by
  obtain ⟨ls, hls, hout⟩ := Option.bind_eq_some_iff.1 (Fragment.read_text d h.separate)
  exact ⟨ls, hls, h.values_eq ▸ count_placeholder_of_handOut hout⟩

namespace FieldMap

/-- The predicate of the map that some puts make is decided by the last value of each name: it is
that of all other puts with the same last values, and of all maps with the same set entries for
labels of the columns. The first column that holds an expression is reported; otherwise there is one
term for each set column, in the order of the columns. Where the labels differ, and only columns
are set, to plain values, there are as many terms as set fields, with a placeholder after each
column, and as many values. Readers find these placeholders and no others, as long as no set column
has marks in its alias, which is not quoted. -/
structure LastDecides (columns : List Column) (puts : List (String × Supplied)) : Prop where
  same : ∀ others, (∀ name, last others name = last puts name) →
    (ofList others).supply.predicate columns = (ofList puts).supply.predicate columns
  entries : ∀ r : FieldMap,
    (∀ e, e.2.isSet → e.1 ∈ columns.map (·.label) → (e ∈ r.entries ↔ e ∈ (ofList puts).entries)) →
    r.supply.predicate columns = (ofList puts).supply.predicate columns
  fails : ∀ m, (ofList puts).supply.predicate columns = .error m ↔
    ∃ before c after e, columns = before ++ c :: after ∧
      (∀ b ∈ before, ∀ e, last puts b.label ≠ some (.expression e)) ∧
      last puts c.label = some (.expression e) ∧ m = ⟨.expression e, .filter⟩
  terms : ∀ d f, (ofList puts).supply.predicate columns = .ok f →
    ∃ terms : List (String × List Value),
      List.Forall₂ (fun c t => ∃ u, last puts c.label = some u ∧ u.isSet ∧
          u.criterion? d c = some t)
        (columns.filter fun c => (last puts c.label).any Supplied.isSet) terms ∧
      f.text d = " AND ".intercalate (terms.map (·.1)) ∧ f.values = terms.flatMap (·.2)
  counted : (columns.map (·.label)).Nodup →
    (∀ name u, (ofList puts).supply name = some u →
      name ∈ columns.map (·.label) ∧ ∃ v, u = .value v) →
    ∃ f : Fragment, (ofList puts).supply.predicate columns = .ok f ∧
      f.values.length = (ofList puts).count ∧
      ((ofList puts).supply.setColumns columns).length = (ofList puts).count ∧
      ∀ d : Dialect, f.text d = " AND ".intercalate
          (((ofList puts).supply.setColumns columns).map fun c => c.reference.text d ++ "=?") ∧
        ((∀ c ∈ (ofList puts).supply.setColumns columns, Avoids true c.qualifier) →
          ∃ ls, d.lexemes (f.text d) = some ls ∧
            ls.count (.char placeholder) = (ofList puts).count)

variable {columns : List Column} {r : FieldMap} {name : String} {u : Supplied} {f : Fragment}

theorem supply_eq_some_iff : r.supply name = some u ↔ (name, u) ∈ r.entries ∧ u.isSet := by
  rw [supply, Option.filter_eq_some_iff, mem_entries_iff]

theorem exists_criteria (d : Dialect) (h : r.supply.predicate columns = .ok f) :
    ∃ terms : List (String × List Value),
      List.Forall₂ (fun c t => ∃ u, r.supply c.label = some u ∧ u.criterion? d c = some t)
        (r.supply.setColumns columns) terms ∧
      f.text d = " AND ".intercalate (terms.map (·.1)) ∧ f.values = terms.flatMap (·.2) := by
  obtain ⟨terms, hterms, rfl⟩ := Supply.predicate_eq_ok.1 h
  refine ⟨terms.map fun t => (t.text d, t.values), ?_, ?_, ?_⟩
  · rw [List.forall₂_map_right_iff]
    refine hterms.imp fun c t => ?_
    rintro ⟨u, hu, hterm⟩
    exact ⟨u, hu, Supplied.criterion?_of_term hterm⟩
  · rw [Fragment.text_joined, List.map_map]
    rfl
  · rw [Fragment.values_joined, List.flatMap_map]

/-- Plain values are bound one for each set column. -/
theorem length_values_of_plain (hplain : ∀ name u, r.supply name = some u → ∃ v, u = .value v)
    (h : r.supply.predicate columns = .ok f) :
    f.values.length = (r.supply.setColumns columns).length := by
  obtain ⟨terms, hterms, -, hvalues⟩ := exists_criteria .sqlite h
  have hone : ∀ t ∈ terms, t.2.length = 1 := by
    intro t ht
    obtain ⟨c, u, hu, hcriterion⟩ := exists_of_forall₂ hterms.flip ht
    obtain ⟨v, rfl⟩ := hplain _ u hu
    cases hcriterion
    rfl
  rw [hvalues, List.length_flatMap, List.map_congr_left hone, hterms.length_eq]
  simp

/-- Plain values have one placeholder each, after the column. -/
theorem text_of_plain (d : Dialect) (hplain : ∀ name u, r.supply name = some u → ∃ v, u = .value v)
    (h : r.supply.predicate columns = .ok f) :
    f.text d = " AND ".intercalate
      ((r.supply.setColumns columns).map fun c => c.reference.text d ++ "=?") := by
  obtain ⟨terms, hterms, htext, -⟩ := exists_criteria d h
  have htexts : List.Forall₂ Eq
      ((r.supply.setColumns columns).map fun c => c.reference.text d ++ "=?")
      (terms.map (·.1)) := by
    rw [List.forall₂_map_left_iff, List.forall₂_map_right_iff]
    refine hterms.imp fun c t => ?_
    rintro ⟨u, hu, hcriterion⟩
    obtain ⟨v, rfl⟩ := hplain _ u hu
    cases hcriterion
    rfl
  rw [List.forall₂_eq_eq_eq] at htexts
  rw [htext, htexts]

/-- Where all that is set are columns, with plain values, these are as many as the set fields. -/
theorem exists_counted (hn : (columns.map (·.label)).Nodup)
    (hplain : ∀ name u, r.supply name = some u →
      name ∈ columns.map (·.label) ∧ ∃ v, u = .value v) :
    ∃ f : Fragment, r.supply.predicate columns = .ok f ∧ f.values.length = r.count ∧
      (r.supply.setColumns columns).length = r.count ∧
      ∀ d : Dialect, f.text d = " AND ".intercalate
          ((r.supply.setColumns columns).map fun c => c.reference.text d ++ "=?") ∧
        ((∀ c ∈ r.supply.setColumns columns, Avoids true c.qualifier) →
          ∃ ls, d.lexemes (f.text d) = some ls ∧ ls.count (.char placeholder) = r.count) := by
  have hvalue : ∀ name u, r.supply name = some u → ∃ v, u = .value v := fun name u hu =>
    (hplain name u hu).2
  have hok : ∃ f, r.supply.predicate columns = .ok f := by
    cases hpredicate : r.supply.predicate columns with
    | ok f => exact ⟨f, rfl⟩
    | error m =>
      obtain ⟨_, c, _, e, -, -, he, -⟩ := Supply.predicate_eq_error.1 hpredicate
      obtain ⟨v, hv⟩ := hvalue _ _ he
      cases hv
  obtain ⟨f, hf⟩ := hok
  have hset : (r.supply.setColumns columns).length = r.count := by
    apply Supply.length_setColumns hn
    intro name hset
    obtain ⟨u, hu⟩ := Option.isSome_iff_exists.1 hset
    exact (hplain name u hu).1
  have hlength : f.values.length = r.count := (length_values_of_plain hvalue hf).trans hset
  refine ⟨f, hf, hlength, hset, fun d => ⟨text_of_plain d hvalue hf, fun haliases => ?_⟩⟩
  have hcolumns : ∀ p ∈ r.supply.assigned columns, p.1.reference.Carries true [] := by
    intro p hp
    apply Column.reference_carries_of_avoids
    apply haliases
    rw [← Supply.map_fst_assigned]
    exact List.mem_map_of_mem hp
  have hcarries : f.Carries true (r.supply.bound columns) := Supply.predicate_carries hcolumns hf
  obtain ⟨ls, hls, hplaceholders⟩ := hcarries.exists_lexemes d
  exact ⟨ls, hls, by rw [hplaceholders, ← hcarries.values_eq, hlength]⟩

/-- What is looked up and then counted as set. -/
theorem any_isSet_iff (puts : List (String × Supplied)) (name : String) :
    (last puts name).any Supplied.isSet = ((ofList puts).supply name).isSome := by
  rw [supply_ofList]
  cases last puts name with
  | none => rfl
  | some u => cases h : u.isSet <;> simp [h, Option.filter]

theorem last_decides (columns : List Column) (puts : List (String × Supplied)) :
    LastDecides columns puts where
  same others h := by
    apply Supply.predicate_congr
    intro c hc
    rw [supply_ofList, supply_ofList, h]
  entries r h := by
    apply Supply.predicate_congr
    intro c hc
    have hlabel : c.label ∈ columns.map (·.label) := List.mem_map_of_mem hc
    ext u
    rw [supply_eq_some_iff, supply_eq_some_iff]
    constructor
    · rintro ⟨hmem, hset⟩
      exact ⟨(h (c.label, u) hset hlabel).1 hmem, hset⟩
    · rintro ⟨hmem, hset⟩
      exact ⟨(h (c.label, u) hset hlabel).2 hmem, hset⟩
  fails m := by
    -- an expression always counts as set
    have hexpression (name : String) (e : Expression) :
        (ofList puts).supply name = some (.expression e) ↔
          last puts name = some (.expression e) := by
      rw [supply_ofList, Option.filter_eq_some_iff]
      exact and_iff_left rfl
    rw [Supply.predicate_eq_error]
    simp only [Ne, hexpression]
  terms d f h := by
    obtain ⟨terms, hterms, htext, hvalues⟩ := exists_criteria d h
    refine ⟨terms, ?_, htext, hvalues⟩
    have hset : (columns.filter fun c => (last puts c.label).any Supplied.isSet) =
        (ofList puts).supply.setColumns columns :=
      List.filter_congr fun c _ => any_isSet_iff puts c.label
    rw [hset]
    refine hterms.imp fun c t => ?_
    rintro ⟨u, hu, hcriterion⟩
    rw [supply_ofList, Option.filter_eq_some_iff] at hu
    exact ⟨u, hu.1, hu.2, hcriterion⟩
  counted := exists_counted

/-- Two plain columns, and between them one under an alias with a mark in its name. -/
def visitColumns : List Column :=
  [⟨"", "id", "id"⟩, ⟨"u", "na?me", "u::na?me"⟩, ⟨"", "age", "age"⟩]

/-- The id is put twice, and the age first. -/
def visitPuts : List (String × Supplied) :=
  [("age", .value (.int32 (some 30))), ("id", .value (.text (some "draft"))),
    ("u::na?me", .value (.text (some "?"))), ("id", .value (.int32 (some 1)))]

theorem last_decides_visits :
    ∃ (f : Fragment) (ls : List Lexeme), (ofList visitPuts).supply.predicate visitColumns = .ok f ∧
      f.text .sqlite = "\"id\"=? AND u.\"na?me\"=? AND \"age\"=?" ∧
      f.values = [.int32 (some 1), .text (some "?"), .int32 (some 30)] ∧
      Dialect.sqlite.lexemes (f.text .sqlite) = some ls ∧ ls.count (.char placeholder) = 3 ∧
      (ofList visitPuts).count = 3 := by
  have haliases : ∀ c ∈ (ofList visitPuts).supply.setColumns visitColumns,
      Avoids true c.qualifier := by
    intro c hset
    have hc : c ∈ visitColumns := List.mem_of_mem_filter hset
    have hq : c.qualifier = "" ∨ c.qualifier = "u" := by
      simp only [visitColumns, List.mem_cons, List.not_mem_nil, or_false] at hc
      rcases hc with rfl | rfl | rfl <;> simp
    intro x hx
    rcases hq with hq | hq
    · simp [hq] at hx
    · rw [hq] at hx
      obtain rfl : x = 'u' := by simpa using hx
      rfl
  have hplain : ∀ name u, (ofList visitPuts).supply name = some u →
      name ∈ visitColumns.map (·.label) ∧ ∃ v, u = .value v := by
    intro name u hu
    have hmem := mem_of_supply_ofList hu
    simp only [visitPuts, List.mem_cons, Prod.mk.injEq, List.not_mem_nil, or_false] at hmem
    rcases hmem with ⟨rfl, rfl⟩ | ⟨rfl, rfl⟩ | ⟨rfl, rfl⟩ | ⟨rfl, rfl⟩ <;>
      exact ⟨by decide, _, rfl⟩
  obtain ⟨f, hf, -, -, hread⟩ := (last_decides visitColumns visitPuts).counted (by decide) hplain
  obtain ⟨ls, hls, hcount⟩ := (hread .sqlite).2 haliases
  obtain rfl : _ = f := Except.ok.inj hf
  exact ⟨_, ls, hf, by decide, by decide, hls, hcount, by decide⟩

/-- An alias is written as it is, so a mark in one stands among the placeholders. -/
def markedColumns : List Column := [⟨"a?", "id", "a?::id"⟩]

def markedPuts : List (String × Supplied) := [("a?::id", .value (.int32 (some 1)))]

theorem counted_marked :
    (markedColumns.map (·.label)).Nodup ∧
      (∀ name u, (ofList markedPuts).supply name = some u →
        name ∈ markedColumns.map (·.label) ∧ ∃ v, u = .value v) ∧
      ∃ f : Fragment, (ofList markedPuts).supply.predicate markedColumns = .ok f ∧
        f.text .sqlite = "a?.\"id\"=?" ∧
        (Dialect.sqlite.lexemes (f.text .sqlite)).map (List.count (.char placeholder)) = some 2 ∧
        f.values.length = 1 ∧ (ofList markedPuts).count = 1 := by
  refine ⟨by decide, ?_, ?_⟩
  · intro name u hu
    obtain ⟨rfl, rfl⟩ : name = "a?::id" ∧ u = .value (.int32 (some 1)) := by
      simpa [markedPuts] using mem_of_supply_ofList hu
    exact ⟨by decide, _, rfl⟩
  · exact ⟨_, rfl, by decide, by decide +kernel, by decide, by decide⟩

end FieldMap
end SqlMapper
