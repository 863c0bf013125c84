import SqlMapper.Proofs.Supply.Inserted
import SqlMapper.Proofs.Query.Label
import SqlMapper.Proofs.Gateway.Assignments
import SqlMapper.Proofs.Gateway.Insertion

namespace SqlMapper

variable {σ α : Type}

namespace Lexeme

/-- Names with commas between them, and what follows. -/
def names? : List Lexeme → Option (List String × List Lexeme)
  | .name n :: .char c :: ls =>
    if c = ',' then (names? ls).map fun (ns, ls) => (n :: ns, ls) else some ([n], .char c :: ls)
  | .name n :: ls => some ([n], ls)
  | _ => none

/-- What was supplied for some names, read from slots with commas between them, and what follows. -/
def slots? : List String → List Lexeme → Option (List (String × Supplied) × List Lexeme)
  | [], _ => none
  | [n], ls => (slot? ls).map fun (u, ls) => ([(n, u)], ls)
  | n :: m :: ns, ls => do
    let (u, ls) ← slot? ls
    let (fields, ls) ← slots? (m :: ns) (← after? "," ls)
    return ((n, u) :: fields, ls)

end Lexeme

/-- The table of an insert and the fields that it stores there, read from the text and the values of
the statement. What is to be done on a conflict is not looked at. -/
def Dialect.stored? (d : Dialect) (text : String) (values : List Value) :
    Option (String × List (String × Supplied)) := do
  match (← d.read text values).dropWhile (!·.isName) with
  | .name table :: ls =>
    let (names, ls) ← Lexeme.names? (← Lexeme.after? " (" ls)
    let (fields, ls) ← Lexeme.slots? names (← Lexeme.after? ") VALUES (" ls)
    let _ ← Lexeme.after? ")" ls
    return (table, fields)
  | _ => none

namespace Lexeme

theorem names?_append {names : List String} (hne : names ≠ []) {c : Char} (hc : c ≠ ',')
    (ls : List Lexeme) :
    names? ((Fragment.joined "," (names.map fun n => [.name n])).lexemes ++ .char c :: ls) =
      some (names, .char c :: ls) := by
  induction names with
  | nil => exact absurd rfl hne
  | cons n names ih =>
    cases names with
    | nil => simp [Fragment.joined, Piece.lexemes, names?, hc]
    | cons m names =>
      have hrest := ih (List.cons_ne_nil _ _)
      set others := Fragment.joined "," ((m :: names).map fun n => [Piece.name n])
      calc
        names? ((Fragment.joined "," ((n :: m :: names).map fun n => [.name n])).lexemes ++
            .char c :: ls) =
            names? (.name n :: .char ',' :: (others.lexemes ++ .char c :: ls)) := by
          rw [List.map_cons, List.map_cons, Fragment.joined_cons_cons]
          simp [others, Piece.lexemes]
        _ = (names? (others.lexemes ++ .char c :: ls)).map fun p => (n :: p.1, p.2) := by
          rw [names?, if_pos rfl]
        _ = some (n :: m :: names, .char c :: ls) := by
          rw [hrest]
          rfl

/-- Slots are read one by one, each for the name in its place. -/
theorem slots?_append {fields : List (String × Supplied)} {slots : List Fragment}
    (hne : fields ≠ [])
    (h : List.Forall₂ (fun p f => ∀ ls, slot? (Fragment.lexemes f ++ ls) = some (p.2, ls))
      fields slots) (ls : List Lexeme) :
    slots? (fields.map (·.1)) ((Fragment.joined "," slots).lexemes ++ ls) = some (fields, ls) := by
  induction h with
  | nil => exact absurd rfl hne
  | @cons p f fields slots hf hrest ih =>
    cases hrest with
    | nil =>
      rw [Fragment.joined, List.map_cons, List.map_nil, slots?, hf]
      rfl
    | @cons p' f' fields slots hf' hrest =>
      have hnext := ih (List.cons_ne_nil _ _)
      rw [List.map_cons, List.map_cons, Fragment.joined_cons_cons, Fragment.lexemes_append,
        List.append_assoc, slots?, hf]
      -- the comma ends the first slot, and the others stand after it
      have hcomma : after? "," ((Fragment.lexemes
          (.word "," :: Fragment.joined "," (f' :: slots))) ++ ls) =
          some ((Fragment.joined "," (f' :: slots)).lexemes ++ ls) := by
        rw [Fragment.lexemes_cons, List.append_assoc]
        exact after?_append "," _
      simp only [Option.bind_eq_bind, Option.bind_some, hcomma]
      rw [← List.map_cons, hnext]
      rfl

end Lexeme

namespace Table

variable {t : Table} {data : Supply} {d : Dialect} {mode : InsertMode}
  {onConflict : Option Supply} {e : Error} {f : Fragment}

/-- The declared columns that the data sets, with what it supplies for them. -/
def setFields (t : Table) (data : Supply) : List (String × Supplied) :=
  t.schema.columns.filterMap fun name => (data name).map fun u => (name, u)

theorem names_setFields (t : Table) (data : Supply) :
    (t.setFields data).map (·.1) = t.schema.columns.filter fun name => (data name).isSome := by
  rw [setFields, List.map_filterMap, ← List.filterMap_eq_filter]
  refine List.filterMap_congr fun name _ => ?_
  cases hdata : data name <;> simp [Option.guard, hdata]

theorem lookup_setFields {name : String} (h : name ∈ t.schema.columns) :
    (t.setFields data).lookup name = data name := by
  rw [setFields, FieldMap.lookup_filterMap, if_pos h]

/-- Names that do not look like labels stand for columns as they are. -/
theorem assigned_columns (t : Table) (data : Supply) :
    data.assigned t.columns =
      (t.setFields data).map fun p => (Column.read p.1 "" t.delimiter, p.2) := by
  rw [Supply.assigned, columns, List.filterMap_map, setFields, List.map_filterMap]
  refine List.filterMap_congr fun name _ => ?_
  simp only [Function.comp_apply, Column.label_read, Option.map_map]
  rfl

/-- Why an insert is not composed: for the first set column whose value has no place in an insert,
for want of any set column, or for its assignments on a conflict. -/
inductive Refuses (t : Table) (data : Supply) (onConflict : Option Supply) : Error → Prop
  | misplaced {before after : List (String × Supplied)} {name : String} {u : Supplied}
    (hfields : t.setFields data = before ++ (name, u) :: after)
    (hbefore : ∀ p ∈ before, p.2.inserted.isSome) (hu : u.inserted = none) :
    Refuses t data onConflict (.misplaced ⟨u.operand, .insert⟩)
  | unset (h : ∀ name ∈ t.schema.columns, data name = none) :
    Refuses t data onConflict (.schema .noValue)
  | conflict {changes : Supply} {e : Error} (hset : t.setFields data ≠ [])
    (hfields : ∀ p ∈ t.setFields data, p.2.inserted.isSome) (hchanges : onConflict = some changes)
    (h : t.assignments changes = .error e) : Refuses t data onConflict e

theorem slots_columns (t : Table) (data : Supply) :
    data.slots .insert t.columns =
      (t.setFields data).mapM fun p => p.2.insertSlot (Column.read p.1 "" t.delimiter) := by
  rw [Supply.slots, assigned_columns, List.mapM_map]
  rfl

theorem slots_eq_error {m : Misplaced} : data.slots .insert t.columns = .error m ↔
    ∃ before name u after, t.setFields data = before ++ (name, u) :: after ∧
      (∀ p ∈ before, p.2.inserted.isSome) ∧ u.inserted = none ∧ m = ⟨u.operand, .insert⟩ := by
  rw [slots_columns, mapM_eq_error]
  constructor
  · rintro ⟨before, ⟨name, u⟩, after, hfields, hbefore, hu⟩
    have hnone : u.inserted = none := by
      by_contra hsome
      obtain ⟨s, hs⟩ := Supplied.exists_insertSlot_iff.2 (Option.isSome_iff_ne_none.2 hsome)
      cases hu.symm.trans hs
    have hm := (Supplied.insertSlot_eq_error hnone _).symm.trans hu
    cases hm
    exact ⟨before, name, u, after, hfields,
      fun p hp => Supplied.exists_insertSlot_iff.1 (hbefore p hp), hnone, rfl⟩
  · rintro ⟨before, name, u, after, hfields, hbefore, hu, rfl⟩
    exact ⟨before, (name, u), after, hfields,
      fun p hp => Supplied.exists_insertSlot_iff.2 (hbefore p hp), Supplied.insertSlot_eq_error hu _⟩

theorem slots_eq_ok {found : List Slot} : data.slots .insert t.columns = .ok found ↔
    List.Forall₂ (fun p s => p.2.insertSlot (Column.read p.1 "" t.delimiter) = .ok s)
      (t.setFields data) found := by
  rw [slots_columns, mapM_eq_ok]

/-- The slots that were found, as what stands in the statement. -/
theorem exists_slots_stand {fields : List (String × Supplied)} {found : List Slot}
    (h : List.Forall₂ (fun p s => p.2.insertSlot (Column.read p.1 "" t.delimiter) = .ok s)
      fields found) :
    ∃ slots : List (String × Option Value),
      List.Forall₂ (fun p slot => p.2.inserted = some slot) fields slots ∧
      (∀ d, (found.map Slot.fragment).map (Fragment.text d) = slots.map (·.1)) ∧
      (found.map Slot.fragment).flatMap Fragment.values = slots.filterMap (·.2) ∧
      List.Forall₂ (fun p f => ∀ ls, Lexeme.slot? (Fragment.lexemes f ++ ls) = some (p.2, ls))
        fields (found.map Slot.fragment) := by
  induction h with
  | nil => exact ⟨[], .nil, fun d => rfl, rfl, .nil⟩
  | @cons p s fields found hs hrest ih =>
    obtain ⟨text, argument, hu, hstands⟩ := Supplied.stands_of_insertSlot hs
    obtain ⟨slots, hslots, htexts, hvalues, hreads⟩ := ih
    refine ⟨(text, argument) :: slots, .cons hu hslots, fun d => ?_, ?_,
      .cons hstands.read hreads⟩
    · rw [List.map_cons, List.map_cons, List.map_cons, htexts, hstands.text_eq]
    · rw [List.map_cons, List.flatMap_cons, hvalues, hstands.values_eq]
      cases argument <;> rfl

theorem exists_slots_iff :
    (∃ found, data.slots .insert t.columns = .ok found) ↔
      ∀ p ∈ t.setFields data, p.2.inserted.isSome := by
  constructor
  · rintro ⟨found, h⟩ p hp
    obtain ⟨n, hn, rfl⟩ := List.mem_iff_getElem.1 hp
    have hall := slots_eq_ok.1 h
    exact Supplied.exists_insertSlot_iff.1 ⟨_, hall.get hn (hall.length_eq ▸ hn)⟩
  · intro h
    rw [slots_columns]
    exact exists_mapM_eq_ok fun p hp => Supplied.exists_insertSlot_iff.2 (h p hp)

theorem setFields_eq_nil_iff :
    t.setFields data = [] ↔ ∀ name ∈ t.schema.columns, data name = none := by
  rw [setFields, List.filterMap_eq_nil_iff]
  simp only [Option.map_eq_none_iff]

/-- The insert as far as its values. -/
theorem insertion_of_slots (d : Dialect) (mode : InsertMode) {found : List Slot}
    (h : data.slots .insert t.columns = .ok found) (hne : t.setFields data ≠ []) :
    t.insertion d mode data none =
      .ok (.word (d.insertVerb mode) :: .word " INTO " :: t.name ++
        .word " (" :: Fragment.joined "," ((data.assigned t.columns).map fun p => p.1.reference) ++
        .word ") VALUES (" :: Fragment.joined "," (found.map Slot.fragment) ++ [.word ")"]) := by
  have hfound : found.isEmpty = false := by
    rw [List.isEmpty_eq_false_iff, ← List.length_pos_iff, ← (slots_eq_ok.1 h).length_eq]
    exact List.length_pos_iff.2 hne
  unfold insertion
  rw [h]
  show (if found.isEmpty then _ else _) = _
  rw [hfound]
  rfl

theorem insertion_of_misplaced {m : Misplaced} (h : data.slots .insert t.columns = .error m) :
    t.insertion d mode data onConflict = .error (.misplaced m) := by
  unfold insertion
  rw [h]
  rfl

theorem insertion_of_unset (h : t.setFields data = []) :
    t.insertion d mode data onConflict = .error (.schema .noValue) := by
  have hslots : data.slots .insert t.columns = .ok [] := by
    rw [slots_eq_ok, h]
    exact .nil
  unfold insertion
  rw [hslots]
  rfl

/-- An insert is not composed exactly for one of the reasons, and for the first of them. -/
theorem insertion_eq_error_iff :
    t.insertion d mode data onConflict = .error e ↔ t.Refuses data onConflict e := by
  constructor
  · intro h
    cases hslots : data.slots .insert t.columns with
    | error m =>
      obtain ⟨before, name, u, after, hfields, hbefore, hu, rfl⟩ := slots_eq_error.1 hslots
      rw [insertion_of_misplaced hslots] at h
      cases h
      exact .misplaced hfields hbefore hu
    | ok found =>
      by_cases hne : t.setFields data = []
      · rw [insertion_of_unset hne] at h
        cases h
        exact .unset (setFields_eq_nil_iff.1 hne)
      · -- all slots are found, so only what follows the values can fail
        have hfront := insertion_of_slots d mode hslots hne
        cases onConflict with
        | none => cases hfront.symm.trans h
        | some changes =>
          rw [insertion_eq_map hfront] at h
          cases hassignments : t.assignments changes with
          | ok f =>
            rw [hassignments] at h
            cases h
          | error e' =>
            rw [hassignments] at h
            cases h
            exact .conflict hne (exists_slots_iff.1 ⟨found, hslots⟩) rfl hassignments
  · intro h
    cases h with
    | misplaced hfields hbefore hu =>
      exact insertion_of_misplaced (slots_eq_error.2 ⟨_, _, _, _, hfields, hbefore, hu, rfl⟩)
    | unset h => exact insertion_of_unset (setFields_eq_nil_iff.2 h)
    | conflict hset hfields hchanges h =>
      obtain ⟨found, hslots⟩ := exists_slots_iff.2 hfields
      subst hchanges
      rw [insertion_eq_map (insertion_of_slots d mode hslots hset), h]
      rfl

/-- What follows the values of an insert: nothing, or the assignments on a conflict. -/
inductive Follows (t : Table) (d : Dialect) : Option Supply → Fragment → Prop
  | nothing : Follows t d none []
  | assignments {changes : Supply} {f : Fragment} (h : t.assignments changes = .ok f) :
    Follows t d (some changes) (.word " " :: d.onConflict t.schema.primaryKey ++ .word " " :: f)

/-- The insert of some slots into some columns. -/
def insertOf (t : Table) (verb : String) (names : List String) (slots : List Fragment)
    (tail : Fragment) : Fragment :=
  .word verb :: .word " INTO " :: t.name ++
    .word " (" :: Fragment.joined "," (names.map fun n => [.name n]) ++
    .word ") VALUES (" :: Fragment.joined "," slots ++ .word ")" :: tail

/-- The names of columns do not look like labels. -/
def PlainColumns (t : Table) : Prop :=
  ∀ name ∈ t.schema.columns, ¬t.delimiter.toList <:+: name.toList

theorem references_assigned (ht : t.PlainColumns) (data : Supply) :
    (data.assigned t.columns).map (fun p => p.1.reference) =
      ((t.setFields data).map (·.1)).map fun n => [.name n] := by
  rw [assigned_columns, List.map_map, List.map_map]
  refine List.map_congr_left fun p hp => ?_
  obtain ⟨name, hname, hp⟩ := List.mem_filterMap.1 hp
  obtain ⟨u, -, rfl⟩ := Option.map_eq_some_iff.1 hp
  -- without the delimiter the whole name is the name of the column
  have hread : Column.read name "" t.delimiter = Column.qualified "" name t.delimiter :=
    Column.read_eq_qualified (ht name hname)
  show (Column.read name "" t.delimiter).reference = [.name name]
  rw [hread]
  rfl

theorem exists_insertOf (ht : t.PlainColumns)
    (h : t.insertion d mode data onConflict = .ok f) :
    ∃ found tail, data.slots .insert t.columns = .ok found ∧ t.setFields data ≠ [] ∧
      t.Follows d onConflict tail ∧
      f = t.insertOf (d.insertVerb mode) ((t.setFields data).map (·.1)) (found.map Slot.fragment)
        tail := by
  cases hslots : data.slots .insert t.columns with
  | error m => cases (insertion_of_misplaced hslots).symm.trans h
  | ok found =>
    have hne : t.setFields data ≠ [] := by
      intro hnil
      cases (insertion_of_unset hnil).symm.trans h
    have hfront := insertion_of_slots d mode hslots hne
    rw [references_assigned ht] at hfront
    cases onConflict with
    | none =>
      rw [hfront] at h
      cases h
      exact ⟨found, [], rfl, hne, .nothing, rfl⟩
    | some changes =>
      rw [insertion_eq_map hfront] at h
      obtain ⟨list, hlist, rfl⟩ := map_eq_ok.1 h
      refine ⟨found, _, rfl, hne, .assignments hlist, ?_⟩
      simp [insertOf, upsertFrame]

theorem text_insertOf (d : Dialect) (verb : String) (names : List String) (slots : List Fragment)
    (tail : Fragment) :
    (t.insertOf verb names slots tail).text d =
      verb ++ " INTO " ++ d.quoted t.schema.table ++
        " (" ++ ",".intercalate (names.map d.quoted) ++
        ") VALUES (" ++ ",".intercalate (slots.map (Fragment.text d)) ++ ")" ++ tail.text d := by
  have hname (n : String) : Fragment.text d [.name n] = d.quoted n := by
    simp [Fragment.text, Fragment.chars, Piece.chars, Dialect.quoted]
  have hnames : (names.map fun n => ([.name n] : Fragment)).map (Fragment.text d) =
      names.map d.quoted := by
    rw [List.map_map]
    exact List.map_congr_left fun n _ => hname n
  simp only [insertOf, List.cons_append, Fragment.text_append, Fragment.text_word_cons, text_name,
    Fragment.text_joined, hnames, String.append_assoc]

theorem values_insertOf (verb : String) (names : List String) (slots : List Fragment)
    (tail : Fragment) :
    (t.insertOf verb names slots tail).values = slots.flatMap Fragment.values ++ tail.values := by
  have hword (w : String) (f : Fragment) : Fragment.values (.word w :: f) = f.values := rfl
  have hname (n : String) (f : Fragment) : Fragment.values (.name n :: f) = f.values := rfl
  have hnames : (Fragment.joined "," (names.map fun n => [.name n])).values = [] := by
    rw [Fragment.values_joined, List.flatMap_map, List.flatMap_eq_nil_iff]
    exact fun n _ => hname n []
  simp only [insertOf, name, List.cons_append, List.nil_append, hword, hname,
    Fragment.values_append, hnames, Fragment.values_joined]

/-- The fields of an insert are read back from its columns, its slots and its values. -/
theorem stored?_insertOf {verb : String} {fields : List (String × Supplied)}
    {slots : List Fragment} {tail : Fragment} (hne : fields ≠ [])
    (hslots : List.Forall₂ (fun p f => ∀ ls, Lexeme.slot? (Fragment.lexemes f ++ ls) =
      some (p.2, ls)) fields slots)
    (h : Separate true (t.insertOf verb (fields.map (·.1)) slots tail).lexemes) :
    d.stored? ((t.insertOf verb (fields.map (·.1)) slots tail).text d)
      (t.insertOf verb (fields.map (·.1)) slots tail).values =
        some (t.schema.table, fields) := by
  set slotLexemes := (Fragment.joined "," slots).lexemes ++ (")".toList.map .char ++ tail.lexemes)
  set nameLexemes := (Fragment.joined "," ((fields.map (·.1)).map fun n => [.name n])).lexemes ++
    (") VALUES (".toList.map .char ++ slotLexemes)
  have hlexemes : (t.insertOf verb (fields.map (·.1)) slots tail).lexemes =
      (verb ++ " INTO ").toList.map .char ++
        .name t.schema.table :: (" (".toList.map .char ++ nameLexemes) := by
    simp [insertOf, name, Piece.lexemes, nameLexemes, slotLexemes]
  have hdrop : ((verb ++ " INTO ").toList.map Lexeme.char ++
      Lexeme.name t.schema.table :: (" (".toList.map .char ++ nameLexemes)).dropWhile
        (fun l => !l.isName) = .name t.schema.table :: (" (".toList.map .char ++ nameLexemes) := by
    have hskip : ∀ l ∈ (verb ++ " INTO ").toList.map Lexeme.char, !l.isName := by
      intro l hl
      obtain ⟨c, -, rfl⟩ := List.mem_map.1 hl
      rfl
    rw [List.dropWhile_append_of_pos hskip, List.dropWhile_cons_of_neg (by simp [Lexeme.isName])]
  have hnames : Lexeme.names? nameLexemes =
      some (fields.map (·.1), ") VALUES (".toList.map .char ++ slotLexemes) :=
    Lexeme.names?_append (by simpa using hne) (by decide) _
  have hfields : Lexeme.slots? (fields.map (·.1)) slotLexemes =
      some (fields, ")".toList.map .char ++ tail.lexemes) :=
    Lexeme.slots?_append hne hslots _
  rw [Dialect.stored?, Fragment.read_text d h, hlexemes]
  simp only [Option.bind_eq_bind, Option.bind_some, hdrop, Lexeme.after?_append, hnames, hfields]
  rfl

end Table

namespace Gateway

variable {g : Gateway σ α} {data : Supply} {mode : InsertMode} {onConflict : Option Supply}

theorem seen_insert_of_error {e : Error}
    (h : g.table.insertion g.database.dialect mode data onConflict = .error e) (s : σ) :
    (g.insert mode data onConflict).seen s = ⟨.error e, [], s⟩ := by
  unfold insert
  rw [h]
  exact Session.seen_bind_of_error (Session.seen_ofExcept _ s)

theorem exists_calls_insert {f : Fragment} {q : Statement}
    (h : g.table.insertion g.database.dialect mode data onConflict = .ok f)
    (hq : f.statement? g.database.dialect = some q) (s : σ) :
    ∃ later, ((g.insert mode data onConflict).seen s).calls = q :: later := by
  unfold insert
  rw [h, Session.seen_bind_of_ok (Session.seen_ofExcept _ s)]
  exact Session.exists_calls_bind (calls_execute hq s)

/-- An insert is refused exactly for the first set column whose value has no place in it, for want of
any set column, or for its assignments on a conflict; it then calls nothing. Otherwise the columns
are those that the data sets, in the order of the schema, with one slot for each: a placeholder for
a plain value, and what the expression writes for an expression, with its own argument if it has
one. From the text and the values a reader finds out again what was supplied for which column. -/
theorem inserts_set_fields {request : Request α (Option α)}
    (hrequest : request.IsInsert mode data onConflict) (ht : g.table.PlainColumns) :
    (∀ e, g.table.insertion g.database.dialect mode data onConflict = .error e ↔
      g.table.Refuses data onConflict e) ∧
    (∀ e, g.table.Refuses data onConflict e → ∀ s, (request.run g).seen s = ⟨.error e, [], s⟩) ∧
    (∀ f, g.table.insertion g.database.dialect mode data onConflict = .ok f →
      (∀ q, f.statement? g.database.dialect = some q → ∀ s,
        ∃ later, ((request.run g).seen s).calls = q :: later) ∧
      ∃ (slots : List (String × Option Value)) (tail : Fragment),
        List.Forall₂ (fun p slot => p.2.inserted = some slot) (g.table.setFields data) slots ∧
        g.table.Follows g.database.dialect onConflict tail ∧
        f.text g.database.dialect = g.database.dialect.insertVerb mode ++ " INTO " ++
          g.database.dialect.quoted g.schema.table ++ " (" ++
          ",".intercalate ((g.table.setFields data).map fun p => g.database.dialect.quoted p.1) ++
          ") VALUES (" ++ ",".intercalate (slots.map (·.1)) ++ ")" ++
          tail.text g.database.dialect ∧
        f.values = slots.filterMap (·.2) ++ tail.values ∧
        g.database.dialect.stored? (f.text g.database.dialect) f.values =
          some (g.schema.table, g.table.setFields data)) ∧
    (g.table.setFields data).map (·.1) =
      g.schema.columns.filter (fun name => (data name).isSome) ∧
    ∀ name ∈ g.schema.columns, (g.table.setFields data).lookup name = data name := by
  rw [hrequest.run_eq]
  refine ⟨fun e => Table.insertion_eq_error_iff,
    fun e he s => seen_insert_of_error (Table.insertion_eq_error_iff.2 he) s, fun f hf => ?_,
    g.table.names_setFields data, fun name hname => Table.lookup_setFields hname⟩
  refine ⟨fun q hq s => exists_calls_insert hf hq s, ?_⟩
  have hcarries : f.Carries true _ := Table.insertion_carries hf
  obtain ⟨found, tail, hfound, hne, htail, rfl⟩ := Table.exists_insertOf ht hf
  obtain ⟨slots, hslots, htexts, hvalues, hreads⟩ :=
    Table.exists_slots_stand (Table.slots_eq_ok.1 hfound)
  refine ⟨slots, tail, hslots, htail, ?_, ?_, ?_⟩
  · rw [Table.text_insertOf, htexts, List.map_map]
    rfl
  · rw [Table.values_insertOf, hvalues]
  · exact Table.stored?_insertOf hne hreads hcarries.separate

/-- Events, with names that hold the characters of statements. -/
def events : Gateway (List Reply) Row :=
  ⟨⟨Script.connection [], .mssql, "::"⟩,
    ⟨"events]", ["id", "at", "?,(", "host"], ["id"], ["id"]⟩, fun row => .ok row⟩

/-- An event of three days ago. -/
def pastEvent : Supply :=
  (FieldMap.ofList [("?,(", .value (.text (some "NULL"))), ("id", .value (.int64 none)),
    ("host", .expression (.addressToNumber "10.0.0.1")),
    ("at", .expression (.daysFromNow (-3)))]).supply

/-- Each column has its own slot, and a name or a text that looks like a slot is none. -/
theorem inserts_set_fields_events :
    events.table.PlainColumns ∧
    ∃ f, events.table.insertion .mssql .overwrite pastEvent none = .ok f ∧
      f.text .mssql = "REPLACE INTO [events]]] ([at],[?,(],[host]) " ++
        "VALUES (DATE_ADD(NOW(), INTERVAL -3 DAY),?,INET_ATON(?))" ∧
      f.values = [.text (some "NULL"), .text (some "10.0.0.1")] ∧
      Dialect.mssql.stored? (f.text .mssql) f.values =
        some ("events]", [("at", .expression (.daysFromNow (-3))),
          ("?,(", .value (.text (some "NULL"))),
          ("host", .expression (.addressToNumber "10.0.0.1"))]) := by
  have hplain : events.table.PlainColumns := by
    intro name hname
    revert name
    decide
  have hrequest : (Request.addOrReplace pastEvent : Request Row (Option Row)).IsInsert .overwrite
      pastEvent none := .addOrReplace pastEvent
  obtain ⟨-, -, hcomposed, -, -⟩ := inserts_set_fields hrequest hplain
  have hok : events.table.insertion .mssql .overwrite pastEvent none = .ok _ := rfl
  obtain ⟨-, slots, tail, -, -, -, -, hstored⟩ := hcomposed _ hok
  refine ⟨hplain, _, hok, by decide, by decide, hstored.trans ?_⟩
  decide

end Gateway
end SqlMapper
