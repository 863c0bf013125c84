import SqlMapper.Proofs.Store.Memory
/-! What an engine remembers of the calls that it answered: the rows that inserts stored, until a
rollback undoes them, each value as its image. What is read can be bound again. -/
namespace SqlMapper

variable {α : Type}

/-- A call after its answer. -/
structure Answered where
  /-- What the call was for, if it succeeded. -/
  did? : Option Purpose
  params : List Datum

namespace Answered

def control? (a : Answered) : Option Control :=
  match a.did? with
  | some (.control c) => some c
  | _ => none

/-- The columns of a table that was created. -/
def created? (a : Answered) : Option (List String) :=
  match a.did? with
  | some (.create columns) => some columns
  | _ => none

/-- The parameters of a row that was inserted. -/
def inserted? (a : Answered) : Option (List Datum) :=
  match a.did? with
  | some (.insert _) => some a.params
  | _ => none

variable {a : Answered}

theorem of_did?_eq_none (h : a.did? = none) :
    a.control? = none ∧ a.created? = none ∧ a.inserted? = none := by
  simp [control?, created?, inserted?, h]

theorem of_did?_create {columns : List String} (h : a.did? = some (.create columns)) :
    a.control? = none ∧ a.created? = some columns ∧ a.inserted? = none := by
  simp [control?, created?, inserted?, h]

theorem of_did?_insert {marks : Nat} (h : a.did? = some (.insert marks)) :
    a.control? = none ∧ a.created? = none ∧ a.inserted? = some a.params := by
  simp [control?, created?, inserted?, h]

theorem of_did?_select (h : a.did? = some .select) :
    a.control? = none ∧ a.created? = none ∧ a.inserted? = none := by
  simp [control?, created?, inserted?, h]

theorem of_did?_control {c : Control} (h : a.did? = some (.control c)) :
    a.control? = some c ∧ a.created? = none ∧ a.inserted? = none := by
  simp [control?, created?, inserted?, h]

end Answered

/-- The last call that controlled a transaction. -/
def lastControl? (before : List Answered) : Option Control :=
  (before.filterMap Answered.control?).getLast?

/-- The next call that controlled a transaction. -/
def nextControl? (after : List Answered) : Option Control :=
  (after.filterMap Answered.control?).head?

/-- Between the calls before and those after, a transaction is open that is rolled back. -/
def Undone (before after : List Answered) : Prop :=
  lastControl? before = some .start ∧ nextControl? after = some .rollback

instance (before after : List Answered) : Decidable (Undone before after) :=
  inferInstanceAs (Decidable (_ ∧ _))

/-- What calls did, in their order, unless it was undone. -/
def standing (did? : Answered → Option α) (before : List Answered) : List Answered → List α
  | [] => []
  | a :: after =>
    (if Undone before after then [] else (did? a).toList) ++ standing did? (before ++ [a]) after

section History
variable {a : Answered} {k : Control} {before after : List Answered}

theorem lastControl?_append_of_none (h : a.control? = none) :
    lastControl? (before ++ [a]) = lastControl? before := by
  simp [lastControl?, List.filterMap_append, h]

theorem lastControl?_append_of_some (h : a.control? = some k) :
    lastControl? (before ++ [a]) = some k := by
  simp [lastControl?, List.filterMap_append, h]

theorem nextControl?_cons_of_none (h : a.control? = none) :
    nextControl? (a :: after) = nextControl? after := by
  simp [nextControl?, h]

theorem nextControl?_cons_of_some (h : a.control? = some k) :
    nextControl? (a :: after) = some k := by
  simp [nextControl?, h]

end History

/-- The row is what is kept of the parameters, one for each column. -/
def Keeps (columns : List String) (params : List Datum) (row : List Stored) : Prop :=
  ∃ values, params.mapM Datum.toStored = .ok values ∧ values.length = columns.length ∧
    row = values.map Stored.kept

/-- The table is the one that was created, with the rows that were inserted. -/
inductive Mirrors : Option StoredTable → List (List String) → List (List Datum) → Prop
  | absent : Mirrors none [] []
  | present {table : StoredTable} {inserted : List (List Datum)}
    (h : List.Forall₂ (Keeps table.columns) inserted table.rows) :
    Mirrors (some table) [table.columns] inserted

namespace Contents

variable {k k' : Contents} {a : Answered} {before after : List Answered}
  {created : List (List String)} {inserted : List (List Datum)}

/-- What a call does to the contents: nothing if it failed. -/
inductive Does (k : Contents) (a : Answered) : Contents → Prop
  | nothing (h : a.did? = none) : Does k a k
  | did {u : Purpose} {k' : Contents} {values : List Stored} (h : a.did? = some u)
    (hvalues : a.params.mapM Datum.toStored = .ok values) (hbecomes : k.Becomes values u k') :
    Does k a k'

/-- The calls before left a transaction open just if there is one. -/
def Tracks (k : Contents) (before : List Answered) : Prop :=
  k.saved.isSome ↔ lastControl? before = some .start

/-- The table that is to stand: a rollback that comes next puts the saved one back. -/
def outcome (k : Contents) (after : List Answered) : Option StoredTable :=
  if nextControl? after = some .rollback then k.saved.getD k.table else k.table

theorem outcome_of_undone (hk : k.Tracks before) (h : Undone before after) :
    ∃ table, k.saved = some table ∧ k.outcome after = table := by
  obtain ⟨table, htable⟩ := Option.isSome_iff_exists.1 (hk.2 h.1)
  refine ⟨table, htable, ?_⟩
  rw [outcome, if_pos h.2, htable, Option.getD_some]

/-- Without an open transaction, a rollback would change nothing. -/
theorem outcome_of_not_undone (hk : k.Tracks before) (h : ¬Undone before after) :
    k.outcome after = k.table := by
  unfold outcome
  split
  · rename_i hnext
    have hclosed : k.saved = none := by
      rw [← Option.not_isSome_iff_eq_none]
      exact fun hopen => h ⟨hk.1 hopen, hnext⟩
    rw [hclosed, Option.getD_none]
  · rfl

theorem outcome_cons_of_none (h : a.control? = none) :
    k.outcome (a :: after) = k.outcome after := by
  rw [outcome, nextControl?_cons_of_none h, outcome]

theorem outcome_of_saved_eq_none (h : k.saved = none) : k.outcome after = k.table := by
  rw [outcome, h, Option.getD_none, ite_self]

theorem Does.tracks (h : k.Does a k') (hk : k.Tracks before) : k'.Tracks (before ++ [a]) := by
  unfold Tracks at hk ⊢
  cases h with
  | nothing h =>
    rw [lastControl?_append_of_none (Answered.of_did?_eq_none h).1]
    exact hk
  | did h hvalues hbecomes =>
    cases hbecomes with
    | created htable =>
      rw [lastControl?_append_of_none (Answered.of_did?_create h).1]
      exact hk
    | inserted htable hlength =>
      rw [lastControl?_append_of_none (Answered.of_did?_insert h).1]
      exact hk
    | selected =>
      rw [lastControl?_append_of_none (Answered.of_did?_select h).1]
      exact hk
    | started hsaved =>
      rw [lastControl?_append_of_some (Answered.of_did?_control h).1]
      simp
    | committed hsaved | rolledBack hsaved =>
      rw [lastControl?_append_of_some (Answered.of_did?_control h).1]
      simp

/-- What is done to the table is undone by a rollback that comes next, and stands otherwise. -/
theorem mirrors_outcome {columns : List (List String)} {rows : List (List Datum)}
    (hk : k.Tracks before) (hsaved : k'.saved = k.saved)
    (hm : Mirrors (k.outcome after) created inserted)
    (htable : Mirrors k.table created inserted →
      Mirrors k'.table (created ++ columns) (inserted ++ rows)) :
    Mirrors (k'.outcome after) (created ++ if Undone before after then [] else columns)
      (inserted ++ if Undone before after then [] else rows) := by
  have hk' : k'.Tracks before := by
    unfold Tracks
    rw [hsaved]
    exact hk
  by_cases hu : Undone before after
  · obtain ⟨table, hsome, hstands⟩ := outcome_of_undone hk hu
    obtain ⟨table', hsome', hstands'⟩ := outcome_of_undone hk' hu
    have hsame : table = table' := Option.some.inj (hsome.symm.trans (hsaved ▸ hsome'))
    rw [if_pos hu, if_pos hu, List.append_nil, List.append_nil, hstands', ← hsame, ← hstands]
    exact hm
  · rw [outcome_of_not_undone hk hu] at hm
    rw [if_neg hu, if_neg hu, outcome_of_not_undone hk' hu]
    exact htable hm

/-- A call that neither creates nor inserts nor controls leaves what is to stand. -/
theorem mirrors_of_same (ha : a.control? = none ∧ a.created? = none ∧ a.inserted? = none)
    (hm : Mirrors (k.outcome (a :: after)) created inserted) :
    Mirrors (k.outcome after)
      (created ++ if Undone before after then [] else a.created?.toList)
      (inserted ++ if Undone before after then [] else a.inserted?.toList) := by
  obtain ⟨hcontrol, hcreated, hinserted⟩ := ha
  rw [outcome_cons_of_none hcontrol] at hm
  simpa [hcreated, hinserted] using hm

/-- A call adds to the table that is to stand what it did, unless that will be undone. -/
theorem Does.mirrors (h : k.Does a k') (hk : k.Tracks before)
    (hm : Mirrors (k.outcome (a :: after)) created inserted) :
    Mirrors (k'.outcome after)
      (created ++ if Undone before after then [] else a.created?.toList)
      (inserted ++ if Undone before after then [] else a.inserted?.toList) := by
  cases h with
  | nothing h => exact mirrors_of_same (Answered.of_did?_eq_none h) hm
  | @did _ _ values h hvalues hbecomes =>
    cases hbecomes with
    | selected => exact mirrors_of_same (Answered.of_did?_select h) hm
    | created htable =>
      obtain ⟨hcontrol, hcreated, hinserted⟩ := Answered.of_did?_create h
      rw [outcome_cons_of_none hcontrol] at hm
      rw [hcreated, hinserted]
      refine mirrors_outcome hk rfl hm fun hm => ?_
      rw [htable] at hm
      cases hm
      exact .present .nil
    | @inserted marks table htable hlength =>
      obtain ⟨hcontrol, hcreated, hinserted⟩ := Answered.of_did?_insert h
      rw [outcome_cons_of_none hcontrol] at hm
      rw [hcreated, hinserted]
      refine mirrors_outcome hk rfl hm fun hm => ?_
      rw [htable] at hm
      cases hm with
      | present hrows =>
        have hkeeps : Keeps table.columns a.params (values.map Stored.kept) :=
          ⟨values, hvalues, hlength, rfl⟩
        rw [Option.toList_none, List.append_nil]
        exact .present (List.rel_append hrows (.cons hkeeps .nil))
    | started hsaved =>
      -- a rollback that comes next puts back what is there now
      obtain ⟨hcontrol, hcreated, hinserted⟩ := Answered.of_did?_control h
      have hstands : k.outcome (a :: after) = k.table := outcome_of_saved_eq_none hsaved
      have hstands' : outcome { k with saved := some k.table } after = k.table := by
        simp [outcome]
      rw [hstands] at hm
      rw [hcreated, hinserted, hstands']
      simpa using hm
    | committed hsaved =>
      -- no later rollback reaches what is there now
      obtain ⟨hcontrol, hcreated, hinserted⟩ := Answered.of_did?_control h
      have hstands : k.outcome (a :: after) = k.table := by
        simp [outcome, nextControl?_cons_of_some hcontrol]
      have hstands' : outcome { k with saved := none } after = k.table :=
        outcome_of_saved_eq_none rfl
      rw [hstands] at hm
      rw [hcreated, hinserted, hstands']
      simpa using hm
    | @rolledBack table hsaved =>
      -- the calls since the start were not counted, as this rollback was known to come
      obtain ⟨hcontrol, hcreated, hinserted⟩ := Answered.of_did?_control h
      have hstands : k.outcome (a :: after) = table := by
        simp [outcome, nextControl?_cons_of_some hcontrol, hsaved]
      have hstands' : outcome ⟨table, none⟩ after = table := outcome_of_saved_eq_none rfl
      rw [hstands] at hm
      rw [hcreated, hinserted, hstands']
      simpa using hm

end Contents

/-- The row that is read for inserted parameters. -/
def imageRow (columns : List String) (params : List Datum) : Row :=
  ⟨columns.zip (params.map Datum.image)⟩

theorem readFields_eq_ok {columns : List String} {row : List Stored} {data : List Datum}
    (h : row.mapM Stored.toDatum = .ok data) (hlength : row.length = columns.length) :
    readFields columns row = .ok (columns.zip data) := by
  induction columns generalizing row data with
  | nil => rfl
  | cons name columns ih =>
    cases row with
    | nil => cases hlength
    | cons v row =>
      rw [List.mapM_cons] at h
      obtain ⟨d, hd, h⟩ := bind_eq_ok.1 h
      obtain ⟨rest, hrest, h⟩ := bind_eq_ok.1 h
      obtain rfl := pure_eq_ok.1 h
      have hfields := ih hrest (Nat.succ.inj hlength)
      rw [readFields, hd, hfields]
      rfl

namespace Keeps

variable {columns : List String} {params : List Datum} {row : List Stored}

theorem length_eq (h : Keeps columns params row) : params.length = columns.length := by
  obtain ⟨values, hvalues, hlength, -⟩ := h
  exact (mapM_eq_ok.1 hvalues).length_eq.trans hlength

theorem readFields (h : Keeps columns params row) :
    SqlMapper.readFields columns row = .ok (imageRow columns params).fields := by
  obtain ⟨values, hvalues, hlength, rfl⟩ := h
  refine readFields_eq_ok ?_ ((List.length_map _).trans hlength)
  apply mapM_eq_ok.2
  rw [List.forall₂_map_left_iff, List.forall₂_map_right_iff]
  exact (mapM_eq_ok.1 hvalues).flip.imp fun v d hd => Datum.toDatum_kept hd

/-- What was read can be stored. -/
theorem exists_toStored_image (h : Keeps columns params row) :
    ∃ values, (params.map Datum.image).mapM Datum.toStored = .ok values ∧
      values.length = columns.length := by
  obtain ⟨values, hvalues⟩ := exists_mapM_eq_ok (f := Datum.toStored)
    (List.forall_mem_map.2 fun d (_ : d ∈ params) => d.exists_toStored_image)
  refine ⟨values, hvalues, ?_⟩
  rw [← (mapM_eq_ok.1 hvalues).length_eq, List.length_map, h.length_eq]

theorem imageRow_fields (h : Keeps columns params row) :
    (imageRow columns params).fields.length = columns.length ∧
      (imageRow columns params).fields.map Prod.snd = params.map Datum.image := by
  have hlength : (params.map Datum.image).length = columns.length := by
    rw [List.length_map, h.length_eq]
  unfold imageRow
  constructor
  · rw [List.length_zip, hlength, Nat.min_self]
  · exact List.map_snd_zip (Nat.le_of_eq hlength)

end Keeps

theorem imageRow_map_image (columns : List String) (params : List Datum) :
    imageRow columns (params.map Datum.image) = imageRow columns params := by
  have himage : Datum.image ∘ Datum.image = Datum.image := funext Datum.image_image
  rw [imageRow, List.map_map, himage, imageRow]

namespace Engine

variable {Q σ π : Type} {E : Engine Q σ π} {purpose : Q → Option Purpose}
  {contents : σ → Contents} {s : σ} {c : Call Q} {before : List Answered}
  {created : List (List String)} {inserted : List (List Datum)}

/-- A call with its answer. -/
def answered (E : Engine Q σ π) (purpose : Q → Option Purpose) (s : σ) (c : Call Q) : Answered where
  did? := match (E.step s c).1 with
    | .ok _ => purpose (E.statement c)
    | .error _ => none
  params := c.params

/-- Calls one after another, with their answers. -/
def history (E : Engine Q σ π) (purpose : Q → Option Purpose) (s : σ) :
    List (Call Q) → List Answered
  | [] => []
  | c :: calls => E.answered purpose s c :: history E purpose (E.step s c).2 calls

/-- The state after some calls. -/
def after (E : Engine Q σ π) (s : σ) : List (Call Q) → σ
  | [] => s
  | c :: calls => after E (E.step s c).2 calls

theorem Lawful.does_step (h : E.Lawful purpose contents) (hc : c.Concerns purpose) :
    (contents s).Does (E.answered purpose s c) (contents (E.step s c).2) := by
  obtain ⟨u, hu, hacts⟩ := h.acts_step (s := s) hc
  unfold answered
  generalize E.step s c = r at hacts ⊢
  cases hacts with
  | failed hsame =>
    rw [hsame]
    exact .nothing rfl
  | did hvalues hbecomes => exact .did hu hvalues hbecomes

theorem Lawful.mirrors_after {calls : List (Call Q)} (h : E.Lawful purpose contents)
    (hcalls : ∀ c ∈ calls, c.Concerns purpose) (hs : (contents s).Tracks before)
    (hm : Mirrors ((contents s).outcome (E.history purpose s calls)) created inserted) :
    (contents (E.after s calls)).Tracks (before ++ E.history purpose s calls) ∧
      Mirrors (contents (E.after s calls)).table
        (created ++ standing Answered.created? before (E.history purpose s calls))
        (inserted ++ standing Answered.inserted? before (E.history purpose s calls)) := by
  -- what a call did may be undone by a later one, so the calls on both of its sides are kept
  induction calls generalizing s before created inserted with
  | nil =>
    simp only [history, standing, List.append_nil]
    exact ⟨hs, hm⟩
  | cons c calls ih =>
    rw [List.forall_mem_cons] at hcalls
    have hdoes := h.does_step (s := s) hcalls.1
    have hrest := ih hcalls.2 (hdoes.tracks hs) (hdoes.mirrors hs hm)
    simp only [List.append_assoc, List.singleton_append] at hrest
    exact hrest

/-- Every row that was inserted is read as the images of its parameters. -/
theorem Lawful.step_select {table : StoredTable} {q : Q} (h : E.Lawful purpose contents)
    (hq : purpose q = some .select) (htable : (contents s).table = some table)
    (hrows : List.Forall₂ (Keeps table.columns) inserted table.rows) :
    (E.step s (.query q [])).1 = .ok (.rows (inserted.map (imageRow table.columns))) := by
  obtain ⟨p, cursor, hprepare, hcolumns, hstart, hcursor⟩ := h.selected s q table hq htable
  have hread : table.rows.mapM (readFields table.columns) =
      .ok (inserted.map fun params => (imageRow table.columns params).fields) := by
    apply mapM_eq_ok.2
    rw [List.forall₂_map_right_iff]
    exact hrows.flip.imp fun row params hkeeps => Keeps.readFields hkeeps
  have hfetch := Cursor.fetch_of_rows? hcursor hread
  have hquery : E.query s q [] = cursor.fetch table.columns := by
    rw [← hcolumns]
    exact query_of_start hprepare rfl hstart
  show (E.query s q []).1.map Answer.rows = _
  rw [hquery, hfetch, List.map_map]
  rfl

theorem Lawful.step_select_of_missing {q : Q} {params : List Datum} (h : E.Lawful purpose contents)
    (hq : purpose q = some .select) (htable : (contents s).table = none) :
    E.step s (.query q params) = (.error .prepare, s) := by
  rw [step, query, issue, h.missing s q hq htable]
  rfl

/-- What was read can be inserted, and is there as it is again. -/
theorem Lawful.step_insert {table : StoredTable} {q : Q} {params : List Datum} {row : List Stored}
    (h : E.Lawful purpose contents) (hq : purpose q = some (.insert table.columns.length))
    (htable : (contents s).table = some table) (hkeeps : Keeps table.columns params row) :
    ∃ t values, E.step s (.exec q (params.map Datum.image)) = (.ok (.affected 1), t) ∧
      Keeps table.columns (params.map Datum.image) values ∧
      (contents t).table = some { table with rows := table.rows ++ [values] } := by
  obtain ⟨values, hvalues, hlength⟩ := hkeeps.exists_toStored_image
  obtain ⟨p, t, hprepare, hexecute⟩ := h.inserted s q table values hq htable hlength
  have hexec := exec_of_execute hprepare hvalues hexecute
  refine ⟨t, values.map Stored.kept, ?_, ⟨values, hvalues, hlength, rfl⟩, ?_⟩
  · rw [step, hexec]
    rfl
  · have hbecomes := h.executed s q _ p values 1 t hq hprepare hexecute
    generalize contents t = k at hbecomes ⊢
    cases hbecomes with
    | inserted htable' hlength' =>
      obtain rfl := Option.some.inj (htable.symm.trans htable')
      rfl

section Mirrors
variable {q q' : Q} (h : E.Lawful purpose contents)
  (hm : Mirrors (contents s).table created inserted)

include h hm

theorem Lawful.select_missing (hq : purpose q = some .select) (hcreated : created = [])
    (params : List Datum) : E.step s (.query q params) = (.error .prepare, s) := by
  generalize htable : (contents s).table = table at hm
  cases hm with
  | absent => exact h.step_select_of_missing hq htable
  | present hrows => cases hcreated

theorem Lawful.select_rows (hq : purpose q = some .select) {columns : List String}
    (hcolumns : columns ∈ created) :
    (E.step s (.query q [])).1 = .ok (.rows (inserted.map (imageRow columns))) := by
  generalize htable : (contents s).table = table at hm
  cases hm with
  | absent => cases hcolumns
  | present hrows =>
    obtain rfl := List.mem_singleton.1 hcolumns
    exact h.step_select hq htable hrows

theorem Lawful.insert_read (hq : purpose q = some .select) {rows : List Row}
    (hselect : (E.step s (.query q [])).1 = .ok (.rows rows)) {row : Row} (hrow : row ∈ rows)
    (hq' : purpose q' = some (.insert row.fields.length)) :
    ∃ t, E.step s (.exec q' (row.fields.map Prod.snd)) = (.ok (.affected 1), t) ∧
      (E.step t (.query q [])).1 = .ok (.rows (rows ++ [row])) := by
  generalize htable : (contents s).table = table at hm
  cases hm with
  | absent =>
    rw [h.step_select_of_missing hq htable] at hselect
    cases hselect
  | @present table inserted hrows =>
    rw [h.step_select hq htable hrows] at hselect
    cases hselect
    obtain ⟨params, hparams, rfl⟩ := List.mem_map.1 hrow
    obtain ⟨kept, hkeeps⟩ := exists_of_forall₂ hrows hparams
    obtain ⟨hlength, hfields⟩ := hkeeps.imageRow_fields
    rw [hlength] at hq'
    obtain ⟨t, values, hstep, hstored, htable'⟩ := h.step_insert hq' htable hkeeps
    refine ⟨t, ?_, ?_⟩
    · rw [hfields, hstep]
    · have hlonger := List.rel_append hrows (.cons hstored .nil)
      rw [h.step_select hq htable' hlonger, List.map_append, List.map_singleton,
        imageRow_map_image]

end Mirrors

/-- What calls leave behind. -/
structure Remembers (E : Engine Q σ π) (purpose : Q → Option Purpose) (contents : σ → Contents)
    (s : σ) (calls : List (Call Q)) : Prop where
  /-- A further call that fails changes nothing, -/
  failed : ∀ c : Call Q, c.Concerns purpose → ∀ e, (E.step (E.after s calls) c).1 = .error e →
    contents (E.step (E.after s calls) c).2 = contents (E.after s calls)
  /-- and one with a parameter beyond the signed numbers does fail. -/
  refused : ∀ c : Call Q, ∀ d ∈ c.params, d.ExceedsSigned → E.step (E.after s calls) c =
    (.error (if (E.prepare (E.after s calls) (E.statement c)).isSome then .unsignedRange
      else .prepare), E.after s calls)
  /-- A transaction is open from its start to its end. -/
  opened : (contents (E.after s calls)).saved.isSome ↔
    lastControl? (E.history purpose s calls) = some .start
  /-- Nothing can be selected if no table was created and stands. -/
  missing : standing Answered.created? [] (E.history purpose s calls) = [] →
    ∀ q, purpose q = some .select → ∀ params,
      E.step (E.after s calls) (.query q params) = (.error .prepare, E.after s calls)
  /-- If one does, its rows are those that were inserted and stand, in their order. -/
  selected : ∀ columns ∈ standing Answered.created? [] (E.history purpose s calls),
    ∀ q, purpose q = some .select → (E.step (E.after s calls) (.query q [])).1 =
      .ok (.rows ((standing Answered.inserted? [] (E.history purpose s calls)).map
        (imageRow columns)))
  /-- A row that was read can be inserted, and then is there twice. -/
  again : ∀ q, purpose q = some .select → ∀ rows,
    (E.step (E.after s calls) (.query q [])).1 = .ok (.rows rows) → ∀ row ∈ rows,
    ∀ q', purpose q' = some (.insert row.fields.length) →
    ∃ t, E.step (E.after s calls) (.exec q' (row.fields.map Prod.snd)) = (.ok (.affected 1), t) ∧
      (E.step t (.query q [])).1 = .ok (.rows (rows ++ [row]))

/-- The answers follow from the calls before. -/
theorem remembers (E : Engine Q σ π) (purpose : Q → Option Purpose) (contents : σ → Contents)
    (h : E.Lawful purpose contents) (s : σ) (hs : contents s = ⟨none, none⟩)
    (calls : List (Call Q)) (hcalls : ∀ c ∈ calls, c.Concerns purpose) :
    Remembers E purpose contents s calls := by
  have htracks : (contents s).Tracks [] := by
    rw [hs, Contents.Tracks]
    decide
  have habsent : Mirrors ((contents s).outcome (E.history purpose s calls)) [] [] := by
    rw [hs, Contents.outcome_of_saved_eq_none rfl]
    exact .absent
  obtain ⟨hopened, hmirrors⟩ := h.mirrors_after hcalls htracks habsent
  exact {
    failed := fun c hc e he => h.contents_step_of_error hc he
    refused := fun c d hd hexceeds => step_of_exceedsSigned hd hexceeds
    opened := hopened
    missing := fun hcreated q hq params => h.select_missing hmirrors hq hcreated params
    selected := fun columns hcolumns q hq => h.select_rows hmirrors hq hcolumns
    again := fun q hq rows hselect row hrow q' hq' =>
      h.insert_read hmirrors hq hselect hrow hq' }

end Engine

namespace Store

/-- A row stored in a transaction that is rolled back, between two that stay; an insert that is
refused, and a transaction that cannot be started. -/
def visits : List StoreCall :=
  [.create 2, .insert 2 [.text (some "a"), .uint64 (some 1)], .start, .start,
    .insert 2 [.text (some "b"), .uint64 (some 2)],
    .insert 2 [.text (some "c"), .uint64 (some 9223372036854775808)], .rollback,
    .insert 2 [.date (some "2024-02-29"), .double (some ⟨0x7ff8000000000000⟩)]]

theorem concerns_visits : ∀ c ∈ visits, c.Concerns purpose := by
  unfold visits
  simp only [List.forall_mem_cons]
  exact ⟨⟨_, rfl⟩, ⟨_, rfl⟩, trivial, trivial, ⟨_, rfl⟩, ⟨_, rfl⟩, trivial, ⟨_, rfl⟩, by simp⟩

theorem remembers_visits :
    engine.Lawful purpose contents ∧ (∀ c ∈ visits, c.Concerns purpose) ∧
      (engine.step (engine.after empty visits) StoreCall.select).1 =
        .ok (.rows [⟨[("c0", .text (some "a")), ("c1", .int64 (some 1))]⟩,
          ⟨[("c0", .text (some "2024-02-29")), ("c1", .text none)]⟩]) := by
  have hremembers := Engine.remembers engine purpose contents contents_lawful empty rfl visits
    concerns_visits
  have hcreated : columnNames 2 ∈
      standing Answered.created? [] (engine.history purpose empty visits) := by decide
  have hrows : (standing Answered.inserted? [] (engine.history purpose empty visits)).map
      (imageRow (columnNames 2)) =
      [⟨[("c0", .text (some "a")), ("c1", .int64 (some 1))]⟩,
        ⟨[("c0", .text (some "2024-02-29")), ("c1", .text none)]⟩] := by decide
  have hselected := hremembers.selected (columnNames 2) hcreated .select rfl
  rw [hrows] at hselected
  exact ⟨contents_lawful, concerns_visits, hselected⟩

end Store
end SqlMapper
