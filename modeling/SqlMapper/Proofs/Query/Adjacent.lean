import SqlMapper.Proofs.Query.Label

namespace SqlMapper

/-- What stands in a name before the first delimiter is an alias. -/
structure HasAlias (delimiter raw qualifier name : String) : Prop where
  valid : isTableAlias qualifier.toList
  eq : raw = qualifier ++ delimiter ++ name
  first : ∀ before after, raw = before ++ delimiter ++ after → qualifier.length ≤ before.length

/-- A name with an alias other than the expected one. -/
def Foreign (delimiter expected raw : String) : Prop :=
  ∃ qualifier name, HasAlias delimiter raw qualifier name ∧ qualifier ≠ expected

/-- The column that a name stands for in the table of an alias. -/
inductive NamesIn (delimiter expected raw : String) : String → Prop
  | bare (h : ∀ qualifier name, ¬HasAlias delimiter raw qualifier name) :
    NamesIn delimiter expected raw raw
  | own {name : String} (h : HasAlias delimiter raw expected name) :
    NamesIn delimiter expected raw name

theorem hasAlias_iff {delimiter raw qualifier name : String} :
    HasAlias delimiter raw qualifier name ↔ isTableAlias qualifier.toList ∧
      Text.splitFirst? delimiter.toList raw.toList = some (qualifier.toList, name.toList) := by
  rw [Text.splitFirst?_eq_some_iff]
  constructor
  · intro h
    refine ⟨h.valid, ?_, ?_⟩
    · rw [h.eq, String.toList_append, String.toList_append]
    · intro other after hother
      have hraw : raw = String.ofList other ++ delimiter ++ String.ofList after := by
        rw [← String.toList_inj, hother]
        simp
      simpa only [String.length_toList, String.length_ofList] using h.first _ _ hraw
  · rintro ⟨hvalid, heq, hfirst⟩
    refine ⟨hvalid, ?_, ?_⟩
    · rw [← String.toList_inj, heq]
      simp
    · rintro before after rfl
      simpa only [String.length_toList] using hfirst before.toList after.toList (by simp)

theorem HasAlias.unique {delimiter raw q q' n n' : String} (h : HasAlias delimiter raw q n)
    (h' : HasAlias delimiter raw q' n') : q = q' ∧ n = n' := by
  have hparts := (hasAlias_iff.1 h).2.symm.trans (hasAlias_iff.1 h').2
  simpa [String.toList_inj] using hparts

namespace Column

theorem read_of_hasAlias {delimiter raw qualifier name : String} (fallback : String)
    (h : HasAlias delimiter raw qualifier name) :
    read raw fallback delimiter = qualified qualifier name delimiter := by
  obtain ⟨hvalid, hsplit⟩ := hasAlias_iff.1 h
  rw [read, hsplit]
  simp [hvalid]

theorem read_of_not_hasAlias {delimiter raw : String} (fallback : String)
    (h : ∀ qualifier name, ¬HasAlias delimiter raw qualifier name) :
    read raw fallback delimiter = qualified fallback raw delimiter := by
  unfold read
  split
  · rename_i before rest hsplit
    have hinvalid : ¬isTableAlias before := fun hvalid =>
      h (String.ofList before) (String.ofList rest) (hasAlias_iff.2 (by simp [hvalid, hsplit]))
    rw [if_neg hinvalid]
  · rfl

theorem reference_qualified {qualifier : String} (name delimiter : String)
    (h : isTableAlias qualifier.toList) :
    (qualified qualifier name delimiter).reference =
      [.word (qualifier ++ "."), .name name] := by
  have hne : qualifier ≠ "" := by
    rintro rfl
    simp [isTableAlias] at h
  simp [qualified, reference, hne]

end Column

namespace Join

section Sides
variable {delimiter raw expected : String}

theorem conditionColumn_eq_error {e : SchemaFault} :
    conditionColumn delimiter raw expected = .error e ↔
      ∃ qualifier name, HasAlias delimiter raw qualifier name ∧ qualifier ≠ expected ∧
        e = .distantAlias raw qualifier expected := by
  -- an alias is compared, and where a name has none the expected one stands in for it
  by_cases h : ∃ qualifier name, HasAlias delimiter raw qualifier name
  · obtain ⟨qualifier, name, h⟩ := h
    have hcolumn : Column.read raw expected delimiter = .qualified qualifier name delimiter :=
      Column.read_of_hasAlias expected h
    have hunique : ∀ q n, HasAlias delimiter raw q n → q = qualifier := fun q n hq =>
      (hq.unique h).1
    unfold conditionColumn
    rw [hcolumn]
    show (if qualifier = expected then _ else Except.error _) = _ ↔ _
    split
    · rename_i hexpected
      refine ⟨fun hok => (by cases hok), ?_⟩
      rintro ⟨q, n, hq, hne, -⟩
      exact absurd ((hunique q n hq).trans hexpected) hne
    · rename_i hexpected
      constructor
      · intro he
        exact ⟨qualifier, name, h, hexpected, (Except.error.inj he).symm⟩
      · rintro ⟨q, n, hq, -, rfl⟩
        rw [hunique q n hq]
        rfl
  · simp only [not_exists] at h
    have hcolumn := Column.read_of_not_hasAlias expected h
    unfold conditionColumn
    rw [hcolumn]
    show (if expected = expected then _ else Except.error _) = _ ↔ _
    rw [if_pos rfl]
    refine ⟨fun hok => (by cases hok), ?_⟩
    rintro ⟨q, n, hq, -⟩
    exact absurd hq (h q n)

theorem conditionColumn_eq_ok (hexpected : isTableAlias expected.toList) {f : Fragment}
    (h : conditionColumn delimiter raw expected = .ok f) :
    ∃ name, NamesIn delimiter expected raw name ∧
      f = [.word (expected ++ "."), .name name] := by
  unfold conditionColumn at h
  dsimp only at h
  split at h
  · rename_i hqualifier
    cases h
    by_cases hraw : ∃ qualifier name, HasAlias delimiter raw qualifier name
    · obtain ⟨qualifier, name, hraw⟩ := hraw
      have hcolumn := Column.read_of_hasAlias expected hraw
      have hown : qualifier = expected := by
        rw [hcolumn] at hqualifier
        exact hqualifier
      subst hown
      exact ⟨name, .own hraw, by rw [hcolumn, Column.reference_qualified name delimiter hexpected]⟩
    · simp only [not_exists] at hraw
      refine ⟨raw, .bare hraw, ?_⟩
      rw [Column.read_of_not_hasAlias expected hraw,
        Column.reference_qualified raw delimiter hexpected]
  · cases h

end Sides

/-- The steps, each with the table before it. -/
def links (j : Join) : List (AliasedTable × JoinStep) := j.tables.zip j.steps

/-- The names of the pairs from left to right, each with the alias that its side expects. -/
def sides (links : List (AliasedTable × JoinStep)) : List (String × String) :=
  links.flatMap fun link => link.2.pairs.flatMap fun pair =>
    [(link.1.qualifier, pair.1), (link.2.table.qualifier, pair.2)]

/-- Some pair names a column of a table that is not on its side. -/
def Strays (j : Join) : Prop :=
  ∃ link ∈ j.links, ∃ pair ∈ link.2.pairs, Foreign j.delimiter link.1.qualifier pair.1 ∨
    Foreign j.delimiter link.2.table.qualifier pair.2

/-- The condition of a pair: the left column is of the table before, the right one of the joined
table. -/
def Equates (d : Dialect) (delimiter previous own : String) (pair : String × String)
    (text : String) : Prop :=
  ∃ left right, NamesIn delimiter previous pair.1 left ∧ NamesIn delimiter own pair.2 right ∧
    text = previous ++ "." ++ d.quoted left ++ " = " ++ own ++ "." ++ d.quoted right

/-- A joined table under its alias, with the conditions of its pairs in their order. -/
def Joins (d : Dialect) (delimiter : String) (link : AliasedTable × JoinStep) (text : String) :
    Prop :=
  ∃ terms, List.Forall₂ (Equates d delimiter link.1.qualifier link.2.table.qualifier)
      link.2.pairs terms ∧
    text = link.2.kind.keyword ++ d.quoted link.2.table.schema.table ++ " " ++
      link.2.table.qualifier ++ (if terms = [] then "" else " ON " ++ " AND ".intercalate terms)

/-- The first table under its alias, and after it the joined ones in their order. -/
def Lists (d : Dialect) (j : Join) (text : String) : Prop :=
  ∃ parts, List.Forall₂ (Joins d j.delimiter) j.links parts ∧
    text = "FROM " ++ d.quoted j.first.schema.table ++ " " ++ j.first.qualifier ++
      String.join parts

section Failing
variable (delimiter : String)

theorem conditionPair_failsLike (previous own : String) (pair : String × String) :
    FailsLike (conditionPair delimiter previous own pair)
      ([(previous, pair.1), (own, pair.2)].mapM fun side =>
        conditionColumn delimiter side.2 side.1) := by
  rw [List.mapM_cons, List.mapM_cons, List.mapM_nil]
  apply (FailsLike.refl _).bind
  intro left _ _ _
  rw [bind_assoc]
  exact (FailsLike.refl _).bind fun _ _ _ _ => .pure

theorem stepFragment_failsLike (link : AliasedTable × JoinStep) :
    FailsLike (stepFragment delimiter link.1.qualifier link.2)
      ((sides [link]).mapM fun side => conditionColumn delimiter side.2 side.1) := by
  have hsides : sides [link] = link.2.pairs.flatMap fun pair =>
      [(link.1.qualifier, pair.1), (link.2.table.qualifier, pair.2)] := by
    simp [sides]
  have hpairs : FailsLike
      (link.2.pairs.mapM (conditionPair delimiter link.1.qualifier link.2.table.qualifier))
      ((sides [link]).mapM fun side => conditionColumn delimiter side.2 side.1) := by
    rw [hsides]
    exact .mapM_flatMap fun pair _ => conditionPair_failsLike delimiter _ _ pair
  unfold stepFragment
  split
  · rename_i hempty
    rw [List.isEmpty_iff] at hempty
    rw [hsides, hempty]
    exact .pure
  · rw [← bind_pure ((sides [link]).mapM _)]
    exact hpairs.bind fun _ _ _ _ => .pure

/-- The rest of a chain, after a table `t`. -/
theorem stepFragments_failsLike (t : AliasedTable) (steps : List JoinStep) :
    FailsLike (stepFragments delimiter t.qualifier steps)
      ((sides ((t :: steps.map JoinStep.table).zip steps)).mapM fun side =>
        conditionColumn delimiter side.2 side.1) := by
  -- each step relates its table to the one before, so the table before changes along the way
  induction steps generalizing t with
  | nil => exact .pure
  | cons step steps ih =>
    have hsides : sides ((t :: (step :: steps).map JoinStep.table).zip (step :: steps)) =
        sides [(t, step)] ++ sides ((step.table :: steps.map JoinStep.table).zip steps) := by
      simp [sides]
    rw [hsides, List.mapM_append, stepFragments]
    apply (stepFragment_failsLike delimiter (t, step)).bind
    intro _ _ _ _
    exact (ih step.table).bind fun _ _ _ _ => .pure

/-- The tables of a join fail like its names, read one after another on their sides. -/
theorem origin_failsLike (j : Join) :
    FailsLike j.origin
      ((sides j.links).mapM fun side => conditionColumn j.delimiter side.2 side.1) := by
  rw [← bind_pure ((sides j.links).mapM _)]
  exact (stepFragments_failsLike j.delimiter j.first j.steps).bind fun _ _ _ _ => .pure

end Failing

theorem mem_sides {links : List (AliasedTable × JoinStep)} {side : String × String} :
    side ∈ sides links ↔ ∃ link ∈ links, ∃ pair ∈ link.2.pairs,
      side = (link.1.qualifier, pair.1) ∨ side = (link.2.table.qualifier, pair.2) := by
  simp [sides]

theorem strays_iff {j : Join} :
    j.Strays ↔ ∃ side ∈ sides j.links, Foreign j.delimiter side.1 side.2 := by
  constructor
  · rintro ⟨link, hlink, pair, hpair, h | h⟩
    · exact ⟨_, mem_sides.2 ⟨link, hlink, pair, hpair, .inl rfl⟩, h⟩
    · exact ⟨_, mem_sides.2 ⟨link, hlink, pair, hpair, .inr rfl⟩, h⟩
  · rintro ⟨side, hside, h⟩
    obtain ⟨link, hlink, pair, hpair, rfl | rfl⟩ := mem_sides.1 hside
    · exact ⟨link, hlink, pair, hpair, .inl h⟩
    · exact ⟨link, hlink, pair, hpair, .inr h⟩

section Text
variable (d : Dialect) {delimiter : String}

theorem conditionPair_equates {previous own : String} {pair : String × String} {f : Fragment}
    (hp : SqlMapper.isTableAlias previous.toList) (hq : SqlMapper.isTableAlias own.toList)
    (h : conditionPair delimiter previous own pair = .ok f) :
    Equates d delimiter previous own pair (f.text d) := by
  obtain ⟨_, hleft, h⟩ := bind_eq_ok.1 h
  obtain ⟨_, hright, h⟩ := bind_eq_ok.1 h
  cases h
  obtain ⟨left, hnames, rfl⟩ := conditionColumn_eq_ok hp hleft
  obtain ⟨right, hnames', rfl⟩ := conditionColumn_eq_ok hq hright
  refine ⟨left, right, hnames, hnames', ?_⟩
  simp only [List.cons_append, List.nil_append, Fragment.text_name_cons, Fragment.text_word_cons,
    Fragment.text_nil, String.append_assoc, String.append_empty]

theorem stepFragment_joins {link : AliasedTable × JoinStep} {f : Fragment}
    (hp : SqlMapper.isTableAlias link.1.qualifier.toList)
    (hq : SqlMapper.isTableAlias link.2.table.qualifier.toList)
    (h : stepFragment delimiter link.1.qualifier link.2 = .ok f) :
    Joins d delimiter link (f.text d) := by
  have hfront (g : Fragment) :
      Fragment.text d (.word link.2.kind.keyword :: link.2.table.fragment ++ g) =
        link.2.kind.keyword ++ d.quoted link.2.table.schema.table ++ " " ++
          link.2.table.qualifier ++ g.text d := by
    simp only [AliasedTable.fragment, List.cons_append, List.nil_append, Fragment.text_name_cons,
      Fragment.text_word_cons, String.append_assoc]
  unfold stepFragment at h
  split at h
  · rename_i hempty
    cases h
    refine ⟨[], ?_, ?_⟩
    · rw [List.isEmpty_iff.1 hempty]
      exact .nil
    · have htext := hfront []
      rw [List.append_nil] at htext
      rw [htext, if_pos rfl, Fragment.text_nil]
  · rename_i hnonempty
    obtain ⟨terms, hterms, h⟩ := bind_eq_ok.1 h
    cases h
    have hall := mapM_eq_ok.1 hterms
    refine ⟨terms.map (Fragment.text d), ?_, ?_⟩
    · rw [List.forall₂_map_right_iff]
      exact hall.imp fun pair f hf => conditionPair_equates d hp hq hf
    · -- there are as many terms as pairs
      have hne : terms.map (Fragment.text d) ≠ [] := by
        rw [Ne, List.map_eq_nil_iff]
        rintro rfl
        rw [List.forall₂_nil_right_iff] at hall
        exact hnonempty (List.isEmpty_iff.2 hall)
      rw [hfront, Fragment.text_word_cons, Fragment.text_joined, if_neg hne]

theorem stepFragments_joins {t : AliasedTable} {steps : List JoinStep} {f : Fragment}
    (ht : ∀ s ∈ t :: steps.map JoinStep.table, SqlMapper.isTableAlias s.qualifier.toList)
    (h : stepFragments delimiter t.qualifier steps = .ok f) :
    ∃ parts, List.Forall₂ (Joins d delimiter) ((t :: steps.map JoinStep.table).zip steps) parts ∧
      f.text d = String.join parts := by
  induction steps generalizing t f with
  | nil =>
    cases h
    exact ⟨[], .nil, rfl⟩
  | cons step steps ih =>
    obtain ⟨g, hg, h⟩ := bind_eq_ok.1 h
    obtain ⟨rest, hrest, h⟩ := bind_eq_ok.1 h
    cases h
    rw [List.map_cons, List.forall_mem_cons] at ht
    have hstep : Joins d delimiter (t, step) (g.text d) :=
      stepFragment_joins d ht.1 (ht.2 _ (List.mem_cons_self ..)) hg
    obtain ⟨parts, hparts, htext⟩ := ih ht.2 hrest
    exact ⟨g.text d :: parts, .cons hstep hparts, by
      rw [Fragment.text_append, htext, String.join_cons]⟩

end Text

theorem Reached.ownAliases {j : Join} (h : j.Reached) : j.OwnAliases := by
  induction h with
  | @start schema qualifier delimiter j h =>
    have hbuild : build schema qualifier delimiter [] = .ok j := by
      rw [build, h]
      rfl
    exact (ownAliases_of_build hbuild).2
  | @add j k kind schema qualifier pairs _ h ih =>
    exact (ih.add (show j.add (JoinStep.mk kind ⟨schema, qualifier⟩ pairs).kind schema qualifier
      pairs = .ok k from h)).2

/-- How a join relates its tables. -/
structure RelatesAdjacent (j : Join) : Prop where
  /-- A join fails only for a name of a table that is not on its side, -/
  fails_iff : (∃ fault, j.origin = .error fault) ↔ j.Strays
  /-- and the first such name is reported, with both aliases. -/
  error_iff : ∀ fault, j.origin = .error fault ↔
    ∃ before expected raw after qualifier name,
      sides j.links = before ++ (expected, raw) :: after ∧
      (∀ side ∈ before, ¬Foreign j.delimiter side.1 side.2) ∧
      HasAlias j.delimiter raw qualifier name ∧ qualifier ≠ expected ∧
      fault = .distantAlias raw qualifier expected
  /-- It is a fault of the schema, for which no query on the join is composed. -/
  refused : ∀ fault, j.origin = .error fault → ∀ {stage : Stage} (clauses : Clauses stage)
    (projection tail : Fragment), clauses.render j.scope = .ok tail →
      j.relation.query projection clauses = .error (.schema fault)
  /-- Otherwise the tables are listed with their conditions, and nothing is bound. -/
  lists : ¬j.Strays → ∃ f, j.origin = .ok f ∧ f.values = [] ∧ ∀ d, Lists d j (f.text d)
  /-- An alias belongs to one table. -/
  distinct : (j.tables.map (·.qualifier)).Nodup

theorem exists_conditionColumn_iff {delimiter : String} {side : String × String} :
    (∃ f, conditionColumn delimiter side.2 side.1 = .ok f) ↔
      ¬Foreign delimiter side.1 side.2 := by
  constructor
  · rintro ⟨f, hf⟩ ⟨qualifier, name, halias, hne⟩
    have herror : conditionColumn delimiter side.2 side.1 =
        .error (.distantAlias side.2 qualifier side.1) :=
      conditionColumn_eq_error.2 ⟨qualifier, name, halias, hne, rfl⟩
    rw [hf] at herror
    cases herror
  · intro h
    cases hcolumn : conditionColumn delimiter side.2 side.1 with
    | ok f => exact ⟨f, rfl⟩
    | error e =>
      obtain ⟨qualifier, name, halias, hne, -⟩ := conditionColumn_eq_error.1 hcolumn
      exact absurd ⟨qualifier, name, halias, hne⟩ h

theorem origin_eq_error {j : Join} {fault : SchemaFault} :
    j.origin = .error fault ↔ ∃ before expected raw after qualifier name,
      sides j.links = before ++ (expected, raw) :: after ∧
      (∀ side ∈ before, ¬Foreign j.delimiter side.1 side.2) ∧
      HasAlias j.delimiter raw qualifier name ∧ qualifier ≠ expected ∧
      fault = .distantAlias raw qualifier expected := by
  rw [origin_failsLike j fault, mapM_eq_error]
  constructor
  · rintro ⟨before, side, after, hsides, hbefore, hside⟩
    obtain ⟨qualifier, name, halias, hne, rfl⟩ := conditionColumn_eq_error.1 hside
    exact ⟨before, side.1, side.2, after, qualifier, name, hsides,
      fun s hs => exists_conditionColumn_iff.1 (hbefore s hs), halias, hne, rfl⟩
  · rintro ⟨before, expected, raw, after, qualifier, name, hsides, hbefore, halias, hne, rfl⟩
    refine ⟨before, (expected, raw), after, hsides, fun side hside => ?_, ?_⟩
    · exact exists_conditionColumn_iff.2 (hbefore side hside)
    · exact conditionColumn_eq_error.2 ⟨qualifier, name, halias, hne, rfl⟩

theorem exists_origin_iff {j : Join} : (∃ f, j.origin = .ok f) ↔ ¬j.Strays := by
  rw [(origin_failsLike j).exists_ok_iff, strays_iff]
  constructor
  · rintro ⟨fs, hfs⟩ ⟨side, hside, hforeign⟩
    exact exists_conditionColumn_iff.1 (exists_of_mapM_eq_ok hfs side hside) hforeign
  · intro h
    apply exists_mapM_eq_ok
    intro side hside
    exact exists_conditionColumn_iff.2 fun hforeign => h ⟨side, hside, hforeign⟩

theorem Reached.lists {j : Join} (hj : j.Reached) {f : Fragment} (h : j.origin = .ok f)
    (d : Dialect) : Lists d j (f.text d) := by
  obtain ⟨rest, hrest, h⟩ := bind_eq_ok.1 h
  cases h
  obtain ⟨parts, hparts, htext⟩ := stepFragments_joins d hj.isTableAlias hrest
  refine ⟨parts, hparts, ?_⟩
  simp only [AliasedTable.fragment, List.cons_append, List.nil_append, Fragment.text_name_cons,
    Fragment.text_word_cons, htext, String.append_assoc]

theorem relatesAdjacent_of_reached {j : Join} (hj : j.Reached) : j.RelatesAdjacent where
  fails_iff := by
    rw [← not_iff_not, ← exists_origin_iff]
    cases j.origin <;> simp
  error_iff fault := origin_eq_error
  refused fault h stage clauses projection tail htail := by
    have hrender : clauses.render j.relation.scope = .ok tail := htail
    have horigin : j.relation.origin = .error fault := h
    unfold Relation.query
    rw [hrender, horigin]
    rfl
  lists h := by
    obtain ⟨f, hf⟩ := exists_origin_iff.2 h
    have hcarries : f.Carries false [] := hj.origin_carries hf
    exact ⟨f, hf, hcarries.values_eq, hj.lists hf⟩
  distinct := hj.ownAliases.distinct

/-- Users, their posts, and the comments on a post, related by some pairs. -/
def threads (pairs : List (String × String)) : Join :=
  ⟨"::", ⟨users, "u"⟩,
    [posts, ⟨.inner, ⟨⟨"comments", ["id", "post", "2::by"], ["id"], []⟩, "c"⟩, pairs⟩]⟩

/-- Names with the alias of their side and without one. -/
def nearPairs : List (String × String) :=
  [("u1::id", "post"), ("id", "c::id"), ("u1::?", "2::by")]

/-- The second pair skips the posts. -/
def farPairs : List (String × String) := [("id", "post"), ("u::id", "id")]

theorem relatesAdjacent_threads :
    (threads nearPairs).Reached ∧
      (∃ f, (threads nearPairs).origin = .ok f ∧
        f.text .sqlite = "FROM \"users\" u LEFT JOIN \"posts\" u1 ON u.\"id\" = u1.\":u\" " ++
          "JOIN \"comments\" c ON u1.\"id\" = c.\"post\" AND u1.\"id\" = c.\"id\" AND " ++
          "u1.\"?\" = c.\"2::by\"") ∧
      ¬(threads nearPairs).Strays ∧
      (threads farPairs).Reached ∧
      (threads farPairs).origin = .error (.distantAlias "u::id" "u" "u1") ∧
      (threads farPairs).Strays := by
  have hposts : Reached ⟨"::", ⟨users, "u"⟩, [posts]⟩ :=
    .add (.start (show start users "u" "::" = .ok _ from rfl))
      (show add _ .left posts.table.schema "u1" [("id", ":u")] = .ok _ from rfl)
  have hreached (pairs : List (String × String)) : (threads pairs).Reached :=
    .add hposts (show add _ .inner ⟨"comments", ["id", "post", "2::by"], ["id"], []⟩ "c" pairs =
      .ok _ from rfl)
  have hkept := relatesAdjacent_of_reached (hreached nearPairs)
  have hastray := relatesAdjacent_of_reached (hreached farPairs)
  have hnear : ¬(threads nearPairs).Strays := by
    intro hstrays
    obtain ⟨fault, hfault⟩ := hkept.fails_iff.2 hstrays
    cases hfault
  have hfar : (threads farPairs).Strays := hastray.fails_iff.1 ⟨_, rfl⟩
  exact ⟨hreached _, ⟨_, rfl, by decide +kernel⟩, hnear, hreached _, rfl, hfar⟩

end Join
end SqlMapper
