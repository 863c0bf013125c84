import Mathlib.Data.Option.Basic
import SqlMapper.Proofs.Query.Filter
import SqlMapper.Proofs.Query.Parts
import SqlMapper.Proofs.Query.Source
/-! The clauses of a query in the order of the language. What stands after the tables is read as the
parts of the chain just if every clause that is written has something to stand before, and only
groups are filtered once more. -/
namespace SqlMapper

variable {α : Type} {s : Scope} {d : Dialect} {stage : Stage}

namespace Fragment
open Token

/-- The text of the fragment with its values is read as the tokens. -/
def Shows (d : Dialect) (f : Fragment) (ts : List Token) : Prop :=
  ∃ ls, f.ReadsAs d ls ∧ SqlMapper.tokens ls = ts

/-- The fragment is nothing, or begins with a blank. -/
def Starts (d : Dialect) (f : Fragment) : Prop := f = [] ∨ ∃ cs, f.chars d = ' ' :: cs

variable {f g : Fragment} {ts us : List Token} {keyword : String}

theorem shows_nil : Shows d [] [] := ⟨[], rfl, rfl⟩

theorem Carries.shows {vs : List Value} (h : f.Carries true vs) : f.Shows d f.tokens :=
  ⟨f.lexemes, h.readsAs d, rfl⟩

theorem starts_clause (content : Option Fragment) (h : keyword.toList.head? = some ' ') :
    (clause keyword content).Starts d := by
  cases content with
  | none => exact Or.inl rfl
  | some f =>
    obtain ⟨cs, hcs⟩ := List.head?_eq_some_iff.1 h
    refine Or.inr ⟨cs ++ f.chars d, ?_⟩
    show keyword.toList ++ f.chars d = _
    rw [hcs]
    rfl

theorem Starts.append (hf : f.Starts d) (hg : g.Starts d) : Starts d (f ++ g) := by
  rcases hf with rfl | ⟨cs, hcs⟩
  · exact hg
  · refine Or.inr ⟨cs ++ g.chars d, ?_⟩
    rw [chars_append, hcs]
    rfl

/-- A blank ends whatever stands before it. -/
theorem Shows.append (hf : f.Shows d ts) (hg : g.Shows d us) (hstart : g.Starts d) :
    Shows d (f ++ g) (ts ++ us) := by
  obtain ⟨ls, hls, rfl⟩ := hf
  obtain ⟨ms, hms, rfl⟩ := hg
  rcases hstart with rfl | ⟨cs, hcs⟩
  · cases hms
    rw [List.append_nil]
    exact ⟨ls, hls, (List.append_nil _).symm⟩
  · have hclosing : ∀ c ∈ (g.chars d).head?, c ≠ d.closing := by
      rw [hcs]
      rintro c hc
      cases hc
      cases d <;> decide
    have hfree : ∀ l ∈ ms.head?, l.isFree := by
      rw [hms.head?_eq hcs (by decide)]
      rintro l hl
      cases hl
      decide
    exact ⟨ls ++ ms, hls.append hms hclosing, SqlMapper.tokens_append hfree⟩

/-- A clause is read as its keyword and what stands after it. -/
theorem shows_clause {content : Option Fragment} {read : Option (List Token)}
    {words : List Token} (hwords : tokens [.word keyword] = words)
    (h : Option.Rel (Shows d) content read) (hword : isPlainWord keyword := by decide)
    (hend : keyword.toList.getLast?.any isFreeChar := by decide) :
    (clause keyword content).Shows d (clauseTokens words read) := by
  cases h with
  | none => exact shows_nil
  | @some f ts hf =>
    obtain ⟨ls, hls, rfl⟩ := hf
    have hlast : ∀ l ∈ (keyword.toList.map Lexeme.char).getLast?, l.isFree := by
      intro l hl
      rw [List.getLast?_map] at hl
      obtain ⟨c, hc, rfl⟩ := Option.map_eq_some_iff.1 hl
      simpa [hc, Lexeme.isFree] using hend
    refine ⟨_, hls.word_cons hword, ?_⟩
    have hkeyword : SqlMapper.tokens (keyword.toList.map .char) = words := by
      rw [← hwords, tokens, lexemes_cons, lexemes_nil, List.append_nil]
      rfl
    rw [tokens_append_of_left hlast, hkeyword]
    rfl

/-- Clauses are read one after another, since a blank ends each of them. -/
theorem shows_clause_append {content : Option Fragment} {read : Option (List Token)}
    {words : List Token} (hwords : tokens [.word keyword] = words)
    (h : Option.Rel (Shows d) content read) (hrest : g.Shows d us ∧ g.Starts d)
    (hword : isPlainWord keyword := by decide)
    (hend : keyword.toList.getLast?.any isFreeChar := by decide)
    (hblank : keyword.toList.head? = some ' ' := by decide) :
    (clause keyword content ++ g).Shows d (clauseTokens words read ++ us) ∧
      (clause keyword content ++ g).Starts d :=
  ⟨(shows_clause hwords h hword hend).append hrest.1 hrest.2,
    (starts_clause content hblank).append hrest.2⟩

/-- A filter is read as an expression, if it is written at all. -/
theorem IsFilter.shows (h : f.IsFilter d) : Option.Rel (Shows d) f.nonBlank? (f.filter? d) := by
  unfold nonBlank?
  rcases h with hblank | hsome
  · rw [filter?, if_pos hblank, if_pos hblank]
    exact .none
  · obtain ⟨ts, hts⟩ := Option.isSome_iff_exists.1 hsome
    have hblank : ¬f.isBlank := fun hblank => by simp [filter?, hblank] at hts
    rw [hts, if_neg hblank]
    rw [filter?, if_neg hblank] at hts
    obtain ⟨ls, hls, hexpression⟩ := Option.bind_eq_some_iff.1 hts
    exact .some ⟨ls, hls, eq_of_expression? hexpression⟩

theorem IsFilter.filter?_eq_none_iff (h : f.IsFilter d) : f.filter? d = none ↔ f.isBlank := by
  constructor
  · intro hnone
    exact h.resolve_right (by simp [hnone])
  · exact fun hblank => if_pos hblank

theorem expression?_of_filter? (h : f.filter? d = some ts) : expression? ts = some ts := by
  unfold filter? at h
  split at h
  · cases h
  · obtain ⟨ls, -, hexpression⟩ := Option.bind_eq_some_iff.1 h
    rwa [eq_of_expression? hexpression] at hexpression

end Fragment

/-- What is read of the parts, with the tokens of their conditions. -/
def Parts.tail (p : Parts) (s : Scope) (filter having : Option (List Token)) : Tail where
  filter := filter
  grouping := if p.grouping = [] then none else some (s.places p.grouping)
  having := having
  ordering := if p.ordering = [] then none else some (p.ordering.flatMap (SortItem.terms s))
  limit := p.limit.map fun n => Clauses.limitNumbers n.1 n.2

/-- No item of the ordering is columns in a direction without any column, and groups are filtered
only if there are some. -/
structure Parts.Complete (p : Parts) (having : Fragment) : Prop where
  ordering : ∀ direction, .directed [] direction ∉ p.ordering
  grouping : p.grouping = [] → having.isBlank

/-- The tokens of what is written, with those of the conditions. -/
def Written.contents (w : Written) (filter having : Option (List Token)) : Tail.Contents where
  filter := filter
  grouping := w.grouping.map Fragment.tokens
  having := having
  ordering := w.ordering.map Fragment.tokens
  limit := w.limit.map Fragment.tokens

namespace Parts.Writes
open Token Fragment

variable {p : Parts} {w : Written} {filter having : Option (List Token)}

/-- Groupings, orderings and limits are names and words of the language. -/
theorem carries (hs : s.WellQualified) (hw : p.Writes s w) :
    (∀ f ∈ w.grouping, f.Carries true []) ∧ (∀ f ∈ w.ordering, f.Carries true []) ∧
      ∀ f ∈ w.limit, f.Carries true [] := by
  refine ⟨?_, ?_, ?_⟩
  · rw [hw.grouping]
    split
    · rintro f hf
      cases hf
    · rintro f hf
      cases hf
      exact .joined_blank
        (List.forall_mem_map.2 fun name _ => Column.reference_carries (hs.column name))
  · obtain ⟨fs, hfs, hordering⟩ := hw.ordering
    rw [hordering]
    split
    · rintro f hf
      cases hf
    · rintro f hf
      cases hf
      exact .joined_blank (forall_of_mapM hfs fun _ _ _ hf => SortItem.render_carries hs hf)
  · have hnumber (n : Int) {g : Fragment} (hg : g.Carries true []) :
        Fragment.Carries true (.word (toString n) :: g) [] :=
      hg.word_cons (isPlainWord_toString_int n)
    rw [hw.limit]
    intro f hf
    obtain ⟨n, -, rfl⟩ := Option.map_eq_some_iff.1 hf
    unfold Clauses.limitItems
    split
    · exact hnumber _ .nil
    · exact hnumber _ (hnumber _ .nil).word_cons

/-- What is written is read clause by clause. -/
theorem shows (hs : s.WellQualified) (hw : p.Writes s w)
    (hfilter : Option.Rel (Shows d) w.filter filter)
    (hhaving : Option.Rel (Shows d) w.having having) :
    w.fragment.Shows d (w.contents filter having).tokens := by
  have hrel {content : Option Fragment} (h : ∀ f ∈ content, f.Carries true []) :
      Option.Rel (Shows d) content (content.map Fragment.tokens) := by
    cases content with
    | none => exact .none
    | some f => exact .some (h f rfl).shows
  obtain ⟨hgrouping, hordering, hlimit⟩ := hw.carries hs
  have hwhere : Fragment.tokens [.word " WHERE "] = [word "WHERE"] := by decide
  have hgroup : Fragment.tokens [.word " GROUP BY "] = [word "GROUP", word "BY"] := by decide
  have hhas : Fragment.tokens [.word " HAVING "] = [word "HAVING"] := by decide
  have horder : Fragment.tokens [.word " ORDER BY "] = [word "ORDER", word "BY"] := by decide
  have hrows : Fragment.tokens [.word " LIMIT "] = [word "LIMIT"] := by decide
  -- from the last clause to the first
  have hfromLimit : (clause " LIMIT " w.limit).Shows d _ ∧ (clause " LIMIT " w.limit).Starts d :=
    ⟨shows_clause hrows (hrel hlimit), starts_clause w.limit (by decide)⟩
  have hfromOrdering := shows_clause_append horder (hrel hordering) hfromLimit
  have hfromHaving := shows_clause_append hhas hhaving hfromOrdering
  have hfromGrouping := shows_clause_append hgroup (hrel hgrouping) hfromHaving
  exact (shows_clause_append hwhere hfilter hfromGrouping).1

theorem matched (hs : s.WellQualified) (hw : p.Writes s w)
    (hfilter : ∀ ts ∈ filter, expression? ts = some ts)
    (hhaving : ∀ ts ∈ having, expression? ts = some ts) : (w.contents filter having).Matched where
  filter ts hts := openAfter?_of_expression? (hfilter ts hts)
  grouping ts hts := by
    obtain ⟨f, hf, rfl⟩ := Option.map_eq_some_iff.1 hts
    rw [hw.grouping] at hf
    split at hf
    · cases hf
    · cases hf
      exact Clauses.openAfter?_groupingItems hs p.grouping
  having ts hts := openAfter?_of_expression? (hhaving ts hts)
  ordering ts hts := by
    obtain ⟨f, hf, rfl⟩ := Option.map_eq_some_iff.1 hts
    obtain ⟨fs, hfs, hordering⟩ := hw.ordering
    rw [hordering] at hf
    split at hf
    · cases hf
    · cases hf
      exact Clauses.openAfter?_ordering hs hfs
  limit ts hts := by
    obtain ⟨f, hf, rfl⟩ := Option.map_eq_some_iff.1 hts
    rw [hw.limit] at hf
    obtain ⟨n, -, rfl⟩ := Option.map_eq_some_iff.1 hf
    exact Clauses.openAfter?_limitItems n.1 n.2

theorem mapM_grouping (hs : s.WellQualified) (hw : p.Writes s w) :
    (w.grouping.map Fragment.tokens).mapM (list? column?) =
      some (if p.grouping = [] then none else some (s.places p.grouping)) := by
  rw [hw.grouping]
  split
  · rfl
  · rename_i hne
    rw [Option.map_some, Option.mapM_some, Clauses.list?_groupingItems hs hne]
    rfl

theorem mapM_ordering (hs : s.WellQualified) (hw : p.Writes s w) :
    (w.ordering.map Fragment.tokens).mapM (list? sortTerm?) =
      if ∀ item ∈ p.ordering, item.terms s ≠ [] then
        some (if p.ordering = [] then none else some (p.ordering.flatMap (SortItem.terms s)))
      else none := by
  obtain ⟨fs, hfs, hordering⟩ := hw.ordering
  rw [hordering]
  by_cases hne : p.ordering = []
  · simp [hne]
  · rw [if_neg hne, if_neg hne, Option.map_some, Option.mapM_some,
      Clauses.list?_ordering hs hfs hne]
    split <;> rfl

theorem mapM_limit (hw : p.Writes s w) :
    (w.limit.map Fragment.tokens).mapM limit? =
      some (p.limit.map fun n => Clauses.limitNumbers n.1 n.2) := by
  rw [hw.limit]
  cases p.limit with
  | none => rfl
  | some n =>
    rw [Option.map_some, Option.map_some, Option.mapM_some, Clauses.limit?_limitItems]
    rfl

/-- Each clause is read as what it was written for. -/
theorem tail?_contents (hs : s.WellQualified) (hw : p.Writes s w)
    (hfilter : ∀ ts ∈ filter, expression? ts = some ts)
    (hhaving : ∀ ts ∈ having, expression? ts = some ts) :
    (w.contents filter having).tail? =
      if ∀ item ∈ p.ordering, item.terms s ≠ [] then some (p.tail s filter having) else none := by
  have hexpression {content : Option (List Token)} (h : ∀ ts ∈ content, expression? ts = some ts) :
      content.mapM expression? = some content := by
    cases content with
    | none => rfl
    | some ts =>
      rw [Option.mapM_some, h ts rfl]
      rfl
  simp only [Tail.Contents.tail?, Tail.Contents.last?, Written.contents, hexpression hfilter,
    hexpression hhaving, hw.mapM_grouping hs, hw.mapM_ordering hs, hw.mapM_limit,
    Option.bind_eq_bind, Option.bind_some]
  split <;> rfl

/-- The clauses are read if all items of the ordering are terms, and if groups are filtered only
after a grouping. -/
theorem read?_contents (hs : s.WellQualified) (hw : p.Writes s w)
    (hfilter : ∀ ts ∈ filter, expression? ts = some ts)
    (hhaving : ∀ ts ∈ having, expression? ts = some ts) :
    Tail.read? (w.contents filter having).tokens =
      if (∀ item ∈ p.ordering, item.terms s ≠ []) ∧ (p.grouping = [] → having = none) then
        some (p.tail s filter having)
      else none := by
  have hmatched := hw.matched hs hfilter hhaving
  by_cases hgroups : p.grouping = [] → having = none
  · have hwritten : (w.contents filter having).grouping = none → having = none := by
      intro hnone
      apply hgroups
      by_contra hne
      rw [Written.contents, hw.grouping, if_neg hne] at hnone
      cases hnone
    rw [Tail.Contents.read?_tokens hmatched hwritten, hw.tail?_contents hs hfilter hhaving]
    simp only [and_iff_left hgroups]
  · rw [if_neg fun h => hgroups h.2]
    obtain ⟨hempty, hsome⟩ := Classical.not_imp.1 hgroups
    obtain ⟨ts, hts⟩ := Option.ne_none_iff_exists'.1 hsome
    have hungrouped : (w.contents filter having).grouping = none := by
      rw [Written.contents, hw.grouping_eq_none hempty]
      rfl
    exact Tail.Contents.read?_tokens_of_ungrouped hmatched hungrouped hts

end Parts.Writes

theorem Parts.complete_iff {p : Parts} {fs : List Fragment} {having : Fragment}
    (h : p.ordering.mapM (SortItem.render s) = .ok fs) (hh : having.IsFilter d) :
    p.Complete having ↔ (∀ item ∈ p.ordering, item.terms s ≠ []) ∧
      (p.grouping = [] → having.filter? d = none) := by
  rw [Clauses.terms_ne_nil_iff h, hh.filter?_eq_none_iff]
  exact ⟨fun hp => ⟨hp.ordering, hp.grouping⟩, fun hp => ⟨hp.1, hp.2⟩⟩

/-- The clauses of a chain are read in their order, or one of them is not complete. -/
theorem Clauses.tail?_render (hs : s.WellQualified) (c : Clauses stage)
    {f filter having : Fragment} (h : c.render s = .ok f)
    (hfilter : c.parts.condition.render s = .ok filter)
    (hhaving : c.parts.having.render s = .ok having) (hf : filter.IsFilter d)
    (hh : having.IsFilter d) :
    (c.parts.Complete having →
        d.tail? (f.text d) f.values =
          some (c.parts.tail s (filter.filter? d) (having.filter? d))) ∧
      (¬c.parts.Complete having → d.tail? (f.text d) f.values = none) := by
  obtain ⟨w, hw, rfl⟩ := c.exists_written h
  have hwhere : w.filter = filter.nonBlank? := by
    obtain ⟨g, hg, hwritten⟩ := hw.filter
    cases hfilter.symm.trans hg
    exact hwritten
  have hrestricted : w.having = having.nonBlank? := by
    obtain ⟨g, hg, hwritten⟩ := hw.having
    cases hhaving.symm.trans hg
    exact hwritten
  obtain ⟨fs, hfs, -⟩ := hw.ordering
  have hread {g : Fragment} : ∀ ts ∈ g.filter? d, Token.expression? ts = some ts := fun ts hts =>
    Fragment.expression?_of_filter? hts
  obtain ⟨ls, hls, htokens⟩ := hw.shows hs (hwhere ▸ hf.shows) (hrestricted ▸ hh.shows)
  have htail : d.tail? (w.fragment.text d) w.fragment.values =
      Tail.read? (w.contents (filter.filter? d) (having.filter? d)).tokens := by
    rw [Dialect.tail?, hls, Option.bind_some, htokens]
  rw [htail, hw.read?_contents hs hread hread, Parts.complete_iff hfs hh]
  exact ⟨fun h => if_pos h, fun h => if_neg h⟩

/-- In a query, what follows the tables is the clauses of its chain. If their conditions filter
nothing or are expressions, the clauses are read each at most once and in their order, with what they
were written for, just if no item of the ordering is without columns and no groups are filtered that
were not asked for. -/
theorem Relation.Plain.select_clauses (d : Dialect) {r : Relation α} (hr : r.Plain)
    (projection : Projection) (clauses : Clauses stage) {q : Fragment}
    (h : r.select projection clauses = .ok q)
    (hconditions : ∀ c ∈ [clauses.parts.condition, clauses.parts.having], ∀ f,
      c.render r.scope = .ok f → f.IsFilter d) :
    ∃ columns origin tail filter having : Fragment,
      q = .word "SELECT " :: columns ++ .word " " :: origin ++ tail ∧
      r.origin = .ok origin ∧ clauses.render r.scope = .ok tail ∧
      clauses.parts.condition.render r.scope = .ok filter ∧
      clauses.parts.having.render r.scope = .ok having ∧
      (clauses.parts.Complete having →
        d.tail? (tail.text d) tail.values =
          some (clauses.parts.tail r.scope (filter.filter? d) (having.filter? d))) ∧
      (¬clauses.parts.Complete having → d.tail? (tail.text d) tail.values = none) := by
  have hquery : ∃ columns, r.query columns clauses = .ok q := by
    cases projection with
    | rows => exact ⟨_, h⟩
    | columns names =>
      simp only [Relation.select, Relation.columnsQuery] at h
      split at h
      · cases h
      · exact ⟨_, h⟩
    | count name => exact ⟨_, h⟩
  obtain ⟨columns, hquery⟩ := hquery
  obtain ⟨tail, htail, hquery⟩ := bind_eq_ok.1 hquery
  obtain ⟨origin, horigin, hquery⟩ := bind_eq_ok.1 hquery
  cases hquery
  have htail := mapError_eq_ok.1 htail
  obtain ⟨w, hw, -⟩ := clauses.exists_written htail
  obtain ⟨filter, hfilter, -⟩ := hw.filter
  obtain ⟨having, hhaving, -⟩ := hw.having
  have hf : filter.IsFilter d := hconditions _ (by simp) filter hfilter
  have hh : having.IsFilter d := hconditions _ (by simp) having hhaving
  obtain ⟨hcomplete, hincomplete⟩ := clauses.tail?_render hr.scope htail hfilter hhaving hf hh
  exact ⟨columns, origin, tail, filter, having, rfl, mapError_eq_ok.1 horigin, htail, hfilter,
    hhaving, hcomplete, hincomplete⟩

/-- The loans of books, with a column that is called like a clause. -/
def loans : Join := ⟨"::", ⟨⟨"loans", ["id", "book", "a LIMIT"], ["id"], ["id"]⟩, "l"⟩, []⟩

theorem loans_plain : loans.relation.Plain := by
  have hstart : Join.start loans.first.schema "l" "::" = .ok loans := rfl
  exact (Join.Reached.start hstart).relation_plain

/-- The books of a limit that were lent several times, one page of them. -/
def popularBooks : Clauses .limited :=
  .limit
    (.orderBy
      (.having
        (.groupBy (.filter (.fields (.ofList [("l::a LIMIT", .value (.int32 (some 9)))]))) ["book"])
        (.raw "COUNT(*) > 1"))
      rfl [.directed ["book"] .descending, .expression "id" (.addressToNumber "")])
    rfl 10 5

theorem select_clauses_loans :
    ∃ q tail : Fragment, loans.relation.select (.columns ["book"]) popularBooks = .ok q ∧
      popularBooks.render loans.relation.scope = .ok tail ∧
      tail.text .mssql = " WHERE l.[a LIMIT]=? GROUP BY l.[book] HAVING COUNT(*) > 1" ++
        " ORDER BY l.[book] DESC,INET_ATON(l.[id]) LIMIT 10,5" ∧
      Dialect.mssql.tail? (tail.text .mssql) tail.values =
        some ⟨some [.text ['l', '.'], .name "a LIMIT", .keyword .equal, .value (.int32 (some 9))],
          some [("l", "book")],
          some [.word "COUNT", .keyword .opening, .text ['*'], .keyword .closing,
            .keyword .greater, .text ['1']],
          some [⟨none, ("l", "book"), some .descending⟩, ⟨some "INET_ATON", ("l", "id"), none⟩],
          some (10, some 5)⟩ := by
  have hselect : loans.relation.select (.columns ["book"]) popularBooks = .ok _ := rfl
  have hpredicate : Fragment.WellFormed .mssql
      [.word "l.", .name "a LIMIT", .word "=", .slot (.int32 (some 9))] := by
    refine Or.inr (Option.isSome_iff_exists.1 ?_)
    decide
  have hconditions : ∀ c ∈ [popularBooks.parts.condition, popularBooks.parts.having], ∀ f,
      c.render loans.relation.scope = .ok f → f.IsFilter .mssql := by
    intro c hc f hf
    rcases List.mem_pair.1 hc with rfl | rfl
    · cases hf
      exact hpredicate.isFilter
    · cases hf
      exact Or.inr (by decide)
  obtain ⟨columns, origin, tail, filter, having, -, horigin, htail, hfilter, hhaving, hread, -⟩ :=
    loans_plain.select_clauses .mssql (.columns ["book"]) popularBooks hselect hconditions
  cases htail
  cases hfilter
  cases hhaving
  have hcomplete : popularBooks.parts.Complete [.word "COUNT(*) > 1"] := by
    refine ⟨fun direction => ?_, fun hnone => by cases hnone⟩
    cases direction <;> decide
  exact ⟨_, _, hselect, rfl, by decide, (hread hcomplete).trans (by decide)⟩

/-- Loans in the order of no columns at all. -/
def unordered : Clauses .ordered := .orderBy (.filter .always) rfl [.directed [] .ascending]

/-- Groups by nothing, of which one is picked. -/
def ungrouped : Clauses .restricted :=
  .having (.groupBy (.filter .always) []) (.fields (.ofList [("l::id", .comparison .isNull)]))

/-- An ordering by no columns in one direction leaves its keyword behind, and a filter of groups
stays after a grouping by nothing is left out, so what follows the tables is not read. -/
theorem clauses_without_items_unread :
    (∃ q tail : Fragment, loans.relation.select (.count "*") unordered = .ok q ∧
      unordered.render loans.relation.scope = .ok tail ∧
      q.text .sqlite = "SELECT COUNT(*) FROM \"loans\" l ORDER BY " ∧
      tail.text .sqlite = " ORDER BY " ∧
      Dialect.sqlite.tail? (tail.text .sqlite) tail.values = none) ∧
    ∃ q tail : Fragment, loans.relation.select (.count "*") ungrouped = .ok q ∧
      ungrouped.render loans.relation.scope = .ok tail ∧
      q.text .sqlite = "SELECT COUNT(*) FROM \"loans\" l HAVING l.\"id\" IS NULL" ∧
      tail.text .sqlite = " HAVING l.\"id\" IS NULL" ∧
      Dialect.sqlite.tail? (tail.text .sqlite) tail.values = none :=
  ⟨⟨_, _, rfl, rfl, by decide, by decide, by decide⟩,
    ⟨_, _, rfl, rfl, by decide, by decide, by decide⟩⟩

end SqlMapper
