import SqlMapper.Proofs.Logic.Negation
/-! When rendered conditions are predicates at all. A condition that asks for nothing is blank and
leaves its clause out, but inside of another condition its parentheses or its `NOT` stay, with
nothing for them to enclose or to negate. -/
namespace SqlMapper

variable {s : Scope}

namespace Symbol

/-- Whether an operand has to follow. -/
def needsOperand : Symbol → Bool
  | opening | not | and | or => true
  | closing | test _ => false

/-- Symbols with a connective between them. -/
def joined (c : Symbol) : List (List Symbol) → List Symbol
  | [] => []
  | [ss] => ss
  | ss :: rest => ss ++ c :: joined c rest

theorem infix_joined {c : Symbol} {ss : List Symbol} {parts : List (List Symbol)}
    (h : ss ∈ parts) : ss <:+: joined c parts := by
  induction parts with
  | nil => cases h
  | cons part parts ih =>
    cases parts with
    | nil =>
      obtain rfl := List.mem_singleton.1 h
      exact List.infix_rfl
    | cons next parts =>
      rcases List.mem_cons.1 h with rfl | h
      · exact (List.prefix_append _ _).isInfix
      · exact (ih h).trans ((List.suffix_cons _ _).trans (List.suffix_append _ _)).isInfix

end Symbol

/-- A parenthesis closes where an operand has to follow. -/
def Gap (ss : List Symbol) : Prop := ∃ x : Symbol, x.needsOperand ∧ [x, .closing] <:+: ss

theorem Gap.mono {ss ts : List Symbol} (h : Gap ss) (hi : ss <:+: ts) : Gap ts := by
  obtain ⟨x, hx, hgap⟩ := h
  exact ⟨x, hx, hgap.trans hi⟩

theorem Parsing.expects_of_step {p q : Parsing} {x : Symbol} (hx : x.needsOperand)
    (h : p.step x = some q) : q.expects := by
  obtain ⟨outer, l, expects⟩ := p
  cases x with
  | closing => cases hx
  | test t => cases hx
  | opening => cases expects <;> cases h; rfl
  | not => cases expects <;> cases h; rfl
  | and => cases expects <;> cases h; rfl
  | or => cases expects <;> cases h; rfl

/-- No tree is written with a gap. -/
theorem parse_eq_none_of_gap {ss : List Symbol} (h : Gap ss) : parse ss = none := by
  obtain ⟨x, hx, before, after, rfl⟩ := h
  have hrun : Parsing.run ⟨[], .start, true⟩ (before ++ [x, .closing] ++ after) = none := by
    rw [List.append_assoc, Parsing.run_append]
    cases hbefore : Parsing.run ⟨[], .start, true⟩ before with
    | none => rfl
    | some p =>
      show Parsing.run p (x :: .closing :: after) = none
      rw [Parsing.run, List.foldlM_cons]
      cases hstep : p.step x with
      | none => rfl
      | some q =>
        -- the parser waits for an operand, and no parenthesis closes meanwhile
        obtain ⟨outer, l, expects⟩ := q
        obtain rfl : expects = true := Parsing.expects_of_step hx hstep
        rfl
  rw [parse, hrun]

/-- Joined fragments spell what they spell with the connective between, also if there are none. -/
theorem Fragment.spells_joined {w : String} {c : Symbol}
    (hw : ∀ {f g : Fragment} {ss ts : List Symbol}, f.Spells ss → g.Spells ts →
      Spells (f ++ .word w :: g) (ss ++ c :: ts))
    {fs : List Fragment} {parts : List (List Symbol)} (h : List.Forall₂ Spells fs parts) :
    (joined w fs).Spells (Symbol.joined c parts) := by
  induction h with
  | nil =>
    intro rest _
    simp [Symbol.joined, joined]
  | @cons f ss fs parts hf hrest ih =>
    cases hrest with
    | nil => exact hf
    | cons hg hrest => exact hw hf ih

theorem Fragment.isBlank_joined_cons {w : String} {f : Fragment} (hf : ¬f.isBlank)
    (fs : List Fragment) : ¬(joined w (f :: fs)).isBlank := by
  rw [joined_cons, isBlank, List.all_append, Bool.and_eq_true]
  exact fun h => hf h.1

namespace Condition

mutual

/-- No predicate in the condition is written out. -/
def RawFree : Condition → Prop
  | fields _ => True
  | all conditions => RawFreeAll conditions
  | any conditions => RawFreeAll conditions
  | not condition => RawFree condition
  | raw _ => False

def RawFreeAll : List Condition → Prop
  | [] => True
  | condition :: rest => RawFree condition ∧ RawFreeAll rest

end

/-- The condition is rendered as something: its map sets a column, or it combines something. -/
def Written (s : Scope) : Condition → Prop
  | fields map => map.supply.assigned s.columns ≠ []
  | all conditions | any conditions => conditions ≠ []
  | not _ | raw _ => True

mutual

/-- Every combined and every negated part of the condition is rendered as something. -/
def Filled (s : Scope) : Condition → Prop
  | fields _ | raw _ => True
  | all conditions => FilledAll s conditions
  | any conditions => FilledAll s conditions
  | not condition => condition.Written s ∧ Filled s condition

def FilledAll (s : Scope) : List Condition → Prop
  | [] => True
  | condition :: rest => condition.Written s ∧ Filled s condition ∧ FilledAll s rest

end

mutual

/-- The symbols that the condition is written as, whether they are a tree or not. -/
def symbols (s : Scope) : Condition → List Symbol
  | fields map => Symbol.joined .and ((tests s map).map fun t => [.test t])
  | all conditions => Symbol.joined .and (groups s conditions)
  | any conditions => Symbol.joined .or (groups s conditions)
  | not condition => .opening :: .not :: symbols s condition ++ [.closing]
  | raw _ => []

/-- Each condition in parentheses. -/
def groups (s : Scope) : List Condition → List (List Symbol)
  | [] => []
  | condition :: rest => (.opening :: symbols s condition ++ [.closing]) :: groups s rest

end

mutual

theorem rawAvoids_of_rawFree : ∀ c : Condition, c.RawFree → c.RawAvoids true
  | fields map, _ => by
    rw [RawAvoids]
    trivial
  | all conditions, h => by
    rw [RawFree] at h
    rw [RawAvoids]
    exact rawAvoidsAll_of_rawFreeAll conditions h
  | any conditions, h => by
    rw [RawFree] at h
    rw [RawAvoids]
    exact rawAvoidsAll_of_rawFreeAll conditions h
  | not condition, h => by
    rw [RawFree] at h
    rw [RawAvoids]
    exact rawAvoids_of_rawFree condition h
  | raw text, h => by
    rw [RawFree] at h
    exact h.elim

theorem rawAvoidsAll_of_rawFreeAll : ∀ cs : List Condition, RawFreeAll cs → RawAvoidsAll true cs
  | [], _ => by
    rw [RawAvoidsAll]
    trivial
  | c :: cs, h => by
    rw [RawFreeAll] at h
    rw [RawAvoidsAll]
    exact ⟨rawAvoids_of_rawFree c h.1, rawAvoidsAll_of_rawFreeAll cs h.2⟩

end

-- The recursion is that of `render` and `renderAll`, with no condition on what the parts ask for.
mutual

theorem spells_render (hs : s.WellQualified) : ∀ (c : Condition) {f : Fragment}, c.RawFree →
    c.render s = .ok f → f.Spells (c.symbols s)
  | fields map, f, _, h => by
    rw [render] at h
    obtain ⟨terms, hterms, hf⟩ := bind_eq_ok.1 h
    cases hf
    rw [symbols, tests, List.map_map]
    refine Fragment.spells_joined Fragment.Spells.and ?_
    rw [List.forall₂_map_right_iff]
    exact forall₂_of_mapM hterms fun p hp f hf =>
      Supplied.term_spells (hs.columns _ (Supply.mem_of_mem_assigned hp)) hf
  | all conditions, f, hraw, h => by
    rw [RawFree] at hraw
    rw [render] at h
    obtain ⟨parts, hparts, hf⟩ := bind_eq_ok.1 h
    cases hf
    rw [symbols]
    exact Fragment.spells_joined Fragment.Spells.and (spells_renderAll hs conditions hraw hparts)
  | any conditions, f, hraw, h => by
    rw [RawFree] at hraw
    rw [render] at h
    obtain ⟨parts, hparts, hf⟩ := bind_eq_ok.1 h
    cases hf
    rw [symbols]
    exact Fragment.spells_joined Fragment.Spells.or (spells_renderAll hs conditions hraw hparts)
  | not condition, f, hraw, h => by
    rw [RawFree] at hraw
    rw [render] at h
    obtain ⟨inner, hinner, hf⟩ := bind_eq_ok.1 h
    cases hf
    rw [symbols]
    exact (spells_render hs condition hraw hinner).negated
  | raw text, f, hraw, _ => by
    rw [RawFree] at hraw
    exact hraw.elim

theorem spells_renderAll (hs : s.WellQualified) : ∀ (cs : List Condition) {fs : List Fragment},
    RawFreeAll cs → renderAll s cs = .ok fs → List.Forall₂ Fragment.Spells fs (groups s cs)
  | [], fs, _, h => by
    rw [renderAll] at h
    cases h
    rw [groups]
    exact .nil
  | c :: cs, fs, hraw, h => by
    rw [RawFreeAll] at hraw
    rw [renderAll] at h
    obtain ⟨f, hf, h⟩ := bind_eq_ok.1 h
    obtain ⟨rest, hrest, h⟩ := bind_eq_ok.1 h
    cases h
    rw [groups]
    exact .cons (spells_render hs c hraw.1 hf).parens (spells_renderAll hs cs hraw.2 hrest)

end

theorem not_isBlank_term {c : Column} {v : Supplied} {f : Fragment} (h : v.term c = .ok f) :
    ¬f.isBlank := by
  have hname (g : Fragment) : ¬(c.reference ++ g).isBlank := by
    unfold Column.reference
    split <;> simp [Fragment.isBlank, Piece.isBlank]
  cases v with
  | value v =>
    cases h
    exact hname _
  | comparison q =>
    cases h
    exact hname _
  | expression e => cases h

/-- Only what a condition is written as makes its fragment more than blank. -/
theorem isBlank_render_iff {c : Condition} {f : Fragment} (hraw : c.RawFree)
    (h : c.render s = .ok f) : f.isBlank ↔ ¬c.Written s := by
  have hcombined {w : String} {cs : List Condition} {parts : List Fragment}
      (hparts : renderAll s cs = .ok parts) :
      (Fragment.joined w parts).isBlank ↔ ¬cs ≠ [] := by
    cases cs with
    | nil =>
      rw [renderAll] at hparts
      cases hparts
      simp [Fragment.joined, Fragment.isBlank]
    | cons c cs =>
      rw [renderAll] at hparts
      obtain ⟨part, -, hparts⟩ := bind_eq_ok.1 hparts
      obtain ⟨rest, -, hparts⟩ := bind_eq_ok.1 hparts
      cases hparts
      have hpart : ¬part.inParens.isBlank := by
        simp [Fragment.inParens, Fragment.isBlank, Piece.isBlank]
      simp [Fragment.isBlank_joined_cons hpart]
  cases c with
  | fields map =>
    rw [render] at h
    obtain ⟨terms, hterms, hf⟩ := bind_eq_ok.1 h
    cases hf
    have hall := mapM_eq_ok.1 hterms
    rw [Written]
    generalize map.supply.assigned s.columns = assigned at hall
    cases hall with
    | nil => simp [Fragment.joined, Fragment.isBlank]
    | cons hterm hrest => simp [Fragment.isBlank_joined_cons (not_isBlank_term hterm)]
  | all conditions | any conditions =>
    rw [render] at h
    obtain ⟨parts, hparts, hf⟩ := bind_eq_ok.1 h
    cases hf
    exact hcombined hparts
  | not condition =>
    rw [render] at h
    obtain ⟨inner, -, hf⟩ := bind_eq_ok.1 h
    cases hf
    simp [Fragment.isBlank, Piece.isBlank, Written]
  | raw text =>
    rw [RawFree] at hraw
    exact hraw.elim

theorem symbols_eq_nil {c : Condition} (hraw : c.RawFree) (h : ¬c.Written s) :
    c.symbols s = [] := by
  cases c with
  | fields map =>
    rw [Written, not_not] at h
    rw [symbols, tests, h]
    rfl
  | all conditions | any conditions =>
    rw [Written, not_not] at h
    rw [symbols, h, groups, Symbol.joined]
  | not condition => exact absurd trivial h
  | raw text =>
    rw [RawFree] at hraw
    exact hraw.elim

-- A part that is not written leaves nothing between its parentheses, or after its `NOT`.
mutual

theorem gap_of_not_filled : ∀ c : Condition, c.RawFree → ¬c.Filled s → Gap (c.symbols s)
  | fields map, _, h => by
    rw [Filled] at h
    exact absurd trivial h
  | all conditions, hraw, h => by
    rw [RawFree] at hraw
    rw [Filled] at h
    obtain ⟨group, hmem, hgap⟩ := gap_of_not_filledAll conditions hraw h
    rw [symbols]
    exact hgap.mono (Symbol.infix_joined hmem)
  | any conditions, hraw, h => by
    rw [RawFree] at hraw
    rw [Filled] at h
    obtain ⟨group, hmem, hgap⟩ := gap_of_not_filledAll conditions hraw h
    rw [symbols]
    exact hgap.mono (Symbol.infix_joined hmem)
  | not condition, hraw, h => by
    rw [RawFree] at hraw
    rw [Filled, Classical.not_and_iff_not_or_not] at h
    rw [symbols]
    rcases h with hblank | hinner
    · rw [symbols_eq_nil hraw hblank]
      exact ⟨.not, rfl, [.opening], [], rfl⟩
    · exact (gap_of_not_filled condition hraw hinner).mono ⟨[.opening, .not], [.closing], rfl⟩
  | raw text, _, h => by
    rw [Filled] at h
    exact absurd trivial h

theorem gap_of_not_filledAll : ∀ cs : List Condition, RawFreeAll cs → ¬FilledAll s cs →
    ∃ group ∈ groups s cs, Gap group
  | [], _, h => by
    rw [FilledAll] at h
    exact absurd trivial h
  | c :: cs, hraw, h => by
    rw [RawFreeAll] at hraw
    rw [FilledAll, Classical.not_and_iff_not_or_not, Classical.not_and_iff_not_or_not] at h
    rw [groups]
    rcases h with hblank | hinner | hrest
    · rw [symbols_eq_nil hraw.1 hblank]
      exact ⟨_, List.mem_cons_self .., .opening, rfl, List.infix_rfl⟩
    · exact ⟨_, List.mem_cons_self ..,
        (gap_of_not_filled c hraw.1 hinner).mono ⟨[.opening], [.closing], rfl⟩⟩
    · obtain ⟨group, hmem, hgap⟩ := gap_of_not_filledAll cs hraw.2 hrest
      exact ⟨group, List.mem_cons_of_mem _ hmem, hgap⟩

end

mutual

theorem solid_of_filled : ∀ (c : Condition) {f : Fragment}, c.RawFree → c.render s = .ok f →
    c.Written s → c.Filled s → c.Solid s
  | fields map, f, _, h, hwritten, _ => by
    rw [render] at h
    obtain ⟨terms, hterms, -⟩ := bind_eq_ok.1 h
    have htest {p : Column × Supplied} {f : Fragment} (hf : p.2.term p.1 = .ok f) :
        p.2.isTest := by
      obtain ⟨c, v⟩ := p
      cases v with
      | value v => rfl
      | comparison q => rfl
      | expression e => cases hf
    have hall := (mapM_eq_ok.1 hterms).imp fun p f hf => And.intro (htest (p := p) hf) hf
    rw [Solid]
    exact ⟨hwritten, ((List.forall₂_and_left _ _).1 hall).1⟩
  | all conditions, f, hraw, h, hwritten, hfilled => by
    rw [RawFree] at hraw
    rw [render] at h
    rw [Filled] at hfilled
    obtain ⟨parts, hparts, -⟩ := bind_eq_ok.1 h
    rw [Solid]
    exact ⟨hwritten, solidAll_of_filledAll conditions hraw hparts hfilled⟩
  | any conditions, f, hraw, h, hwritten, hfilled => by
    rw [RawFree] at hraw
    rw [render] at h
    rw [Filled] at hfilled
    obtain ⟨parts, hparts, -⟩ := bind_eq_ok.1 h
    rw [Solid]
    exact ⟨hwritten, solidAll_of_filledAll conditions hraw hparts hfilled⟩
  | not condition, f, hraw, h, _, hfilled => by
    rw [RawFree] at hraw
    rw [render] at h
    rw [Filled] at hfilled
    obtain ⟨inner, hinner, -⟩ := bind_eq_ok.1 h
    rw [Solid]
    exact solid_of_filled condition hraw hinner hfilled.1 hfilled.2
  | raw text, f, hraw, _, _, _ => by
    rw [RawFree] at hraw
    exact hraw.elim

theorem solidAll_of_filledAll : ∀ (cs : List Condition) {fs : List Fragment}, RawFreeAll cs →
    renderAll s cs = .ok fs → FilledAll s cs → SolidAll s cs
  | [], fs, _, _, _ => by
    rw [SolidAll]
    trivial
  | c :: cs, fs, hraw, h, hfilled => by
    rw [RawFreeAll] at hraw
    rw [renderAll] at h
    rw [FilledAll] at hfilled
    obtain ⟨f, hf, h⟩ := bind_eq_ok.1 h
    obtain ⟨rest, hrest, -⟩ := bind_eq_ok.1 h
    rw [SolidAll]
    exact ⟨solid_of_filled c hraw.1 hf hfilled.1 hfilled.2.1,
      solidAll_of_filledAll cs hraw.2 hrest hfilled.2.2⟩

end

end Condition

/-- The fragment filters nothing, or is a predicate of the dialect. -/
def Fragment.WellFormed (d : Dialect) (f : Fragment) : Prop :=
  f.isBlank ∨ ∃ t, d.predicate? (f.text d) f.values = some t

theorem Condition.wellFormed_render_iff (d : Dialect) (hs : s.WellQualified) {c : Condition}
    {f : Fragment} (hraw : c.RawFree) (h : c.render s = .ok f) :
    f.WellFormed d ↔ c.Filled s := by
  have hblank := isBlank_render_iff hraw h
  have hcarries : f.Carries true (c.bound s) := c.render_carries hs (rawAvoids_of_rawFree c hraw) h
  have hspells := c.spells_render hs hraw h
  constructor
  · rintro (hf | ⟨t, ht⟩)
    · -- what is not written has no parts, or they would be
      by_contra hgap
      have hnil := symbols_eq_nil hraw (hblank.1 hf)
      obtain ⟨x, -, hx⟩ := gap_of_not_filled c hraw hgap
      rw [hnil, List.infix_nil] at hx
      cases hx
    · by_contra hgap
      rw [hspells.predicate?_eq_parse d hcarries,
        parse_eq_none_of_gap (gap_of_not_filled c hraw hgap)] at ht
      cases ht
  · intro hfilled
    by_cases hwritten : c.Written s
    · obtain ⟨g, t, hg, -, -, hread⟩ :=
        predicate?_render d hs c (solid_of_filled c hraw h hwritten hfilled)
      obtain rfl : f = g := Except.ok.inj (h.symm.trans hg)
      exact Or.inr ⟨t, hread⟩
    · exact Or.inl (hblank.2 hwritten)

namespace Clauses

variable {stage : Stage}

/-- The conditions of a chain of clauses, with their keywords. -/
def conditions {stage : Stage} : Clauses stage → List (String × Condition)
  | filter condition => [(" WHERE ", condition)]
  | having clauses condition => clauses.conditions ++ [(" HAVING ", condition)]
  | groupBy clauses _ | orderBy clauses _ _ | limit clauses _ _ _ => clauses.conditions

/-- A clause that is left out, or stands before a predicate of the dialect. -/
def IsConditional (d : Dialect) (keyword : String) (f : Fragment) : Prop :=
  f = [] ∨ ∃ (g : Fragment) (t : Disjunction),
    f = .word keyword :: g ∧ d.predicate? (g.text d) g.values = some t

theorem isConditional_iff (d : Dialect) (keyword : String) (f : Fragment) :
    IsConditional d keyword (conditional keyword f) ↔ f.WellFormed d := by
  unfold conditional IsConditional Fragment.WellFormed
  split
  · rename_i hblank
    simp [hblank]
  · rename_i hblank
    constructor
    · rintro (h | ⟨g, t, h, ht⟩)
      · cases h
      · cases h
        exact Or.inr ⟨t, ht⟩
    · rintro (h | ⟨t, ht⟩)
      · exact absurd h hblank
      · exact Or.inr ⟨f, t, rfl, ht⟩

/-- Each condition stands in the text after its keyword, or not at all. -/
theorem conditional_stands (clauses : Clauses stage) {g : Fragment}
    (h : clauses.render s = .ok g) {keyword : String} {c : Condition}
    (hc : (keyword, c) ∈ clauses.conditions) {f : Fragment} (hf : c.render s = .ok f) :
    conditional keyword f <:+: g := by
  have hfront {front tail : Fragment} (hi : conditional keyword f <:+: front) :
      conditional keyword f <:+: front ++ tail := hi.trans (List.prefix_append _ _).isInfix
  induction clauses generalizing g with
  | filter condition =>
    cases List.mem_singleton.1 hc
    obtain ⟨k, hk, h⟩ := bind_eq_ok.1 h
    cases h
    cases hf.symm.trans hk
    exact List.infix_rfl
  | groupBy clauses columns ih =>
    obtain ⟨front, hrender, h⟩ := bind_eq_ok.1 h
    split at h <;> cases h
    · exact ih hrender hc
    · exact hfront (ih hrender hc)
  | having clauses condition ih =>
    obtain ⟨front, hrender, h⟩ := bind_eq_ok.1 h
    obtain ⟨k, hk, h⟩ := bind_eq_ok.1 h
    cases h
    rcases List.mem_append.1 hc with hc | hc
    · exact hfront (ih hrender hc)
    · cases List.mem_singleton.1 hc
      cases hf.symm.trans hk
      exact (List.suffix_append _ _).isInfix
  | orderBy clauses _ items ih =>
    obtain ⟨front, hrender, h⟩ := bind_eq_ok.1 h
    split at h
    · cases h
      exact ih hrender hc
    · obtain ⟨parts, -, h⟩ := bind_eq_ok.1 h
      cases h
      exact hfront (ih hrender hc)
  | limit clauses _ offset count ih =>
    obtain ⟨front, hrender, h⟩ := bind_eq_ok.1 h
    split at h <;> cases h <;> exact hfront (ih hrender hc)

end Clauses

namespace Condition

/-- A rendered condition is blank just if nothing is written for it, and otherwise a predicate just
if all of its combined and negated parts are written. A clause of the condition, in every statement
that has one, is well formed in the same cases. -/
theorem wellFormed_iff_filled (d : Dialect) (hs : s.WellQualified) {c : Condition}
    (hraw : c.RawFree) {f : Fragment} (h : c.render s = .ok f) :
    (f.isBlank ↔ ¬c.Written s) ∧ (f.WellFormed d ↔ c.Filled s) ∧
      ∀ {stage : Stage} (clauses : Clauses stage) (keyword : String) (g : Fragment),
        (keyword, c) ∈ clauses.conditions → clauses.render s = .ok g →
          Clauses.conditional keyword f <:+: g ∧
            (Clauses.IsConditional d keyword (Clauses.conditional keyword f) ↔ c.Filled s) := by
  have hwell := wellFormed_render_iff d hs hraw h
  refine ⟨isBlank_render_iff hraw h, hwell, fun clauses keyword g hc hg => ?_⟩
  exact ⟨clauses.conditional_stands hg hc h, (Clauses.isConditional_iff d keyword f).trans hwell⟩

/-- The two columns, and a map that sets neither of them. -/
def pairAndUnset : Condition :=
  all [pair, fields (.ofList [("id", .value (.int32 none)), ("key", .value (.int32 (some 1)))])]

theorem wellFormed_iff_filled_pair :
    (∃ f, (all [pair, not pair]).render pairScope = .ok f ∧ ¬f.isBlank ∧ f.WellFormed .mysql) ∧
      ∃ f, pairAndUnset.render pairScope = .ok f ∧ ¬f.isBlank ∧ ¬f.WellFormed .mysql := by
  have hwritten : pair.Written pairScope := by
    rw [pair, Written]
    decide
  have hfilled : (all [pair, not pair]).Filled pairScope := by
    simp only [pair, Written, Filled, FilledAll]
    exact ⟨hwritten, trivial, trivial, ⟨hwritten, trivial⟩, trivial⟩
  have hunset : ¬pairAndUnset.Filled pairScope := by
    simp only [pairAndUnset, pair, Written, Filled, FilledAll]
    decide
  have hraw : (all [pair, not pair]).RawFree := by
    simp only [pair, RawFree, RawFreeAll, and_self]
  have hrawUnset : pairAndUnset.RawFree := by
    simp only [pairAndUnset, pair, RawFree, RawFreeAll, and_self]
  have hok : (all [pair, not pair]).render pairScope = .ok _ := rfl
  have hokUnset : pairAndUnset.render pairScope = .ok _ := rfl
  obtain ⟨hblank, hwell, -⟩ := wellFormed_iff_filled .mysql pairScope_wellQualified hraw hok
  obtain ⟨hblankUnset, hwellUnset, -⟩ :=
    wellFormed_iff_filled .mysql pairScope_wellQualified hrawUnset hokUnset
  refine ⟨⟨_, hok, ?_, hwell.2 hfilled⟩, _, hokUnset, ?_, fun h => hunset (hwellUnset.1 h)⟩
  · rw [hblank, not_not]
    exact List.cons_ne_nil _ _
  · rw [hblankUnset, not_not]
    exact List.cons_ne_nil _ _

/-- An empty condition is left out by itself, and combined or negated it is no predicate. -/
theorem combined_always_is_no_predicate :
    ∃ f g, (all [pair, always]).render pairScope = .ok f ∧
      (not always).render pairScope = .ok g ∧ always.render pairScope = .ok [] ∧
      f.text .sqlite = "(\"id\"=? AND \"name\"=?) AND ()" ∧ g.text .sqlite = "(NOT )" ∧
      ¬f.isBlank ∧ Dialect.sqlite.predicate? (f.text .sqlite) f.values = none ∧
      ¬g.isBlank ∧ Dialect.sqlite.predicate? (g.text .sqlite) g.values = none :=
  ⟨_, _, rfl, rfl, rfl, by decide, by decide, by decide, by decide, by decide, by decide⟩

end Condition
end SqlMapper
