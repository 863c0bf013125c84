import SqlMapper.Proofs.Query.Bound
import SqlMapper.Proofs.Query.Tail

namespace SqlMapper

variable {α : Type} {s : Scope} {f : Fragment}

namespace Token

variable {item? : List Token → Option α} {ts : List Token}

theorem list?_of_not_mem (h : keyword .comma ∉ ts) :
    list? item? ts = (item? ts).map fun a => [a] := by
  rw [list?, List.splitOn_eq_singleton h, List.mapM_cons]
  cases item? ts <;> rfl

theorem list?_append (item? : List Token → Option α) (a b : List Token) :
    list? item? (a ++ keyword .comma :: b) =
      (list? item? a).bind fun xs => (list? item? b).map fun ys => xs ++ ys := by
  rw [list?, List.splitOn_append_cons_self, List.mapM_append]
  rw [list?, list?]
  cases (a.splitOn (keyword .comma)).mapM item? with
  | none => rfl
  | some xs => cases (b.splitOn (keyword .comma)).mapM item? <;> rfl

end Token

namespace Fragment
open Token

/-- What separates items: a comma, maybe with a blank after it. -/
def separators : List String := [",", ", "]

variable {w : String} {fs : List Fragment} {item? : List Token → Option α}

theorem tokens_append_separator (hw : w ∈ separators) (f g : Fragment) :
    tokens (f ++ .word w :: g) = f.tokens ++ .keyword .comma :: g.tokens := by
  have hends : ∀ w ∈ separators, w.toList.head?.any isFreeChar ∧
      w.toList.getLast?.any isFreeChar ∧ tokens [.word w] = [.keyword .comma] := by decide
  obtain ⟨hstart, hend, htokens⟩ := hends w hw
  rw [tokens_append (parts_word hstart), tokens_word_cons hend, htokens]
  rfl

theorem list?_joined (item? : List Token → Option α) (hw : w ∈ separators) (hne : fs ≠ []) :
    list? item? (joined w fs).tokens =
      (fs.mapM fun f => list? item? f.tokens).map List.flatten := by
  induction fs with
  | nil => exact absurd rfl hne
  | cons f fs ih =>
    cases fs with
    | nil =>
      rw [joined, List.mapM_cons]
      cases list? item? f.tokens <;> simp
    | cons g fs =>
      have hrest := ih (List.cons_ne_nil g fs)
      rw [joined_cons_cons, tokens_append_separator hw, list?_append, hrest,
        List.mapM_cons (a := f)]
      cases list? item? f.tokens with
      | none => rfl
      | some xs => cases (g :: fs).mapM fun f => list? item? f.tokens <;> rfl

/-- Parts that are one item each. -/
theorem list?_joined_map {γ : Type} {xs : List γ} {frag : γ → Fragment} {a : γ → α}
    (hw : w ∈ separators) (hne : xs ≠ [])
    (h : ∀ x ∈ xs, list? item? (frag x).tokens = some [a x]) :
    list? item? (joined w (xs.map frag)).tokens = some (xs.map a) := by
  have hall : (xs.map frag).mapM (fun f => list? item? f.tokens) =
      some (xs.map fun x => [a x]) := by
    rw [List.mapM_map]
    exact mapM_eq_some_map h
  rw [list?_joined item? hw (by simpa using hne), hall, Option.map_some, ← List.flatMap_def,
    ← List.map_eq_flatMap]

/-- Items whose parentheses match do so with commas between them. -/
theorem openAfter?_joined (hw : w ∈ separators) (h : ∀ f ∈ fs, openAfter? 0 f.tokens = some 0) :
    openAfter? 0 (joined w fs).tokens = some 0 := by
  induction fs with
  | nil => rfl
  | cons f fs ih =>
    rw [List.forall_mem_cons] at h
    cases fs with
    | nil => exact h.1
    | cons g fs =>
      have hcomma (ts : List Token) : openAfter? 0 (.keyword .comma :: ts) = openAfter? 0 ts := by
        rw [openAfter?, if_neg (by simp [beginsClause_keyword])]
        rfl
      rw [joined_cons_cons, tokens_append_separator hw, openAfter?_append, h.1, Option.bind_some,
        hcomma]
      exact ih h.2

end Fragment

namespace Column

variable {c : Column}

/-- The alias and the name, as they are read. -/
def place (c : Column) : String × String := (c.qualifier, c.name)

theorem tokens_reference (h : c.WellQualified) :
    c.reference.tokens = c.aliasTokens ++ [.name c.name] := by
  have htokens := tokens_reference_append h []
  rwa [List.append_nil] at htokens

theorem isInner_of_mem_aliasTokens {t : Token} (h : t ∈ c.aliasTokens) : t.IsInner := by
  unfold aliasTokens at h
  split at h
  · cases h
  · obtain rfl := List.mem_singleton.1 h
    exact Token.isInner_text (Token.beginsClause_alias (List.getLast?_concat ..))

theorem isInner_of_mem_reference (h : c.WellQualified) : ∀ t ∈ c.reference.tokens, t.IsInner := by
  intro t ht
  rw [tokens_reference h] at ht
  rcases List.mem_append.1 ht with ht | ht
  · exact isInner_of_mem_aliasTokens ht
  · rw [List.mem_singleton.1 ht]
    exact Token.isInner_name c.name

theorem comma_not_mem_aliasTokens (c : Column) : .keyword .comma ∉ c.aliasTokens := by
  unfold aliasTokens
  split <;> simp

theorem reference?_tokens (c : Column) (ts : List Token) :
    Token.reference? (c.aliasTokens ++ .name c.name :: ts) = some (c.place, ts) := by
  unfold aliasTokens
  split
  · rename_i hq
    simp [Token.reference?, place, hq]
  · simp [Token.reference?, place]

theorem list?_reference (h : c.WellQualified) :
    Token.list? Token.column? c.reference.tokens = some [c.place] := by
  rw [tokens_reference h, Token.list?_of_not_mem (by simp [comma_not_mem_aliasTokens]),
    Token.column?, reference?_tokens]
  rfl

/-- A column does not begin like a function, so only its reference is read. -/
theorem sortTerm?_aliasTokens (c : Column) (ts : List Token) :
    Token.sortTerm? (c.aliasTokens ++ .name c.name :: ts) =
      match Token.reference? (c.aliasTokens ++ .name c.name :: ts) with
      | some (c, []) => some ⟨none, c, none⟩
      | some (c, [t]) => (Token.direction? t).map fun direction => ⟨none, c, some direction⟩
      | _ => none := by
  unfold aliasTokens
  split <;> rfl

theorem sortTerm?_tokens (c : Column) (ts : List Token) :
    Token.sortTerm? (c.aliasTokens ++ .name c.name :: ts) =
      match ts with
      | [] => some ⟨none, c.place, none⟩
      | [t] => (Token.direction? t).map fun direction => ⟨none, c.place, some direction⟩
      | _ => none := by
  rw [sortTerm?_aliasTokens, c.reference?_tokens ts]
  cases ts with
  | nil => rfl
  | cons t ts => cases ts <;> rfl

end Column

/-- The columns of a grouping. -/
def Scope.places (s : Scope) (names : List String) : List (String × String) :=
  names.map fun name => (s.column name).place

namespace Clauses

/-- What stands after `GROUP BY`. -/
def groupingItems (s : Scope) (names : List String) : Fragment :=
  Fragment.joined ", " (names.map (columnReference s))

theorem list?_groupingItems (hs : s.WellQualified) {names : List String} (hne : names ≠ []) :
    Token.list? Token.column? (groupingItems s names).tokens = some (s.places names) :=
  Fragment.list?_joined_map (by decide) hne fun name _ => Column.list?_reference (hs.column name)

theorem openAfter?_groupingItems (hs : s.WellQualified) (names : List String) :
    Token.openAfter? 0 (groupingItems s names).tokens = some 0 :=
  Fragment.openAfter?_joined (by decide) (List.forall_mem_map.2 fun name _ =>
    Token.openAfter?_of_isInner (Column.isInner_of_mem_reference (hs.column name)) 0)

end Clauses

namespace SortItem
open Token

variable {c : Column}

/-- The terms that the item is written as. -/
def terms (s : Scope) : SortItem → List SortTerm
  | column n => [⟨none, (s.column n).place, none⟩]
  | directed names direction => names.map fun n => ⟨none, (s.column n).place, some direction⟩
  | expression n e => (e.function?.map fun f => ⟨some f.1, (s.column n).place, none⟩).toList

/-- What an item of an ordering is read as, if it is written as terms. -/
structure Reads (f : Fragment) (terms : List SortTerm) : Prop where
  matched : openAfter? 0 f.tokens = some 0
  list? : Token.list? sortTerm? f.tokens = if terms = [] then none else some terms

theorem reads_column (hc : c.WellQualified) : Reads c.reference [⟨none, c.place, none⟩] where
  matched := openAfter?_of_isInner (Column.isInner_of_mem_reference hc) 0
  list? := by
    rw [Column.tokens_reference hc, list?_of_not_mem (by simp [c.comma_not_mem_aliasTokens]),
      c.sortTerm?_tokens]
    rfl

theorem reads_directedColumn (hc : c.WellQualified) (direction : Direction) :
    Reads (c.reference ++ [.word (" " ++ direction.label)])
      [⟨none, c.place, some direction⟩] := by
  have hlabel : Fragment.tokens [.word (" " ++ direction.label)] = [word direction.label] := by
    cases direction <;> decide
  have hinner : (word direction.label).IsInner := by
    apply isInner_text
    cases direction <;> decide
  have hread : direction? (word direction.label) = some direction := by
    cases direction <;> rfl
  have htokens := Column.tokens_reference_append hc [.word (" " ++ direction.label)]
  rw [hlabel] at htokens
  constructor
  · rw [htokens]
    apply openAfter?_of_isInner
    intro t ht
    simp only [List.mem_append, List.mem_cons, List.not_mem_nil, or_false] at ht
    rcases ht with ht | rfl | rfl
    · exact Column.isInner_of_mem_aliasTokens ht
    · exact isInner_name c.name
    · exact hinner
  · have hcomma : keyword .comma ∉ c.aliasTokens ++ [.name c.name, word direction.label] := by
      simp [c.comma_not_mem_aliasTokens, word]
    rw [htokens, list?_of_not_mem hcomma, c.sortTerm?_tokens]
    show (Option.map _ (direction? _)).map _ = _
    rw [hread]
    rfl

/-- The columns of one direction are read as if each were an item. -/
theorem reads_directed (hs : s.WellQualified) (names : List String) (direction : Direction) :
    Reads (Fragment.joined "," (names.map fun name =>
      (s.column name).reference ++ [.word (" " ++ direction.label)]))
      ((directed names direction).terms s) := by
  have hone (name : String) := reads_directedColumn (hs.column name) direction
  constructor
  · exact Fragment.openAfter?_joined (by decide) (List.forall_mem_map.2 fun name _ =>
      (hone name).matched)
  · by_cases hne : names = []
    · rw [hne]
      rfl
    · have hterms : (directed names direction).terms s ≠ [] := by simpa [terms] using hne
      rw [if_neg hterms]
      exact Fragment.list?_joined_map (by decide) hne fun name _ => (hone name).list?

theorem reads_function (hc : c.WellQualified) {function : String}
    (hf : function ∈ ["INET_ATON", "INET_NTOA"]) :
    Reads (.word (function ++ "(") :: c.reference ++ [.word ")"])
      [⟨some function, c.place, none⟩] := by
  have hfunctions : ∀ function ∈ ["INET_ATON", "INET_NTOA"],
      (function ++ "(").toList.getLast?.any isFreeChar ∧
      Fragment.tokens [.word (function ++ "(")] = [.text function.toList, .keyword .opening] ∧
      (text function.toList).beginsClause = false := by decide
  obtain ⟨hend, hword, hbegins⟩ := hfunctions function hf
  have htokens : Fragment.tokens (.word (function ++ "(") :: c.reference ++ [.word ")"]) =
      .text function.toList :: .keyword .opening ::
        (c.aliasTokens ++ .name c.name :: [.keyword .closing]) := by
    rw [List.cons_append, Fragment.tokens_word_cons hend, hword,
      Column.tokens_reference_append hc]
    rfl
  constructor
  · have hinside : openAfter? 1 (c.aliasTokens ++ [.name c.name]) = some 1 := by
      rw [← Column.tokens_reference hc]
      exact openAfter?_of_isInner (Column.isInner_of_mem_reference hc) 1
    have hrest : openAfter? 1 (c.aliasTokens ++ .name c.name :: [.keyword .closing]) = some 0 := by
      rw [List.append_cons, openAfter?_append, hinside]
      rfl
    rw [htokens, openAfter?, if_neg (by simp [hbegins]), openAfter?,
      if_neg (by simp [beginsClause_keyword])]
    exact hrest
  · have hcomma : keyword .comma ∉ .text function.toList :: .keyword .opening ::
        (c.aliasTokens ++ .name c.name :: [.keyword .closing]) := by
      simp [c.comma_not_mem_aliasTokens]
    rw [htokens, list?_of_not_mem hcomma, sortTerm?, c.reference?_tokens]
    simp

theorem reads_render (hs : s.WellQualified) {item : SortItem} (h : item.render s = .ok f) :
    Reads f (item.terms s) := by
  cases item with
  | column name =>
    cases h
    exact reads_column (hs.column name)
  | directed names direction =>
    cases h
    exact reads_directed hs names direction
  | expression name e =>
    simp only [render, Expression.render] at h
    split at h
    · rename_i hposition
      cases h
      -- what may order is a function of an address
      cases e with
      | addressToNumber _ =>
        exact reads_function (hs.column name) (by decide)
      | numberToAddress _ =>
        exact reads_function (hs.column name) (by decide)
      | _ => simp [Expression.positions] at hposition
    · cases h

/-- Only columns of one direction may be no terms. -/
theorem terms_eq_nil_iff {item : SortItem} (h : item.render s = .ok f) :
    item.terms s = [] ↔ ∃ direction, item = directed [] direction := by
  cases item with
  | column name => simp [terms]
  | directed names direction => simp [terms]
  | expression name e =>
    simp only [render, Expression.render] at h
    split at h
    · rename_i hposition
      cases e <;> simp_all [Expression.positions, terms, Expression.function?]
    · cases h

end SortItem

namespace Clauses

variable {items : List SortItem} {fs : List Fragment}

theorem openAfter?_ordering (hs : s.WellQualified) (h : items.mapM (SortItem.render s) = .ok fs) :
    Token.openAfter? 0 (Fragment.joined "," fs).tokens = some 0 :=
  Fragment.openAfter?_joined (by decide)
    (forall_of_mapM h fun _ _ _ hf => (SortItem.reads_render hs hf).matched)

/-- All items are terms unless one of them is columns in a direction without any column. -/
theorem terms_ne_nil_iff (h : items.mapM (SortItem.render s) = .ok fs) :
    (∀ item ∈ items, item.terms s ≠ []) ↔ ∀ direction, .directed [] direction ∉ items := by
  constructor
  · intro hterms direction hmem
    exact hterms _ hmem rfl
  · intro hdirected item hitem hnil
    have hall := (mapM_eq_ok.1 h).imp fun item f hf =>
      And.intro (SortItem.terms_eq_nil_iff hf).1 hf
    obtain ⟨direction, rfl⟩ := ((List.forall₂_and_left _ _).1 hall).1 item hitem hnil
    exact hdirected direction hitem

/-- An ordering is read as the terms of its items if each of them has some. -/
theorem list?_ordering (hs : s.WellQualified) (h : items.mapM (SortItem.render s) = .ok fs)
    (hne : items ≠ []) :
    Token.list? Token.sortTerm? (Fragment.joined "," fs).tokens =
      if ∀ item ∈ items, item.terms s ≠ [] then some (items.flatMap (SortItem.terms s))
      else none := by
  have hall := mapM_eq_ok.1 h
  have hparts : fs ≠ [] := by
    rintro rfl
    exact hne (List.forall₂_nil_right_iff.1 hall)
  have hreads := hall.imp fun _ _ hf => SortItem.reads_render hs hf
  have hmapM : (fs.mapM fun f => Token.list? Token.sortTerm? f.tokens) =
      items.mapM fun item => if item.terms s = [] then none else some (item.terms s) := by
    clear h hne hparts hall
    induction hreads with
    | nil => rfl
    | cons hread _ ih => rw [List.mapM_cons, List.mapM_cons, hread.list?, ih]
  rw [Fragment.list?_joined _ (by decide) hparts, hmapM]
  split
  · rename_i hterms
    rw [mapM_eq_some_map fun item hitem => if_neg (hterms item hitem), List.flatMap_def]
    rfl
  · rename_i hterms
    simp only [ne_eq, not_forall, not_not] at hterms
    obtain ⟨item, hitem, hnil⟩ := hterms
    rw [mapM_eq_none hitem (if_pos hnil)]
    rfl

end Clauses

namespace Token

/-- A number as tokens. Its minus is one by itself. -/
def ofNumber : Int → List Token
  | .ofNat n => [.text (toString n).toList]
  | .negSucc n => [.text ['-'], .text (toString (n + 1)).toList]

/-- Digits are no keyword, and no blanks. -/
theorem tokens_digits (n : Nat) :
    tokens ((toString n).toList.map .char) = [.text (toString n).toList] := by
  obtain ⟨c, cs, hc, hdigit⟩ := Text.exists_toString_eq_cons n
  have hword : ∀ c ∈ (toString n).toList, isWordChar c := by
    intro c hc
    simp [isWordChar, Char.isAlphanum, Text.isDigit_of_mem_toString hc]
  have hblank : ¬(toString n).toList.all Char.isWhitespace := by
    have hvisible : c.isWhitespace = false := by
      rw [Bool.eq_false_iff]
      intro hspace
      have hcases := by simpa [Char.isWhitespace] using hspace
      rcases hcases with ((rfl | rfl) | rfl) | rfl <;> cases hdigit
    rw [hc, List.all_cons, hvisible]
    exact Bool.false_ne_true
  have hnone : Keyword.all.find? (·.spelling.toList = (toString n).toList) = none := by
    have hstart : ∀ k ∈ Keyword.all, ¬k.spelling.toList.head?.any Char.isDigit := by decide
    rw [List.find?_eq_none]
    intro k hk he
    apply hstart k hk
    rw [of_decide_eq_true he, hc]
    exact hdigit
  rw [tokens_of_isWordChar (by rw [hc]; exact List.cons_ne_nil c cs) hword, ofChars?,
    if_neg hblank, hnone]
  rfl

theorem tokens_number (n : Int) : Fragment.tokens [.word (toString n)] = ofNumber n := by
  have hlexemes (w : String) : Fragment.lexemes [.word w] = w.toList.map .char := by
    simp [Piece.lexemes]
  rw [Fragment.tokens, hlexemes]
  cases n with
  | ofNat n => exact tokens_digits n
  | negSucc n =>
    have hminus : ∀ l ∈ ([.char '-'] : List Lexeme).getLast?, l.isFree := by decide
    rw [Text.toList_toString_negSucc, List.map_cons, ← List.singleton_append,
      tokens_append_of_left hminus, tokens_digits, ofNumber]
    rfl

theorem number?_texts (css : List (List Char)) :
    number? (css.map .text) = Text.int? css.flatten := by
  have hchars : (css.map .text).mapM chars? = some (css.map id) := by
    rw [List.mapM_map]
    exact mapM_eq_some_map fun _ _ => rfl
  rw [number?, hchars, List.map_id]
  rfl

theorem number?_ofNumber (n : Int) : number? (ofNumber n) = some n := by
  have hread := Text.int?_toString n
  cases n with
  | ofNat n =>
    refine (number?_texts [(toString n).toList]).trans ?_
    rw [List.flatten_singleton]
    exact hread
  | negSucc n =>
    rw [Text.toList_toString_negSucc] at hread
    refine (number?_texts [['-'], (toString (n + 1)).toList]).trans ?_
    rw [List.flatten_cons, List.flatten_singleton]
    exact hread

theorem comma_not_mem_ofNumber (n : Int) : keyword .comma ∉ ofNumber n := by
  cases n <;> simp [ofNumber]

theorem isInner_of_mem_ofNumber {n : Int} {t : Token} (h : t ∈ ofNumber n) : t.IsInner := by
  have hdigits (n : Nat) : (text (toString n).toList).beginsClause = false := by
    have hstart : ∀ w ∈ clauseWords, ¬w.toList.head?.any Char.isDigit := by decide
    obtain ⟨c, cs, hc, hdigit⟩ := Text.exists_toString_eq_cons n
    apply beginsClause_text_eq_false
    intro w hw he
    apply hstart w hw
    rw [← he, hc]
    exact hdigit
  cases n with
  | ofNat n =>
    obtain rfl := List.mem_singleton.1 h
    exact isInner_text (hdigits n)
  | negSucc n =>
    simp only [ofNumber, List.mem_cons, List.not_mem_nil, or_false] at h
    rcases h with rfl | rfl
    · exact isInner_text rfl
    · exact isInner_text (hdigits (n + 1))

end Token

namespace Clauses
open Token

/-- What stands after `LIMIT`. -/
def limitItems (offset count : Int64) : Fragment :=
  if count ≤ 0 then [.word (toString offset.toInt)]
  else [.word (toString offset.toInt), .word ",", .word (toString count.toInt)]

/-- The numbers of a limit. -/
def limitNumbers (offset count : Int64) : Int × Option Int :=
  (offset.toInt, if count ≤ 0 then none else some count.toInt)

theorem tokens_limitItems (offset count : Int64) :
    (limitItems offset count).tokens = ofNumber offset.toInt ++
      if count ≤ 0 then [] else keyword .comma :: ofNumber count.toInt := by
  unfold limitItems
  split
  · rw [tokens_number, List.append_nil]
  · rw [Fragment.tokens_word_cons_of_parts Fragment.parts_word,
      Fragment.tokens_word_cons (w := ","), tokens_number, tokens_number]
    rfl

theorem openAfter?_limitItems (offset count : Int64) :
    openAfter? 0 (limitItems offset count).tokens = some 0 := by
  apply openAfter?_of_isInner
  rw [tokens_limitItems]
  intro t ht
  rcases List.mem_append.1 ht with ht | ht
  · exact isInner_of_mem_ofNumber ht
  · split at ht
    · cases ht
    · rcases List.mem_cons.1 ht with rfl | ht
      · exact fun _ => ⟨rfl, beginsClause_keyword _, by simp⟩
      · exact isInner_of_mem_ofNumber ht

theorem limit?_limitItems (offset count : Int64) :
    limit? (limitItems offset count).tokens = some (limitNumbers offset count) := by
  have hsingle (n : Int) : (ofNumber n).splitOn (keyword .comma) = [ofNumber n] :=
    List.splitOn_eq_singleton (comma_not_mem_ofNumber n)
  by_cases hcount : count ≤ 0
  · rw [tokens_limitItems, limitNumbers, if_pos hcount, if_pos hcount, List.append_nil, limit?,
      hsingle]
    simp [number?_ofNumber]
  · have hpositive : 0 < count.toInt := by
      rw [Int64.le_iff_toInt_le] at hcount
      exact Int.not_le.1 hcount
    rw [tokens_limitItems, limitNumbers, if_neg hcount, if_neg hcount, limit?,
      List.splitOn_append_cons_self, hsingle, hsingle]
    simp [number?_ofNumber, hpositive]

end Clauses
end SqlMapper
