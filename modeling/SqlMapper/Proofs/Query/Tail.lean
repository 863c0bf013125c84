import SqlMapper.Query.Clauses
import SqlMapper.Proofs.Sql.Number
import SqlMapper.Proofs.Logic.Reading

namespace SqlMapper

namespace Token

/-- A word that no predicate has. -/
def word (w : String) : Token := .text w.toList

/-- The words that clauses begin with, in the order of the language. -/
def clauseWords : List String := ["WHERE", "GROUP", "HAVING", "ORDER", "LIMIT"]

def beginsClause (t : Token) : Bool := clauseWords.any fun w => t = word w

/-- The number of open parentheses after some tokens. Outside of all parentheses no clause may
begin, and no parenthesis may close. -/
def openAfter? : Nat → List Token → Option Nat
  | n, [] => some n
  | n, t :: ts =>
    if n = 0 ∧ (t.beginsClause ∨ t = .keyword .closing) then none
    else openAfter? (t.depthAfter n) ts

/-- The tokens before the next clause, and those from there on. -/
def untilClause : Nat → List Token → List Token × List Token
  | _, [] => ([], [])
  | n, t :: ts =>
    if n = 0 ∧ t.beginsClause then ([], t :: ts)
    else
      let (before, rest) := untilClause (t.depthAfter n) ts
      (t :: before, rest)

/-- An expression, whatever its connectives are: it is not empty, and its parentheses match. -/
def expression? (ts : List Token) : Option (List Token) :=
  if ts ≠ [] ∧ openAfter? 0 ts = some 0 then some ts else none

/-- A column, and what follows it. -/
def reference? : List Token → Option ((String × String) × List Token)
  | .name n :: ts => some (("", n), ts)
  | .text cs :: .name n :: ts =>
    if cs.getLast? = some '.' then some ((String.ofList cs.dropLast, n), ts) else none
  | _ => none

def column? (ts : List Token) : Option (String × String) :=
  match reference? ts with
  | some (c, []) => some c
  | _ => none

def direction? (t : Token) : Option Direction :=
  if t = word "ASC" then some .ascending else if t = word "DESC" then some .descending else none

end Token

/-- An item of an ordering as it is written: a column, maybe in a direction or under a function. -/
structure SortTerm where
  function : Option String
  /-- The alias and the name. -/
  column : String × String
  direction : Option Direction
deriving DecidableEq

namespace Token

def sortTerm? : List Token → Option SortTerm
  | .text function :: .keyword .opening :: ts =>
    match reference? ts with
    | some (c, [.keyword .closing]) => some ⟨some (String.ofList function), c, none⟩
    | _ => none
  | ts =>
    match reference? ts with
    | some (c, []) => some ⟨none, c, none⟩
    | some (c, [t]) => (direction? t).map fun direction => ⟨none, c, some direction⟩
    | _ => none

/-- Items with commas between them, at least one. -/
def list? {α : Type} (item? : List Token → Option α) (ts : List Token) : Option (List α) :=
  (ts.splitOn (.keyword .comma)).mapM item?

def chars? : Token → Option (List Char)
  | .text cs => some cs
  | _ => none

def number? (ts : List Token) : Option Int := do
  Text.int? (← ts.mapM chars?).flatten

/-- A number of rows, or a number of rows to skip and a positive one of rows to return. -/
def limit? (ts : List Token) : Option (Int × Option Int) :=
  match ts.splitOn (.keyword .comma) with
  | [count] => (number? count).map fun count => (count, none)
  | [offset, count] => do
    let offset ← number? offset
    let count ← number? count
    if 0 < count then some (offset, some count) else none
  | _ => none

/-- A clause with its keyword, if one stands at the front, and what follows it. -/
def clause? {α : Type} (keyword : List Token) (content? : List Token → Option α)
    (ts : List Token) : Option (Option α × List Token) :=
  if keyword.isPrefixOf ts then
    let (content, rest) := untilClause 0 (ts.drop keyword.length)
    (content? content).map fun a => (some a, rest)
  else some (none, ts)

end Token

/-- The clauses after the tables of a query, as they are written. -/
structure Tail where
  filter : Option (List Token)
  grouping : Option (List (String × String))
  having : Option (List Token)
  ordering : Option (List SortTerm)
  limit : Option (Int × Option Int)
deriving DecidableEq

namespace Tail
open Token

/-- The clauses that may stand last, if nothing else is left. -/
def ending? (ts : List Token) : Option (Option (List SortTerm) × Option (Int × Option Int)) := do
  let (ordering, ts) ← clause? [word "ORDER", word "BY"] (list? sortTerm?) ts
  let (limit, ts) ← clause? [word "LIMIT"] limit? ts
  if ts = [] then some (ordering, limit) else none

def read? (ts : List Token) : Option Tail := do
  let (filter, ts) ← clause? [word "WHERE"] expression? ts
  let (grouping, ts) ← clause? [word "GROUP", word "BY"] (list? column?) ts
  -- only groups can be filtered once more
  let (having, ts) ←
    if grouping.isSome then clause? [word "HAVING"] expression? ts else some (none, ts)
  let (ordering, limit) ← ending? ts
  some ⟨filter, grouping, having, ordering, limit⟩

end Tail

/-- The clauses in the text of a dialect, which starts after the tables. -/
def Dialect.tail? (d : Dialect) (text : String) (values : List Value) : Option Tail :=
  (d.read text values).bind fun ls => Tail.read? (tokens ls)

/-- Words in quotes and in parentheses begin no clause. -/
example : Dialect.sqlite.tail?
      " WHERE \"a LIMIT\"=? AND (x HAVING) GROUP BY u.\"a\", \"b\" LIMIT -5,3" [.int32 none] =
    some ⟨some [.name "a LIMIT", .keyword .equal, .value (.int32 none), .keyword .and,
        .keyword .opening, .text ['x'], .word "HAVING", .keyword .closing],
      some [("u", "a"), ("", "b")], none, none, some (-5, some 3)⟩ := by
  decide

namespace Token

variable {α : Type} {n m : Nat} {a b rest : List Token} {t : Token} {w : String}

theorem word_injective {v w : String} (h : word v = word w) : v = w :=
  String.toList_inj.1 (Token.text.inj h)

theorem openAfter?_append (n : Nat) (a b : List Token) :
    openAfter? n (a ++ b) = (openAfter? n a).bind fun m => openAfter? m b := by
  induction a generalizing n with
  | nil => rfl
  | cons t a ih =>
    rw [List.cons_append, openAfter?, openAfter?]
    split
    · rfl
    · exact ih _

/-- What is matched outside of parentheses is matched inside of them. -/
theorem openAfter?_add (h : openAfter? n a = some m) (k : Nat) :
    openAfter? (n + k) a = some (m + k) := by
  induction a generalizing n with
  | nil =>
    cases h
    rfl
  | cons t a ih =>
    rw [openAfter?] at h
    split at h
    · cases h
    · rename_i hgo
      have hdepth : t.depthAfter (n + k) = t.depthAfter n + k := by
        by_cases hc : t = .keyword .closing
        · -- one that closes was open
          have hn : n ≠ 0 := fun hn => hgo ⟨hn, .inr hc⟩
          rw [hc]
          show n + k - 1 = n - 1 + k
          omega
        · by_cases ho : t = .keyword .opening
          · rw [ho]
            show n + k + 1 = n + 1 + k
            omega
          · have hsame (j : Nat) : t.depthAfter j = j := by
              unfold depthAfter
              split <;> simp_all
            rw [hsame, hsame]
      rw [openAfter?, if_neg, hdepth]
      · exact ih h
      · rintro ⟨hzero, hbegins⟩
        exact hgo ⟨by omega, hbegins⟩

theorem beginsClause_keyword (k : Keyword) : (keyword k).beginsClause = false := by
  simp [beginsClause, clauseWords, word]

theorem beginsClause_text_eq_false {cs : List Char} (h : ∀ w ∈ clauseWords, cs ≠ w.toList) :
    (text cs).beginsClause = false := by
  rw [Bool.eq_false_iff]
  intro hany
  obtain ⟨w, hw, he⟩ := List.any_eq_true.1 hany
  exact h w hw (Token.text.inj (of_decide_eq_true he))

/-- No clause begins with an alias, whatever its letters are. -/
theorem beginsClause_alias {cs : List Char} (h : cs.getLast? = some '.') :
    (text cs).beginsClause = false := by
  have hlast : ∀ w ∈ clauseWords, w.toList.getLast? ≠ some '.' := by decide
  apply beginsClause_text_eq_false
  rintro w hw rfl
  exact hlast w hw h

theorem eq_of_expression? (h : expression? a = some b) : a = b := by
  unfold expression? at h
  split at h
  · exact Option.some.inj h
  · cases h

theorem openAfter?_of_expression? (h : expression? a = some b) : openAfter? 0 a = some 0 := by
  unfold expression? at h
  split at h
  · rename_i hboth
    exact hboth.2
  · cases h

/-- The token neither opens nor closes a parenthesis, and no clause begins with it. -/
def IsInner (t : Token) : Prop := ∀ n, t.depthAfter n = n ∧ t.beginsClause = false ∧
  t ≠ .keyword .closing

theorem isInner_name (n : String) : IsInner (name n) := fun _ => ⟨rfl, rfl, by simp⟩

theorem isInner_text {cs : List Char} (h : (text cs).beginsClause = false) : IsInner (text cs) :=
  fun _ => ⟨rfl, h, by simp⟩

theorem openAfter?_of_isInner (h : ∀ t ∈ a, t.IsInner) (n : Nat) : openAfter? n a = some n := by
  induction a with
  | nil => rfl
  | cons t a ih =>
    rw [List.forall_mem_cons] at h
    obtain ⟨hdepth, hbegins, hclosing⟩ := h.1 n
    rw [openAfter?, if_neg (by simp [hbegins, hclosing]), hdepth]
    exact ih h.2

/-- No token is left, or one of some clauses begins. -/
def Begins (words : List String) (ts : List Token) : Prop :=
  ∀ t ∈ ts.head?, ∃ w ∈ words, t = word w

theorem untilClause_append (h : openAfter? n a = some m) (rest : List Token) :
    untilClause n (a ++ rest) = (a ++ (untilClause m rest).1, (untilClause m rest).2) := by
  induction a generalizing n with
  | nil =>
    cases h
    rfl
  | cons t a ih =>
    rw [openAfter?] at h
    split at h
    · cases h
    · rename_i hgo
      have hinside : ¬(n = 0 ∧ t.beginsClause) := fun hb => hgo ⟨hb.1, .inl hb.2⟩
      rw [List.cons_append, untilClause, if_neg hinside, ih h]
      rfl

/-- A matched part ends where the next clause begins. -/
theorem untilClause_eq {words : List String} (hwords : ∀ w ∈ words, w ∈ clauseWords)
    (ha : openAfter? 0 a = some 0) (hrest : Begins words rest) :
    untilClause 0 (a ++ rest) = (a, rest) := by
  have hnone : untilClause 0 rest = ([], rest) := by
    cases rest with
    | nil => rfl
    | cons t rest =>
      obtain ⟨w, hw, rfl⟩ := hrest t rfl
      have hbegins : (word w).beginsClause :=
        List.any_eq_true.2 ⟨w, hwords w hw, decide_eq_true rfl⟩
      rw [untilClause, if_pos ⟨rfl, hbegins⟩]
  rw [untilClause_append ha, hnone, List.append_nil]

/-- A clause as it is written, if it is. -/
def clauseTokens (keyword : List Token) (content : Option (List Token)) : List Token :=
  content.elim [] (keyword ++ ·)

theorem Begins.clauseTokens {words : List String} (hrest : Begins words rest) (w : String)
    (others : List Token) (content : Option (List Token)) :
    Begins (w :: words) (clauseTokens (word w :: others) content ++ rest) := by
  intro t ht
  cases content with
  | none =>
    obtain ⟨v, hv, rfl⟩ := hrest t ht
    exact ⟨v, List.mem_cons_of_mem _ hv, rfl⟩
  | some content =>
    obtain rfl : word w = t := Option.some.inj ht
    exact ⟨w, List.mem_cons_self .., rfl⟩

/-- A clause is read if it is written, and otherwise nothing is. -/
theorem clause?_clauseTokens {words : List String} (hwords : ∀ w ∈ words, w ∈ clauseWords)
    (hw : w ∉ words) {others : List Token} {content : Option (List Token)}
    (hcontent : ∀ ts ∈ content, openAfter? 0 ts = some 0) (hrest : Begins words rest)
    (content? : List Token → Option α) :
    clause? (word w :: others) content? (clauseTokens (word w :: others) content ++ rest) =
      (content.mapM content?).map fun a => (a, rest) := by
  cases content with
  | none =>
    have hnot : ¬(word w :: others).isPrefixOf rest := by
      rw [List.isPrefixOf_iff_prefix]
      rintro ⟨more, rfl⟩
      obtain ⟨v, hv, he⟩ := hrest (word w) rfl
      exact hw (word_injective he ▸ hv)
    show clause? _ content? rest = _
    rw [clause?, if_neg hnot]
    rfl
  | some ts =>
    have hprefix : (word w :: others).isPrefixOf (word w :: others ++ ts ++ rest) := by
      rw [List.isPrefixOf_iff_prefix, List.append_assoc]
      exact List.prefix_append _ _
    show clause? _ content? (word w :: others ++ ts ++ rest) = _
    rw [clause?, if_pos hprefix, List.append_assoc, List.drop_left,
      untilClause_eq hwords (hcontent ts rfl) hrest]
    show (content? ts).map _ = ((content? ts).map some).map _
    rw [Option.map_map]
    rfl

end Token

namespace Tail
open Token

/-- What stands in each clause, if the clause is written. -/
structure Contents where
  filter : Option (List Token)
  grouping : Option (List Token)
  having : Option (List Token)
  ordering : Option (List Token)
  limit : Option (List Token)

namespace Contents

variable (c : Contents)

def fromLimit : List Token := clauseTokens [word "LIMIT"] c.limit

def fromOrdering : List Token :=
  clauseTokens [word "ORDER", word "BY"] c.ordering ++ c.fromLimit

def fromHaving : List Token := clauseTokens [word "HAVING"] c.having ++ c.fromOrdering

def fromGrouping : List Token :=
  clauseTokens [word "GROUP", word "BY"] c.grouping ++ c.fromHaving

/-- The clauses one after another. -/
def tokens : List Token := clauseTokens [word "WHERE"] c.filter ++ c.fromGrouping

/-- No clause ends before its end. -/
structure Matched : Prop where
  filter : ∀ ts ∈ c.filter, openAfter? 0 ts = some 0
  grouping : ∀ ts ∈ c.grouping, openAfter? 0 ts = some 0
  having : ∀ ts ∈ c.having, openAfter? 0 ts = some 0
  ordering : ∀ ts ∈ c.ordering, openAfter? 0 ts = some 0
  limit : ∀ ts ∈ c.limit, openAfter? 0 ts = some 0

/-- The ordering and the limit, each read by itself. -/
def last? : Option (Option (List SortTerm) × Option (Int × Option Int)) := do
  let ordering ← c.ordering.mapM (list? sortTerm?)
  let limit ← c.limit.mapM limit?
  some (ordering, limit)

/-- The clauses, each read by itself. -/
def tail? : Option Tail := do
  let filter ← c.filter.mapM expression?
  let grouping ← c.grouping.mapM (list? column?)
  let having ← c.having.mapM expression?
  let (ordering, limit) ← c.last?
  some ⟨filter, grouping, having, ordering, limit⟩

theorem begins_limit : Begins ["LIMIT"] c.fromLimit := by
  have hnil : Begins [] [] := fun _ h => by cases h
  have h := hnil.clauseTokens "LIMIT" [] c.limit
  rwa [List.append_nil] at h

theorem begins_ordering : Begins ["ORDER", "LIMIT"] c.fromOrdering :=
  c.begins_limit.clauseTokens "ORDER" _ c.ordering

theorem begins_having : Begins ["HAVING", "ORDER", "LIMIT"] c.fromHaving :=
  c.begins_ordering.clauseTokens "HAVING" _ c.having

theorem begins_grouping : Begins ["GROUP", "HAVING", "ORDER", "LIMIT"] c.fromGrouping :=
  c.begins_having.clauseTokens "GROUP" _ c.grouping

variable {c}

theorem ending?_fromOrdering (hc : c.Matched) : ending? c.fromOrdering = c.last? := by
  have hordering : clause? [word "ORDER", word "BY"] (list? sortTerm?) c.fromOrdering =
      (c.ordering.mapM (list? sortTerm?)).map fun a => (a, c.fromLimit) :=
    clause?_clauseTokens (by decide) (by decide) hc.ordering c.begins_limit _
  have hlimit : clause? [word "LIMIT"] limit? c.fromLimit =
      (c.limit.mapM limit?).map fun a => (a, []) := by
    have hnil : Begins [] [] := fun _ h => by cases h
    rw [← List.append_nil c.fromLimit]
    exact clause?_clauseTokens (by decide) (by decide) hc.limit hnil limit?
  simp only [ending?, last?, hordering, hlimit, Option.bind_eq_bind, Option.bind_map,
    Function.comp_def, if_true]

/-- A filter of groups is none of the clauses that may stand last. -/
theorem ending?_fromHaving {ts : List Token} (h : c.having = some ts) :
    ending? c.fromHaving = none := by
  have hbegins : c.fromHaving = word "HAVING" :: (ts ++ c.fromOrdering) := by
    rw [fromHaving, h]
    rfl
  rw [hbegins]
  rfl

theorem clause?_tokens (hc : c.Matched) : clause? [word "WHERE"] expression? c.tokens =
    (c.filter.mapM expression?).map fun a => (a, c.fromGrouping) :=
  clause?_clauseTokens (by decide) (by decide) hc.filter c.begins_grouping expression?

theorem clause?_fromGrouping (hc : c.Matched) :
    clause? [word "GROUP", word "BY"] (list? column?) c.fromGrouping =
      (c.grouping.mapM (list? column?)).map fun a => (a, c.fromHaving) :=
  clause?_clauseTokens (by decide) (by decide) hc.grouping c.begins_having _

/-- Clauses are read one by one. -/
theorem read?_tokens (hc : c.Matched) (h : c.grouping = none → c.having = none) :
    read? c.tokens = c.tail? := by
  have hhaving : clause? [word "HAVING"] expression? c.fromHaving =
      (c.having.mapM expression?).map fun a => (a, c.fromOrdering) :=
    clause?_clauseTokens (by decide) (by decide) hc.having c.begins_ordering expression?
  simp only [read?, tail?, clause?_tokens hc, clause?_fromGrouping hc, hhaving,
    Option.bind_eq_bind, Option.bind_map, Function.comp_def]
  congr 1
  funext filter
  cases hg : c.grouping with
  | none =>
    have hsame : c.fromHaving = c.fromOrdering := by
      rw [fromHaving, h hg]
      rfl
    simp [h hg, hsame, ending?_fromOrdering hc]
  | some ts =>
    simp only [Option.mapM_some, ending?_fromOrdering hc]
    cases list? column? ts <;> rfl

/-- Without a grouping, a filter of groups is not read at all. -/
theorem read?_tokens_of_ungrouped (hc : c.Matched) (hg : c.grouping = none) {ts : List Token}
    (hh : c.having = some ts) : read? c.tokens = none := by
  have hgrouping : clause? [word "GROUP", word "BY"] (list? column?) c.fromGrouping =
      some (none, c.fromHaving) := by
    rw [clause?_fromGrouping hc, hg]
    rfl
  simp only [read?, clause?_tokens hc, hgrouping, Option.bind_eq_bind, Option.bind_map,
    Function.comp_def, Option.bind_some, Option.isSome_none, Bool.false_eq_true, if_false,
    ending?_fromHaving hh, Option.bind_none]
  exact Option.bind_fun_none _

end Contents
end Tail
end SqlMapper
