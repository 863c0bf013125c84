import Mathlib.Data.List.SplitBy
import SqlMapper.Proofs.Sql.Carries

namespace SqlMapper

/-- The words and signs of the language of predicates. -/
inductive Keyword where
  | opening
  | closing
  | comma
  | not
  | and
  | or
  | is
  | null
  | like
  | isIn
  | now
  | equal
  | notEqual
  | less
  | lessEqual
  | greater
  | greaterEqual
deriving DecidableEq

namespace Keyword

def all : List Keyword :=
  [opening, closing, comma, not, and, or, is, null, like, isIn, now, equal, notEqual, less,
    lessEqual, greater, greaterEqual]

def spelling : Keyword → String
  | opening => "("
  | closing => ")"
  | comma => ","
  | not => "NOT"
  | and => "AND"
  | or => "OR"
  | is => "IS"
  | null => "NULL"
  | like => "LIKE"
  | isIn => "IN"
  | now => "NOW"
  | equal => "="
  | notEqual => "!="
  | less => "<"
  | lessEqual => "<="
  | greater => ">"
  | greaterEqual => ">="

end Keyword

inductive Token where
  | name (identifier : String)
  | value (v : Value)
  | keyword (k : Keyword)
  | text (chars : List Char)
deriving DecidableEq

-- a dot belongs to the alias before it
def isWordChar (c : Char) : Bool := c.isAlphanum || c = '_' || c = '.'

def isSignChar (c : Char) : Bool := c = '<' || c = '>' || c = '=' || c = '!'

/-- Whether two lexemes in a row are of one token. -/
def Lexeme.adjoins : Lexeme → Lexeme → Bool
  | .char a, .char b => isWordChar a && isWordChar b || isSignChar a && isSignChar b
  | _, _ => false

/-- The token of some characters; blanks are none. -/
def Token.ofChars? (chars : List Char) : Option Token :=
  if chars.all Char.isWhitespace then none
  else
    match Keyword.all.find? (·.spelling.toList = chars) with
    | some k => some (.keyword k)
    | none => some (.text chars)

def Token.ofRun? : List Lexeme → Option Token
  | [.name identifier] => some (.name identifier)
  | [.value v] => some (.value v)
  | run => ofChars? (run.filterMap fun | .char c => some c | _ => none)

/-- The tokens of a text: as long as the characters in a row allow. -/
def tokens (ls : List Lexeme) : List Token := (ls.splitBy Lexeme.adjoins).filterMap Token.ofRun?

def isFreeChar (c : Char) : Bool := !isWordChar c && !isSignChar c

/-- Whether the lexeme can only be a token by itself. -/
def Lexeme.isFree : Lexeme → Bool
  | .char c => isFreeChar c
  | _ => true

namespace Lexeme

theorem not_adjoins_of_left {a b : Lexeme} (h : a.isFree) : a.adjoins b = false := by
  cases a <;> cases b <;> simp_all [isFree, isFreeChar, adjoins]

theorem not_adjoins_of_right {a b : Lexeme} (h : b.isFree) : a.adjoins b = false := by
  cases a <;> cases b <;> simp_all [isFree, isFreeChar, adjoins]

end Lexeme

theorem tokens_append {a b : List Lexeme} (h : ∀ l ∈ b.head?, l.isFree) :
    tokens (a ++ b) = tokens a ++ tokens b := by
  unfold tokens
  rw [List.splitBy_append, List.filterMap_append]
  intro k _ l hl
  exact Lexeme.not_adjoins_of_right (h l hl)

theorem tokens_append_of_left {a b : List Lexeme} (h : ∀ l ∈ a.getLast?, l.isFree) :
    tokens (a ++ b) = tokens a ++ tokens b := by
  unfold tokens
  rw [List.splitBy_append, List.filterMap_append]
  intro k hk l _
  exact Lexeme.not_adjoins_of_left (h k hk)

namespace Fragment

def tokens (f : Fragment) : List Token := SqlMapper.tokens f.lexemes

/-- The first token of the fragment does not go on with what stands before. -/
def Parts (f : Fragment) : Prop := ∀ l ∈ f.lexemes.head?, l.isFree

variable {f g : Fragment} {w : String}

theorem parts_name (identifier : String) (f : Fragment) : Parts (.name identifier :: f) := by
  simp [Parts, Piece.lexemes, Lexeme.isFree]

theorem parts_word (h : w.toList.head?.any isFreeChar := by decide) : Parts (.word w :: f) := by
  intro l hl
  cases hw : w.toList with
  | nil => simp [hw] at h
  | cons c cs =>
    rw [lexemes_cons, Piece.lexemes, hw] at hl
    obtain rfl : Lexeme.char c = l := by simpa using hl
    simpa [hw, Lexeme.isFree] using h

theorem tokens_append (hg : g.Parts) : (f ++ g).tokens = f.tokens ++ g.tokens := by
  rw [tokens, lexemes_append]
  exact SqlMapper.tokens_append hg

theorem tokens_word_cons_of_parts (hf : f.Parts) :
    tokens (.word w :: f) = tokens [.word w] ++ f.tokens :=
  tokens_append (f := [.word w]) hf

theorem tokens_word_cons (h : w.toList.getLast?.any isFreeChar := by decide) :
    tokens (.word w :: f) = tokens [.word w] ++ f.tokens := by
  have hword : lexemes [.word w] = w.toList.map .char := by simp [Piece.lexemes]
  -- the word ends in a character that goes on with nothing
  have hlast : ∀ l ∈ (lexemes [.word w]).getLast?, l.isFree := by
    intro l hl
    rw [hword, List.getLast?_map] at hl
    obtain ⟨c, hc, rfl⟩ := Option.map_eq_some_iff.1 hl
    simpa [hc, Lexeme.isFree] using h
  rw [← List.singleton_append, tokens, lexemes_append]
  exact tokens_append_of_left hlast

@[simp] theorem tokens_nil : tokens [] = [] := rfl

@[simp] theorem tokens_name_cons (identifier : String) :
    tokens (.name identifier :: f) = .name identifier :: f.tokens :=
  tokens_append_of_left (a := [.name identifier]) (by simp [Lexeme.isFree])

@[simp] theorem tokens_slot_cons (v : Value) : tokens (.slot v :: f) = .value v :: f.tokens :=
  tokens_append_of_left (a := [.value v]) (by simp [Lexeme.isFree])

end Fragment

theorem Token.ofRun?_chars (cs : List Char) : ofRun? (cs.map .char) = ofChars? cs := by
  have hchars : (cs.map Lexeme.char).filterMap (fun | .char c => some c | _ => none) = cs := by
    simp [List.filterMap_map]
  cases cs with
  | nil => rfl
  | cons c cs =>
    cases cs with
    | nil => rfl
    | cons b cs => exact congrArg ofChars? hchars

/-- No word of the language ends in a dot, so an alias is none, whatever its letters are. -/
theorem Token.ofChars?_alias (cs : List Char) :
    ofChars? (cs ++ ['.']) = some (.text (cs ++ ['.'])) := by
  have hdot : '.'.isWhitespace = false := rfl
  have hblank : ¬(cs ++ ['.']).all Char.isWhitespace := by simp [hdot]
  have hnone : Keyword.all.find? (·.spelling.toList = cs ++ ['.']) = none := by
    rw [List.find?_eq_none]
    intro k hk he
    have hlast : k.spelling.toList.getLast? = some '.' := by simp [of_decide_eq_true he]
    revert hlast
    cases k <;> decide
  rw [ofChars?, if_neg hblank, hnone]

theorem tokens_of_isWordChar {cs : List Char} (hne : cs ≠ []) (h : ∀ c ∈ cs, isWordChar c) :
    tokens (cs.map .char) = (Token.ofChars? cs).toList := by
  -- no character of a word ends the run of the one before
  have hchain : (cs.map Lexeme.char).IsChain fun a b => a.adjoins b := by
    rw [List.isChain_map, List.isChain_iff_getElem]
    intro i hi
    simp [Lexeme.adjoins, h _ (List.getElem_mem _)]
  rw [tokens, List.splitBy_of_isChain (by simpa using hne) hchain, List.filterMap_cons,
    Token.ofRun?_chars]
  cases Token.ofChars? cs <;> rfl

namespace Column

/-- The alias of the column as a token. -/
def aliasTokens (c : Column) : List Token :=
  if c.qualifier = "" then [] else [.text (c.qualifier.toList ++ ['.'])]

theorem tokens_reference_append {c : Column} (h : c.WellQualified) (f : Fragment) :
    (c.reference ++ f).tokens = c.aliasTokens ++ .name c.name :: f.tokens := by
  unfold reference aliasTokens
  by_cases he : c.qualifier = ""
  · simp [he]
  · -- the alias and its dot are one token, whatever word of the language the alias is
    have halias : isTableAlias c.qualifier.toList := h.resolve_left he
    have hword : ∀ a ∈ c.qualifier.toList ++ ['.'], isWordChar a := by
      intro a ha
      rcases List.mem_append.1 ha with ha | ha
      · simp [isWordChar, isAlphanum_of_isTableAlias halias a ha]
      · rw [List.mem_singleton.1 ha]
        decide
    have hrun : Fragment.tokens [.word (c.qualifier ++ ".")] =
        [.text (c.qualifier.toList ++ ['.'])] := by
      have hlex : Fragment.lexemes [.word (c.qualifier ++ ".")] =
          (c.qualifier.toList ++ ['.']).map .char := by
        simp [Piece.lexemes, String.toList_append]
      rw [Fragment.tokens, hlex, tokens_of_isWordChar (by simp) hword, Token.ofChars?_alias]
      rfl
    have hempty : c.qualifier.isEmpty = false := by simpa using he
    rw [if_neg he, hempty, if_neg Bool.false_ne_true, List.cons_append, List.singleton_append,
      Fragment.tokens_word_cons_of_parts (Fragment.parts_name _ _), hrun,
      Fragment.tokens_name_cons]

end Column
end SqlMapper
