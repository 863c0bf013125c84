import Mathlib.Data.List.Chain
import Mathlib.Data.List.Forall2
import SqlMapper.Sql.Fragment
/-! Reading statements back from their text. The reader of a dialect knows nothing but its quotation
marks: it tells quoted names from all other characters, and hands the bound values out to the
placeholders that stand outside of names. Main statement: what was written as pieces is read as the
same pieces, whatever characters the names hold. -/
namespace SqlMapper

/-- What a reader finds in a statement. -/
inductive Lexeme where
  /-- A character outside of quoted names. -/
  | char (c : Char)
  | name (identifier : String)
  /-- A placeholder with its value. -/
  | value (v : Value)
deriving DecidableEq

def placeholder : Char := '?'

/-- Whether the character delimits quoted names in some dialect. -/
def isQuotation (c : Char) : Bool := c = '"' || c = '\x60' || c = '[' || c = ']'

/-- Whether the character has a meaning for the reader of some dialect, who may or may not look for
placeholders. -/
def isMark (slots : Bool) (c : Char) : Bool := isQuotation c || (slots && c = placeholder)

namespace Lexeme

def isName : Lexeme → Bool
  | name _ => true
  | _ => false

def value? : Lexeme → Option Value
  | value v => some v
  | _ => none

def name? : Lexeme → Option String
  | name identifier => some identifier
  | _ => none

/-- The lexeme without the value that it is bound to. -/
def unbound : Lexeme → Lexeme
  | value _ => char placeholder
  | l => l

def chars (d : Dialect) : Lexeme → List Char
  | char c => [c]
  | name identifier => d.quotedChars identifier
  | value _ => [placeholder]

end Lexeme

/-- Where a reader stands. -/
inductive ReaderState where
  | outside
  /-- In a quoted name of which these characters were read. -/
  | inside (read : List Char)
  /-- After a closing mark, which ends the name or is the first of a pair. -/
  | closed (read : List Char)

namespace Dialect

/-- Read names and other characters; a name that is not closed is not read. -/
def scan (d : Dialect) : ReaderState → List Char → Option (List Lexeme)
  | .outside, [] => some []
  | .outside, c :: cs =>
    if c = d.opening then d.scan (.inside []) cs else (d.scan .outside cs).map (.char c :: ·)
  | .inside _, [] => none
  | .inside read, c :: cs =>
    if c = d.closing then d.scan (.closed read) cs else d.scan (.inside (read ++ [c])) cs
  | .closed read, [] => some [.name (String.ofList read)]
  | .closed read, c :: cs =>
    if c = d.closing then d.scan (.inside (read ++ [c])) cs
    else
      (if c = d.opening then d.scan (.inside []) cs
        else (d.scan .outside cs).map (.char c :: ·)).map (.name (String.ofList read) :: ·)

def lexemes (d : Dialect) (text : String) : Option (List Lexeme) := d.scan .outside text.toList

end Dialect

/-- Hand values out to the placeholders in turn, one to each. -/
def handOut : List Lexeme → List Value → Option (List Lexeme)
  | [], [] => some []
  | [], _ :: _ => none
  | .char c :: ls, values =>
    if c = placeholder then
      match values with
      | [] => none
      | v :: values => (handOut ls values).map (.value v :: ·)
    else (handOut ls values).map (.char c :: ·)
  | l :: ls, values => (handOut ls values).map (l :: ·)

/-- Read a statement with its bound values. -/
def Dialect.read (d : Dialect) (text : String) (values : List Value) : Option (List Lexeme) :=
  (d.lexemes text).bind fun ls => handOut ls values

def Piece.lexemes : Piece → List Lexeme
  | .word text => text.toList.map .char
  | .name identifier => [.name identifier]
  | .slot v => [.value v]

namespace Fragment

def lexemes (f : Fragment) : List Lexeme := f.flatMap Piece.lexemes

@[simp] theorem lexemes_nil : lexemes [] = [] := rfl

@[simp] theorem lexemes_cons (p : Piece) (f : Fragment) :
    lexemes (p :: f) = p.lexemes ++ lexemes f := rfl

@[simp] theorem lexemes_append (f g : Fragment) : lexemes (f ++ g) = lexemes f ++ lexemes g :=
  List.flatMap_append

theorem chars_eq_lexemes (d : Dialect) (f : Fragment) :
    f.chars d = f.lexemes.flatMap (Lexeme.chars d) := by
  induction f with
  | nil => rfl
  | cons p f ih =>
    have hp : p.chars d = p.lexemes.flatMap (Lexeme.chars d) := by
      cases p with
      | word text =>
        simp only [Piece.chars, Piece.lexemes, List.flatMap_map, Lexeme.chars,
          List.flatMap_singleton']
      | name identifier => simp [Piece.chars, Piece.lexemes, Lexeme.chars]
      | slot v => simp [Piece.chars, Piece.lexemes, Lexeme.chars, placeholder]
    rw [lexemes_cons, List.flatMap_append, ← hp, ← ih]
    rfl

theorem values_eq_lexemes (f : Fragment) : f.values = f.lexemes.filterMap Lexeme.value? := by
  induction f with
  | nil => rfl
  | cons p f ih =>
    rw [lexemes_cons, List.filterMap_append, ← ih]
    cases p with
    | word text =>
      have hnone : (text.toList.map Lexeme.char).filterMap Lexeme.value? = [] := by
        simp [List.filterMap_map, Function.comp_def, Lexeme.value?]
      simp [values, List.filterMap_cons, Piece.value?, Piece.lexemes, hnone]
    | name identifier =>
      simp [values, List.filterMap_cons, Piece.value?, Piece.lexemes, Lexeme.value?]
    | slot v => simp [values, Piece.value?, Piece.lexemes, Lexeme.value?]

end Fragment

/-- Lexemes that keep apart when they are written: names do not touch, and no other character is
taken for a mark. -/
structure Separate (slots : Bool) (ls : List Lexeme) : Prop where
  plain : ∀ c, Lexeme.char c ∈ ls → isMark slots c = false
  apart : ls.IsChain fun a b => ¬(a.isName ∧ b.isName)

namespace Dialect

theorem isQuotation_opening (d : Dialect) : isQuotation d.opening := by cases d <;> rfl

theorem isQuotation_closing (d : Dialect) : isQuotation d.closing := by cases d <;> rfl

theorem ne_marks {d : Dialect} {slots : Bool} {c : Char} (h : isMark slots c = false) :
    c ≠ d.opening ∧ c ≠ d.closing := by
  constructor
  · rintro rfl
    simp [isMark, isQuotation_opening] at h
  · rintro rfl
    simp [isMark, isQuotation_closing] at h

/-- A doubled closing mark is read as one, so a quoted name is read up to its own end. -/
theorem scan_inside_quoted (d : Dialect) (name read rest : List Char) :
    d.scan (.inside read) (name.flatMap d.quotedChar ++ d.closing :: rest) =
      d.scan (.closed (read ++ name)) rest := by
  induction name generalizing read with
  | nil => simp [scan]
  | cons c name ih =>
    rw [List.flatMap_cons, List.append_assoc]
    have happ : read ++ c :: name = read ++ [c] ++ name := by simp
    by_cases h : c = d.closing
    · -- the first of the pair closes the name, and the second opens it again
      rw [happ, ← ih]
      simp [quotedChar, h, scan]
    · rw [happ, ← ih]
      simp [quotedChar, h, scan]

theorem scan_quoted (d : Dialect) (identifier : String) (rest : List Char) :
    d.scan .outside (d.quotedChars identifier ++ rest) =
      d.scan (.closed identifier.toList) rest := by
  have h := scan_inside_quoted d identifier.toList [] rest
  simpa [quotedChars, scan] using h

theorem scan_closed {d : Dialect} {read rest : List Char} (h : ∀ c ∈ rest.head?, c ≠ d.closing) :
    d.scan (.closed read) rest =
      (d.scan .outside rest).map (.name (String.ofList read) :: ·) := by
  cases rest with
  | nil => rfl
  | cons c cs => simp [scan, h c rfl]

theorem head?_chars_of_not_name (d : Dialect) {slots : Bool} {ls : List Lexeme}
    (hs : Separate slots ls) (hn : ∀ l ∈ ls.head?, ¬l.isName) :
    ∀ c ∈ (ls.flatMap (Lexeme.chars d)).head?, c ≠ d.closing := by
  intro c hc
  cases ls with
  | nil => simp at hc
  | cons l ls =>
    cases l with
    | char a =>
      obtain rfl : a = c := by simpa [Lexeme.chars] using hc
      exact (ne_marks (hs.plain a (List.mem_cons_self ..))).2
    | name n => simp [Lexeme.isName] at hn
    | value v =>
      obtain rfl : placeholder = c := by simpa [Lexeme.chars] using hc
      cases d <;> decide

theorem scan_lexemes (d : Dialect) {slots : Bool} {ls : List Lexeme} (hs : Separate slots ls) :
    d.scan .outside (ls.flatMap (Lexeme.chars d)) = some (ls.map Lexeme.unbound) := by
  induction ls with
  | nil => rfl
  | cons l ls ih =>
    have hrest : Separate slots ls :=
      ⟨fun c hc => hs.plain c (List.mem_cons_of_mem _ hc), (List.isChain_cons.1 hs.apart).2⟩
    rw [List.flatMap_cons, List.map_cons]
    cases l with
    | char c =>
      have hc : c ≠ d.opening := (ne_marks (hs.plain c (List.mem_cons_self ..))).1
      simp [Lexeme.chars, scan, hc, ih hrest, Lexeme.unbound]
    | name n =>
      -- what is next is no name, so it does not begin with the mark that would extend this one
      have hnext : ∀ l ∈ ls.head?, ¬l.isName := fun l hl hn =>
        (List.isChain_cons.1 hs.apart).1 l hl ⟨rfl, hn⟩
      rw [Lexeme.chars, scan_quoted,
        scan_closed (head?_chars_of_not_name d hrest hnext), ih hrest, String.ofList_toList]
      rfl
    | value v =>
      have hc : placeholder ≠ d.opening := by cases d <;> decide
      simp [Lexeme.chars, scan, hc, ih hrest, Lexeme.unbound]

end Dialect

theorem handOut_unbound {ls : List Lexeme} (h : .char placeholder ∉ ls) :
    handOut (ls.map Lexeme.unbound) (ls.filterMap Lexeme.value?) = some ls := by
  induction ls with
  | nil => rfl
  | cons l ls ih =>
    have hrest := ih fun hm => h (List.mem_cons_of_mem _ hm)
    cases l with
    | char c =>
      -- a placeholder that was written as a character would take the next value
      have hc : c ≠ placeholder := by
        rintro rfl
        exact h (List.mem_cons_self ..)
      simp [Lexeme.unbound, List.filterMap_cons, Lexeme.value?, handOut, hc, hrest]
    | name n => simp [Lexeme.unbound, List.filterMap_cons, Lexeme.value?, handOut, hrest]
    | value v => simp [Lexeme.unbound, Lexeme.value?, handOut, hrest]

theorem count_placeholder_of_handOut {ls bound : List Lexeme} {values : List Value}
    (h : handOut ls values = some bound) : ls.count (.char placeholder) = values.length := by
  induction ls generalizing values bound with
  | nil =>
    cases values with
    | nil => rfl
    | cons v values => simp [handOut] at h
  | cons l ls ih =>
    cases l with
    | char c =>
      by_cases hc : c = placeholder
      · cases values with
        | nil => simp [handOut, hc] at h
        | cons v values =>
          simp only [handOut, hc, if_true, Option.map_eq_some_iff] at h
          obtain ⟨rest, hrest, -⟩ := h
          simp [hc, ih hrest]
      · simp only [handOut, hc, if_false, Option.map_eq_some_iff] at h
        obtain ⟨rest, hrest, -⟩ := h
        simp [hc, ih hrest]
    | name n =>
      simp only [handOut, Option.map_eq_some_iff] at h
      obtain ⟨rest, hrest, -⟩ := h
      simp [ih hrest]
    | value v =>
      simp only [handOut, Option.map_eq_some_iff] at h
      obtain ⟨rest, hrest, -⟩ := h
      simp [ih hrest]

namespace Fragment

theorem lexemes_text (d : Dialect) {slots : Bool} {f : Fragment}
    (hs : Separate slots f.lexemes) :
    d.lexemes (f.text d) = some (f.lexemes.map Lexeme.unbound) := by
  rw [Dialect.lexemes, text, String.toList_ofList, chars_eq_lexemes]
  exact d.scan_lexemes hs

def names (f : Fragment) : List String := f.lexemes.filterMap Lexeme.name?

/-- The names are found in the text alone. -/
theorem names_unbound (f : Fragment) :
    (f.lexemes.map Lexeme.unbound).filterMap Lexeme.name? = f.names := by
  rw [List.filterMap_map, names]
  congr 1
  funext l
  cases l <;> rfl

@[simp] theorem names_nil : names [] = [] := rfl

@[simp] theorem names_append (f g : Fragment) : names (f ++ g) = names f ++ names g := by
  rw [names, lexemes_append, List.filterMap_append]
  rfl

@[simp] theorem names_word_cons (w : String) (f : Fragment) : names (.word w :: f) = names f := by
  have hnone : (w.toList.map Lexeme.char).filterMap Lexeme.name? = [] := by
    simp [List.filterMap_map, Function.comp_def, Lexeme.name?]
  rw [names, lexemes_cons, List.filterMap_append, Piece.lexemes, hnone]
  rfl

@[simp] theorem names_name_cons (identifier : String) (f : Fragment) :
    names (.name identifier :: f) = identifier :: names f := rfl

@[simp] theorem names_slot_cons (v : Value) (f : Fragment) : names (.slot v :: f) = names f := rfl

theorem joined_cons_cons (w : String) (f g : Fragment) (fs : List Fragment) :
    joined w (f :: g :: fs) = f ++ .word w :: joined w (g :: fs) := rfl

theorem joined_cons (w : String) (f : Fragment) (fs : List Fragment) :
    joined w (f :: fs) = f ++ fs.flatMap (.word w :: ·) := by
  induction fs generalizing f with
  | nil => simp [joined]
  | cons g fs ih =>
    rw [joined_cons_cons, ih, List.flatMap_cons, List.cons_append]

theorem names_joined (w : String) (fs : List Fragment) :
    names (joined w fs) = fs.flatMap names := by
  induction fs with
  | nil => rfl
  | cons f fs ih =>
    cases fs with
    | nil => simp [joined]
    | cons g fs =>
      rw [joined_cons_cons, names_append, names_word_cons, ih, List.flatMap_cons (x := f)]

section Joined

variable {γ : Type} {w : String}

theorem names_joined_map (xs : List γ) (g : γ → Fragment) :
    names (joined w (xs.map g)) = xs.flatMap fun x => names (g x) := by
  rw [names_joined, List.flatMap_map]

/-- Parts with one name each. -/
theorem names_joined_map_of_eq {xs : List γ} {g : γ → Fragment} {n : γ → String}
    (h : ∀ x, names (g x) = [n x]) : names (joined w (xs.map g)) = xs.map n := by
  rw [names_joined_map, List.map_eq_flatMap]
  exact List.flatMap_congr fun x _ => h x

theorem names_joined_of_forall₂ {fs : List Fragment} {xs : List γ} {g : γ → List String}
    (h : List.Forall₂ (fun f x => names f = g x) fs xs) : names (joined w fs) = xs.flatMap g := by
  rw [names_joined]
  induction h with
  | nil => rfl
  | cons hf _ ih => rw [List.flatMap_cons, List.flatMap_cons, hf, ih]

theorem names_inParens (f : Fragment) : names f.inParens = names f := by
  simp [inParens]

theorem names_eq_nil_of_isBlank {f : Fragment} (h : f.isBlank) : f.names = [] := by
  induction f with
  | nil => rfl
  | cons p f ih =>
    simp only [isBlank, List.all_cons, Bool.and_eq_true] at h
    cases p with
    | word w => rw [names_word_cons, ih h.2]
    | name identifier => simp [Piece.isBlank] at h
    | slot v => simp [Piece.isBlank] at h

end Joined

/-- Fragments with one text hold the same names, whatever values they bind. -/
theorem names_eq_of_text_eq {d : Dialect} {slots : Bool} {f g : Fragment}
    (hf : Separate slots f.lexemes) (hg : Separate slots g.lexemes) (h : f.text d = g.text d) :
    f.names = g.names := by
  -- both texts are read as lexemes without values, and names do not depend on those
  have hlex : f.lexemes.map Lexeme.unbound = g.lexemes.map Lexeme.unbound := by
    apply Option.some.inj
    rw [← lexemes_text d hf, ← lexemes_text d hg, h]
  rw [← names_unbound, hlex, names_unbound]

/-- A fragment is read back from its text and its values. -/
theorem read_text (d : Dialect) {f : Fragment} (hs : Separate true f.lexemes) :
    d.read (f.text d) f.values = some f.lexemes := by
  have hm : .char placeholder ∉ f.lexemes := fun h => by
    simpa [isMark] using hs.plain _ h
  rw [Dialect.read, lexemes_text d hs, Option.bind_some, values_eq_lexemes]
  exact handOut_unbound hm

end Fragment
end SqlMapper
