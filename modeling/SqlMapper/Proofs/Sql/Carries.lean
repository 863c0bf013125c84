import Mathlib.Data.List.Forall2
import SqlMapper.Sql.Scope
import SqlMapper.Proofs.Sql.Lexeme
/-! Fragments that a reader takes apart as they were put together, with the values that they bind.
Such fragments are closed under all ways in which statements are composed, as long as no part
begins with a quoted name right after another one. -/
namespace SqlMapper

def Avoids (slots : Bool) (text : String) : Prop := ∀ c ∈ text.toList, isMark slots c = false

/-- Words of the language have characters, none of which means anything to readers. -/
def isPlainWord (w : String) : Bool := !w.toList.isEmpty && w.toList.all fun c => !isMark true c

theorem ne_nil_of_isPlainWord {w : String} (h : isPlainWord w) : w.toList ≠ [] := by
  simp only [isPlainWord, Bool.and_eq_true] at h
  simpa using h.1

theorem avoids_of_isPlainWord {slots : Bool} {w : String} (h : isPlainWord w) : Avoids slots w := by
  simp only [isPlainWord, Bool.and_eq_true] at h
  intro c hc
  have hmark : isMark true c = false := by simpa using List.all_eq_true.1 h.2 c hc
  cases slots with
  | true => exact hmark
  | false =>
    simp only [isMark, Bool.or_eq_false_iff] at hmark
    simp [isMark, hmark.1]

theorem isPlainWord_append {s t : String} (hs : isPlainWord s) (ht : isPlainWord t) :
    isPlainWord (s ++ t) := by
  simp only [isPlainWord, Bool.and_eq_true, Bool.not_eq_true', List.isEmpty_eq_false_iff] at hs ht
  simp [isPlainWord, hs, ht]

theorem isMark_of_isAlphanum {slots : Bool} {c : Char} (h : c.isAlphanum) :
    isMark slots c = false := by
  have hne : ∀ mark : Char, mark.isAlphanum = false → c ≠ mark := by
    rintro mark hm rfl
    simp [h] at hm
  simp [isMark, isQuotation, placeholder, hne '"' (by decide), hne '\x60' (by decide),
    hne '[' (by decide), hne ']' (by decide), hne '?' (by decide)]

theorem isPlainWord_of_isAlphanum {w : String} (hne : w.toList ≠ [])
    (h : ∀ c ∈ w.toList, c.isAlphanum) : isPlainWord w := by
  rw [isPlainWord, Bool.and_eq_true, List.all_eq_true]
  refine ⟨by simpa using hne, fun c hc => ?_⟩
  rw [isMark_of_isAlphanum (h c hc)]
  rfl

theorem isAlphanum_of_isTableAlias {cs : List Char} (h : isTableAlias cs) :
    ∀ c ∈ cs, c.isAlphanum := by
  cases cs with
  | nil => simp
  | cons a cs =>
    simp only [isTableAlias, Bool.and_eq_true, List.all_eq_true] at h
    rw [List.forall_mem_cons]
    exact ⟨by simp [Char.isAlphanum, h.1], h.2⟩

theorem isPlainWord_of_isTableAlias {w : String} (h : isTableAlias w.toList) : isPlainWord w := by
  have hne : w.toList ≠ [] := by
    intro he
    simp [he, isTableAlias] at h
  exact isPlainWord_of_isAlphanum hne (isAlphanum_of_isTableAlias h)

theorem isPlainWord_toString_nat (n : Nat) : isPlainWord (toString n) := by
  have hdigits : (toString n).toList = Nat.toDigits 10 n := by simp [Nat.repr]
  apply isPlainWord_of_isAlphanum
  · rw [hdigits]
    exact Nat.toDigits_ne_nil
  · intro c hc
    have hdigit := Nat.isDigit_of_mem_toDigits (by decide) (by decide) (hdigits ▸ hc)
    simp [Char.isAlphanum, hdigit]

theorem isPlainWord_toString_int (n : Int) : isPlainWord (toString n) := by
  cases n with
  | ofNat n => exact isPlainWord_toString_nat n
  | negSucc n => exact isPlainWord_append (by decide) (isPlainWord_toString_nat (n + 1))

namespace Fragment

/-- A fragment that a reader takes apart as it was put together, with the values that it binds. -/
structure Carries (slots : Bool) (f : Fragment) (values : List Value) : Prop where
  values_eq : f.values = values
  separate : Separate slots f.lexemes

/-- The fragment can stand after a quoted name. -/
def Leads (f : Fragment) : Prop := ∀ l ∈ f.lexemes.head?, ¬l.isName

theorem leads_nil : Leads [] := by simp [Leads]

theorem leads_word {w : String} {f : Fragment} (h : isPlainWord w := by decide) :
    Leads (.word w :: f) := by
  intro l hl
  obtain ⟨c, cs, hc⟩ := List.exists_cons_of_ne_nil (ne_nil_of_isPlainWord h)
  obtain rfl : Lexeme.char c = l := by simpa [Piece.lexemes, hc] using hl
  simp [Lexeme.isName]

theorem Leads.append {f g : Fragment} (hf : f.Leads) (hg : g.Leads) : Leads (f ++ g) := by
  intro l hl
  rw [lexemes_append, List.head?_append] at hl
  cases hd : f.lexemes.head? with
  | none => exact hg l (by simpa [hd] using hl)
  | some a => exact hf l (by simpa [hd] using hl)

variable {slots : Bool} {f g : Fragment} {vs ws : List Value}

namespace Carries

theorem nil : Carries slots [] [] := ⟨rfl, ⟨by simp, List.isChain_nil⟩⟩

theorem append (hf : Carries slots f vs) (hg : Carries slots g ws) (hlead : g.Leads) :
    Carries slots (f ++ g) (vs ++ ws) where
  values_eq := by rw [values_append, hf.values_eq, hg.values_eq]
  separate := by
    rw [lexemes_append]
    refine ⟨fun c hc => ?_, ?_⟩
    · rcases List.mem_append.1 hc with hc | hc
      · exact hf.separate.plain c hc
      · exact hg.separate.plain c hc
    · -- where the two meet, the second does not begin with a name
      apply hf.separate.apart.append hg.separate.apart
      intro a _ b hb hab
      exact hlead b hb hab.2

theorem text {t : String} (h : Avoids slots t) : Carries slots [.word t] [] where
  values_eq := rfl
  separate := by
    have hlex : lexemes [.word t] = t.toList.map .char := by simp [Piece.lexemes]
    rw [hlex]
    refine ⟨fun c hc => ?_, ?_⟩
    · obtain ⟨a, ha, he⟩ := List.mem_map.1 hc
      exact Lexeme.char.inj he ▸ h a ha
    · rw [List.isChain_map, List.isChain_iff_getElem]
      simp [Lexeme.isName]

theorem word {w : String} (h : isPlainWord w := by decide) : Carries slots [.word w] [] :=
  text (avoids_of_isPlainWord h)

theorem name (identifier : String) : Carries slots [.name identifier] [] where
  values_eq := rfl
  separate := by
    refine ⟨fun c hc => ?_, List.isChain_singleton _⟩
    simp [Piece.lexemes] at hc

theorem slot (v : Value) : Carries slots [.slot v] [v] where
  values_eq := rfl
  separate := by
    refine ⟨fun c hc => ?_, List.isChain_singleton _⟩
    simp [Piece.lexemes] at hc

theorem word_cons {w : String} (hf : Carries slots f vs) (h : isPlainWord w := by decide) :
    Carries slots (.word w :: f) vs where
  values_eq := hf.values_eq
  separate := by
    have hw : Separate slots (lexemes [.word w]) := (Carries.word h).separate
    simp only [lexemes_cons, lexemes_nil, List.append_nil] at hw ⊢
    refine ⟨fun c hc => ?_, hw.apart.append hf.separate.apart ?_⟩
    · rcases List.mem_append.1 hc with hc | hc
      · exact hw.plain c hc
      · exact hf.separate.plain c hc
    · -- the word does not end in a name, so whatever follows keeps apart
      intro a ha b _ hab
      obtain ⟨c, -, rfl⟩ := List.mem_map.1 (List.mem_of_getLast? ha)
      exact Bool.false_ne_true hab.1

theorem slot_cons (v : Value) (hf : Carries slots f vs) :
    Carries slots (.slot v :: f) (v :: vs) where
  values_eq := by rw [← hf.values_eq]; rfl
  separate := by
    refine ⟨fun c hc => ?_, List.isChain_cons.2 ⟨?_, hf.separate.apart⟩⟩
    · exact hf.separate.plain c (by simpa [Piece.lexemes] using hc)
    · rintro l - hl
      exact Bool.false_ne_true hl.1

theorem append_word {w : String} (hf : Carries slots f vs) (hg : Carries slots g ws)
    (h : isPlainWord w := by decide) : Carries slots (f ++ .word w :: g) (vs ++ ws) :=
  hf.append (hg.word_cons h) (leads_word h)

theorem joined {w : String} {fs : List Fragment} {vss : List (List Value)}
    (hs : List.Forall₂ (Carries slots) fs vss) (h : isPlainWord w := by decide) :
    Carries slots (Fragment.joined w fs) vss.flatten := by
  induction hs with
  | nil => exact nil
  | @cons f vs fs vss hf hfs ih =>
    cases fs with
    | nil =>
      rw [List.forall₂_nil_left_iff] at hfs
      subst hfs
      simpa [Fragment.joined] using hf
    | cons g fs =>
      rw [List.flatten_cons]
      exact hf.append_word ih h

theorem joined_map {α : Type} {w : String} {xs : List α} {frag : α → Fragment}
    {vals : α → List Value} (hs : ∀ x ∈ xs, Carries slots (frag x) (vals x))
    (h : isPlainWord w := by decide) :
    Carries slots (Fragment.joined w (xs.map frag)) (xs.flatMap vals) := by
  rw [List.flatMap_def]
  refine joined ?_ h
  rw [List.forall₂_map_left_iff, List.forall₂_map_right_iff, List.forall₂_same]
  exact hs

theorem joined_blank {w : String} {fs : List Fragment} (hs : ∀ f ∈ fs, Carries slots f [])
    (h : isPlainWord w := by decide) : Carries slots (Fragment.joined w fs) [] := by
  have hnil : fs.flatMap (fun _ => ([] : List Value)) = [] := by simp [List.flatMap_eq_nil_iff]
  have hall : Carries slots (Fragment.joined w (fs.map fun f => f)) [] := hnil ▸ joined_map hs h
  rwa [List.map_id'] at hall

theorem statement?_eq {params : List Datum} (d : Dialect) (hf : Carries slots f vs)
    (h : vs.mapM Value.toDatum? = some params) : f.statement? d = some ⟨f.text d, params⟩ := by
  rw [statement?, Statement.bind?, hf.values_eq, h]
  rfl

theorem inParens (hf : Carries slots f vs) : Carries slots f.inParens vs := by
  rw [← List.append_nil vs]
  exact hf.word_cons.append_word nil

end Carries

theorem values_joined (w : String) (fs : List Fragment) :
    (joined w fs).values = fs.flatMap values := by
  induction fs with
  | nil => rfl
  | cons f fs ih =>
    cases fs with
    | nil => simp [joined]
    | cons g fs =>
      have hword : values (.word w :: joined w (g :: fs)) = (joined w (g :: fs)).values := rfl
      rw [joined_cons_cons, values_append, hword, ih, List.flatMap_cons (x := f)]

theorem values_eq_nil_of_isBlank (h : f.isBlank) : f.values = [] := by
  rw [values, List.filterMap_eq_nil_iff]
  intro p hp
  have hblank := List.all_eq_true.1 h p hp
  cases p with
  | word text => rfl
  | name identifier => simp [Piece.isBlank] at hblank
  | slot v => simp [Piece.isBlank] at hblank

end Fragment

/-- The alias of the column, if it has one, can be one. -/
def Column.WellQualified (c : Column) : Prop := c.qualifier = "" ∨ isTableAlias c.qualifier.toList

/-- All columns of the scope, and all that names are read as in it, are well qualified. -/
structure Scope.WellQualified (s : Scope) : Prop where
  columns : ∀ c ∈ s.columns, c.WellQualified
  default : s.defaultQualifier = "" ∨ isTableAlias s.defaultQualifier.toList

namespace Column

theorem read_wellQualified {raw fallback delimiter : String}
    (h : fallback = "" ∨ isTableAlias fallback.toList) :
    (Column.read raw fallback delimiter).WellQualified := by
  unfold Column.read
  split
  · split
    · rename_i halias
      exact Or.inr (by simpa [qualified] using halias)
    · exact h
  · exact h

theorem reference_carries {slots : Bool} {c : Column} (h : c.WellQualified) :
    c.reference.Carries slots [] := by
  unfold reference
  by_cases he : c.qualifier = ""
  · simpa [he] using Fragment.Carries.name c.name
  · -- the dot ends the alias, and the name follows a word
    have halias : isTableAlias c.qualifier.toList := h.resolve_left he
    have hdot : isPlainWord (c.qualifier ++ ".") :=
      isPlainWord_append (isPlainWord_of_isTableAlias halias) (by decide)
    simpa [he] using (Fragment.Carries.name c.name).word_cons hdot

theorem item_carries {slots : Bool} {c : Column} (h : c.WellQualified) :
    c.item.Carries slots [] := by
  unfold item
  split
  · exact Fragment.Carries.name c.name
  · exact (reference_carries h).append_word (Fragment.Carries.name c.label)

end Column

theorem Scope.WellQualified.column {s : Scope} (h : s.WellQualified) (name : String) :
    (s.column name).WellQualified :=
  Column.read_wellQualified h.default

end SqlMapper
