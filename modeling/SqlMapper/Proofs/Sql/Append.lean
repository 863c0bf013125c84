import SqlMapper.Proofs.Sql.Carries

namespace SqlMapper

variable {d : Dialect} {f g : Fragment} {ls ms : List Lexeme}

namespace Dialect

/-- A reader in any state goes on as from the start once the first text is over. -/
theorem scan_append {state : ReaderState} {a b : List Char} (ha : d.scan state a = some ls)
    (hb : d.scan .outside b = some ms) (hstart : ∀ c ∈ b.head?, c ≠ d.closing) :
    d.scan state (a ++ b) = some (ls ++ ms) := by
  induction a generalizing state ls with
  | nil =>
    cases state with
    | outside =>
      cases ha
      exact hb
    | inside read => cases ha
    | closed read =>
      cases ha
      rw [List.nil_append, scan_closed hstart, hb]
      rfl
  | cons c cs ih =>
    rw [List.cons_append]
    cases state with
    | outside =>
      rw [scan] at ha ⊢
      split at ha
      · rename_i hc
        rw [if_pos hc]
        exact ih ha
      · rename_i hc
        obtain ⟨rest, hrest, rfl⟩ := Option.map_eq_some_iff.1 ha
        rw [if_neg hc, ih hrest]
        rfl
    | inside read =>
      rw [scan] at ha ⊢
      split at ha
      · rename_i hc
        rw [if_pos hc]
        exact ih ha
      · rename_i hc
        rw [if_neg hc]
        exact ih ha
    | closed read =>
      rw [scan] at ha ⊢
      split at ha
      · rename_i hc
        rw [if_pos hc]
        exact ih ha
      · rename_i hc
        rw [if_neg hc]
        obtain ⟨rest, hrest, rfl⟩ := Option.map_eq_some_iff.1 ha
        split at hrest
        · rename_i ho
          rw [if_pos ho, ih hrest]
          rfl
        · rename_i ho
          obtain ⟨later, hlater, rfl⟩ := Option.map_eq_some_iff.1 hrest
          rw [if_neg ho, ih hlater]
          rfl

/-- Characters that mean nothing are read as they are. -/
theorem scan_plain {w cs : List Char} (hw : ∀ c ∈ w, isMark true c = false)
    (hcs : d.scan .outside cs = some ms) :
    d.scan .outside (w ++ cs) = some (w.map .char ++ ms) := by
  induction w with
  | nil => exact hcs
  | cons c w ih =>
    rw [List.forall_mem_cons] at hw
    rw [List.cons_append, scan, if_neg (ne_marks hw.1).1, ih hw.2]
    rfl

end Dialect

theorem handOut_append {ls' ms' : List Lexeme} {vs ws : List Value}
    (hl : handOut ls vs = some ls') (hm : handOut ms ws = some ms') :
    handOut (ls ++ ms) (vs ++ ws) = some (ls' ++ ms') := by
  induction ls generalizing vs ls' with
  | nil =>
    cases vs with
    | nil =>
      cases hl
      exact hm
    | cons v vs => cases hl
  | cons l ls ih =>
    rw [List.cons_append]
    cases l with
    | char c =>
      unfold handOut at hl ⊢
      by_cases hc : c = placeholder
      · cases vs with
        | nil => simp [hc] at hl
        | cons v vs =>
          simp only [hc, if_true, List.cons_append] at hl ⊢
          obtain ⟨rest, hrest, rfl⟩ := Option.map_eq_some_iff.1 hl
          rw [ih hrest]
          rfl
      · simp only [hc, if_false] at hl ⊢
        obtain ⟨rest, hrest, rfl⟩ := Option.map_eq_some_iff.1 hl
        rw [ih hrest]
        rfl
    | name n =>
      obtain ⟨rest, hrest, rfl⟩ := Option.map_eq_some_iff.1 hl
      rw [handOut, ih hrest]
      · rfl
      · simp
    | value v =>
      obtain ⟨rest, hrest, rfl⟩ := Option.map_eq_some_iff.1 hl
      rw [handOut, ih hrest]
      · rfl
      · simp

theorem handOut_plain {w : List Char} (hw : ∀ c ∈ w, isMark true c = false) :
    handOut (w.map .char) [] = some (w.map .char) := by
  induction w with
  | nil => rfl
  | cons c w ih =>
    rw [List.forall_mem_cons] at hw
    have hc : c ≠ placeholder := by
      rintro rfl
      cases hw.1
    rw [List.map_cons, handOut, if_neg hc, ih hw.2]
    rfl

namespace Fragment

/-- A reader of the dialect finds the lexemes in the text of the fragment with its values. -/
def ReadsAs (d : Dialect) (f : Fragment) (ls : List Lexeme) : Prop :=
  d.read (f.text d) f.values = some ls

theorem readsAs_iff : f.ReadsAs d ls ↔
    ∃ found, d.scan .outside (f.chars d) = some found ∧ handOut found f.values = some ls := by
  rw [ReadsAs, Dialect.read, Dialect.lexemes, text, String.toList_ofList, Option.bind_eq_some_iff]

theorem ReadsAs.append (hf : f.ReadsAs d ls) (hg : g.ReadsAs d ms)
    (hstart : ∀ c ∈ (g.chars d).head?, c ≠ d.closing) : (f ++ g).ReadsAs d (ls ++ ms) := by
  obtain ⟨found, hscan, hvalues⟩ := readsAs_iff.1 hf
  obtain ⟨later, hscan', hvalues'⟩ := readsAs_iff.1 hg
  refine readsAs_iff.2 ⟨found ++ later, ?_, ?_⟩
  · rw [chars_append]
    exact Dialect.scan_append hscan hscan' hstart
  · rw [values_append]
    exact handOut_append hvalues hvalues'

/-- A word of the language may stand before whatever can be read. -/
theorem ReadsAs.word_cons {w : String} (hf : f.ReadsAs d ls) (h : isPlainWord w := by decide) :
    ReadsAs d (.word w :: f) (w.toList.map .char ++ ls) := by
  have hplain : ∀ c ∈ w.toList, isMark true c = false := avoids_of_isPlainWord h
  obtain ⟨found, hscan, hvalues⟩ := readsAs_iff.1 hf
  have hchars : chars d (.word w :: f) = w.toList ++ f.chars d := rfl
  refine readsAs_iff.2 ⟨w.toList.map .char ++ found, ?_,
    handOut_append (handOut_plain hplain) hvalues⟩
  rw [hchars]
  exact Dialect.scan_plain hplain hscan

theorem Carries.readsAs {vs : List Value} (h : f.Carries true vs) (d : Dialect) :
    f.ReadsAs d f.lexemes :=
  read_text d h.separate

/-- What is read of a fragment that begins with a plain character begins with it. -/
theorem ReadsAs.head?_eq {c : Char} {cs : List Char} (hf : f.ReadsAs d ls)
    (hchars : f.chars d = c :: cs) (hc : isMark true c = false) : ls.head? = some (.char c) := by
  obtain ⟨found, hscan, hvalues⟩ := readsAs_iff.1 hf
  have hslot : c ≠ placeholder := by
    rintro rfl
    cases hc
  rw [hchars, Dialect.scan, if_neg (Dialect.ne_marks hc).1] at hscan
  obtain ⟨rest, -, rfl⟩ := Option.map_eq_some_iff.1 hscan
  simp only [handOut, if_neg hslot] at hvalues
  obtain ⟨later, -, rfl⟩ := Option.map_eq_some_iff.1 hvalues
  rfl

end Fragment
end SqlMapper
