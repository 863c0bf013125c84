namespace SqlMapper.Text

/-- What follows `lead` in a list that starts with it. -/
def after? : (lead : List Char) → List Char → Option (List Char)
  | [], s => some s
  | _ :: _, [] => none
  | d :: ds, c :: cs => if d = c then after? ds cs else none

/-- The parts before and after the first occurrence of `delimiter`. -/
def splitFirst? (delimiter : List Char) : List Char → Option (List Char × List Char)
  | [] => (after? delimiter []).map fun rest => ([], rest)
  | c :: cs =>
    match after? delimiter (c :: cs) with
    | some rest => some ([], rest)
    | none => (splitFirst? delimiter cs).map fun (before, rest) => (c :: before, rest)

theorem after?_eq_some_iff {lead s rest : List Char} :
    after? lead s = some rest ↔ s = lead ++ rest := by
  induction lead generalizing s with
  | nil => simp [after?, eq_comm]
  | cons d ds ih =>
    cases s with
    | nil => simp [after?]
    | cons c cs =>
      by_cases h : d = c
      · subst h
        simp [after?, ih]
      · simp [after?, h, Ne.symm h]

/-- The two parts with the delimiter between them are the whole text. -/
theorem eq_of_splitFirst? {delimiter s before rest : List Char}
    (h : splitFirst? delimiter s = some (before, rest)) : s = before ++ delimiter ++ rest := by
  induction s generalizing before rest with
  | nil =>
    simp only [splitFirst?, Option.map_eq_some_iff] at h
    obtain ⟨r, hr, he⟩ := h
    cases he
    simpa using after?_eq_some_iff.1 hr
  | cons c cs ih =>
    unfold splitFirst? at h
    split at h
    · rename_i r hr
      cases h
      simpa using after?_eq_some_iff.1 hr
    · simp only [Option.map_eq_some_iff] at h
      obtain ⟨⟨b, r⟩, hs, he⟩ := h
      cases he
      simpa using congrArg (c :: ·) (ih hs)

theorem splitFirst?_of_after? {delimiter s rest : List Char} (h : after? delimiter s = some rest) :
    splitFirst? delimiter s = some ([], rest) := by
  cases s with
  | nil => rw [splitFirst?, h, Option.map_some]
  | cons c cs => rw [splitFirst?, h]

theorem exists_splitFirst? {delimiter s : List Char} (h : delimiter <:+: s) :
    ∃ parts, splitFirst? delimiter s = some parts := by
  obtain ⟨before, rest, rfl⟩ := h
  induction before with
  | nil => exact ⟨_, splitFirst?_of_after? (after?_eq_some_iff.2 rfl)⟩
  | cons c before ih =>
    obtain ⟨parts, hparts⟩ := ih
    show ∃ parts, splitFirst? delimiter (c :: (before ++ delimiter ++ rest)) = some parts
    rw [splitFirst?, hparts]
    cases after? delimiter (c :: (before ++ delimiter ++ rest)) with
    | some rest => exact ⟨_, rfl⟩
    | none => exact ⟨_, rfl⟩

/-- No other occurrence of the delimiter begins earlier. -/
theorem length_le_of_splitFirst? {delimiter s before rest other after : List Char}
    (h : splitFirst? delimiter s = some (before, rest)) (hs : s = other ++ delimiter ++ after) :
    before.length ≤ other.length := by
  induction s generalizing before other with
  | nil =>
    obtain ⟨r, -, he⟩ := Option.map_eq_some_iff.1 h
    cases he
    exact Nat.zero_le _
  | cons c cs ih =>
    unfold splitFirst? at h
    split at h
    · cases h
      exact Nat.zero_le _
    · rename_i hnone
      obtain ⟨⟨b, r⟩, hsplit, he⟩ := Option.map_eq_some_iff.1 h
      cases he
      cases other with
      | nil =>
        -- the delimiter does not stand at the front
        have hafter : after? delimiter (c :: cs) = some after := after?_eq_some_iff.2 hs
        rw [hnone] at hafter
        cases hafter
      | cons c' other =>
        have hcs : cs = other ++ delimiter ++ after := (List.cons.inj hs).2
        exact Nat.succ_le_succ (ih hsplit hcs)

theorem splitFirst?_eq_some_iff {delimiter s before rest : List Char} :
    splitFirst? delimiter s = some (before, rest) ↔ s = before ++ delimiter ++ rest ∧
      ∀ other after, s = other ++ delimiter ++ after → before.length ≤ other.length := by
  constructor
  · intro h
    exact ⟨eq_of_splitFirst? h, fun _ _ hs => length_le_of_splitFirst? h hs⟩
  · rintro ⟨hs, hfirst⟩
    obtain ⟨⟨b, r⟩, hsplit⟩ := exists_splitFirst? ⟨before, rest, hs.symm⟩
    have hbr : s = b ++ delimiter ++ r := eq_of_splitFirst? hsplit
    have hlength : before.length = b.length :=
      Nat.le_antisymm (hfirst b r hbr) (length_le_of_splitFirst? hsplit hs)
    -- parts of one text with fronts of one length
    have hparts : before ++ (delimiter ++ rest) = b ++ (delimiter ++ r) := by
      rw [← List.append_assoc, ← List.append_assoc, ← hs, ← hbr]
    obtain ⟨rfl, htail⟩ := List.append_inj hparts hlength
    rw [hsplit, List.append_cancel_left htail]

end SqlMapper.Text
