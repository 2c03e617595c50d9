import ReactorNet.Text.Identifier

/-!
# `ReactorNet.Proofs.Spelling` · how identifiers are spelled

`Identifier` says by its characters which texts are identifiers, as a user would be told: an ASCII
letter or underscore, followed by any number of ASCII letters, underscores and digits. The check of
names accepts these texts and no others (`isIdentifier_iff`).
-/

namespace ReactorNet.Text

variable {c : Char} {cs : List Char}

/-- Whether a character is an ASCII letter or an underscore. -/
def IsLetter (c : Char) : Prop := ('A' ≤ c ∧ c ≤ 'Z') ∨ ('a' ≤ c ∧ c ≤ 'z') ∨ c = '_'

/-- Whether a text is an identifier. -/
inductive Identifier : List Char → Prop where
  /-- A letter or underscore, followed by letters, underscores and digits. -/
  | spelled {c : Char} {cs : List Char} (first : IsLetter c)
      (rest : ∀ d ∈ cs, IsLetter d ∨ ('0' ≤ d ∧ d ≤ '9')) : Identifier (c :: cs)

/-- What may open an identifier. -/
theorem isIdentifierStart_iff : isIdentifierStart c = true ↔ IsLetter c := by
  have upper : c.isUpper = true ↔ 'A' ≤ c ∧ c ≤ 'Z' := decide_eq_true_iff
  have lower : c.isLower = true ↔ 'a' ≤ c ∧ c ≤ 'z' := by
    show (decide ('a' ≤ c) && decide (c ≤ 'z')) = true ↔ _
    rw [Bool.and_eq_true, decide_eq_true_eq, decide_eq_true_eq]
  show (c.isUpper || c.isLower || c == '_') = true ↔ IsLetter c
  rw [Bool.or_eq_true, Bool.or_eq_true, upper, lower, beq_iff_eq, or_assoc, IsLetter]

/-- What may continue an identifier. -/
theorem isIdentifierRest_iff : isIdentifierRest c = true ↔ IsLetter c ∨ ('0' ≤ c ∧ c ≤ '9') := by
  have digit : c.isDigit = true ↔ '0' ≤ c ∧ c ≤ '9' := by simp [Char.isDigit, Char.le_def]
  rw [← isIdentifierStart_iff, ← digit]
  show (c.isAlpha || c.isDigit || c == '_') = true ↔ (c.isAlpha || c == '_') = true ∨ _
  simp [or_right_comm]

/-- The check of names accepts the identifiers. -/
theorem isIdentifier_iff : isIdentifier cs = true ↔ Identifier cs := by
  constructor
  · intro h
    cases cs with
    | nil => cases h
    | cons c cs =>
        simp only [isIdentifier, Bool.and_eq_true, List.all_eq_true] at h
        exact .spelled (isIdentifierStart_iff.mp h.1) fun d hd => isIdentifierRest_iff.mp (h.2 d hd)
  · rintro ⟨first, rest⟩
    simp only [isIdentifier, Bool.and_eq_true, List.all_eq_true]
    exact ⟨isIdentifierStart_iff.mpr first, fun d hd => isIdentifierRest_iff.mpr (rest d hd)⟩

end ReactorNet.Text
