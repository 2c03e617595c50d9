/-!
# `ReactorNet.Text.Identifier` · names of instances, ports and interfaces

The spelling rule that every instance, port and interface name obeys: an ASCII letter or underscore,
then ASCII letters, digits and underscores, over the whole text. In particular the empty text is no
identifier, and neither a dot nor a space can occur in one.
-/

namespace ReactorNet.Text

/-- A character that may open an identifier. -/
def isIdentifierStart (c : Char) : Bool := c.isAlpha || c == '_'

/-- A character that may continue an identifier. -/
def isIdentifierRest (c : Char) : Bool := c.isAlphanum || c == '_'

/-- Whether the whole text is one identifier. -/
def isIdentifier : List Char → Bool
  | [] => false
  | c :: cs => isIdentifierStart c && cs.all isIdentifierRest

/-- What may open an identifier may also continue one. -/
theorem isIdentifierRest_of_start {c : Char} (h : isIdentifierStart c = true) :
    isIdentifierRest c = true := by
  simp only [isIdentifierStart, isIdentifierRest, Char.isAlphanum, Bool.or_eq_true] at h ⊢
  rcases h with h | h
  · exact Or.inl (Or.inl h)
  · exact Or.inr h

/-- Every character of an identifier is a letter, a digit or an underscore. -/
theorem isIdentifierRest_of_mem {cs : List Char} (h : isIdentifier cs = true) {c : Char}
    (hc : c ∈ cs) : isIdentifierRest c = true := by
  cases cs with
  | nil => simp [isIdentifier] at h
  | cons d r =>
    simp only [isIdentifier, Bool.and_eq_true, List.all_eq_true] at h
    rcases List.mem_cons.1 hc with rfl | hr
    · exact isIdentifierRest_of_start h.1
    · exact h.2 c hr

end ReactorNet.Text
