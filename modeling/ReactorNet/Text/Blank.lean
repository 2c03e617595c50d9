/-!
# `ReactorNet.Text.Blank` · white space around a text

The characters that count as white space around port references and address literals, and the
function that removes them from both ends of a text. Inside a text nothing is removed. The class is
the Unicode property `White_Space`, so a no-break space is trimmed as a tab is.
-/

namespace ReactorNet.Text

/-- The characters of the Unicode property `White_Space`. -/
def isBlank (c : Char) : Bool :=
  let n := c.toNat
  (9 ≤ n && n ≤ 13) || n == 0x20 || n == 0x85 || n == 0xA0 || n == 0x1680 ||
    (0x2000 ≤ n && n ≤ 0x200A) || n == 0x2028 || n == 0x2029 || n == 0x202F || n == 0x205F ||
    n == 0x3000

/-- The visible ASCII characters are no white space. -/
theorem isBlank_eq_false_of_visible {c : Char} (low : 0x21 ≤ c.toNat) (high : c.toNat ≤ 0x7E) :
    isBlank c = false := by
  simp only [isBlank, Bool.or_eq_false_iff, Bool.and_eq_false_iff, decide_eq_false_iff_not,
    beq_eq_false_iff_ne]
  omega

/-- Whether a text consists of white space. -/
def Blank (cs : List Char) : Prop := ∀ c ∈ cs, isBlank c = true

instance (cs : List Char) : Decidable (Blank cs) :=
  decidable_of_iff (cs.all isBlank = true) List.all_eq_true

/-- A text without the white space at its two ends. -/
def trim (cs : List Char) : List Char :=
  ((cs.dropWhile isBlank).reverse.dropWhile isBlank).reverse

/-- A text without white space at its ends is its own trimmed form. -/
theorem trim_eq_self {cs : List Char} (first : ∀ c ∈ cs.head?, isBlank c = false)
    (last : ∀ c ∈ cs.getLast?, isBlank c = false) : trim cs = cs := by
  have drop : ∀ l : List Char, (∀ c ∈ l.head?, isBlank c = false) → l.dropWhile isBlank = l := by
    intro l h
    cases l with
    | nil => rfl
    | cons c r => simp [h c (by simp)]
  have back : ∀ c ∈ cs.reverse.head?, isBlank c = false := by
    simpa [List.head?_reverse] using last
  rw [trim, drop cs first, drop cs.reverse back, List.reverse_reverse]

/-- White space around a text does not change its trimmed form. -/
theorem trim_append {before after : List Char} (cs : List Char) (blankBefore : Blank before)
    (blankAfter : Blank after) : trim (before ++ cs ++ after) = trim cs := by
  have blankReverse : Blank after.reverse := by
    intro c hc
    exact blankAfter c (List.mem_reverse.mp hc)
  unfold trim
  rw [List.append_assoc, List.dropWhile_append_of_pos blankBefore, List.dropWhile_append]
  split
  · -- nothing is left of a text that is blank throughout
    rename_i empty
    rw [List.isEmpty_iff.mp empty, ← List.append_nil after, List.dropWhile_append_of_pos blankAfter]
    rfl
  · rw [List.reverse_append, List.dropWhile_append_of_pos blankReverse]

/-- A text is its trimmed form with white space around it. -/
theorem exists_eq_trim (cs : List Char) :
    ∃ before after, Blank before ∧ Blank after ∧ cs = before ++ trim cs ++ after := by
  have blank : ∀ ds : List Char, Blank (ds.takeWhile isBlank) := by
    intro ds c hc
    exact List.all_eq_true.mp List.all_takeWhile c hc
  refine ⟨cs.takeWhile isBlank, ((cs.dropWhile isBlank).reverse.takeWhile isBlank).reverse,
    blank cs, ?_, ?_⟩
  · intro c hc
    exact blank _ c (List.mem_reverse.mp hc)
  · rw [trim, List.append_assoc, ← List.reverse_append, List.takeWhile_append_dropWhile,
      List.reverse_reverse, List.takeWhile_append_dropWhile]

end ReactorNet.Text
