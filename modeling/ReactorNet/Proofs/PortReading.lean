import Mathlib.Data.List.TakeWhile
import ReactorNet.Proofs.Spelling
import ReactorNet.Proofs.Validation

/-!
# `ReactorNet.Proofs.PortReading` · the texts that refer to ports

A grammar of references to ports, `PortRef.Written`, and `reads_written_iff`, which says that
exactly the texts of the grammar are read, with the port and the flag that are written there. A text
refers to one port at most, every reference is read back from its own text, and what is read from a
text has that text without its white space.

**Why no text has two readings.** The reader takes what is between `interleaved(` and `)` for a
path, and any other text for a path as a whole. A path consists of letters, digits, underscores and
at most one dot; so it has no bracket, and white space is not lost inside of it.
-/

namespace ReactorNet

open ReactorNet.Text

variable {c : Char} {cs inner : List Char} {key : PortKey} {r : PortRef} {s : String}

/-! ## The grammar -/

/-- Whether a text is the path of a port: an identifier, or two with a dot between them. -/
inductive PortKey.Path : List Char → PortKey → Prop where
  /-- The name of a port of the program itself. -/
  | ofProgram {port : List Char} (named : Identifier port) : Path port ⟨none, .ofList port⟩
  /-- The name of an instance and that of its port. -/
  | ofInstance {owner port : List Char} (ownerNamed : Identifier owner) (named : Identifier port) :
      Path (owner ++ '.' :: port) ⟨some (.ofList owner), .ofList port⟩

/-- Whether a text is a reference, with no white space around it. -/
inductive PortRef.Form : List Char → PortRef → Prop where
  /-- A path. -/
  | plain {cs : List Char} {key : PortKey} (path : key.Path cs) : Form cs ⟨key, false⟩
  /-- A path in brackets, with or without white space around it. -/
  | interleaved {before cs after : List Char} {key : PortKey} (blankBefore : Blank before)
      (path : key.Path cs) (blankAfter : Blank after) :
      Form ("interleaved(".toList ++ (before ++ cs ++ after) ++ [')']) ⟨key, true⟩

/-- Whether a text is a reference, with or without white space around it. -/
def PortRef.Written (s : String) (r : PortRef) : Prop :=
  ∃ before cs after, Blank before ∧ Blank after ∧ s.toList = before ++ cs ++ after ∧ Form cs r

/-- Whether the names in a reference are identifiers. -/
structure PortRef.Named (r : PortRef) : Prop where
  /-- The name of the port. -/
  port : Identifier r.key.port.toList
  /-- The name of the instance, if there is one. -/
  owner : ∀ name, r.key.instanceName = some name → Identifier name.toList

/-! ## Characters of a path -/

/-- What may stand in an identifier is no white space. -/
theorem isBlank_eq_false_of_rest (h : isIdentifierRest c = true) : isBlank c = false := by
  have ranges : (65 ≤ c.toNat ∧ c.toNat ≤ 90) ∨ (97 ≤ c.toNat ∧ c.toNat ≤ 122) ∨
      c.toNat = 95 ∨ (48 ≤ c.toNat ∧ c.toNat ≤ 57) := by
    rcases isIdentifierRest_iff.mp h with (upper | lower | rfl) | digit
    · exact Or.inl upper
    · exact Or.inr (Or.inl lower)
    · exact Or.inr (Or.inr (Or.inl rfl))
    · exact Or.inr (Or.inr (Or.inr digit))
  apply isBlank_eq_false_of_visible
  · omega
  · omega

/-- A path consists of letters, digits, underscores and dots. -/
theorem PortKey.Path.char (path : key.Path cs) (hc : c ∈ cs) :
    isIdentifierRest c = true ∨ c = '.' := by
  cases path with
  | ofProgram named => exact Or.inl (isIdentifierRest_of_mem (isIdentifier_iff.mpr named) hc)
  | ofInstance ownerNamed named =>
      rcases List.mem_append.mp hc with hc | hc
      · exact Or.inl (isIdentifierRest_of_mem (isIdentifier_iff.mpr ownerNamed) hc)
      · rcases List.mem_cons.mp hc with rfl | hc
        · exact Or.inr rfl
        · exact Or.inl (isIdentifierRest_of_mem (isIdentifier_iff.mpr named) hc)

/-- There is no white space in a path. -/
theorem PortKey.Path.not_blank (path : key.Path cs) : ∀ c ∈ cs, isBlank c = false := by
  intro c hc
  rcases path.char hc with rest | rfl
  · exact isBlank_eq_false_of_rest rest
  · rfl

/-- There is no bracket in a path. -/
theorem PortKey.Path.not_bracket (path : key.Path cs) : '(' ∉ cs := by
  intro hc
  rcases path.char hc with rest | dot
  · exact absurd rest (by decide)
  · exact absurd dot (by decide)

/-- There is no dot in an identifier. -/
theorem not_dot_of_identifier (named : Identifier cs) : ∀ c ∈ cs, (c != '.') = true := by
  intro c hc
  rw [bne_iff_ne]
  rintro rfl
  exact absurd (isIdentifierRest_of_mem (isIdentifier_iff.mpr named) hc) (by decide)

/-- A reference neither starts nor ends with white space. -/
theorem PortRef.Form.trim_eq (form : Form cs r) : trim cs = cs := by
  cases form with
  | plain path =>
      apply trim_eq_self
      · intro c hc
        exact path.not_blank c (List.mem_of_mem_head? hc)
      · intro c hc
        exact path.not_blank c (List.mem_of_getLast? hc)
  | interleaved blankBefore path blankAfter =>
      apply trim_eq_self
      · rintro c ⟨⟩
        rfl
      · rw [List.getLast?_concat]
        rintro c ⟨⟩
        rfl

/-! ## Reading -/

/-- Exactly the paths are read, with the port that they name. -/
theorem readPath_eq_ok_iff : PortRef.readPath cs = .ok key ↔ key.Path cs := by
  have parts := List.takeWhile_append_dropWhile (p := (· != '.')) (l := cs)
  constructor
  · intro h
    unfold PortRef.readPath at h
    dsimp only at h
    split at h
    · obtain ⟨named, h⟩ := check_then_eq_ok_iff.mp h
      cases h
      rw [checkIdentifier_eq_ok_iff, String.toList_ofList] at named
      exact .ofProgram (isIdentifier_iff.mp named)
    · rename_i d port rest
      obtain ⟨ownerNamed, h⟩ := check_then_eq_ok_iff.mp h
      obtain ⟨named, h⟩ := check_then_eq_ok_iff.mp h
      cases h
      rw [checkIdentifier_eq_ok_iff, String.toList_ofList] at ownerNamed named
      -- the path was cut in front of its first dot
      obtain rfl : d = '.' := by simpa [rest] using List.head?_dropWhile_not (· != '.') cs
      rw [rest] at parts
      have path := PortKey.Path.ofInstance (isIdentifier_iff.mp ownerNamed) (isIdentifier_iff.mp named)
      rwa [parts] at path
  · intro path
    unfold PortRef.readPath
    cases path with
    | ofProgram named =>
        rw [List.dropWhile_eq_nil_iff.mpr (not_dot_of_identifier named)]
        apply check_then_eq_ok_iff.mpr
        rw [checkIdentifier_eq_ok_iff, String.toList_ofList]
        exact ⟨isIdentifier_iff.mpr named, rfl⟩
    | @ofInstance owner port ownerNamed named =>
        have noDot := not_dot_of_identifier ownerNamed
        rw [List.dropWhile_append_of_pos noDot, List.takeWhile_append_of_pos noDot]
        have cut : ('.' :: port).dropWhile (· != '.') = '.' :: port := rfl
        have none : ('.' :: port).takeWhile (· != '.') = [] := rfl
        rw [cut, none, List.append_nil]
        apply check_then_eq_ok_iff.mpr
        rw [check_then_eq_ok_iff, checkIdentifier_eq_ok_iff, checkIdentifier_eq_ok_iff,
          String.toList_ofList, String.toList_ofList]
        exact ⟨isIdentifier_iff.mpr ownerNamed, isIdentifier_iff.mpr named, rfl⟩

/-- What stands between the brackets, if there are any. -/
theorem bracketed?_eq_some_iff : PortRef.bracketed? cs = some inner ↔
    cs = "interleaved(".toList ++ inner ++ [')'] := by
  have opening : PortRef.interleavedOpening.toList = "interleaved(".toList := rfl
  unfold PortRef.bracketed?
  rw [opening]
  constructor
  · intro h
    dsimp only at h
    split at h
    · rename_i opened
      obtain ⟨rest, rfl⟩ := List.isPrefixOf_iff_prefix.mp opened
      rw [List.drop_left, Option.ite_none_right_eq_some, beq_iff_eq, Option.some.injEq] at h
      obtain ⟨closed, rfl⟩ := h
      rw [List.append_assoc, List.dropLast_append_getLast? ')' closed]
    · cases h
  · rintro rfl
    have opened := List.isPrefixOf_iff_prefix.mpr
      (List.prefix_append "interleaved(".toList (inner ++ [')']))
    dsimp only
    rw [List.append_assoc, if_pos opened, List.drop_left, List.getLast?_concat, List.dropLast_concat]
    rfl

/-- A path is not in brackets. -/
theorem PortKey.Path.bracketed?_eq_none (path : key.Path cs) : PortRef.bracketed? cs = none := by
  rw [Option.eq_none_iff_forall_ne_some]
  intro inner bracketed
  rw [bracketed?_eq_some_iff.mp bracketed] at path
  apply path.not_bracket
  simp

/-- Without white space around it, exactly the references are read. -/
theorem read_trim_eq_ok_iff : PortRef.read? s = .ok r ↔ PortRef.Form (trim s.toList) r := by
  unfold PortRef.read?
  constructor
  · intro h
    dsimp only at h
    split at h
    · rename_i inner bracketed
      obtain ⟨key, path, rfl⟩ := map_eq_ok_iff.mp h
      obtain ⟨before, after, blankBefore, blankAfter, parts⟩ := exists_eq_trim inner
      rw [bracketed?_eq_some_iff.mp bracketed, parts]
      exact .interleaved blankBefore (readPath_eq_ok_iff.mp path) blankAfter
    · obtain ⟨key, path, rfl⟩ := map_eq_ok_iff.mp h
      exact .plain (readPath_eq_ok_iff.mp path)
  · intro form
    dsimp only
    generalize trim s.toList = cs at form
    cases form with
    | plain path =>
        rw [path.bracketed?_eq_none]
        exact map_eq_ok_iff.mpr ⟨_, readPath_eq_ok_iff.mpr path, rfl⟩
    | interleaved blankBefore path blankAfter =>
        rw [bracketed?_eq_some_iff.mpr rfl]
        apply map_eq_ok_iff.mpr
        refine ⟨_, ?_, rfl⟩
        rw [trim_append _ blankBefore blankAfter, (PortRef.Form.plain path).trim_eq]
        exact readPath_eq_ok_iff.mpr path

/-- Exactly the references are read. -/
theorem read_eq_ok_iff : PortRef.read? s = .ok r ↔ PortRef.Written s r := by
  rw [read_trim_eq_ok_iff]
  constructor
  · intro form
    obtain ⟨before, after, blankBefore, blankAfter, parts⟩ := exists_eq_trim s.toList
    exact ⟨before, _, after, blankBefore, blankAfter, parts, form⟩
  · rintro ⟨before, cs, after, blankBefore, blankAfter, parts, form⟩
    rw [parts, trim_append _ blankBefore blankAfter, form.trim_eq]
    exact form

/-! ## Writing -/

/-- A path is the text of its port. -/
theorem PortKey.Path.text_eq (path : key.Path cs) : key.text.toList = cs := by
  cases path with
  | ofProgram named => exact String.toList_ofList
  | ofInstance ownerNamed named => simp [PortKey.text]

/-- The text of a port that is named by identifiers is a path. -/
theorem PortRef.Named.path (named : r.Named) : r.key.Path r.key.text.toList := by
  obtain ⟨⟨owner, port⟩, interleaved⟩ := r
  cases owner with
  | none =>
      simpa [PortKey.text] using PortKey.Path.ofProgram named.port
  | some owner =>
      simpa [PortKey.text] using PortKey.Path.ofInstance (named.owner owner rfl) named.port

/-- The text of a reference, in or without brackets. -/
theorem toList_text (r : PortRef) : r.text.toList =
    if r.interleaved then "interleaved(".toList ++ r.key.text.toList ++ [')']
    else r.key.text.toList := by
  unfold PortRef.text PortRef.interleavedOpening
  split
  · rw [String.toList_append, String.toList_append]
    rfl
  · rfl

/-- The text of a reference that is named by identifiers is a reference. -/
theorem PortRef.Named.form (named : r.Named) : PortRef.Form r.text.toList r := by
  rw [toList_text]
  obtain ⟨key, interleaved⟩ := r
  cases interleaved with
  | false => exact .plain named.path
  | true =>
      have blank : Blank [] := fun c hc => absurd hc List.not_mem_nil
      simpa using PortRef.Form.interleaved blank named.path blank

/-- A reference names what it refers to by identifiers. -/
theorem PortRef.Form.named (form : Form cs r) : r.Named := by
  have path_named : ∀ {cs key} (interleaved : Bool),
      PortKey.Path cs key → Named ⟨key, interleaved⟩ := by
    intro cs key interleaved path
    cases path with
    | ofProgram named => exact ⟨by rwa [String.toList_ofList], nofun⟩
    | ofInstance ownerNamed named =>
        refine ⟨by rwa [String.toList_ofList], ?_⟩
        rintro name ⟨⟩
        rwa [String.toList_ofList]
  cases form with
  | plain path => exact path_named false path
  | interleaved _ path _ => exact path_named true path

/-- What is read names what it refers to by identifiers. -/
theorem named_of_read? (h : PortRef.read? s = .ok r) : r.Named :=
  (read_trim_eq_ok_iff.mp h).named

/-- A reference that names what it refers to by identifiers is read back from its text. -/
theorem PortRef.Named.reads (named : r.Named) : PortRef.read? r.text = .ok r := by
  rw [read_trim_eq_ok_iff, named.form.trim_eq]
  exact named.form

/-- White space is removed. -/
theorem filter_eq_nil_of_blank (blank : Blank cs) : (cs.filter fun c => !isBlank c) = [] := by
  apply List.filter_eq_nil_iff.mpr
  intro c hc
  simp [blank c hc]

/-- A path has no white space to be removed. -/
theorem PortKey.Path.filter_eq (path : key.Path cs) : (cs.filter fun c => !isBlank c) = cs := by
  apply List.filter_eq_self.mpr
  intro c hc
  simp [path.not_blank c hc]

/-- Without its white space, a reference is the text of what it is read as. -/
theorem PortRef.Form.text_eq (form : Form cs r) :
    r.text.toList = cs.filter fun c => !isBlank c := by
  rw [toList_text]
  cases form with
  | plain path => exact path.text_eq.trans path.filter_eq.symm
  | interleaved blankBefore path blankAfter =>
      have opening : ("interleaved(".toList.filter fun c => !isBlank c) = "interleaved(".toList := by
        decide
      have closing : ([')'].filter fun c => !isBlank c) = [')'] := rfl
      rw [List.filter_append, List.filter_append, List.filter_append, List.filter_append, opening,
        closing, filter_eq_nil_of_blank blankBefore, filter_eq_nil_of_blank blankAfter,
        path.filter_eq, path.text_eq, List.nil_append, List.append_nil]
      rfl

/-! ## The law -/

/-- **References are read as they are written.** Exactly the texts of the grammar are read, with the
port and the flag that are written there; no text has two readings. A reference to names that are
identifiers is read back from its text; and the text of a reference that was read is what it was
read from, without white space. -/
theorem reads_written_iff :
    (∀ s r, PortRef.read? s = .ok r ↔ PortRef.Written s r) ∧
    (∀ s r r', PortRef.Written s r → PortRef.Written s r' → r = r') ∧
    (∀ r : PortRef, r.Named → PortRef.read? r.text = .ok r) ∧
    (∀ s r, PortRef.read? s = .ok r → r.text.toList = s.toList.filter fun c => !isBlank c) := by
  refine ⟨fun s r => read_eq_ok_iff, ?_, fun r named => named.reads, ?_⟩
  · intro s r r' h h'
    have same := (read_eq_ok_iff.mpr h).symm.trans (read_eq_ok_iff.mpr h')
    exact Except.ok.inj same
  · intro s r h
    obtain ⟨before, cs, after, blankBefore, blankAfter, parts, form⟩ := read_eq_ok_iff.mp h
    rw [parts, List.filter_append, List.filter_append, filter_eq_nil_of_blank blankBefore,
      filter_eq_nil_of_blank blankAfter, List.nil_append, List.append_nil]
    exact form.text_eq

/-- With white space of three kinds, a reference is read as what its text says; and that is read
back. -/
theorem interleavedTap_reads : (PortRef.ofInstance "tap" "out").interleave.Named ∧
    PortRef.Written "\t interleaved(\u00a0tap.out )" (PortRef.ofInstance "tap" "out").interleave ∧
    PortRef.read? (PortRef.ofInstance "tap" "out").interleave.text =
      .ok (PortRef.ofInstance "tap" "out").interleave ∧
    (PortRef.ofInstance "tap" "out").interleave.text = "interleaved(tap.out)" := by
  obtain ⟨reads, -, back, -⟩ := reads_written_iff
  have named : (PortRef.ofInstance "tap" "out").interleave.Named := by
    refine ⟨isIdentifier_iff.mp (by decide), ?_⟩
    rintro name ⟨⟩
    exact isIdentifier_iff.mp (by decide)
  exact ⟨named, (reads _ _).mp (by decide +kernel), back _ named, by decide⟩

end ReactorNet
