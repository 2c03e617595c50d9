import Mathlib.Algebra.Group.Int.Defs
import Mathlib.Algebra.Group.Nat.Defs
import ReactorNet.Program.Decoding
import ReactorNet.Proofs.Interfaces

/-!
# `ReactorNet.Proofs.Acceptance` · what it takes to be read

A record is read if each of its fields is: `record_eq_ok_iff` opens any reader of the schema into
what `Fields.Has` says of its fields, one by one, and the lemmas on `Has` say what is then known of
a field whose default and whose reader are known. None of it depends on the format, or on which
fields there are.
-/

namespace ReactorNet.Schema

variable {σ ε α β : Type}

/-! ## Records -/

namespace Parsed

variable {f : Parsed ε (α → β)} {x : Parsed ε α} {y : Parsed ε β} {a : α} {b : β}

/-- A record is read if none of its entries is at fault. -/
theorem result_eq_ok_iff : x.result = .ok a ↔ x.outcome = .ok a := by
  unfold result
  cases x.outcome <;> simp [Except.mapError]

/-- What was read is changed if it was read. -/
theorem map_eq_ok_iff {g : α → β} :
    (g <$> x).outcome = .ok b ↔ ∃ a, x.outcome = .ok a ∧ g a = b := by
  obtain ⟨outcome⟩ := x
  cases outcome with
  | error fault => exact ⟨nofun, fun ⟨a, h, _⟩ => nomatch h⟩
  | ok a =>
      constructor
      · intro h
        exact ⟨a, rfl, Except.ok.inj h⟩
      · rintro ⟨a', h, rfl⟩
        cases h
        rfl

/-- What was read from some entries is applied to what was read from others if both were read. -/
theorem seq_eq_ok_iff : (f <*> x).outcome = .ok b ↔
    ∃ g, f.outcome = .ok g ∧ ∃ a, x.outcome = .ok a ∧ g a = b := by
  obtain ⟨foutcome⟩ := f
  obtain ⟨xoutcome⟩ := x
  cases foutcome with
  | error fault =>
      cases xoutcome with
      | error fault' => exact ⟨nofun, fun ⟨g, h, _⟩ => nomatch h⟩
      | ok a => exact ⟨nofun, fun ⟨g, h, _⟩ => nomatch h⟩
  | ok g =>
      cases xoutcome with
      | error fault => exact ⟨nofun, fun ⟨g, _, a, h, _⟩ => nomatch h⟩
      | ok a =>
          constructor
          · intro h
            exact ⟨g, rfl, a, rfl, Except.ok.inj h⟩
          · rintro ⟨g', hg, a', ha, rfl⟩
            cases hg
            cases ha
            rfl

/-- Something that holds was read after a change if it holds of what is changed. -/
theorem exists_map_iff {g : α → β} {P : β → Prop} :
    (∃ b, (g <$> x).outcome = .ok b ∧ P b) ↔ ∃ a, x.outcome = .ok a ∧ P (g a) := by
  simp only [map_eq_ok_iff, exists_exists_and_eq_and]

/-- Something that holds was read in two parts if it holds of one applied to the other. -/
theorem exists_seq_iff {P : β → Prop} : (∃ b, (f <*> x).outcome = .ok b ∧ P b) ↔
    ∃ g, f.outcome = .ok g ∧ ∃ a, x.outcome = .ok a ∧ P (g a) := by
  simp only [seq_eq_ok_iff]
  constructor
  · rintro ⟨_, ⟨g, hf, a, hx, rfl⟩, holds⟩
    exact ⟨g, hf, a, hx, holds⟩
  · rintro ⟨g, hf, a, hx, holds⟩
    exact ⟨_, ⟨g, hf, a, hx, rfl⟩, holds⟩

/-- What was read is kept if what is left aside was read too. -/
theorem seqLeft_eq_ok_iff :
    (x <* y).outcome = .ok a ↔ x.outcome = .ok a ∧ ∃ b, y.outcome = .ok b := by
  change (Function.const β <$> x <*> y).outcome = .ok a ↔ _
  rw [seq_eq_ok_iff]
  simp only [map_eq_ok_iff]
  constructor
  · rintro ⟨g, ⟨a', hx, rfl⟩, b, hy, rfl⟩
    exact ⟨hx, b, hy⟩
  · rintro ⟨hx, b, hy⟩
    exact ⟨_, ⟨a, hx, rfl⟩, b, hy, rfl⟩

end Parsed

/-- Whether a record was given no more values than it has fields, where that counts. -/
def Fields.Closed (fs : Fields σ) (count : Nat) : Prop :=
  ∀ values, fs = .listed true values → values.length ≤ count

/-- A record is closed if it was given no more values than that. -/
theorem Fields.exists_close_iff {fs : Fields σ} {count : Nat} :
    (∃ u, (fs.close count : Parsed ε Unit).outcome = .ok u) ↔ fs.Closed count := by
  unfold close Closed
  cases fs with
  | named entries => exact ⟨fun _ => nofun, fun _ => ⟨(), rfl⟩⟩
  | listed exact values =>
      dsimp only
      split
      · rename_i surplus
        rw [Bool.and_eq_true, decide_eq_true_iff] at surplus
        obtain ⟨rfl, surplus⟩ := surplus
        exact ⟨nofun, fun closed => absurd (closed values rfl) (Nat.not_le_of_lt surplus)⟩
      · rename_i enough
        refine ⟨?_, fun _ => ⟨(), rfl⟩⟩
        rintro - _ ⟨⟩
        simpa using enough

/-- A record is read if all of its fields are, and if it has no more values than fields. -/
theorem record_eq_ok_iff {f : Format σ} {v : σ} {body : Fields σ → Parsed ε α}
    {count : Nat} {a : α} :
    (do let fs ← f.record v; (body fs <* fs.close count).result) = .ok a ↔
      ∃ fs, f.record? v = some fs ∧ (∃ b, (body fs).outcome = .ok b ∧ b = a) ∧
        fs.Closed count := by
  have shape : ∀ fs, (f.record v : Except (Misfit ε) _) = .ok fs ↔ f.record? v = some fs := by
    intro fs
    unfold Format.record Format.demand
    cases f.record? v <;> simp
  simp only [bind_eq_ok_iff, shape, Parsed.result_eq_ok_iff, Parsed.seqLeft_eq_ok_iff,
    Fields.exists_close_iff, exists_eq_right]

/-- Whether a field of a record is read as the given value. -/
def Fields.Has (fs : Fields σ) (number : Nat) (name : String) (default? : Option α)
    (read : σ → Decoded α) (a : α) : Prop :=
  (fs.field number name default? read).outcome = .ok a

/-- A field that was read is the default, or was read from one of the entries. -/
theorem Fields.Has.cases {fs : Fields σ} {number : Nat} {name : String} {default? : Option α}
    {read : σ → Decoded α} {a : α} (h : fs.Has number name default? read a) :
    default? = some a ∨ ∃ v, read v = .ok a := by
  unfold Has field at h
  split at h
  · split at h
    · cases h
      exact .inl rfl
    · cases h
  · rename_i entry v _
    cases outcome : read v with
    | error m =>
        rw [outcome] at h
        cases h
    | ok x =>
        rw [outcome] at h
        cases h
        exact .inr ⟨v, outcome⟩
  · split at h
    · cases h
    · cases h

/-! ## Values that are read -/

namespace Format

section Reading

variable {f : Format σ} {v : σ} {bits n : Nat} {x : Int} {a : α} {P : α → Prop}
  {read : σ → Except (Misfit ε) α}

/-- What is demanded was there. -/
theorem demand_eq_ok_iff {a? : Option α} :
    (demand a? : Except (Misfit ε) α) = .ok a ↔ a? = some a := by
  cases a? <;> simp [demand]

/-- A word has no more bits than it may have if it is less than their power of two. -/
theorem le_maxWord_iff : n ≤ maxWord bits ↔ n < 2 ^ bits :=
  Nat.le_sub_one_iff_lt (Nat.two_pow_pos bits)

/-- A word that is read has no more bits than it may have. -/
theorem lt_of_word (h : (f.word bits v : Except (Misfit ε) Nat) = .ok n) : n < 2 ^ bits := by
  have small := (Option.filter_eq_some_iff.mp (demand_eq_ok_iff.mp h)).2
  exact le_maxWord_iff.mp (of_decide_eq_true small)

/-- A signed word with the given number of bits. -/
def IsSigned (bits : Nat) (x : Int) : Prop := -2 ^ (bits - 1) ≤ x ∧ x < 2 ^ (bits - 1)

/-- The bounds of a signed word are checked. -/
theorem isSigned_iff : (-(Nat.pow 2 (bits - 1) : Int) ≤ x && x < (Nat.pow 2 (bits - 1) : Int)) = true ↔
    IsSigned bits x := by
  have power : (Nat.pow 2 (bits - 1) : Int) = 2 ^ (bits - 1) := Int.natCast_pow 2 (bits - 1)
  rw [Bool.and_eq_true, decide_eq_true_iff, decide_eq_true_iff, power, IsSigned]

/-- A signed word that is read is within its bounds. -/
theorem isSigned_of_signed (h : (f.signed bits v : Except (Misfit ε) Int) = .ok x) : IsSigned bits x :=
  isSigned_iff.mp (Option.filter_eq_some_iff.mp (demand_eq_ok_iff.mp h)).2

/-- A text that is read and converted could be converted. -/
theorem exists_of_converted {convert : String → Except ε α} (h : f.converted convert v = .ok a) :
    ∃ s, convert s = .ok a := by
  unfold converted at h
  split at h
  · rename_i s _
    cases outcome : convert s with
    | error reason =>
        rw [outcome] at h
        cases h
    | ok b =>
        rw [outcome] at h
        cases h
        exact ⟨s, outcome⟩
  · cases h

/-- What holds of everything that is read holds of an optional part that is there. -/
theorem optional_forall {o : Option α} (h : f.optional read v = .ok o)
    (all : ∀ w a, read w = .ok a → P a) : ∀ a, o = some a → P a := by
  unfold optional at h
  split at h
  · cases h
  · cases h
    exact nofun
  · rename_i w _
    obtain ⟨b, given, rfl⟩ := ReactorNet.map_eq_ok_iff.mp h
    rintro _ ⟨⟩
    exact all w b given

/-- What holds of everything that is read holds of the items of a list. -/
theorem list_forall {as : List α} (h : f.list read v = .ok as)
    (all : ∀ w a, read w = .ok a → P a) : ∀ a ∈ as, P a := by
  unfold list at h
  split at h
  · cases h
  · rename_i items _
    clear * - h all
    induction items generalizing as with
    | nil =>
        cases h
        exact nofun
    | cons w items ih =>
        rw [List.mapM_cons] at h
        obtain ⟨b, first, h⟩ := bind_eq_ok_iff.mp h
        obtain ⟨bs, rest, h⟩ := bind_eq_ok_iff.mp h
        cases h
        exact List.forall_mem_cons.mpr ⟨all w b first, ih rest⟩

end Reading

end Format

/-! ## What the fields of a record hold -/

namespace Fields.Has

variable {f : Format σ} {fs : Fields σ} {number : Nat} {name : String}
  {read : σ → Decoded α} {P : α → Prop}

/-- A field without a default holds what is read for it. -/
theorem required {a : α} (h : fs.Has number name none read a) (all : ∀ v a, read v = .ok a → P a) :
    P a := by
  rcases h.cases with absent | ⟨v, given⟩
  · cases absent
  · exact all v a given

/-- A field holds what its default and all that is read for it do. -/
theorem defaulted {a default : α} (h : fs.Has number name (some default) read a) (byDefault : P default)
    (all : ∀ v a, read v = .ok a → P a) : P a := by
  rcases h.cases with absent | ⟨v, given⟩
  · cases absent
    exact byDefault
  · exact all v a given

/-- The items of a list that may be left out hold what holds of all that are read. -/
theorem items {as : List α} (h : fs.Has number name (some []) (f.list read) as)
    (all : ∀ v a, read v = .ok a → P a) : ∀ a ∈ as, P a :=
  h.defaulted (P := fun as => ∀ a ∈ as, P a) nofun fun _ _ given => Format.list_forall given all

/-- A part that may be left out holds, if it is there, what holds of all that are read. -/
theorem part {o : Option α} (h : fs.Has number name (some none) (f.optional read) o)
    (all : ∀ v a, read v = .ok a → P a) : ∀ a, o = some a → P a :=
  h.defaulted (P := fun o => ∀ a, o = some a → P a) nofun fun _ _ given =>
    Format.optional_forall given all

end Fields.Has

end ReactorNet.Schema
