import Mathlib.Data.Nat.Basic
import ReactorNet.Text.Numeral

/-!
# `ReactorNet.Proofs.Digits` · numbers are read back from their digits

A number is written in a radix of at most sixteen, with small letters for the digits from ten on.

* `numeral?_toDigits`: it is the value of that numeral.
* `takeWhile_digits`, `dropWhile_digits`: reading stops behind the digits, whatever follows them, as
  long as this is no digit.
* `zero_of_head_toDigits`: no number but zero is written with a zero in front, so the digits of a
  number are never refused for a superfluous one.
-/

namespace ReactorNet.Text

variable {radix n d acc : Nat} {c : Char} {cs ds rest : List Char}

/-! ## The value of a numeral -/

/-- The digit of a small number has its value. -/
theorem digitValue?_digitChar (small : d < radix) (radix_le : radix ≤ 16) :
    digitValue? radix (Nat.digitChar d) = some d := by
  have value : ∀ d < 16, digitValue? 16 (Nat.digitChar d) = some d := by decide
  have sixteen := value d (Nat.lt_of_lt_of_le small radix_le)
  unfold digitValue? at sixteen ⊢
  dsimp only at sixteen ⊢
  rw [Option.filter_eq_some_iff] at sixteen ⊢
  exact ⟨sixteen.1, decide_eq_true small⟩

/-- A numeral is read from the left to the right. -/
theorem numeralFrom_append (cs ds : List Char) : numeralFrom radix acc (cs ++ ds) =
    (numeralFrom radix acc cs).bind fun n => numeralFrom radix n ds := by
  induction cs generalizing acc with
  | nil => rfl
  | cons c cs ih =>
      rw [List.cons_append, numeralFrom, numeralFrom]
      cases digitValue? radix c with
      | none => rfl
      | some d => exact ih

/-- One more digit multiplies what was read by the radix, and is added. -/
theorem numeralFrom_digitChar (small : d < radix) (radix_le : radix ≤ 16) :
    numeralFrom radix acc [Nat.digitChar d] = some (acc * radix + d) := by
  rw [numeralFrom, digitValue?_digitChar small radix_le]
  rfl

/-- A number has one digit, or those of its quotient by the radix and one more. -/
theorem toDigits_cases (one_lt : 1 < radix) (n : Nat) :
    (n < radix ∧ Nat.toDigits radix n = [Nat.digitChar n]) ∨
    (0 < n / radix ∧ n / radix < n ∧ Nat.toDigits radix n =
      Nat.toDigits radix (n / radix) ++ [Nat.digitChar (n % radix)]) := by
  have radix_pos : 0 < radix := Nat.lt_trans Nat.one_pos one_lt
  rcases Nat.lt_or_ge n radix with small | large
  · exact Or.inl ⟨small, Nat.toDigits_of_lt_base small⟩
  · have last : n % radix < radix := Nat.mod_lt n radix_pos
    have pos : 0 < n / radix := Nat.div_pos large radix_pos
    have parts := Nat.toDigits_append_toDigits one_lt pos last
    rw [Nat.div_add_mod, Nat.toDigits_of_lt_base last] at parts
    exact Or.inr ⟨pos, Nat.div_lt_self (Nat.lt_of_lt_of_le radix_pos large) one_lt, parts.symm⟩

/-- A number is read from its digits. -/
theorem numeralFrom_toDigits (one_lt : 1 < radix) (radix_le : radix ≤ 16) (n : Nat) :
    numeralFrom radix 0 (Nat.toDigits radix n) = some n := by
  induction n using Nat.strong_induction_on with
  | _ n ih =>
      have last : n % radix < radix := Nat.mod_lt n (Nat.lt_trans Nat.one_pos one_lt)
      rcases toDigits_cases one_lt n with ⟨small, digits⟩ | ⟨-, smaller, digits⟩
      · rw [digits, numeralFrom_digitChar small radix_le, Nat.zero_mul, Nat.zero_add]
      · rw [digits, numeralFrom_append, ih _ smaller, Option.bind_some,
          numeralFrom_digitChar last radix_le, Nat.div_add_mod']

/-- The numeral of a number has its value. -/
theorem numeral?_toDigits (one_lt : 1 < radix) (radix_le : radix ≤ 16) (n : Nat) :
    numeral? radix (Nat.toDigits radix n) = some n := by
  have value := numeralFrom_toDigits one_lt radix_le n
  cases digits : Nat.toDigits radix n with
  | nil => exact absurd digits Nat.toDigits_ne_nil
  | cons c cs => rwa [digits] at value

/-! ## The digits of a numeral -/

/-- A numeral consists of digits. -/
theorem isSome_digitValue?_of_numeralFrom (h : numeralFrom radix acc cs = some n) (hc : c ∈ cs) :
    (digitValue? radix c).isSome = true := by
  induction cs generalizing acc with
  | nil => exact absurd hc List.not_mem_nil
  | cons e cs ih =>
      rw [numeralFrom] at h
      split at h
      · rename_i value
        rcases List.mem_cons.mp hc with rfl | hc
        · rw [value]
          rfl
        · exact ih h hc
      · cases h

/-- The digits of a number have values. -/
theorem isSome_digitValue?_of_mem (one_lt : 1 < radix) (radix_le : radix ≤ 16)
    (hc : c ∈ Nat.toDigits radix n) : (digitValue? radix c).isSome = true :=
  isSome_digitValue?_of_numeralFrom (numeralFrom_toDigits one_lt radix_le n) hc

/-- A digit is one of the ten decimal ones, or a letter. -/
theorem code_of_isSome_digitValue? (h : (digitValue? radix c).isSome = true) :
    (48 ≤ c.toNat ∧ c.toNat ≤ 57) ∨ (97 ≤ c.toNat ∧ c.toNat ≤ 122) ∨
      (65 ≤ c.toNat ∧ c.toNat ≤ 90) := by
  unfold digitValue? at h
  dsimp only at h
  split at h
  · rename_i decimal
    exact Or.inl (by simpa using decimal)
  · split at h
    · rename_i small
      exact Or.inr (Or.inl (by simpa using small))
    · split at h
      · rename_i capital
        exact Or.inr (Or.inr (by simpa using capital))
      · cases h

/-- Only zero is written with a zero in front. -/
theorem zero_of_head_toDigits (one_lt : 1 < radix) (radix_le : radix ≤ 16)
    (h : (Nat.toDigits radix n).head? = some '0') : n = 0 := by
  induction n using Nat.strong_induction_on with
  | _ n ih =>
      rcases toDigits_cases one_lt n with ⟨small, digits⟩ | ⟨pos, smaller, digits⟩
      · rw [digits, List.head?_cons, Option.some.injEq] at h
        have value := digitValue?_digitChar small radix_le
        have zero := digitValue?_digitChar (Nat.lt_trans Nat.one_pos one_lt) radix_le
        rw [h] at value
        exact Option.some.inj (value.symm.trans zero)
      · -- a quotient that is not zero has no zero in front
        rw [digits, List.head?_append, Option.or_of_isSome] at h
        · exact absurd (ih _ smaller h) (Nat.pos_iff_ne_zero.mp pos)
        · exact List.isSome_head?.mpr Nat.toDigits_ne_nil

/-! ## What follows the digits -/

/-- All characters up to the first of another kind are taken. -/
theorem takeWhile_digits {p : Char → Bool} (digits : ∀ c ∈ ds, p c = true)
    (stop : ∀ c ∈ rest.head?, p c = false) : (ds ++ rest).takeWhile p = ds := by
  rw [List.takeWhile_append_of_pos digits]
  cases rest with
  | nil => exact List.append_nil ds
  | cons c rest =>
      have other : ¬ p c = true := by simpa using stop c rfl
      rw [List.takeWhile_cons_of_neg other, List.append_nil]

/-- They are all that is taken. -/
theorem dropWhile_digits {p : Char → Bool} (digits : ∀ c ∈ ds, p c = true)
    (stop : ∀ c ∈ rest.head?, p c = false) : (ds ++ rest).dropWhile p = rest := by
  rw [List.dropWhile_append_of_pos digits]
  cases rest with
  | nil => rfl
  | cons c rest =>
      have other : ¬ p c = true := by simpa using stop c rfl
      exact List.dropWhile_cons_of_neg other

/-- Behind as many digits as there are stands one of the other characters, or what follows them. -/
theorem mem_head?_dropWhile_append {p : Char → Bool} (stop : ∀ c ∈ rest.head?, p c = false)
    (h : c ∈ ((ds ++ rest).dropWhile p).head?) : c ∈ ds ∨ c ∈ rest.head? := by
  induction ds with
  | nil =>
      have all : rest.dropWhile p = rest :=
        dropWhile_digits (fun c hc => absurd hc List.not_mem_nil) stop
      rw [List.nil_append, all] at h
      exact Or.inr h
  | cons d ds ih =>
      rw [List.cons_append, List.dropWhile_cons] at h
      split at h
      · exact (ih h).imp_left (List.mem_cons_of_mem d)
      · obtain rfl : d = c := Option.some.inj h
        exact Or.inl List.mem_cons_self

end ReactorNet.Text
