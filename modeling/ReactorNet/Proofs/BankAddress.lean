import ReactorNet.Proofs.InterfaceLaw

/-!
# `ReactorNet.Proofs.BankAddress` · addresses for every index of a bank

A member of a bank gets the declared address moved by one less than its index. This distance is
computed on signed words, and an index may be any word. `claim_member_law` says for which indices
the result is nevertheless the one that numbers without bounds would give: those that, added to the
last component of the address, do not exceed 2^64.

**What happens beyond.** An index above 2^63 turns into a negative distance. Mostly this leads below
all addresses, where it should have led above them, and is refused all the same. From the few
indices that are left it leads to an address that is lower than the declared one
(`overrun_moves_down`).

**What stays true.** Two indices never lead to one address, as the distances differ even so.
-/

namespace ReactorNet

variable {s : Allocation} {a b : Address} {n : Int} {index index' : Nat} {literal : String}
  {c : Carrier} {via : Address → Binding}

/-! ## The law -/

/-- Whether the last component of an address can be greater by `n`. -/
def Address.Admits (a : Address) (n : Int) : Prop :=
  0 ≤ a.last + n ∧ a.last + n ≤ Address.lastLimit a.family

/-- Whether an address differs from another one in the last component only, and by `n`. -/
structure Address.Apart (a : Address) (n : Int) (b : Address) : Prop where
  /-- All components but the last are the same. -/
  others : b.components.dropLast = a.components.dropLast
  /-- The last one is greater by `n`. -/
  last : (b.last : Int) = a.last + n

/-- What a claim leads to that moves an address by one less than an index. -/
inductive MemberLaw (a : Address) (via : Address → Binding) (index : Nat) (s : Allocation) :
    Except InterfaceFault (Binding × Allocation) → Prop where
  /-- If the last component admits it, the address at this distance is claimed. -/
  | moved {b : Address} (admits : a.Admits ((index : Int) - 1))
      (apart : a.Apart ((index : Int) - 1) b) :
      MemberLaw a via index s ((s.claimAddress b).map (via b, ·))
  /-- Otherwise the address is refused. The distance is reported as a signed word. -/
  | overflow (beyond : ¬ a.Admits ((index : Int) - 1)) :
      MemberLaw a via index s (.error (.addressOverflow a (((index : Int) - 1).bmod (2 ^ 64))))

/-- Whether a declaration asks for the address of a literal, and how the interface is bound to
it. -/
inductive Carrier.Asks (literal : String) : Carrier → (via : Address → Binding) → Prop where
  /-- For TCP. -/
  | tcp : Asks literal (.tcp (some literal)) .tcp
  /-- For CoAP. -/
  | coap : Asks literal (.coap (some literal)) .coap

/-! ## Distances between addresses -/

/-- An address is made up of its components. -/
theorem components_injective : Function.Injective Address.components := by
  intro a b h
  cases a with
  | v4 x y z w =>
      cases b with
      | v4 => simpa [Address.components, UInt8.toNat_inj] using h
      | v6 => simp [Address.components] at h
  | v6 =>
      cases b with
      | v4 => simp [Address.components] at h
      | v6 => simpa [Address.components, UInt16.toNat_inj] using h

/-- The last component stands behind the others. -/
theorem components_eq (a : Address) : a.components = a.components.dropLast ++ [a.last] := by
  cases a <;> rfl

/-- There is one address at a distance at most. -/
theorem Address.Apart.unique {b' : Address} (h : a.Apart n b) (h' : a.Apart n b') : b = b' := by
  have last : b.last = b'.last := Int.ofNat.inj (h.last.trans h'.last.symm)
  apply components_injective
  rw [components_eq b, components_eq b', h.others, h'.others, last]

/-- An address is shifted if its last component admits the distance, and then by the distance. -/
theorem shift?_eq_some_iff : a.shift? n = some b ↔ a.Admits n ∧ a.Apart n b := by
  have shifted : a.Admits n → a.shift? n = some (a.withLast (a.last + n).toNat) := fun h => if_pos h
  have apart : a.Admits n → a.Apart n (a.withLast (a.last + n).toNat) := by
    intro h
    refine ⟨?_, Address.last_shift? (shifted h)⟩
    cases a <;> rfl
  constructor
  · intro h
    have admits : a.Admits n := (Option.ite_none_right_eq_some.mp h).1
    rw [shifted admits] at h
    cases h
    exact ⟨admits, apart admits⟩
  · rintro ⟨admits, there⟩
    rw [shifted admits, (apart admits).unique there]

/-- It is not shifted otherwise. -/
theorem shift?_eq_none_iff : a.shift? n = none ↔ ¬ a.Admits n := by
  unfold Address.shift? Address.Admits
  rw [ite_eq_right_iff]
  simp

/-- The last component exceeds the greatest one that a shift may lead to by one at most. -/
theorem last_le (a : Address) : a.last ≤ Address.lastLimit a.family + 1 := by
  cases a with
  | v4 _ _ _ w => exact Nat.le_of_lt_succ w.toNat_lt
  | v6 _ _ _ _ _ _ _ w => exact (Nat.le_of_lt_succ w.toNat_lt).trans (Nat.le_succ _)

/-! ## Distances as signed words -/

/-- Above 2^63, the shift of a member falls short by 2^64. -/
theorem bankShift_of_gt (above : 2 ^ 63 < index) (word : index < 2 ^ 64) :
    bankShift index = (index : Int) - 1 - 2 ^ 64 := by
  have turned := Int.sub_bmod_right ((index : Int) - 1) (2 ^ 64)
  have power : ((2 ^ 64 : Nat) : Int) = 2 ^ 64 := rfl
  rw [power] at turned
  rw [bankShift_eq_bmod, ← turned]
  exact bmod_word (by omega) (by omega)

/-- The shift of a member is one less than its index or falls short by 2^64. -/
theorem bankShift_cases (word : index < 2 ^ 64) :
    (index ≤ 2 ^ 63 ∧ bankShift index = (index : Int) - 1) ∨
      (2 ^ 63 < index ∧ bankShift index = (index : Int) - 1 - 2 ^ 64) := by
  rcases Nat.lt_or_ge (2 ^ 63) index with above | below
  · exact Or.inr ⟨above, bankShift_of_gt above word⟩
  · exact Or.inl ⟨below, bankShift_eq below⟩

/-- No two members are shifted alike. -/
theorem eq_of_bankShift_eq (word : index < 2 ^ 64) (word' : index' < 2 ^ 64)
    (same : bankShift index = bankShift index') : index = index' := by
  have shift := bankShift_cases word
  have shift' := bankShift_cases word'
  omega

/-- For an index that does not exceed 2^64 when the last component is added, that component admits
the shift if it admits the distance, and then they are the same. -/
theorem admits_bankShift_iff (within : index + a.last ≤ 2 ^ 64) (word : index < 2 ^ 64) :
    (a.Admits (bankShift index) ↔ a.Admits ((index : Int) - 1)) ∧
      (a.Admits ((index : Int) - 1) → bankShift index = (index : Int) - 1) := by
  rcases bankShift_cases word with ⟨below, shift⟩ | ⟨above, shift⟩
  · rw [shift]
    exact ⟨Iff.rfl, fun _ => rfl⟩
  · -- the distance leads above all addresses and the shift below them
    have limit := lastLimit_le a.family
    unfold Address.Admits
    rw [shift]
    omega

/-! ## Claims -/

/-- A declared address is claimed for an interface as it is claimed alone. -/
theorem claim_eq_map (asks : c.Asks literal via) (bank : Option Nat) (s : Allocation) :
    c.claim bank s = (claimDeclaredAddress bank (some literal) s).map fun r => (via r.1, r.2) := by
  cases asks with
  | tcp => rfl
  | coap => rfl

/-- A member claims the shifted address. -/
theorem claim_of_shift?_eq_some (asks : c.Asks literal via) (read : Address.read? literal = some a)
    (shifted : a.shift? (bankShift index) = some b) :
    c.claim (some index) s = (s.claimAddress b).map (via b, ·) := by
  rw [claim_eq_map asks, claimDeclaredAddress_of_shift?_eq_some read shifted]
  cases s.claimAddress b with
  | error fault => rfl
  | ok t => rfl

/-- A member is refused an address that is not shifted. -/
theorem claim_of_shift?_eq_none (asks : c.Asks literal via) (read : Address.read? literal = some a)
    (unshifted : a.shift? (bankShift index) = none) :
    c.claim (some index) s = .error (.addressOverflow a (bankShift index)) := by
  rw [claim_eq_map asks, claimDeclaredAddress_of_shift?_eq_none read unshifted]
  rfl

/-- What a member is bound to is a shifted address. -/
theorem exists_shift?_of_claim {binding : Binding} {t : Allocation} (asks : c.Asks literal via)
    (read : Address.read? literal = some a) (h : c.claim (some index) s = .ok (binding, t)) :
    ∃ b, a.shift? (bankShift index) = some b ∧ binding = via b := by
  cases shifted : a.shift? (bankShift index) with
  | none =>
      rw [claim_of_shift?_eq_none asks read shifted] at h
      cases h
  | some b =>
      rw [claim_of_shift?_eq_some asks read shifted] at h
      obtain ⟨_, -, h⟩ := map_eq_ok_iff.mp h
      cases h
      exact ⟨b, rfl, rfl⟩

/-- An interface is bound to one address. -/
theorem Carrier.Asks.injective (asks : c.Asks literal via) : Function.Injective via := by
  intro b b' h
  cases asks with
  | tcp => exact Binding.tcp.inj h
  | coap => exact Binding.coap.inj h

/-- Within its reach, a bank obeys the law. -/
theorem memberLaw_claim (asks : c.Asks literal via) (read : Address.read? literal = some a)
    (within : index + a.last ≤ 2 ^ 64) (word : index < 2 ^ 64) (s : Allocation) :
    MemberLaw a via index s (c.claim (some index) s) := by
  obtain ⟨alike, same⟩ := admits_bankShift_iff within word
  by_cases admits : a.Admits ((index : Int) - 1)
  · cases shifted : a.shift? (bankShift index) with
    | none => exact absurd (alike.mpr admits) (shift?_eq_none_iff.mp shifted)
    | some b =>
        rw [claim_of_shift?_eq_some asks read shifted]
        rw [same admits] at shifted
        exact .moved admits (shift?_eq_some_iff.mp shifted).2
  · rw [claim_of_shift?_eq_none asks read (shift?_eq_none_iff.mpr (mt alike.mp admits)),
      bankShift_eq_bmod]
    exact .overflow admits

/-- Beyond its reach, a bank leads to addresses below the one that is declared. -/
theorem exists_apart_claim (asks : c.Asks literal via) (read : Address.read? literal = some a)
    (beyond : 2 ^ 64 < index + a.last) (word : index < 2 ^ 64) (s : Allocation) :
    ¬ a.Admits ((index : Int) - 1) ∧ ∃ b, a.Apart ((index : Int) - 1 - 2 ^ 64) b ∧
      c.claim (some index) s = (s.claimAddress b).map (via b, ·) := by
  have limit := lastLimit_le a.family
  have last := last_le a
  have shift : bankShift index = (index : Int) - 1 - 2 ^ 64 := bankShift_of_gt (by omega) word
  constructor
  · unfold Address.Admits
    omega
  · have admits : a.Admits (bankShift index) := by
      unfold Address.Admits
      omega
    cases shifted : a.shift? (bankShift index) with
    | none => exact absurd admits (shift?_eq_none_iff.mp shifted)
    | some b =>
        refine ⟨b, ?_, claim_of_shift?_eq_some asks read shifted⟩
        rw [← shift]
        exact (shift?_eq_some_iff.mp shifted).2

/-- **How far a bank reaches.** An interface that asks for an address gets it moved by one less than
the index of its federate, or is refused, as numbers without bounds would have it, for all indices
that do not exceed 2^64 when the last component of the address is added. The other indices should be
refused, but lead to addresses below the declared one. Members with different indices never get the
same address. -/
theorem claim_member_law (literal : String) (a : Address) (read : Address.read? literal = some a)
    (c : Carrier) (via : Address → Binding) (asks : c.Asks literal via) :
    (∀ index < 2 ^ 64, index + a.last ≤ 2 ^ 64 →
      ∀ s, MemberLaw a via index s (c.claim (some index) s)) ∧
    (∀ index < 2 ^ 64, 2 ^ 64 < index + a.last → ¬ a.Admits ((index : Int) - 1) ∧
      ∀ s, ∃ b, a.Apart ((index : Int) - 1 - 2 ^ 64) b ∧
        c.claim (some index) s = (s.claimAddress b).map (via b, ·)) ∧
    ∀ index < 2 ^ 64, ∀ index' < 2 ^ 64, index ≠ index' → ∀ s s' x x',
      c.claim (some index) s = .ok x → c.claim (some index') s' = .ok x' → x.1 ≠ x'.1 := by
  refine ⟨?_, ?_, ?_⟩
  · intro index word within s
    exact memberLaw_claim asks read within word s
  · intro index word beyond
    exact ⟨(exists_apart_claim asks read beyond word {}).1,
      fun s => (exists_apart_claim asks read beyond word s).2⟩
  · rintro index word index' word' differ s s' ⟨x, t⟩ ⟨x', t'⟩ h h' rfl
    obtain ⟨b, hb, rfl⟩ := exists_shift?_of_claim asks read h
    obtain ⟨b', hb', same⟩ := exists_shift?_of_claim asks read h'
    obtain rfl := asks.injective same
    apply differ
    apply eq_of_bankShift_eq word word'
    -- the last component tells the distance
    have last := Address.last_shift? hb
    have last' := Address.last_shift? hb'
    omega

/-- With the address `fd00::2`, the member with index 5 gets `fd00::6`, and the last one that there
can be `fd00::`. -/
theorem fd00_member_law : Address.read? "fd00::2" = some (.v6 0xFD00 0 0 0 0 0 0 2) ∧
    (Carrier.coap (some "fd00::2")).Asks "fd00::2" .coap ∧
    MemberLaw (.v6 0xFD00 0 0 0 0 0 0 2) .coap 5 {}
      ((Carrier.coap (some "fd00::2")).claim (some 5) {}) ∧
    (∃ b, (Address.v6 0xFD00 0 0 0 0 0 0 2).Apart (((2 ^ 64 - 1 : Nat) : Int) - 1 - 2 ^ 64) b ∧
      (Carrier.coap (some "fd00::2")).claim (some (2 ^ 64 - 1)) {} =
        (Allocation.claimAddress {} b).map (.coap b, ·)) ∧
    ((Carrier.coap (some "fd00::2")).claim (some 5) {}).toOption.map (·.1) =
      some (.coap (.v6 0xFD00 0 0 0 0 0 0 6)) ∧
    ((Carrier.coap (some "fd00::2")).claim (some (2 ^ 64 - 1)) {}).toOption.map (·.1) =
      some (.coap (.v6 0xFD00 0 0 0 0 0 0 0)) := by
  have read : Address.read? "fd00::2" = some (.v6 0xFD00 0 0 0 0 0 0 2) := by decide +kernel
  obtain ⟨within, beyond, -⟩ := claim_member_law "fd00::2" _ read _ _ .coap
  refine ⟨read, .coap, ?_, ?_, by decide +kernel, by decide +kernel⟩
  · exact within 5 (by decide) (by decide) {}
  · exact (beyond (2 ^ 64 - 1) (by decide) (by decide)).2 {}

/-- The member of a bank with the greatest index that a word can be should be refused, as its
distance from `10.0.0.5` is not admitted, but it gets `10.0.0.3`. -/
theorem overrun_moves_down : Address.read? "10.0.0.5" = some (.v4 10 0 0 5) ∧
    2 ^ 64 - 1 < 2 ^ 64 ∧ ¬ (Address.v4 10 0 0 5).Admits (((2 ^ 64 - 1 : Nat) : Int) - 1) ∧
    ((Carrier.tcp (some "10.0.0.5")).claim (some (2 ^ 64 - 1)) {}).toOption.map (·.1) =
      some (.tcp (.v4 10 0 0 3)) := by
  refine ⟨by decide +kernel, by decide, ?_, by decide +kernel⟩
  unfold Address.Admits
  decide

end ReactorNet
