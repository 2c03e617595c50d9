import ReactorNet.Federate.Basic
import ReactorNet.Proofs.Allocation

/-!
# `ReactorNet.Proofs.Interfaces` · what interfaces own

An interface owns the address or device that it is bound to, unless that is a loopback address.
Claiming the interfaces of federates grants exactly what they own (`grants_of_claimFederates`), so
no two of them own the same. Choosing a grandmaster changes neither the identity nor the interfaces
of a federate.

**Outlines.** The names and bindings of interfaces, without the endpoints that channels mint on
them, are all that decides which interface a link chooses; minting keeps them.
-/

namespace ReactorNet

/-! ## Outcomes of several steps -/

/-- Two steps succeed if the first does and the second does after it. -/
theorem bind_eq_ok_iff {ε α β : Type} {x : Except ε α} {f : α → Except ε β} {b : β} :
    x >>= f = .ok b ↔ ∃ a, x = .ok a ∧ f a = .ok b := by
  cases x with
  | error e =>
      constructor
      · intro h
        cases h
      · rintro ⟨a, h, -⟩
        cases h
  | ok a =>
      constructor
      · exact fun h => ⟨a, rfl, h⟩
      · rintro ⟨a', h, hf⟩
        cases h
        exact hf

/-- A step with a changed result succeeds if the step does. -/
theorem map_eq_ok_iff {ε α β : Type} {x : Except ε α} {f : α → β} {b : β} :
    x.map f = .ok b ↔ ∃ a, x = .ok a ∧ f a = b := by
  cases x <;> simp [Except.map]

/-- Two steps fail if the first does, or the second after it. -/
theorem bind_eq_error_iff {ε α β : Type} {x : Except ε α} {f : α → Except ε β} {e : ε} :
    x >>= f = .error e ↔ x = .error e ∨ ∃ a, x = .ok a ∧ f a = .error e := by
  cases x <;> simp [bind, Except.bind]

/-- A step with a changed result fails if the step does. -/
theorem map_eq_error_iff {ε α β : Type} {x : Except ε α} {f : α → β} {e : ε} :
    x.map f = .error e ↔ x = .error e := by
  cases x <;> simp [Except.map]

/-- Two steps have a value if the first has one and the second has one after it. -/
theorem toOption_bind {ε α β : Type} (x : Except ε α) (f : α → Except ε β) :
    (x >>= f).toOption = x.toOption.bind fun a => (f a).toOption := by
  cases x with
  | error e => rfl
  | ok a => rfl

/-- An outcome that is no fault is the value in it. -/
theorem eq_ok_get {ε α : Type} {x : Except ε α} (h : x.toOption.isSome = true) :
    x = .ok (x.toOption.get h) := by
  cases x with
  | error e => cases h
  | ok a => rfl

/-- The value in an outcome is the outcome. -/
theorem eq_ok_of_toOption {ε α : Type} {x : Except ε α} {a : α} (h : x.toOption = some a) :
    x = .ok a := by
  cases x with
  | error e => cases h
  | ok b =>
      cases h
      rfl

/-- An outcome that is no fault is a value. -/
theorem exists_eq_ok {ε α : Type} {x : Except ε α} (h : x.toOption.isSome = true) :
    ∃ a, x = .ok a :=
  ⟨_, eq_ok_get h⟩

/-! ## Claiming interfaces -/

/-- What a binding owns. -/
def Binding.resource? : Binding → Option Resource
  | tcp a => a.resource?
  | coap a => a.resource?
  | uart p => some (.device p.device)
  | custom _ => none

/-- What an interface owns. -/
def Interface.resource? (i : Interface) : Option Resource := i.binding.resource?

/-- What the interfaces of a federate own. -/
def Interfaces.resources (is : Interfaces) : List Resource := is.toList.filterMap (·.resource?)

variable {s t : Allocation} {bank : Option Nat}

/-- Claiming a declared address takes the address that is given, if it can be owned. -/
theorem grants_of_claimDeclaredAddress {declared : Option String} {a : Address}
    (h : claimDeclaredAddress bank declared s = .ok (a, t)) : s.Grants a.resource?.toList t := by
  cases declared with
  | none =>
      cases h
      exact Allocation.Grants.refl s
  | some literal =>
      -- whether the address is shifted makes no difference to what claiming it takes
      obtain ⟨b, -, h⟩ := bind_eq_ok_iff.mp h
      obtain ⟨u, claimed, h⟩ := map_eq_ok_iff.mp h
      cases h
      exact Allocation.grants_of_claimAddress claimed

/-- Claiming a declared device takes the device that is given. -/
theorem grants_of_claimDeclaredDevice {declared : Option Nat} {d : Nat}
    (h : claimDeclaredDevice declared s = .ok (d, t)) : s.Grants [.device d] t := by
  cases declared with
  | none => exact Allocation.grants_of_takeDevice h
  | some device =>
      obtain ⟨u, reserved, h⟩ := map_eq_ok_iff.mp h
      cases h
      exact Allocation.grants_of_reserveDevice reserved

/-- Claiming what a declared interface needs takes what its binding owns. -/
theorem grants_of_claim {c : Carrier} {b : Binding} (h : c.claim bank s = .ok (b, t)) :
    s.Grants b.resource?.toList t := by
  cases c with
  | tcp declared =>
      obtain ⟨⟨a, u⟩, claimed, h⟩ := map_eq_ok_iff.mp h
      cases h
      exact grants_of_claimDeclaredAddress claimed
  | coap declared =>
      obtain ⟨⟨a, u⟩, claimed, h⟩ := map_eq_ok_iff.mp h
      cases h
      exact grants_of_claimDeclaredAddress claimed
  | uart declared line =>
      obtain ⟨⟨d, u⟩, claimed, h⟩ := map_eq_ok_iff.mp h
      cases h
      exact grants_of_claimDeclaredDevice claimed
  | custom header symbol args =>
      cases h
      exact Allocation.Grants.refl s

section InTurn

variable {leave : Carrier → Allocation → Allocation} {d : InterfaceDecl} {ds : List InterfaceDecl}
  {earlier is : List Interface} {fault : InterfaceFault}

/-- A declared interface is claimed before others if its name is new and there is what it needs. -/
theorem claimInTurn_cons_eq_ok_iff :
    claimInTurn leave bank earlier (d :: ds) s = (.ok is, t) ↔
      (∀ i ∈ earlier, i.name ≠ d.nameAt earlier.length) ∧
        ∃ binding u, d.carrier.claim bank s = .ok (binding, u) ∧
          claimInTurn leave bank (⟨d.nameAt earlier.length, binding, []⟩ :: earlier) ds u =
            (.ok is, t) := by
  rw [claimInTurn]
  split
  · rename_i known
    obtain ⟨i, hi, same⟩ := List.any_eq_true.mp known
    constructor
    · rintro ⟨⟩
    · rintro ⟨new, -⟩
      exact absurd (beq_iff_eq.mp same) (new i hi)
  · rename_i new
    have distinct : ∀ i ∈ earlier, i.name ≠ d.nameAt earlier.length := by simpa using new
    rw [and_iff_right distinct]
    rcases d.carrier.claim bank s with cause | ⟨binding, u⟩
    · simp
    · simp

/-- Claiming interfaces one after the other breaks off at the first declaration if its name is known
or there is not what it needs, and else behind it. -/
theorem claimInTurn_cons_eq_error_iff :
    claimInTurn leave bank earlier (d :: ds) s = (.error fault, t) ↔
      ((∃ i ∈ earlier, i.name = d.nameAt earlier.length) ∧
        fault = .declaredTwice (d.nameAt earlier.length) ∧ t = s) ∨
      (∀ i ∈ earlier, i.name ≠ d.nameAt earlier.length) ∧
        (d.carrier.claim bank s = .error fault ∧ t = leave d.carrier s ∨
          ∃ binding u, d.carrier.claim bank s = .ok (binding, u) ∧
            claimInTurn leave bank (⟨d.nameAt earlier.length, binding, []⟩ :: earlier) ds u =
              (.error fault, t)) := by
  rw [claimInTurn]
  split
  · rename_i known
    have known : ∃ i ∈ earlier, i.name = d.nameAt earlier.length := by simpa using known
    have old : ¬ ∀ i ∈ earlier, i.name ≠ d.nameAt earlier.length := by simpa using known
    simp [known, old, eq_comm]
  · rename_i new
    have new : ∀ i ∈ earlier, i.name ≠ d.nameAt earlier.length := by simpa using new
    have unknown : ¬ ∃ i ∈ earlier, i.name = d.nameAt earlier.length := by simpa using new
    rw [and_iff_right new, or_iff_right fun h => unknown h.1]
    rcases d.carrier.claim bank s with cause | ⟨binding, u⟩
    · simp [eq_comm]
    · simp

end InTurn

/-- Claiming declared interfaces makes an interface of each. -/
theorem length_claimAll {decls : List InterfaceDecl} {earlier is : List Interface}
    (h : claimAll bank earlier decls s = (.ok is, t)) :
    is.length = earlier.length + decls.length := by
  induction decls generalizing earlier s with
  | nil =>
      cases h
      rw [List.length_reverse, List.length_nil, Nat.add_zero]
  | cons d decls ih =>
      obtain ⟨-, binding, u, -, rest⟩ := claimInTurn_cons_eq_ok_iff.mp h
      have := ih rest
      rw [List.length_cons] at this ⊢
      omega

/-- Claiming declared interfaces takes what they own. -/
theorem grants_of_claimAll {decls : List InterfaceDecl} {earlier is : List Interface}
    (h : claimAll bank earlier decls s = (.ok is, t)) :
    ∃ later, is = earlier.reverse ++ later ∧ s.Grants (later.filterMap (·.resource?)) t := by
  induction decls generalizing earlier s with
  | nil =>
      cases h
      exact ⟨[], by simp, Allocation.Grants.refl _⟩
  | cons d decls ih =>
      obtain ⟨-, binding, u, claimed, rest⟩ := claimInTurn_cons_eq_ok_iff.mp h
      obtain ⟨later, rfl, grants⟩ := ih rest
      refine ⟨⟨d.nameAt earlier.length, binding, []⟩ :: later, by simp, ?_⟩
      have both := (grants_of_claim claimed).trans grants
      have head : (⟨d.nameAt earlier.length, binding, []⟩ : Interface).resource? =
          binding.resource? := rfl
      rw [List.filterMap_cons, head]
      cases hr : binding.resource? with
      | none => simpa [hr] using both
      | some r => simpa [hr] using both

/-- The interfaces of a federate are claimed if all that are declared are. -/
theorem claim_eq_ok_iff {decls : List InterfaceDecl} {is : Interfaces} :
    Interfaces.claim decls bank s = (.ok is, t) ↔
      ∃ list, claimAll bank [] decls s = (.ok list, t) ∧ is = .ofList list := by
  unfold Interfaces.claim
  rcases claimAll bank [] decls s with ⟨fault | list, u⟩
  · simp
  · simp only [Prod.mk.injEq, Except.ok.injEq]
    constructor
    · rintro ⟨rfl, rfl⟩
      exact ⟨list, ⟨rfl, rfl⟩, rfl⟩
    · rintro ⟨list', ⟨rfl, rfl⟩, rfl⟩
      exact ⟨rfl, rfl⟩

/-- They are not if one of them is not. -/
theorem claim_eq_error_iff {decls : List InterfaceDecl} {fault : InterfaceFault} :
    Interfaces.claim decls bank s = (.error fault, t) ↔
      claimAll bank [] decls s = (.error fault, t) := by
  unfold Interfaces.claim
  rcases claimAll bank [] decls s with ⟨cause | list, u⟩
  · simp
  · simp

/-- Claiming the interfaces of a federate takes what they own. -/
theorem grants_of_claimInterfaces {decls : List InterfaceDecl} {is : Interfaces}
    (h : Interfaces.claim decls bank s = (.ok is, t)) : s.Grants is.resources t := by
  obtain ⟨list, claimed, rfl⟩ := claim_eq_ok_iff.mp h
  obtain ⟨later, hl, grants⟩ := grants_of_claimAll claimed
  rw [List.reverse_nil, List.nil_append] at hl
  subst hl
  cases list with
  | nil => exact grants
  | cons i later => exact grants

section Federates

variable {member : FederateKey × Instance} {members : List (FederateKey × Instance)}
  {fs : List Federate} {key : FederateKey} {fault : InterfaceFault}

/-- A federate has its interfaces claimed before those of others are. -/
theorem claimFederates_cons_eq_ok_iff :
    claimFederates (member :: members) s = .ok (fs, t) ↔ ∃ is u rest,
      Interfaces.claim member.2.interfaces member.1.bankIndex s = (.ok is, u) ∧
        claimFederates members u = .ok (rest, t) ∧
        fs = ⟨member.1, is, member.2.clockSync.getD {}, member.2.joiningPolicy⟩ :: rest := by
  rw [claimFederates]
  rcases Interfaces.claim member.2.interfaces member.1.bankIndex s with ⟨cause | is, u⟩
  · simp
  · simp only [bind_eq_ok_iff]
    constructor
    · rintro ⟨⟨rest, v⟩, later, h⟩
      cases h
      exact ⟨is, u, rest, rfl, later, rfl⟩
    · rintro ⟨is', u', rest, same, later, rfl⟩
      cases same
      exact ⟨⟨rest, t⟩, later, rfl⟩

/-- Claiming the interfaces of federates fails at the first federate, or behind it. -/
theorem claimFederates_cons_eq_error_iff :
    claimFederates (member :: members) s = .error (key, fault) ↔
      (key = member.1 ∧
        ∃ u, Interfaces.claim member.2.interfaces member.1.bankIndex s = (.error fault, u)) ∨
      ∃ is u, Interfaces.claim member.2.interfaces member.1.bankIndex s = (.ok is, u) ∧
        claimFederates members u = .error (key, fault) := by
  rw [claimFederates]
  rcases Interfaces.claim member.2.interfaces member.1.bankIndex s with ⟨cause | is, u⟩
  · simp [eq_comm]
  · simp only [bind_eq_error_iff]
    simp [pure, Except.pure]

/-- Claiming the interfaces of federates takes what they own. -/
theorem grants_of_claimFederates (h : claimFederates members s = .ok (fs, t)) :
    s.Grants (fs.flatMap fun f => f.interfaces.resources) t := by
  induction members generalizing s fs with
  | nil =>
      cases h
      exact Allocation.Grants.refl _
  | cons member members ih =>
      obtain ⟨is, u, rest, claimed, later, rfl⟩ := claimFederates_cons_eq_ok_iff.mp h
      rw [List.flatMap_cons]
      exact (grants_of_claimInterfaces claimed).trans (ih later)

end Federates

/-! ## The grandmaster -/

/-- The identity of a federate and its interfaces. -/
def Federate.station (f : Federate) : FederateKey × Interfaces := (f.key, f.interfaces)

/-- Clearing marks keeps every federate what it is. -/
theorem map_station_keepFirstMark (fs : List Federate) :
    (keepFirstMark fs).map (·.station) = fs.map (·.station) := by
  induction fs with
  | nil => rfl
  | cons f fs ih =>
      rw [keepFirstMark]
      split
      · simp [Federate.station, Federate.mark]
      · rw [List.map_cons, List.map_cons, ih]

/-- Choosing the grandmaster keeps every federate what it is. -/
theorem map_station_chooseGrandmaster (fs : List Federate) :
    (chooseGrandmaster fs).map (·.station) = fs.map (·.station) := by
  unfold chooseGrandmaster
  split
  · exact map_station_keepFirstMark fs
  · split
    · cases fs with
      | nil => rfl
      | cons f fs => rfl
    · rfl

/-! ## Outlines -/

namespace Interfaces

variable {is js : Interfaces} {name : String} {i : Interface}

/-- The names and bindings of the interfaces. -/
def outline (is : Interfaces) : List (String × Binding) := is.toList.map fun i => (i.name, i.binding)

/-- The name and the binding of the interface that a link chooses. -/
def choice (is : Interfaces) (asked : Option String) : Except InterfaceFault (String × Binding) :=
  (is.resolve asked).map fun i => (i.name, i.binding)

/-- Putting an endpoint on an interface keeps names and bindings. -/
theorem map_mintOn (name : String) (e : Endpoint) (is : List Interface) :
    (mintOn name e is).map (fun i => (i.name, i.binding)) = is.map fun i => (i.name, i.binding) := by
  induction is with
  | nil => rfl
  | cons i is ih =>
      rw [mintOn]
      split
      · rfl
      · rw [List.map_cons, List.map_cons, ih]

/-- A list of interfaces that is not empty is kept. -/
theorem toList_ofList {l : List Interface} (h : l ≠ []) : (ofList l).toList = l := by
  cases l with
  | nil => exact absurd rfl h
  | cons i l => rfl

/-- Minting keeps the outline. -/
theorem outline_mint (is : Interfaces) (name : String) (e : Endpoint) :
    (is.mint name e).outline = is.outline := by
  have nonempty : mintOn name e is.toList ≠ [] := by
    intro h
    have lengths := congrArg List.length (map_mintOn name e is.toList)
    rw [h] at lengths
    simp [toList] at lengths
  rw [outline, mint, toList_ofList nonempty, map_mintOn]
  rfl

/-- The interface that a link chooses, in terms of the outline. -/
theorem choice_eq (is : Interfaces) (asked : Option String) :
    is.choice asked =
      match asked with
      | none => .ok (is.first.name, is.first.binding)
      | some name =>
        match is.outline.find? fun x => x.1 == name with
        | some x => .ok x
        | none => .error (.unknownInterface name) := by
  cases asked with
  | none => rfl
  | some name =>
      have found : (is.outline.find? fun x => x.1 == name) =
          (is.find? name).map fun i => (i.name, i.binding) := by
        rw [outline, List.find?_map]
        rfl
      simp only [choice, resolve, found]
      cases is.find? name with
      | none => rfl
      | some i => rfl

/-- Interfaces with one outline are chosen alike. -/
theorem choice_congr (h : is.outline = js.outline) (asked : Option String) :
    is.choice asked = js.choice asked := by
  rw [choice_eq, choice_eq, h]
  cases asked with
  | none =>
      unfold outline toList at h
      rw [List.map_cons, List.map_cons] at h
      rw [(List.cons.inj h).1]
  | some name => rfl

/-- What the interfaces own, in terms of the outline. -/
theorem resources_eq (is : Interfaces) :
    is.resources = is.outline.filterMap fun x => x.2.resource? := by
  rw [outline, List.filterMap_map]
  rfl

end Interfaces

end ReactorNet
