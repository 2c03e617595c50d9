import ReactorNet.Interface.Session
import ReactorNet.Proofs.ChannelLaw
import ReactorNet.Proofs.InterfaceNames

/-!
# `ReactorNet.Proofs.Building` · what stays when an interface cannot be built

Interfaces are built in place, one declaration after the other, and nothing that was claimed is
given back. `interfaces_build_law` says what this leaves. If a declaration is refused, for its name,
its literal, its place in a bank or its claim, then the claims are those of the declarations before
it, as far as anyone can tell who asks afterwards. Otherwise there is an interface for every
declaration, and it is found by its name.

**Why the claims are not the same.** A search for a free device that finds none has moved on through
its range, so the claims that it leaves are only alike to those before
(`Carrier.alike_allocationAfter_of_error`). All other refusals leave them as they are.

**Why a name finds its interface.** A name is compared with those of all interfaces built so far, so
names are distinct after every step (`clear_claimAll`), and the first interface with a name is the
only one (`chooses_of_distinct`).
-/

namespace ReactorNet

variable {s t left : Allocation} {bank : Option Nat} {c : Carrier} {fault : InterfaceFault}
  {decls : List InterfaceDecl} {earlier is : List Interface} {declared : Option String}
  {asked : Option Nat}

/-! ## One declaration -/

/-- Allocations that are alike answer a session alike. -/
theorem Allocation.Alike.transcript_eq (h : s.Alike t) (ops : List Operation) :
    transcript Allocation.perform s ops = transcript Allocation.perform t ops := by
  obtain ⟨l, ht⟩ := t.exists_matches
  exact (session_follows (h.matches ht) ops).1.trans (session_follows ht ops).1.symm

/-- A declared address that cannot be claimed leaves the claims alike. -/
theorem alike_addressAfter_of_error (h : claimDeclaredAddress bank declared s = .error fault) :
    (addressAfter bank declared s).Alike s := by
  cases declared with
  | none => cases h
  | some literal =>
      unfold addressAfter
      rw [Option.map_some]
      rcases bind_eq_error_iff.mp h with unread | ⟨b, read, h⟩
      · rw [unread]
        exact fun r => rfl
      · rw [read]
        have refused : (s.perform (.claimAddress b)).1 = .refused fault := by
          simp only [Allocation.perform, map_eq_error_iff.mp h]
          rfl
        exact Allocation.alike_perform_of_refused refused

/-- The operation that claims a device is refused where the claim fails. -/
theorem refused_deviceOperation (h : claimDeclaredDevice asked s = .error fault) :
    (s.perform (deviceOperation asked)).1 = .refused fault := by
  cases asked with
  | some device =>
      simp only [deviceOperation, Allocation.perform, map_eq_error_iff.mp h]
      rfl
  | none =>
      have exhausted : s.takeDevice = .error fault := h
      simp only [deviceOperation, Allocation.perform, exhausted]
      rfl

/-- A declared interface whose needs cannot be claimed leaves the claims alike. -/
theorem Carrier.alike_allocationAfter_of_error (h : c.claim bank s = .error fault) :
    (c.allocationAfter bank s).Alike s := by
  cases c with
  | tcp declared => exact alike_addressAfter_of_error (map_eq_error_iff.mp h)
  | coap declared => exact alike_addressAfter_of_error (map_eq_error_iff.mp h)
  | uart asked line =>
      exact Allocation.alike_perform_of_refused (refused_deviceOperation (map_eq_error_iff.mp h))
  | custom header symbol args => cases h

/-! ## Many declarations -/

/-- What a refused declaration leaves has no influence on the outcome. -/
theorem fst_claimInTurn (leave leave' : Carrier → Allocation → Allocation) (bank : Option Nat)
    (earlier : List Interface) (decls : List InterfaceDecl) (s : Allocation) :
    (claimInTurn leave bank earlier decls s).1 = (claimInTurn leave' bank earlier decls s).1 := by
  induction decls generalizing earlier s with
  | nil => rfl
  | cons d ds ih =>
      rw [claimInTurn, claimInTurn]
      split
      · rfl
      · cases d.carrier.claim bank s with
        | error fault => rfl
        | ok r => exact ih _ _

/-- Interfaces that can be claimed are claimed whatever a refused declaration would leave. -/
theorem claimInTurn_of_ok {leave leave' : Carrier → Allocation → Allocation}
    (h : claimInTurn leave bank earlier decls s = (.ok is, t)) :
    claimInTurn leave' bank earlier decls s = (.ok is, t) := by
  induction decls generalizing earlier s with
  | nil => exact h
  | cons d ds ih =>
      obtain ⟨new, binding, u, claimed, rest⟩ := claimInTurn_cons_eq_ok_iff.mp h
      exact claimInTurn_cons_eq_ok_iff.mpr ⟨new, binding, u, claimed, ih rest⟩

/-- What is left by building interfaces in place is alike to what is left by claiming them. -/
theorem alike_buildAll (bank : Option Nat) (earlier : List Interface) (decls : List InterfaceDecl)
    (s : Allocation) : (buildAll bank earlier decls s).2.Alike (claimAll bank earlier decls s).2 := by
  unfold buildAll claimAll
  induction decls generalizing earlier s with
  | nil => exact fun r => rfl
  | cons d ds ih =>
      rw [claimInTurn, claimInTurn]
      split
      · exact fun r => rfl
      · cases claimed : d.carrier.claim bank s with
        | error fault => exact Carrier.alike_allocationAfter_of_error claimed
        | ok r => exact ih _ _

/-- **Where building breaks off.** If interfaces cannot be built, those before a certain declaration
can, and this declaration is the first that is refused; what is left are the claims of those before
it. -/
theorem buildAll_error (h : buildAll bank earlier decls s = (.error fault, left)) :
    ∃ before d after is t, decls = before ++ d :: after ∧
      buildAll bank earlier before s = (.ok is, t) ∧
      buildAll bank earlier (before ++ [d]) s = (.error fault, left) ∧ left.Alike t := by
  induction decls generalizing earlier s with
  | nil => cases h
  | cons d ds ih =>
      rcases claimInTurn_cons_eq_error_iff.mp h with
        ⟨known, rfl, rfl⟩ | ⟨new, ⟨refused, rfl⟩ | ⟨binding, u, claimed, rest⟩⟩
      · exact ⟨[], d, ds, earlier.reverse, left, rfl, rfl,
          claimInTurn_cons_eq_error_iff.mpr (.inl ⟨known, rfl, rfl⟩), fun r => rfl⟩
      · exact ⟨[], d, ds, earlier.reverse, s, rfl, rfl,
          claimInTurn_cons_eq_error_iff.mpr (.inr ⟨new, .inl ⟨refused, rfl⟩⟩),
          Carrier.alike_allocationAfter_of_error refused⟩
      · obtain ⟨before, d', after, is, t, rfl, built, broken, alike⟩ := ih rest
        exact ⟨d :: before, d', after, is, t, rfl,
          claimInTurn_cons_eq_ok_iff.mpr ⟨new, binding, u, claimed, built⟩,
          claimInTurn_cons_eq_error_iff.mpr (.inr ⟨new, .inr ⟨binding, u, claimed, broken⟩⟩),
          alike⟩

/-- **One declaration among many.** Of interfaces that are claimed one after the other, those before
a declaration are claimed first, and what it needs is claimed then; the interface stands behind
them. -/
theorem claimAll_split {before after : List InterfaceDecl} {d : InterfaceDecl}
    (h : claimAll bank earlier (before ++ d :: after) s = (.ok is, t)) :
    ∃ js u binding v, claimAll bank earlier before s = (.ok js, u) ∧
      d.carrier.claim bank u = .ok (binding, v) ∧
      is[js.length]? = some ⟨d.nameAt js.length, binding, []⟩ := by
  induction before generalizing earlier s with
  | nil =>
      obtain ⟨-, binding, v, claimed, rest⟩ := claimInTurn_cons_eq_ok_iff.mp h
      obtain ⟨later, rfl, -⟩ := grants_of_claimAll rest
      refine ⟨earlier.reverse, s, binding, v, rfl, claimed, ?_⟩
      simp
  | cons c before ih =>
      obtain ⟨new, binding, u, claimed, rest⟩ := claimInTurn_cons_eq_ok_iff.mp h
      obtain ⟨js, v, binding', w, prefixed, there⟩ := ih rest
      exact ⟨js, v, binding', w, claimInTurn_cons_eq_ok_iff.mpr ⟨new, binding, u, claimed, prefixed⟩,
        there⟩

/-! ## The interfaces of a federate -/

/-- Interfaces that are built in place are those that are claimed, or there is the same fault. -/
theorem fst_build (decls : List InterfaceDecl) (bank : Option Nat) (s : Allocation) :
    (Interfaces.build decls bank s).1 = (Interfaces.claim decls bank s).1 := by
  have same : (buildAll bank [] decls s).1 = (claimAll bank [] decls s).1 :=
    fst_claimInTurn _ _ bank [] decls s
  unfold Interfaces.build Interfaces.claim
  dsimp only
  rw [same]
  rcases claimAll bank [] decls s with ⟨fault | is, u⟩
  · rfl
  · rfl

/-- The claims that are left are alike. -/
theorem alike_build (decls : List InterfaceDecl) (bank : Option Nat) (s : Allocation) :
    (Interfaces.build decls bank s).2.Alike (Interfaces.claim decls bank s).2 := by
  have same : (Interfaces.claim decls bank s).2 = (claimAll bank [] decls s).2 := by
    unfold Interfaces.claim
    rcases claimAll bank [] decls s with ⟨fault | is, u⟩ <;> rfl
  rw [same]
  exact alike_buildAll bank [] decls s

/-- Interfaces that can be claimed are built with the same claims, and no others are built. -/
theorem build_eq_ok_iff {is : Interfaces} :
    Interfaces.build decls bank s = (.ok is, t) ↔ Interfaces.claim decls bank s = (.ok is, t) := by
  rw [claim_eq_ok_iff]
  constructor
  · intro h
    obtain ⟨outcome, after⟩ := Prod.mk.inj h
    obtain ⟨list, built, rfl⟩ := map_eq_ok_iff.mp outcome
    have built : buildAll bank [] decls s = (.ok list, t) := Prod.ext built after
    exact ⟨list, claimInTurn_of_ok built, rfl⟩
  · rintro ⟨list, claimed, rfl⟩
    have built : buildAll bank [] decls s = (.ok list, t) := claimInTurn_of_ok claimed
    rw [Interfaces.build, built]
    rfl

/-- Interfaces are not built if one that is declared is not. -/
theorem build_eq_error_iff : Interfaces.build decls bank s = (.error fault, left) ↔
    buildAll bank [] decls s = (.error fault, left) := by
  rw [Interfaces.build, Prod.mk.injEq, map_eq_error_iff, Prod.ext_iff]

/-- How building interfaces breaks off at a position: the declarations before it are built, and this
one is refused. -/
structure BreaksOff (decls : List InterfaceDecl) (bank : Option Nat) (s : Allocation)
    (fault : InterfaceFault) (left : Allocation) (k : Nat) (is : Interfaces) (t : Allocation) :
    Prop where
  /-- There is a declaration at the position. -/
  inside : k < decls.length
  /-- Those before it are built. -/
  before : Interfaces.build (decls.take k) bank s = (.ok is, t)
  /-- With it, they are not. -/
  refused : Interfaces.build (decls.take (k + 1)) bank s = (.error fault, left)
  /-- No later session notices that it was tried. -/
  unnoticed : ∀ ops, transcript Allocation.perform left ops = transcript Allocation.perform t ops
  /-- What those before it own stays claimed, and nothing else was claimed. -/
  kept : ∀ r, left.holds r = true ↔ r ∈ is.resources ∨ s.holds r = true

/-- What the interfaces of a federate are after they were built. -/
structure Interfaces.Built (is : Interfaces) (decls : List InterfaceDecl) (bank : Option Nat)
    (s : Allocation) : Prop where
  /-- If none is declared, there is the one on loopback. -/
  loopback : decls = [] → is.toList = [.loopback]
  /-- Else there are as many as are declared. -/
  length : decls ≠ [] → is.toList.length = decls.length
  /-- At the position of a declaration stands the interface that is built from it after those before
  it, with the name that it has there, and without endpoints. -/
  declared : ∀ k d, decls[k]? = some d → ∃ js u binding v,
    Interfaces.build (decls.take k) bank s = (.ok js, u) ∧ d.carrier.claim bank u = .ok (binding, v) ∧
      is.toList[k]? = some ⟨d.nameAt k, binding, []⟩
  /-- The names are distinct. -/
  distinct : (is.toList.map (·.name)).Nodup
  /-- An interface is found by its name, and what is put on the one of this name is put on it. -/
  found : ∀ k i, is.toList[k]? = some i →
    is.find? i.name = some i ∧ is.resolve (some i.name) = .ok i ∧
    ∀ e, (is.mint i.name e).toList = is.toList.set k (i.extend [e])
  /-- The first one is the default. -/
  default : is.toList[0]? = some is.first ∧ is.resolve none = .ok is.first

/-- Where names are distinct, the interface at a position is the one that its name chooses. -/
theorem chooses_of_distinct {is : Interfaces} {k : Nat} {i : Interface} (distinct : Distinct is.toList)
    (hk : is.toList[k]? = some i) : is.Chooses (some i.name) k i := by
  refine .named hk rfl fun l hl x hx same => ?_
  have names : (is.toList.map (·.name))[l]? = (is.toList.map (·.name))[k]? := by
    rw [List.getElem?_map, List.getElem?_map, hk, hx, Option.map_some, Option.map_some, same]
  obtain ⟨inside, -⟩ := List.getElem?_eq_some_iff.mp hx
  exact absurd ((List.getElem?_inj (by simpa using inside) distinct).mp names) (Nat.ne_of_lt hl)

/-- The interfaces that are built are as they are declared. -/
theorem built_of_claim {is : Interfaces} (h : Interfaces.claim decls bank s = (.ok is, t)) :
    is.Built decls bank s := by
  have distinct := (clear_claim h).distinct
  obtain ⟨list, claimed, rfl⟩ := claim_eq_ok_iff.mp h
  have length := length_claimAll claimed
  rw [List.length_nil, Nat.zero_add] at length
  refine ⟨?_, ?_, ?_, distinct, ?_, rfl, rfl⟩
  · rintro rfl
    rw [List.length_eq_zero_iff.mp length]
    rfl
  · intro some
    have nonempty : list ≠ [] := by
      rintro rfl
      exact some (List.length_eq_zero_iff.mp length.symm)
    rw [Interfaces.toList_ofList nonempty, length]
  · intro k d hk
    obtain ⟨inside, rfl⟩ := List.getElem?_eq_some_iff.mp hk
    have split : decls.take k ++ decls[k] :: decls.drop (k + 1) = decls := by
      rw [List.getElem_cons_drop, List.take_append_drop]
    rw [← split] at claimed
    obtain ⟨js, u, binding, v, before, needs, there⟩ := claimAll_split claimed
    have position := length_claimAll before
    rw [List.length_nil, Nat.zero_add, List.length_take_of_le (Nat.le_of_lt inside)] at position
    rw [position] at there
    have first := build_eq_ok_iff.mpr (claim_eq_ok_iff.mpr ⟨js, before, rfl⟩)
    refine ⟨_, u, binding, v, first, needs, ?_⟩
    rwa [Interfaces.toList_ofList (List.ne_nil_of_mem (List.mem_of_getElem? there))]
  · intro k i hk
    have chosen := chooses_of_distinct distinct hk
    have resolved := resolve_eq_ok_iff_chooses.mpr ⟨k, chosen⟩
    refine ⟨?_, resolved, chosen.toList_mint⟩
    unfold Interfaces.resolve at resolved
    dsimp only at resolved
    split at resolved
    · rename_i found
      cases resolved
      exact found
    · cases resolved

/-- **What stays when an interface cannot be built.** Building the interfaces of a federate leads to
what claiming them does, and no later session tells the one from the other. If a declaration is
refused, for whatever reason, what those before it own stays claimed, and nobody notices that it was
tried. Otherwise the interfaces are as they are declared, and are found by their names. -/
theorem interfaces_build_law (decls : List InterfaceDecl) (bank : Option Nat) (s : Allocation) :
    (Interfaces.build decls bank s).1 = (Interfaces.claim decls bank s).1 ∧
      (∀ ops, transcript Allocation.perform (Interfaces.build decls bank s).2 ops =
        transcript Allocation.perform (Interfaces.claim decls bank s).2 ops) ∧
      match Interfaces.build decls bank s with
      | (.error fault, left) => ∃ k is t, BreaksOff decls bank s fault left k is t
      | (.ok is, t) => Interfaces.claim decls bank s = (.ok is, t) ∧ is.Built decls bank s := by
  refine ⟨fst_build decls bank s, (alike_build decls bank s).transcript_eq, ?_⟩
  split
  · rename_i fault left broken
    obtain ⟨before, d, after, list, t, rfl, built, refused, alike⟩ :=
      buildAll_error (build_eq_error_iff.mp broken)
    have first : Interfaces.build before bank s = (.ok (.ofList list), t) := by
      rw [Interfaces.build, built]
      rfl
    have grants := grants_of_claimInterfaces (build_eq_ok_iff.mp first)
    refine ⟨before.length, .ofList list, t, ?_, ?_, ?_, alike.transcript_eq, fun r => ?_⟩
    · simp
    · rw [List.take_left]
      exact first
    · rw [List.take_append, List.take_of_length_le (Nat.le_succ _), Nat.add_sub_cancel_left]
      exact build_eq_error_iff.mpr refused
    · rw [alike r]
      exact grants.holds_iff r
  · rename_i is t built
    have claimed := build_eq_ok_iff.mp built
    exact ⟨claimed, built_of_claim claimed⟩

/-- An address, a serial line for which any device will do, and an interface on loopback. -/
def lineBetween : List InterfaceDecl :=
  [⟨none, .tcp (some "10.0.0.1")⟩, ⟨some "line", .uart none {}⟩, ⟨none, .tcp none⟩]

/-- Where every device is claimed, building breaks off at the line. The address before it stays
claimed. -/
theorem lineBetween_build : ∃ left k is t,
    Interfaces.build lineBetween none (stateAfter Allocation.perform {} everyDevice) =
        (.error .noDeviceLeft, left) ∧
      BreaksOff lineBetween none (stateAfter Allocation.perform {} everyDevice) .noDeviceLeft left k
        is t ∧
      transcript Allocation.perform left [.hasAddress (.v4 10 0 0 1), .takeDevice, .isDeviceUsed 7] =
        [(.hasAddress (.v4 10 0 0 1), .claimed true), (.takeDevice, .refused .noDeviceLeft),
          (.isDeviceUsed 7, .claimed true)] := by
  have outcome : (Interfaces.build lineBetween none (stateAfter Allocation.perform {} everyDevice)).1 =
      .error .noDeviceLeft := by decide +kernel
  have broken : Interfaces.build lineBetween none (stateAfter Allocation.perform {} everyDevice) =
      (.error .noDeviceLeft, _) := Prod.ext outcome rfl
  have law := (interfaces_build_law lineBetween none (stateAfter Allocation.perform {} everyDevice)).2.2
  rw [broken] at law
  obtain ⟨k, is, t, breaks⟩ := law
  exact ⟨_, k, is, t, broken, breaks, by decide +kernel⟩

end ReactorNet
