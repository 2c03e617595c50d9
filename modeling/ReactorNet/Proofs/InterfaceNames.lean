import Mathlib.Data.List.NodupEquivFin
import ReactorNet.Proofs.Endpoints
import ReactorNet.Proofs.EnlistmentLaw
import ReactorNet.Proofs.Faults
import ReactorNet.Proofs.Naming

/-!
# `ReactorNet.Proofs.InterfaceNames` · what the interfaces of an instance are called

The checks of a program compare the names that interfaces are given. An interface that is given none
is called by its protocol and position, and such a name can be that of another interface, which is
given it. `interface_names_law` says that this is the only way in which names clash once a program
has passed its checks, and that a name is refused as declared twice for no other reason.

**Why default names do not clash.** They are read like the names of bank members: the position
stands behind the last underscore, so interfaces at different positions have different default
names.
-/

namespace ReactorNet

variable {p : Program} {inst : Instance} {name : String} {bank : Option Nat} {s t : Allocation}
  {c : Carrier} {fault : InterfaceFault} {j k : Nat}

/-! ## Names -/

/-- The names of the interfaces of an instance, those that are given and those that are not. -/
def Instance.interfaceNames (inst : Instance) : List String :=
  inst.declarations.zipIdx.map fun d => d.1.nameAt d.2

/-- Whether a name is given to an interface, while another one, which is given none, has it by its
protocol and position. -/
def Instance.Impersonated (inst : Instance) (name : String) : Prop :=
  ∃ (j k : Nat) (d d' : InterfaceDecl), inst.declarations[j]? = some d ∧
    inst.declarations[k]? = some d' ∧ d.name = some name ∧ d'.name = none ∧
      name = d'.carrier.protocol.tag ++ "_" ++ toString k

/-- The fault of an interface that is behind a fault, if there is one. -/
def ResolutionFault.cause? : ResolutionFault → Option InterfaceFault
  | .federate _ cause => some cause
  | .bundle _ _ cause => some cause
  | _ => none

/-- An interface that is given a name is called by it. -/
theorem nameAt_of_given {d : InterfaceDecl} (given : d.name = some name) (k : Nat) :
    d.nameAt k = name := by
  rw [InterfaceDecl.nameAt, given]

/-- An interface that is given none is called by its protocol and position. -/
theorem nameAt_of_ungiven {d : InterfaceDecl} (ungiven : d.name = none) (k : Nat) :
    d.nameAt k = d.carrier.protocol.tag ++ "_" ++ toString k := by
  rw [InterfaceDecl.nameAt, ungiven]

/-- The names stand at the positions of the interfaces. -/
theorem getElem?_interfaceNames : inst.interfaceNames[k]? = some name ↔
    ∃ d, inst.declarations[k]? = some d ∧ d.nameAt k = name := by
  unfold Instance.interfaceNames
  rw [List.getElem?_map, List.getElem?_zipIdx, Option.map_map, Option.map_eq_some_iff, Nat.zero_add]
  rfl

/-- A name occurs twice if it stands at different positions. -/
theorem duplicate_interfaceNames_iff : List.Duplicate name inst.interfaceNames ↔
    ∃ j k : Nat, j ≠ k ∧ inst.interfaceNames[j]? = some name ∧
      inst.interfaceNames[k]? = some name := by
  rw [List.duplicate_iff_exists_distinct_get]
  constructor
  · rintro ⟨j, k, before, hj, hk⟩
    refine ⟨j, k, Nat.ne_of_lt before, ?_, ?_⟩
    · rw [hj]
      exact List.getElem?_eq_getElem j.isLt
    · rw [hk]
      exact List.getElem?_eq_getElem k.isLt
  · rintro ⟨j, k, different, hj, hk⟩
    obtain ⟨inside, hj⟩ := List.getElem?_eq_some_iff.mp hj
    obtain ⟨inside', hk⟩ := List.getElem?_eq_some_iff.mp hk
    rcases Nat.lt_or_gt_of_ne different with before | behind
    · exact ⟨⟨j, inside⟩, ⟨k, inside'⟩, before, hj.symm, hk.symm⟩
    · exact ⟨⟨k, inside'⟩, ⟨j, inside⟩, behind, hk.symm, hj.symm⟩

/-- In a sound instance, no two interfaces are given one name. -/
theorem Instance.Sound.position_unique (sound : inst.Sound) {d d' : InterfaceDecl}
    (hj : inst.declarations[j]? = some d) (hk : inst.declarations[k]? = some d')
    (given : d.name = some name) (given' : d'.name = some name) : j = k := by
  have given_declarations : inst.declarations.filterMap (·.name) =
      inst.interfaces.filterMap (·.name) := by
    unfold Instance.declarations
    cases inst.interfaces with
    | nil => rfl
    | cons d ds => rfl
  have distinct := sound.interfacesDistinct
  rw [← given_declarations] at distinct
  unfold List.Nodup at distinct
  rw [List.pairwise_filterMap, List.pairwise_iff_getElem] at distinct
  obtain ⟨inside, rfl⟩ := List.getElem?_eq_some_iff.mp hj
  obtain ⟨inside', rfl⟩ := List.getElem?_eq_some_iff.mp hk
  by_contra different
  rcases Nat.lt_or_gt_of_ne different with before | behind
  · exact distinct j k inside inside' before name given name given' rfl
  · exact distinct k j inside' inside behind name given' name given rfl

/-- In a sound instance, a name occurs twice if and only if an interface is given the default name
of another one. -/
theorem duplicate_iff_impersonated (sound : inst.Sound) :
    List.Duplicate name inst.interfaceNames ↔ inst.Impersonated name := by
  rw [duplicate_interfaceNames_iff]
  constructor
  · rintro ⟨j, k, different, named, named'⟩
    obtain ⟨d, hj, rfl⟩ := getElem?_interfaceNames.mp named
    obtain ⟨d', hk, same⟩ := getElem?_interfaceNames.mp named'
    cases given : d.name with
    | none =>
        cases given' : d'.name with
        | none =>
            -- the position can be read off a default name
            rw [nameAt_of_ungiven given, nameAt_of_ungiven given'] at same
            exact absurd (append_index_inj same).2.symm different
        | some name =>
            rw [nameAt_of_given given'] at same
            exact ⟨k, j, d', d, hk, hj, by rw [given', same], given, nameAt_of_ungiven given j⟩
    | some name =>
        rw [nameAt_of_given given] at same ⊢
        cases given' : d'.name with
        | none =>
            rw [nameAt_of_ungiven given'] at same
            exact ⟨j, k, d, d', hj, hk, given, given', same.symm⟩
        | some name' =>
            rw [nameAt_of_given given'] at same
            rw [same] at given'
            exact absurd (sound.position_unique hj hk given given') different
  · rintro ⟨j, k, d, d', hj, hk, given, ungiven, default⟩
    refine ⟨j, k, ?_, ?_, ?_⟩
    · rintro rfl
      obtain rfl := Option.some.inj (hj.symm.trans hk)
      rw [given] at ungiven
      cases ungiven
    · exact getElem?_interfaceNames.mpr ⟨d, hj, nameAt_of_given given j⟩
    · exact getElem?_interfaceNames.mpr ⟨d', hk, (nameAt_of_ungiven ungiven k).trans default.symm⟩

/-- In a sound instance, the names are distinct if and only if no interface is given the default
name of another one. -/
theorem nodup_interfaceNames_iff (sound : inst.Sound) :
    inst.interfaceNames.Nodup ↔ ∀ name, ¬ inst.Impersonated name := by
  simp only [List.nodup_iff_forall_not_duplicate, duplicate_iff_impersonated sound]

/-! ## Claiming the interfaces of an instance -/

/-- Whether a fault can arise where an interface is bound. -/
inductive InterfaceFault.OfBinding : InterfaceFault → Prop where
  /-- The literal is no address. -/
  | malformedAddress (literal : String) : OfBinding (.malformedAddress literal)
  /-- A member of a bank has no address of its own. -/
  | addressOverflow (a : Address) (offset : Int) : OfBinding (.addressOverflow a offset)
  /-- The address is claimed. -/
  | duplicateAddress (a : Address) : OfBinding (.duplicateAddress a)
  /-- There is no such device. -/
  | deviceOutOfRange (device : Nat) : OfBinding (.deviceOutOfRange device)
  /-- The device is claimed. -/
  | deviceInUse (device : Nat) : OfBinding (.deviceInUse device)
  /-- All devices are claimed. -/
  | noDeviceLeft : OfBinding .noDeviceLeft

/-- Claiming an address fails because it is claimed. -/
theorem ofBinding_of_claimAddress {a : Address} (h : s.claimAddress a = .error fault) :
    fault.OfBinding := by
  rcases s.claimAddress_cases a with ⟨-, -, refused⟩ | ⟨-, t, ok⟩
  · rw [refused] at h
    cases h
    exact .duplicateAddress a
  · rw [ok] at h
    cases h

/-- A literal stands for no address because it is none, or because it cannot be shifted. -/
theorem ofBinding_of_memberAddress {literal : String}
    (h : memberAddress bank literal = .error fault) : fault.OfBinding := by
  rcases bind_eq_error_iff.mp h with unread | ⟨a, -, h⟩
  · unfold Address.read at unread
    split at unread
    · cases unread
    · cases unread
      exact .malformedAddress literal
  · cases bank with
    | none => cases h
    | some index =>
        dsimp only at h
        unfold Address.shift at h
        split at h
        · cases h
        · cases h
          exact .addressOverflow a _

/-- Claiming a declared address fails because of the address. -/
theorem ofBinding_of_claimDeclaredAddress {asked : Option String}
    (h : claimDeclaredAddress bank asked s = .error fault) : fault.OfBinding := by
  cases asked with
  | none => cases h
  | some literal =>
      rcases bind_eq_error_iff.mp h with unread | ⟨a, -, refused⟩
      · exact ofBinding_of_memberAddress unread
      · exact ofBinding_of_claimAddress (map_eq_error_iff.mp refused)

/-- Claiming a declared device fails because of the device. -/
theorem ofBinding_of_claimDeclaredDevice {asked : Option Nat}
    (h : claimDeclaredDevice asked s = .error fault) : fault.OfBinding := by
  cases asked with
  | none =>
      unfold claimDeclaredDevice Allocation.takeDevice at h
      dsimp only at h
      split at h
      · cases h
      · cases h
        exact .noDeviceLeft
  | some device =>
      rcases s.reserveDevice_cases device with ⟨-, refused⟩ | ⟨-, -, refused⟩ | ⟨-, -, t, ok⟩
      · rw [claimDeclaredDevice, refused] at h
        cases h
        exact .deviceOutOfRange device
      · rw [claimDeclaredDevice, refused] at h
        cases h
        exact .deviceInUse device
      · rw [claimDeclaredDevice, ok] at h
        cases h

/-- Claiming what an interface needs fails because of what it is bound to. -/
theorem ofBinding_of_claim (h : c.claim bank s = .error fault) : fault.OfBinding := by
  cases c with
  | tcp asked => exact ofBinding_of_claimDeclaredAddress (map_eq_error_iff.mp h)
  | coap asked => exact ofBinding_of_claimDeclaredAddress (map_eq_error_iff.mp h)
  | uart asked line => exact ofBinding_of_claimDeclaredDevice (map_eq_error_iff.mp h)
  | custom header symbol args => cases h

/-- The names of interfaces that follow others, the latest of which stands first. -/
def namesBehind (earlier : List Interface) (decls : List InterfaceDecl) : List String :=
  earlier.reverse.map (·.name) ++ (decls.zipIdx earlier.length).map fun d => d.1.nameAt d.2

/-- Claiming an interface does not change the names, so they are the same all along the loop. -/
theorem namesBehind_cons (earlier : List Interface) (d : InterfaceDecl) (decls : List InterfaceDecl)
    (binding : Binding) : namesBehind (⟨d.nameAt earlier.length, binding, []⟩ :: earlier) decls =
      namesBehind earlier (d :: decls) := by
  unfold namesBehind
  simp

/-- Interfaces that are claimed one after the other have their names. -/
theorem names_claimAll {earlier is : List Interface} {decls : List InterfaceDecl}
    (h : claimAll bank earlier decls s = (.ok is, t)) :
    is.map (·.name) = namesBehind earlier decls := by
  induction decls generalizing earlier s with
  | nil =>
      cases h
      exact (List.append_nil _).symm
  | cons d decls ih =>
      obtain ⟨-, binding, u, -, rest⟩ := claimInTurn_cons_eq_ok_iff.mp h
      rw [ih rest, namesBehind_cons]

/-- A name that is refused as declared twice occurs twice. -/
theorem duplicate_of_claimAll {earlier : List Interface} {decls : List InterfaceDecl}
    (h : claimAll bank earlier decls s = (.error (.declaredTwice name), t)) :
    List.Duplicate name (namesBehind earlier decls) := by
  induction decls generalizing earlier s with
  | nil => cases h
  | cons d decls ih =>
      rcases claimInTurn_cons_eq_error_iff.mp h with
        ⟨known, same, -⟩ | ⟨-, ⟨refused, -⟩ | ⟨binding, u, -, rest⟩⟩
      · cases same
        have there : d.nameAt earlier.length ∈ earlier.reverse.map (·.name) := by
          simpa using known
        have again : d.nameAt earlier.length ∈
            ((d :: decls).zipIdx earlier.length).map fun d => d.1.nameAt d.2 := List.mem_cons_self
        rw [List.duplicate_iff_sublist]
        exact (List.singleton_sublist.mpr there).append (List.singleton_sublist.mpr again)
      · cases ofBinding_of_claim refused
      · rw [← namesBehind_cons]
        exact ih rest

/-- The interfaces that an instance gets have its names, which are distinct. -/
theorem names_claim {is : Interfaces} (h : Interfaces.claim inst.interfaces bank s = (.ok is, t)) :
    is.toList.map (·.name) = inst.interfaceNames ∧ inst.interfaceNames.Nodup := by
  have names : is.toList.map (·.name) = inst.interfaceNames :=
    names_claimAll (claimAll_declarations h)
  have distinct := (clear_claim h).distinct
  rw [Distinct, names] at distinct
  exact ⟨names, distinct⟩

/-- A name that is refused as declared twice occurs twice among those of the instance. -/
theorem duplicate_of_claim
    (h : Interfaces.claim inst.interfaces bank s = (.error (.declaredTwice name), t)) :
    List.Duplicate name inst.interfaceNames := by
  rw [← claim_declarations] at h
  exact duplicate_of_claimAll (claim_eq_error_iff.mp h)

/-! ## Programs -/

/-- The interfaces of a federate are those of an instance. -/
theorem mem_members {key : FederateKey} (h : (key, inst) ∈ p.members) :
    inst ∈ p.instances ∧ ∃ bank ∈ inst.members, key = ⟨inst.name, bank⟩ := by
  obtain ⟨inst, declared, h⟩ := List.mem_flatMap.mp h
  obtain ⟨bank, member, h⟩ := List.mem_map.mp h
  cases h
  exact ⟨declared, bank, member, rfl⟩

/-- A resolution that fails because of an interface, but not because of a channel, fails at a
federate. -/
theorem exists_claim_of_resolve {fault : ResolutionFault} {cause : InterfaceFault}
    (valid : p.validate = .ok ()) (h : Federation.resolve p = .error fault)
    (behind : fault.cause? = some cause) (other : ¬ cause.OfChannel) :
    ∃ key inst, (key, inst) ∈ p.members ∧ fault = .federate key.text cause ∧
      ∃ u v, Interfaces.claim inst.interfaces key.bankIndex u = (.error cause, v) := by
  cases enlisted : Federation.enlist p with
  | error fault' =>
      rw [resolve_of_enlist_error valid enlisted] at h
      cases h
      obtain ⟨key, inst, cause', -, mem, rfl, claimed⟩ := exists_claim_of_enlist enlisted
      cases behind
      exact ⟨key, inst, mem, rfl, claimed⟩
  | ok n =>
      rw [resolve_of_enlist valid enlisted] at h
      cases grouped : groupConnections p p.owners with
      | error fault' =>
          rw [grouped] at h
          cases h
          obtain ⟨i, s, -, failed⟩ := exists_fault_of_groupConnections valid grouped
          -- a statement fails for no interface
          cases failed with
          | unpaired => cases behind
          | widthMismatch => cases behind
      | ok groups =>
          rw [grouped] at h
          dsimp only at h
          split at h
          · cases h
          · rename_i laid
            cases h
            obtain ⟨source, -, destination, -, -, cause', ofChannel, rfl⟩ :=
              exists_fault_of_layBundles valid enlisted grouped laid
            cases behind
            exact absurd ofChannel other

/-- **Names of interfaces clash in one way only.** In a program that passes its checks, the names of
the interfaces of an instance are distinct if and only if none of them is given the default name of
another one. Those that are claimed have these names, for whichever member and whatever else is
claimed, and a name that is refused as declared twice is such a default name. So it is where a
topology is refused for this reason, which happens at a federate of the instance. -/
theorem interface_names_law (p : Program) (valid : p.validate = .ok ()) :
    (∀ inst ∈ p.instances,
      (inst.interfaceNames.Nodup ↔ ∀ name, ¬ inst.Impersonated name) ∧
      ∀ bank s,
        (∀ is t, Interfaces.claim inst.interfaces bank s = (.ok is, t) →
          is.toList.map (·.name) = inst.interfaceNames ∧ inst.interfaceNames.Nodup) ∧
        ∀ name t, Interfaces.claim inst.interfaces bank s = (.error (.declaredTwice name), t) →
          inst.Impersonated name) ∧
    ∀ fault name, Federation.resolve p = .error fault → fault.cause? = some (.declaredTwice name) →
      ∃ inst ∈ p.instances, inst.Impersonated name ∧ ∃ bank ∈ inst.members,
        fault = .federate (FederateKey.text ⟨inst.name, bank⟩) (.declaredTwice name) := by
  have sound := (validate_eq_ok_iff.mp valid).instances
  constructor
  · intro inst declared
    refine ⟨nodup_interfaceNames_iff (sound inst declared), fun bank s => ⟨?_, ?_⟩⟩
    · intro is t claimed
      exact names_claim claimed
    · intro name t refused
      exact (duplicate_iff_impersonated (sound inst declared)).mp (duplicate_of_claim refused)
  · intro fault name h behind
    obtain ⟨key, inst, mem, rfl, u, v, refused⟩ := exists_claim_of_resolve valid h behind nofun
    obtain ⟨declared, bank, member, rfl⟩ := mem_members mem
    refine ⟨inst, declared, ?_, bank, member, rfl⟩
    exact (duplicate_iff_impersonated (sound inst declared)).mp (duplicate_of_claim refused)

/-- An instance of which one interface is given a name that a default name could be, but none is. -/
def lookalike : Instance where
  name := "a"
  bankWidth := some 2
  interfaces := [⟨some "tcp_ip_2", .uart none {}⟩, ⟨none, .tcp none⟩, ⟨none, .uart none {}⟩]

/-- A program with that instance. -/
def lookalikes : Program := { name := "lookalikes", federated := true, instances := [lookalike] }

/-- The names of its interfaces are distinct, and those that a member claims have them. -/
theorem lookalikes_interface_names : lookalikes.validate = .ok () ∧
    lookalike.interfaceNames = ["tcp_ip_2", "tcp_ip_1", "uart_2"] ∧
    (∀ name, ¬ lookalike.Impersonated name) ∧
    ∃ is t, Interfaces.claim lookalike.interfaces (some 1) {} = (.ok is, t) ∧
      is.toList.map (·.name) = lookalike.interfaceNames := by
  have valid : lookalikes.validate = .ok () := rfl
  have claimed : (Interfaces.claim lookalike.interfaces (some 1) {}).1.toOption.isSome = true := by
    decide +kernel
  obtain ⟨distinct, claims⟩ :=
    (interface_names_law lookalikes valid).1 lookalike (List.mem_singleton_self _)
  refine ⟨valid, by decide +kernel, distinct.mp (by decide +kernel), ?_⟩
  obtain ⟨is, his⟩ := Option.isSome_iff_exists.mp claimed
  have whole : Interfaces.claim lookalike.interfaces (some 1) {} =
      (.ok is, (Interfaces.claim lookalike.interfaces (some 1) {}).2) :=
    Prod.ext (eq_ok_of_toOption his) rfl
  exact ⟨is, _, whole, ((claims (some 1) {}).1 is _ whole).1⟩

/-- An instance of which one interface is given the default name of the other one. -/
def impostor : Instance where
  name := "a"
  interfaces := [⟨some "tcp_ip_1", .uart none {}⟩, ⟨none, .tcp none⟩]

/-- A program with that instance. -/
def impostors : Program := { name := "impostors", federated := true, instances := [impostor] }

/-- The program passes its checks, but the names of its interfaces clash, and it has no topology. -/
theorem impostors_clash : impostors.validate = .ok () ∧ impostor ∈ impostors.instances ∧
    ¬ impostor.interfaceNames.Nodup ∧
    Federation.resolve impostors = .error (.federate "a" (.declaredTwice "tcp_ip_1")) := by
  refine ⟨rfl, List.mem_singleton_self _, by decide +kernel, ?_⟩
  have refused : (match Federation.resolve impostors with
      | .error fault => some fault
      | .ok _ => none) = some (.federate "a" (.declaredTwice "tcp_ip_1")) := by decide +kernel
  cases h : Federation.resolve impostors with
  | error fault =>
      rw [h] at refused
      rw [Option.some.inj refused]
  | ok f =>
      rw [h] at refused
      cases refused

end ReactorNet
