import Mathlib.Data.List.Forall2
import Mathlib.Data.List.Nodup
import ReactorNet.Proofs.Bundling
import ReactorNet.Proofs.Validation

/-!
# `ReactorNet.Proofs.Enlistment` · who the federates of a program are

Enlisting makes a federate of every member of the program, with interfaces that were claimed for it
(`forall₂_enlist`). The keys of the federates can be read off the declarations (`Program.keys`),
whatever their interfaces claim, and so can the numbers that the keys are looked up for
(`Program.owners`). A program that passes its checks gives no key to two federates (`nodup_keys`);
then looking up a key gives the position of the one federate that has it (`lookup_owners_iff`).
-/

namespace ReactorNet

variable {p : Program} {n : Network} {f : Federation} {key : FederateKey} {k : Nat}

namespace Program

/-- The keys of the federates of a program, in their order. -/
def keys (p : Program) : List FederateKey := if p.federated then p.members.map (·.1) else []

/-- The numbers of the federates of a program, by their keys. -/
def owners (p : Program) : Owners := p.keys.zipIdx

/-- The members of a program that become federates: all of them, or none. -/
def enlisted (p : Program) : List (FederateKey × Instance) := if p.federated then p.members else []

/-- The keys are those of the members that become federates. -/
theorem keys_eq (p : Program) : p.keys = p.enlisted.map (·.1) := by
  unfold keys enlisted
  split
  · rfl
  · rfl

end Program

/-! ## The federates of a topology -/

/-- Whether a federate has the key of a member, and the interfaces that were claimed for it. -/
def Claimed (station : FederateKey × Interfaces) (member : FederateKey × Instance) : Prop :=
  station.1 = member.1 ∧
    ∃ s t, Interfaces.claim member.2.interfaces member.1.bankIndex s = (.ok station.2, t)

/-- Claiming the interfaces of federates makes a federate of every member. -/
theorem forall₂_claimFederates {members : List (FederateKey × Instance)} {s t : Allocation}
    {fs : List Federate} (h : claimFederates members s = .ok (fs, t)) :
    List.Forall₂ Claimed (fs.map (·.station)) members := by
  induction members generalizing s fs with
  | nil =>
      cases h
      exact .nil
  | cons member members ih =>
      obtain ⟨is, u, rest, claimed, later, rfl⟩ := claimFederates_cons_eq_ok_iff.mp h
      exact .cons ⟨rfl, s, u, claimed⟩ (ih later)

/-- The federates that are enlisted are those of the program, each with interfaces of its own. -/
theorem forall₂_enlist (h : Federation.enlist p = .ok n) :
    List.Forall₂ Claimed (n.federates.map (·.station)) p.enlisted := by
  unfold Federation.enlist at h
  unfold Program.enlisted
  split at h
  · rename_i federated
    rw [if_pos federated]
    split at h
    · rename_i federates allocation claimed
      cases h
      rw [map_station_chooseGrandmaster]
      exact forall₂_claimFederates claimed
    · cases h
  · rename_i federated
    cases h
    rw [if_neg federated]
    exact .nil

/-- Federates are enlisted with the keys of the program. -/
theorem map_key_enlist (h : Federation.enlist p = .ok n) : n.federates.map (·.key) = p.keys := by
  have keys : List.Forall₂ (· = ·) ((n.federates.map (·.station)).map (·.1))
      (p.enlisted.map (·.1)) := List.rel_map (fun _ _ claimed => claimed.1) (forall₂_enlist h)
  rw [List.forall₂_eq_eq_eq, List.map_map] at keys
  rw [Program.keys_eq, ← keys]
  rfl

/-- Federates that are enlisted have the numbers that the program says. -/
theorem owners_enlist (h : Federation.enlist p = .ok n) :
    Federation.owners n.federates = p.owners := by
  rw [Federation.owners, map_key_enlist h, Program.owners]

/-- Laying channels between federates that are enlisted leaves them the keys of the program. -/
theorem map_key_layParts {groups : List Group} {parts : List Part} {bs : List Bundle} {m : Network}
    (enlisted : Federation.enlist p = .ok n) (laid : layParts groups parts n = (.ok bs, m)) :
    m.federates.map (·.key) = p.keys := by
  -- the outline is kept, and the keys with it
  have keys := congrArg (List.map Prod.fst) (outline_layParts laid)
  unfold Network.outline at keys
  rw [List.map_map, List.map_map] at keys
  exact keys.trans (map_key_enlist enlisted)

/-- The federates of a topology have the keys of the program. -/
theorem map_key_resolve (h : Federation.resolve p = .ok f) : f.federates.map (·.key) = p.keys := by
  obtain ⟨-, n, enlisted, -, laid, -⟩ := resolve_eq_ok_iff.mp h
  exact map_key_layParts enlisted laid

/-- A topology numbers its federates as the program does. -/
theorem owners_resolve (h : Federation.resolve p = .ok f) :
    Federation.owners f.federates = p.owners := by
  rw [Federation.owners, map_key_resolve h, Program.owners]

/-- The groups of a topology are those of the program with the federates that it says. -/
theorem groups_resolve (h : Federation.resolve p = .ok f) :
    groupConnections p p.owners = .ok f.groups := by
  obtain ⟨-, n, enlisted, grouped, -, -⟩ := resolve_eq_ok_iff.mp h
  rwa [owners_enlist enlisted] at grouped

/-- The topology of a program that passes its checks and whose federates are enlisted. -/
theorem resolve_of_enlist {n : Network} (valid : p.validate = .ok ())
    (enlisted : Federation.enlist p = .ok n) :
    Federation.resolve p =
      match groupConnections p p.owners with
      | .error fault => .error fault
      | .ok groups =>
        match layBundles groups n with
        | (.ok bundles, m) => .ok ⟨p.name, m, groups, bundles⟩
        | (.error fault, _) => .error fault := by
  rw [Federation.resolve, valid, ← owners_enlist enlisted]
  simp only [Federation.resolveChecked, enlisted]
  change (groupConnections p (Federation.owners n.federates) >>= _) = _
  cases groupConnections p (Federation.owners n.federates) with
  | error fault => rfl
  | ok groups => rfl

/-- A program that passes its checks and whose federates cannot be enlisted has no topology. -/
theorem resolve_of_enlist_error {fault : ResolutionFault} (valid : p.validate = .ok ())
    (refused : Federation.enlist p = .error fault) : Federation.resolve p = .error fault := by
  rw [Federation.resolve, valid]
  simp only [Federation.resolveChecked, refused]
  rfl

/-! ## Keys are distinct -/

/-- The instances of a program that passes its checks have distinct names. -/
theorem nodup_names (valid : p.validate = .ok ()) : (p.instances.map (·.name)).Nodup :=
  (validate_eq_ok_iff.mp valid).distinct

/-- The members of an instance have distinct bank indices. -/
theorem nodup_members (i : Instance) : i.members.Nodup := by
  unfold Instance.members
  cases i.bankWidth with
  | none => simp
  | some width => exact List.nodup_range.map (Option.some_injective Nat)

/-- The keys of the federates, instance by instance. -/
theorem map_fst_members (p : Program) :
    p.members.map (·.1) =
      p.instances.flatMap fun i => i.members.map fun bank => ⟨i.name, bank⟩ := by
  rw [Program.members, List.map_flatMap]
  simp only [List.map_map, Function.comp_def]

/-- A program that passes its checks gives no key to two federates. -/
theorem nodup_keys (valid : p.validate = .ok ()) : p.keys.Nodup := by
  unfold Program.keys
  split
  · rw [map_fst_members, List.nodup_flatMap]
    constructor
    · intro i _
      refine (nodup_members i).map fun b c h => ?_
      exact congrArg FederateKey.bankIndex h
    · refine (List.pairwise_map.mp (nodup_names valid)).imp fun {i j} different => ?_
      refine List.disjoint_left.mpr fun key hi hj => ?_
      obtain ⟨b, -, rfl⟩ := List.mem_map.mp hi
      obtain ⟨c, -, same⟩ := List.mem_map.mp hj
      exact different (congrArg FederateKey.instanceName same).symm
  · exact List.nodup_nil

/-! ## Looking up a key -/

/-- Of elements that are numbered, the first that is equal to an element is looked up. -/
theorem lookup_zipIdx {κ : Type} [BEq κ] [LawfulBEq κ] (keys : List κ) (key : κ) (i : Nat) :
    (keys.zipIdx i).lookup key = (keys.idxOf? key).map (· + i) := by
  induction keys generalizing i with
  | nil => rfl
  | cons c keys ih =>
      rw [List.zipIdx_cons, List.lookup_cons, List.idxOf?_cons]
      by_cases h : c = key
      · subst h
        simp
      · have hkc : (key == c) = false := beq_eq_false_iff_ne.mpr (Ne.symm h)
        have hck : (c == key) = false := beq_eq_false_iff_ne.mpr h
        simp only [hkc, hck, ih, Bool.false_eq_true, if_false, Option.map_map]
        congr 1
        funext j
        simp only [Function.comp_apply]
        omega

/-- Where no key occurs twice, looking up a key gives the position at which it stands. -/
theorem lookup_owners_iff (distinct : p.keys.Nodup) :
    p.owners.lookup key = some k ↔ p.keys[k]? = some key := by
  rw [Program.owners, lookup_zipIdx]
  simp only [Nat.add_zero, Option.map_id']
  rw [List.idxOf?_eq_some_iff]
  constructor
  · rintro ⟨hk, found, -⟩
    rw [List.getElem?_eq_getElem hk, found]
  · intro h
    obtain ⟨hk, found⟩ := List.getElem?_eq_some_iff.mp h
    refine ⟨hk, found, ?_⟩
    intro j hj same
    exact absurd ((distinct.getElem_inj_iff).mp (same.trans found.symm)) (by omega)

end ReactorNet
