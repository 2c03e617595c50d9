import Mathlib.Data.List.Nodup
import ReactorNet.Program.Validation
import ReactorNet.Proofs.Interfaces

/-!
# `ReactorNet.Proofs.Validation` · what a checked program is like

The checks of a program go through it in one order and stop at the first reason to reject it. What
is left after them does not depend on that order: `validate_eq_ok_iff` says that a program is
accepted exactly if it is `Program.Sound`.

**New names.** Ports, interfaces and instances are checked by loops of one kind, which carry the
names that they have passed. That a name is none of these, at every step, means that no name occurs
twice (`new_names_cons`).
-/

namespace ReactorNet

open ReactorNet.Text

variable {p : Program} {place : NamePlace} {owner : String} {earlier : List String} {number : Nat}

/-! ## Single checks -/

/-- A condition that is accepted does not hold. -/
theorem rejectIf_eq_ok_iff {condition : Bool} {r : Rejection} :
    rejectIf condition r = .ok () ↔ condition = false := by
  cases condition <;> simp [rejectIf]

/-- A name that is accepted is an identifier. -/
theorem checkIdentifier_eq_ok_iff {name : String} :
    checkIdentifier name place = .ok () ↔ isIdentifier name.toList = true := by
  unfold checkIdentifier
  split
  · rename_i identifier
    simp [identifier]
  · rename_i other
    simp [other]

/-- A check before others is passed if it and the others are. -/
theorem check_then_eq_ok_iff {ε α : Type} {x : Except ε Unit} {y : Except ε α} {a : α} :
    (x >>= fun _ => y) = .ok a ↔ x = .ok () ∧ y = .ok a := by
  rw [bind_eq_ok_iff]
  constructor
  · rintro ⟨_, hx, hy⟩
    exact ⟨hx, hy⟩
  · rintro ⟨hx, hy⟩
    exact ⟨(), hx, hy⟩

/-- Names behind earlier ones are new if the first is, and the others are behind that one as
well. -/
theorem new_names_cons {name : String} {names : List String} :
    (name :: names).Nodup ∧ (name :: names).Disjoint earlier ↔
      name ∉ earlier ∧ names.Nodup ∧ names.Disjoint (name :: earlier) := by
  rw [List.nodup_cons, List.disjoint_cons_left, List.disjoint_cons_right]
  constructor
  · rintro ⟨⟨other, distinct⟩, new, disjoint⟩
    exact ⟨new, distinct, other, disjoint⟩
  · rintro ⟨new, distinct, other, disjoint⟩
    exact ⟨⟨other, distinct⟩, new, disjoint⟩

/-! ## Ports and interfaces -/

/-- Whether ports of one owner can be told apart and have channels. -/
structure SoundPorts (ports : List Port) : Prop where
  /-- Their names are identifiers. -/
  named : ∀ q ∈ ports, isIdentifier q.name.toList = true
  /-- No port is empty. -/
  wide : ∀ q ∈ ports, 0 < q.width
  /-- No two of them have the same name. -/
  distinct : (ports.map (·.name)).Nodup

/-- Ports that pass their checks are sound and have new names. -/
theorem checkPorts_eq_ok_iff {ports : List Port} :
    checkPorts place earlier ports = .ok () ↔
      SoundPorts ports ∧ (ports.map (·.name)).Disjoint earlier := by
  induction ports generalizing earlier with
  | nil =>
      simp only [checkPorts, true_iff]
      exact ⟨⟨by simp, by simp, by simp⟩, by simp⟩
  | cons q ports ih =>
      simp only [checkPorts, check_then_eq_ok_iff, checkIdentifier_eq_ok_iff, rejectIf_eq_ok_iff, ih]
      have names := @new_names_cons earlier q.name (ports.map (·.name))
      constructor
      · rintro ⟨named, new, wide, sound, disjoint⟩
        obtain ⟨distinct, disjoint⟩ := names.mpr ⟨by simpa using new, sound.distinct, disjoint⟩
        refine ⟨⟨?_, ?_, distinct⟩, disjoint⟩
        · exact List.forall_mem_cons.mpr ⟨named, sound.named⟩
        · refine List.forall_mem_cons.mpr ⟨?_, sound.wide⟩
          exact Nat.pos_of_ne_zero (by simpa using wide)
      · rintro ⟨sound, disjoint⟩
        obtain ⟨new, distinct, disjoint⟩ := names.mp ⟨sound.distinct, disjoint⟩
        obtain ⟨named, allNamed⟩ := List.forall_mem_cons.mp sound.named
        obtain ⟨wide, allWide⟩ := List.forall_mem_cons.mp sound.wide
        refine ⟨named, by simpa using new, ?_, ⟨allNamed, allWide, distinct⟩, disjoint⟩
        simpa using Nat.pos_iff_ne_zero.mp wide

/-- Names of interfaces that pass their checks are identifiers, new and distinct. -/
theorem checkInterfaceNames_eq_ok_iff {names : List String} :
    checkInterfaceNames owner earlier names = .ok () ↔
      (∀ name ∈ names, isIdentifier name.toList = true) ∧ names.Nodup ∧ names.Disjoint earlier := by
  induction names generalizing earlier with
  | nil => simp [checkInterfaceNames]
  | cons name names ih =>
      simp only [checkInterfaceNames, check_then_eq_ok_iff, checkIdentifier_eq_ok_iff,
        rejectIf_eq_ok_iff, ih, new_names_cons, List.forall_mem_cons]
      constructor
      · rintro ⟨named, new, allNamed, rest⟩
        exact ⟨⟨named, allNamed⟩, by simpa using new, rest⟩
      · rintro ⟨⟨named, allNamed⟩, new, rest⟩
        exact ⟨named, by simpa using new, allNamed, rest⟩

/-! ## Instances -/

/-- Whether an instance has members, and ports and interfaces that can be told apart. -/
structure Instance.Sound (i : Instance) : Prop where
  /-- Its name is an identifier. -/
  named : isIdentifier i.name.toList = true
  /-- It is no empty bank. -/
  inhabited : i.bankWidth ≠ some 0
  /-- Its ports are sound. -/
  ports : SoundPorts i.ports
  /-- The names that its interfaces are given are identifiers. -/
  interfacesNamed : ∀ name ∈ i.interfaces.filterMap (·.name), isIdentifier name.toList = true
  /-- No two of its interfaces are given the same name. -/
  interfacesDistinct : (i.interfaces.filterMap (·.name)).Nodup

/-- Instances that pass their checks are sound and have new and distinct names. -/
theorem checkInstances_eq_ok_iff {is : List Instance} :
    checkInstances earlier is = .ok () ↔
      (∀ i ∈ is, i.Sound) ∧ (is.map (·.name)).Nodup ∧ (is.map (·.name)).Disjoint earlier := by
  induction is generalizing earlier with
  | nil => simp [checkInstances]
  | cons i is ih =>
      simp only [checkInstances, check_then_eq_ok_iff, checkIdentifier_eq_ok_iff, rejectIf_eq_ok_iff,
        checkPorts_eq_ok_iff, checkInterfaceNames_eq_ok_iff, ih, List.map_cons, new_names_cons,
        List.forall_mem_cons]
      constructor
      · rintro ⟨named, new, inhabited, ⟨ports, -⟩, ⟨interfaces, distinct, -⟩, sound, rest⟩
        refine ⟨⟨⟨named, ?_, ports, interfaces, distinct⟩, sound⟩, by simpa using new, rest⟩
        simpa using inhabited
      · rintro ⟨⟨first, sound⟩, new, rest⟩
        refine ⟨first.named, by simpa using new, by simpa using first.inhabited, ?_, ?_, sound, rest⟩
        · exact ⟨first.ports, List.disjoint_nil_right _⟩
        · exact ⟨first.interfacesNamed, first.interfacesDistinct, List.disjoint_nil_right _⟩

/-! ## Statements -/

/-- Whether a statement has two sides, which refer to declared ports, and asks for no port 0. -/
structure Statement.Sound (p : Program) (s : Statement) : Prop where
  /-- The left side names a port. -/
  left : s.left ≠ []
  /-- The right side names a port. -/
  right : s.right ≠ []
  /-- All references name declared ports. -/
  declared : ∀ r ∈ s.left ++ s.right, ∃ shape, p.shape? r.key = some shape
  /-- No link asks for port 0. -/
  serverPort : s.link.bind (·.serverPort) ≠ some 0

/-- References that pass their checks name declared ports. -/
theorem checkRefs_eq_ok_iff {refs : List PortRef} :
    p.checkRefs number refs = .ok () ↔ ∀ r ∈ refs, ∃ shape, p.shape? r.key = some shape := by
  induction refs with
  | nil => simp [Program.checkRefs]
  | cons r refs ih =>
      simp only [Program.checkRefs, check_then_eq_ok_iff, rejectIf_eq_ok_iff, ih, List.forall_mem_cons]
      refine and_congr_left fun _ => ?_
      cases p.shape? r.key with
      | none => simp
      | some shape => simp

/-- Statements that pass their checks are sound. -/
theorem checkStatements_eq_ok_iff {ss : List Statement} :
    p.checkStatements number ss = .ok () ↔ ∀ s ∈ ss, s.Sound p := by
  induction ss generalizing number with
  | nil => simp [Program.checkStatements]
  | cons s ss ih =>
      simp only [Program.checkStatements, check_then_eq_ok_iff, rejectIf_eq_ok_iff,
        checkRefs_eq_ok_iff, ih, List.forall_mem_cons, ← and_assoc]
      refine and_congr_left fun _ => ?_
      constructor
      · rintro ⟨⟨sides, declared⟩, port⟩
        obtain ⟨left, right⟩ := Bool.or_eq_false_iff.mp sides
        exact ⟨by simpa using left, by simpa using right, declared, by simpa using port⟩
      · intro sound
        refine ⟨⟨Bool.or_eq_false_iff.mpr ⟨?_, ?_⟩, sound.declared⟩,
          by simpa using sound.serverPort⟩
        · simpa using sound.left
        · simpa using sound.right

/-! ## Programs -/

/-- Whether a program has sound ports, instances with different names, and sound statements. -/
structure Program.Sound (p : Program) : Prop where
  /-- Its own ports are sound. -/
  ports : SoundPorts p.ports
  /-- Its instances are sound. -/
  instances : ∀ i ∈ p.instances, i.Sound
  /-- No two of them have the same name. -/
  distinct : (p.instances.map (·.name)).Nodup
  /-- Its statements are sound. -/
  statements : ∀ s ∈ p.statements, s.Sound p

/-- **A program is accepted exactly if it is sound.** -/
theorem validate_eq_ok_iff : p.validate = .ok () ↔ p.Sound := by
  simp only [Program.validate, check_then_eq_ok_iff, checkPorts_eq_ok_iff, checkInstances_eq_ok_iff,
    checkStatements_eq_ok_iff]
  constructor
  · rintro ⟨⟨ports, -⟩, ⟨instances, distinct, -⟩, statements⟩
    exact ⟨ports, instances, distinct, statements⟩
  · intro sound
    refine ⟨⟨sound.ports, List.disjoint_nil_right _⟩, ⟨sound.instances, sound.distinct, ?_⟩,
      sound.statements⟩
    exact List.disjoint_nil_right _

/-- A program with other statements. -/
def Program.withStatements (p : Program) (ss : List Statement) : Program := { p with statements := ss }

/-- A program passes its checks with other statements that are sound. -/
theorem validate_withStatements {ss : List Statement} (valid : p.validate = .ok ())
    (sound : ∀ s ∈ ss, s.Sound p) : (p.withStatements ss).validate = .ok () := by
  rw [validate_eq_ok_iff] at valid ⊢
  refine ⟨valid.ports, valid.instances, valid.distinct, fun s hs => ?_⟩
  -- references are checked against declarations, which are those of both programs
  obtain ⟨left, right, declared, serverPort⟩ := sound s hs
  exact ⟨left, right, declared, serverPort⟩

/-- The ports of a sound program have channels. -/
theorem Program.Sound.shape?_pos {key : PortKey} {bankWidth portWidth : Nat} (sound : p.Sound)
    (h : p.shape? key = some (bankWidth, portWidth)) : 0 < bankWidth ∧ 0 < portWidth := by
  unfold Program.shape? at h
  cases hname : key.instanceName with
  | none =>
      rw [hname] at h
      obtain ⟨q, found, h⟩ := Option.bind_eq_some_iff.mp h
      cases h
      exact ⟨Nat.one_pos, sound.ports.wide q (List.mem_of_find?_eq_some found)⟩
  | some name =>
      rw [hname] at h
      obtain ⟨i, foundInstance, h⟩ := Option.bind_eq_some_iff.mp h
      obtain ⟨q, found, h⟩ := Option.bind_eq_some_iff.mp h
      cases h
      have sound := sound.instances i (List.mem_of_find?_eq_some foundInstance)
      refine ⟨?_, sound.ports.wide q (List.mem_of_find?_eq_some found)⟩
      have inhabited := sound.inhabited
      cases hw : i.bankWidth with
      | none => simp
      | some width =>
          rw [hw] at inhabited
          have : width ≠ 0 := fun h0 => inhabited (by rw [h0])
          simpa using Nat.pos_of_ne_zero this

end ReactorNet
