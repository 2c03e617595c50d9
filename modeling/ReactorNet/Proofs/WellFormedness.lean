import Mathlib.Data.List.Pairwise
import ReactorNet.Proofs.Spelling
import ReactorNet.Proofs.Validation

/-!
# `ReactorNet.Proofs.WellFormedness` · which programs are accepted

`Program.WellFormed` lists what is asked of a program, without saying how it is checked: names are
identifiers and tell ports, instances and interfaces apart, banks and ports are not empty, and
statements connect declared ports. `validate_accepts_iff` says that exactly these programs pass the
checks.

**What the checks do otherwise.** They go through names and remember them, and they look ports up
with the first instance of the given name. The first is settled with the checks; the second makes no
difference as soon as instances have different names (`exists_shape?_iff`). So references may be
read as they are meant: there is an instance of that name, and it has a port of that name.
-/

namespace ReactorNet

open ReactorNet.Text

variable {p : Program} {ports : List Port} {i : Instance} {s : Statement} {key : PortKey}

/-! ## What is asked of a program -/

/-- Whether ports of one owner are named and can be told apart, and have channels. -/
structure WellFormedPorts (ports : List Port) : Prop where
  /-- Their names are identifiers. -/
  named : ∀ q ∈ ports, Identifier q.name.toList
  /-- No two of them have the same name. -/
  distinct : ports.Pairwise fun q r => q.name ≠ r.name
  /-- Each has a width of at least one. -/
  wide : ∀ q ∈ ports, 1 ≤ q.width

/-- Whether an instance is named and has members, and its ports and interfaces can be told apart. -/
structure Instance.WellFormed (i : Instance) : Prop where
  /-- Its name is an identifier. -/
  named : Identifier i.name.toList
  /-- If it is a bank, it has a width of at least one. -/
  bank : ∀ width, i.bankWidth = some width → 1 ≤ width
  /-- Its ports are in order. -/
  ports : WellFormedPorts i.ports
  /-- The names that its interfaces are given are identifiers. -/
  interfacesNamed : ∀ d ∈ i.interfaces, ∀ name, d.name = some name → Identifier name.toList
  /-- No two of its interfaces are given the same name. -/
  interfacesDistinct : i.interfaces.Pairwise fun d e =>
    ∀ name, d.name = some name → e.name ≠ some name

/-- Whether a program declares a port: one of its own, or one of an instance of its. -/
def Program.Declares (p : Program) (key : PortKey) : Prop :=
  match key.instanceName with
  | none => ∃ q ∈ p.ports, q.name = key.port
  | some name => ∃ i ∈ p.instances, i.name = name ∧ ∃ q ∈ i.ports, q.name = key.port

/-- Whether a statement connects declared ports. -/
structure Statement.WellFormed (p : Program) (s : Statement) : Prop where
  /-- Both sides name a port. -/
  sides : s.left ≠ [] ∧ s.right ≠ []
  /-- All references are to declared ports. -/
  declared : ∀ r ∈ s.left ++ s.right, p.Declares r.key
  /-- Its link does not ask for port 0. -/
  serverPort : ∀ link, s.link = some link → link.serverPort ≠ some 0

/-- Whether a program is in order. -/
structure Program.WellFormed (p : Program) : Prop where
  /-- Its own ports are in order. -/
  ports : WellFormedPorts p.ports
  /-- Its instances are in order. -/
  instances : ∀ i ∈ p.instances, i.WellFormed
  /-- No two of them have the same name. -/
  distinct : p.instances.Pairwise fun i j => i.name ≠ j.name
  /-- Its statements are in order. -/
  statements : ∀ s ∈ p.statements, s.WellFormed p

/-! ## Ports and instances -/

/-- Ports pass their checks if they are in order. -/
theorem soundPorts_iff : SoundPorts ports ↔ WellFormedPorts ports := by
  constructor
  · rintro ⟨named, wide, distinct⟩
    exact ⟨fun q hq => isIdentifier_iff.mp (named q hq), List.pairwise_map.mp distinct, wide⟩
  · rintro ⟨named, distinct, wide⟩
    exact ⟨fun q hq => isIdentifier_iff.mpr (named q hq), wide, List.pairwise_map.mpr distinct⟩

/-- The names that interfaces are given are different if no two interfaces are given the same
one. -/
theorem nodup_given_iff {ds : List InterfaceDecl} : (ds.filterMap (·.name)).Nodup ↔
    ds.Pairwise fun d e => ∀ name, d.name = some name → e.name ≠ some name := by
  rw [List.Nodup, List.pairwise_filterMap]
  refine iff_of_eq (congrArg (List.Pairwise · ds) ?_)
  funext d e
  refine propext ⟨?_, ?_⟩
  · intro different name hd he
    exact different name hd name he rfl
  · rintro different name hd _ he rfl
    exact different name hd he

/-- An instance passes its checks if it is in order. -/
theorem Instance.sound_iff : i.Sound ↔ i.WellFormed := by
  have bank : i.bankWidth ≠ some 0 ↔ ∀ width, i.bankWidth = some width → 1 ≤ width := by
    constructor
    · rintro inhabited width hw
      exact Nat.one_le_iff_ne_zero.mpr fun empty => inhabited (empty ▸ hw)
    · intro wide empty
      exact absurd (wide 0 empty) (by decide)
  have named : (∀ name ∈ i.interfaces.filterMap (·.name), isIdentifier name.toList = true) ↔
      ∀ d ∈ i.interfaces, ∀ name, d.name = some name → Identifier name.toList := by
    simp only [List.mem_filterMap, forall_exists_index, and_imp, isIdentifier_iff]
    exact forall_comm.trans (forall_congr' fun d => forall_comm)
  constructor
  · rintro ⟨name, inhabited, ports, interfacesNamed, interfacesDistinct⟩
    exact ⟨isIdentifier_iff.mp name, bank.mp inhabited, soundPorts_iff.mp ports,
      named.mp interfacesNamed, nodup_given_iff.mp interfacesDistinct⟩
  · rintro ⟨name, wide, ports, interfacesNamed, interfacesDistinct⟩
    exact ⟨isIdentifier_iff.mpr name, bank.mpr wide, soundPorts_iff.mpr ports,
      named.mpr interfacesNamed, nodup_given_iff.mpr interfacesDistinct⟩

/-! ## References -/

/-- A port is found by its name if there is one of that name. -/
theorem exists_find?_port_iff {name : String} :
    (∃ q, ports.find? (fun q => q.name == name) = some q) ↔ ∃ q ∈ ports, q.name = name := by
  rw [← Option.isSome_iff_exists, List.find?_isSome]
  simp only [beq_iff_eq]

/-- An instance is found by its name if no other has it. -/
theorem instance?_eq_some_iff (distinct : p.instances.Pairwise fun i j => i.name ≠ j.name)
    {name : String} : p.instance? name = some i ↔ i ∈ p.instances ∧ i.name = name := by
  constructor
  · intro found
    exact ⟨List.mem_of_find?_eq_some found, by simpa using List.find?_some found⟩
  · rintro ⟨hi, rfl⟩
    obtain ⟨j, found⟩ : ∃ j, p.instance? i.name = some j :=
      Option.isSome_iff_exists.mp (List.find?_isSome.mpr ⟨i, hi, beq_self_eq_true _⟩)
    have named : j.name = i.name := by simpa using List.find?_some found
    rw [found, List.inj_on_of_nodup_map (List.pairwise_map.mpr distinct)
      (List.mem_of_find?_eq_some found) hi named]

/-- Where instances have different names, a port has a shape if it is declared. -/
theorem exists_shape?_iff (distinct : p.instances.Pairwise fun i j => i.name ≠ j.name) :
    (∃ shape, p.shape? key = some shape) ↔ p.Declares key := by
  unfold Program.shape? Program.Declares
  cases key.instanceName with
  | none =>
      rw [← exists_find?_port_iff]
      cases p.ports.find? fun q => q.name == key.port <;> simp
  | some name =>
      simp only [Option.bind_eq_bind, Option.bind_eq_some_iff, instance?_eq_some_iff distinct,
        ← exists_find?_port_iff]
      constructor
      · rintro ⟨shape, i, ⟨hi, named⟩, q, found, -⟩
        exact ⟨i, hi, named, q, found⟩
      · rintro ⟨i, hi, named, q, found⟩
        exact ⟨_, i, ⟨hi, named⟩, q, found, rfl⟩

/-- Where instances have different names, a statement passes its checks if it is in order. -/
theorem Statement.sound_iff (distinct : p.instances.Pairwise fun i j => i.name ≠ j.name) :
    s.Sound p ↔ s.WellFormed p := by
  have serverPort : s.link.bind (·.serverPort) ≠ some 0 ↔
      ∀ link, s.link = some link → link.serverPort ≠ some 0 := by
    cases s.link <;> simp
  constructor
  · rintro ⟨left, right, declared, port⟩
    exact ⟨⟨left, right⟩, fun r hr => (exists_shape?_iff distinct).mp (declared r hr),
      serverPort.mp port⟩
  · rintro ⟨⟨left, right⟩, declared, port⟩
    exact ⟨left, right, fun r hr => (exists_shape?_iff distinct).mpr (declared r hr),
      serverPort.mpr port⟩

/-! ## Programs -/

/-- **The programs that are in order are accepted, and no others.** -/
theorem validate_accepts_iff (p : Program) : p.validate = .ok () ↔ p.WellFormed := by
  rw [validate_eq_ok_iff]
  constructor
  · rintro ⟨ports, instances, distinct, statements⟩
    have distinct := List.pairwise_map.mp distinct
    exact ⟨soundPorts_iff.mp ports, fun i hi => Instance.sound_iff.mp (instances i hi), distinct,
      fun s hs => (Statement.sound_iff distinct).mp (statements s hs)⟩
  · rintro ⟨ports, instances, distinct, statements⟩
    exact ⟨soundPorts_iff.mpr ports, fun i hi => Instance.sound_iff.mpr (instances i hi),
      List.pairwise_map.mpr distinct, fun s hs => (Statement.sound_iff distinct).mpr (statements s hs)⟩

end ReactorNet
