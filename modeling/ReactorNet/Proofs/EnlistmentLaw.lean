import ReactorNet.Proofs.Enlistment
import ReactorNet.Proofs.InterfaceLaw

/-!
# `ReactorNet.Proofs.EnlistmentLaw` · the interfaces of all federates

The interfaces that a program asks for stand in one line (`Program.slots`): federate by federate,
the members of a bank by their indices, and the interfaces of each as they are declared.
`enlist_law` says that enlisting federates goes along this line and gives every interface what the
law says of those before it; it fails at the first interface that the law refuses, and at no other.

**How the line is followed.** Two loops are nested, one over federates and one over their
interfaces, and either continues what was given so far (`law_claimAll`, `law_claimFederates`). A
member of a bank whose index is no signed word never has its turn if an address is declared, because
the law has refused a member before it (`index_le_of_lawful`).
-/

namespace ReactorNet

/-! ## The line of interfaces -/

/-- The interfaces that an instance declares; if it declares none, one for TCP. -/
def Instance.declarations (i : Instance) : List InterfaceDecl :=
  if i.interfaces.isEmpty then [⟨none, .tcp none⟩] else i.interfaces

/-- What a federate asks for from the given position on. -/
def slotsFrom (key : FederateKey) (position : Nat) (decls : List InterfaceDecl) : List Slot :=
  (decls.zipIdx position).map fun d => ⟨key, d.2, d.1⟩

/-- The interfaces that the federates of a program ask for. -/
def Program.slots (p : Program) : List Slot :=
  p.members.flatMap fun m => slotsFrom m.1 0 m.2.declarations

/-- The interfaces of federates, with the federates that have them. -/
def postsOf (fs : List Federate) : List Post :=
  fs.flatMap fun f => f.interfaces.toList.map (f.key, ·)

/-- Interfaces are given out one after the other, each by the law with those before it. -/
inductive Lawful : List Slot → List Post → Prop where
  /-- None. -/
  | nil : Lawful [] []
  /-- One more. -/
  | snoc {slots : List Slot} {posts : List Post} {slot : Slot} {i : Interface}
      (earlier : Lawful slots posts) (law : InterfaceLaw posts slot (.ok i)) :
      Lawful (slots ++ [slot]) (posts ++ [(slot.key, i)])

/-- The first interface that cannot be given out is one of the federate, for the given reason. -/
def FailsAt (slots : List Slot) (key : FederateKey) (fault : InterfaceFault) : Prop :=
  ∃ before slot after posts, slots = before ++ slot :: after ∧ Lawful before posts ∧
    InterfaceLaw posts slot (.error fault) ∧ slot.key = key

/-! ## The law leaves no choice -/

variable {p : Program} {n : Network} {s t : Allocation} {slot : Slot} {key : FederateKey}
  {slots before after : List Slot} {posts posts' : List Post} {i : Interface} {index : Nat}
  {fault : InterfaceFault}

/-- What comes first is given out first. -/
theorem Lawful.split (h : Lawful (before ++ slot :: after) posts) :
    ∃ earlier i later, posts = earlier ++ (slot.key, i) :: later ∧ Lawful before earlier ∧
      InterfaceLaw earlier slot (.ok i) := by
  generalize whole : before ++ slot :: after = slots at h
  induction h generalizing after with
  | nil => simp at whole
  | @snoc slots posts last i earlier law ih =>
      rcases List.eq_nil_or_concat after with rfl | ⟨after, last', rfl⟩
      · obtain ⟨rfl, last⟩ := List.append_inj' whole rfl
        cases last
        exact ⟨posts, i, [], rfl, earlier, law⟩
      · rw [List.concat_eq_append, ← List.cons_append, ← List.append_assoc] at whole
        obtain ⟨whole, -⟩ := List.append_inj' whole rfl
        obtain ⟨first, j, later, rfl, lawful, law'⟩ := ih whole
        exact ⟨first, j, later ++ [(last.key, i)], by simp, lawful, law'⟩

/-- As many interfaces are given out as are asked for. -/
theorem Lawful.length_eq (h : Lawful slots posts) : posts.length = slots.length := by
  induction h with
  | nil => rfl
  | snoc earlier law ih => simp [ih]

/-- The law leaves no choice. -/
theorem Lawful.deterministic (h : Lawful slots posts) (h' : Lawful slots posts') :
    posts = posts' := by
  induction h generalizing posts' with
  | nil => exact (List.eq_nil_of_length_eq_zero h'.length_eq).symm
  | snoc earlier law ih =>
      obtain ⟨first, j, later, rfl, lawful, law'⟩ := h'.split
      obtain rfl := ih lawful
      -- nothing is left behind the last one
      have lengths := h'.length_eq
      simp only [List.length_append, List.length_cons, List.length_nil, earlier.length_eq] at lengths
      obtain rfl : later = [] := List.eq_nil_of_length_eq_zero (by omega)
      cases law.deterministic law'
      rfl

/-- Where the law refuses an interface, not all can be given out. -/
theorem FailsAt.not_lawful (h : FailsAt slots key fault) : ¬ Lawful slots posts := by
  obtain ⟨before, slot, after, earlier, rfl, lawful, law, -⟩ := h
  intro all
  obtain ⟨earlier', i, -, -, lawful', law'⟩ := all.split
  obtain rfl := lawful.deterministic lawful'
  cases law.deterministic law'

/-- Nothing is given out behind an interface that the law refuses. -/
theorem between_eq_nil {between rest : List Slot} (lawful : Lawful before posts)
    (law : InterfaceLaw posts slot (.error fault)) (whole : slot :: after = between ++ rest)
    (lawful' : Lawful (before ++ between) posts') : between = [] := by
  cases between with
  | nil => rfl
  | cons first between =>
      cases whole
      exact absurd lawful' (FailsAt.not_lawful ⟨_, _, _, _, rfl, lawful, law, rfl⟩)

/-- There is one first interface that the law refuses, and it does so for one reason. -/
theorem FailsAt.deterministic {key' : FederateKey} {fault' : InterfaceFault}
    (h : FailsAt slots key fault) (h' : FailsAt slots key' fault') :
    key = key' ∧ fault = fault' := by
  obtain ⟨before, slot, after, posts, rfl, lawful, law, rfl⟩ := h
  obtain ⟨before', slot', after', posts', whole, lawful', law', rfl⟩ := h'
  -- neither of the two stands before the other
  have same : before = before' ∧ slot = slot' := by
    rcases List.append_eq_append_iff.mp whole with ⟨between, rfl, rest⟩ | ⟨between, rfl, rest⟩
    · obtain rfl := between_eq_nil lawful law rest lawful'
      cases rest
      exact ⟨(List.append_nil before).symm, rfl⟩
    · obtain rfl := between_eq_nil lawful' law' rest lawful
      cases rest
      exact ⟨List.append_nil before', rfl⟩
  obtain ⟨rfl, rfl⟩ := same
  obtain rfl := lawful.deterministic lawful'
  cases law.deterministic law'
  exact ⟨rfl, rfl⟩

/-! ## Members of a bank -/

/-- An interface is asked for by the members of an instance that declares it. -/
theorem mem_slots : slot ∈ p.slots ↔ ∃ inst ∈ p.instances, ∃ bank ∈ inst.members,
    slot.key = ⟨inst.name, bank⟩ ∧ (slot.decl, slot.position) ∈ inst.declarations.zipIdx := by
  obtain ⟨key, position, decl⟩ := slot
  simp only [Program.slots, Program.members, slotsFrom, List.mem_flatMap, List.mem_map]
  constructor
  · rintro ⟨m, ⟨inst, hinst, bank, hbank, rfl⟩, d, hd, same⟩
    cases same
    exact ⟨inst, hinst, bank, hbank, rfl, hd⟩
  · rintro ⟨inst, hinst, bank, hbank, rfl, hd⟩
    exact ⟨_, ⟨inst, hinst, bank, hbank, rfl⟩, _, hd, rfl⟩

/-- The members of a bank stand in the order of their indices. -/
theorem pairwise_slots (valid : p.validate = .ok ()) :
    p.slots.Pairwise fun slot other => slot.key.instanceName = other.key.instanceName →
      slot.key.bankIndex.getD 0 ≤ other.key.bankIndex.getD 0 := by
  rw [Program.slots, List.pairwise_flatMap]
  constructor
  · intro m _
    refine List.pairwise_map.mpr (List.pairwise_of_forall fun d e _ => Nat.le_refl _)
  · rw [Program.members, List.pairwise_flatMap]
    constructor
    · intro inst _
      refine List.pairwise_map.mpr ?_
      unfold Instance.members
      cases inst.bankWidth with
      | none => exact List.pairwise_singleton _ _
      | some width =>
          refine List.pairwise_map.mpr (List.pairwise_lt_range.imp fun {b c} hbc => ?_)
          simp only [slotsFrom, List.mem_map]
          rintro _ ⟨d, -, rfl⟩ _ ⟨e, -, rfl⟩ -
          exact Nat.le_of_lt hbc
    · refine (List.pairwise_map.mp (nodup_names valid)).imp fun {inst inst'} different => ?_
      simp only [slotsFrom, List.mem_map]
      rintro _ ⟨b, -, rfl⟩ _ ⟨c, -, rfl⟩ _ ⟨d, -, rfl⟩ _ ⟨e, -, rfl⟩ same
      exact absurd same different

/-- Before a member of a bank asks for an interface, the members with smaller indices do. -/
theorem mem_before (valid : p.validate = .ok ()) (whole : p.slots = before ++ slot :: after)
    (member : slot.key.bankIndex = some index) {smaller : Nat} (less : smaller < index) :
    { slot with key := ⟨slot.key.instanceName, some smaller⟩ } ∈ before := by
  have mem : slot ∈ p.slots := by simp [whole]
  obtain ⟨inst, hinst, bank, hbank, key, declared⟩ := mem_slots.mp mem
  have mem' : { slot with key := ⟨slot.key.instanceName, some smaller⟩ } ∈ p.slots := by
    refine mem_slots.mpr ⟨inst, hinst, some smaller, ?_, by rw [key], declared⟩
    rw [key] at member
    subst member
    unfold Instance.members at hbank ⊢
    cases hw : inst.bankWidth with
    | none => simp [hw] at hbank
    | some width =>
        simp only [hw, List.mem_map, List.mem_range, Option.some.injEq, exists_eq_right] at hbank ⊢
        omega
  rw [whole, List.mem_append, List.mem_cons] at mem'
  rcases mem' with first | same | later
  · exact first
  · have key := congrArg (fun s => s.key.bankIndex) same
    rw [member] at key
    cases key
    omega
  · have ordered := pairwise_slots valid
    rw [whole, List.pairwise_append, List.pairwise_cons] at ordered
    have order := ordered.2.1.1 _ later rfl
    rw [member] at order
    simp only [Option.getD_some] at order
    omega

/-- An interface that was given out obeys the law. -/
theorem Lawful.exists_law (h : Lawful slots posts) (mem : slot ∈ slots) :
    ∃ earlier i, InterfaceLaw earlier slot (.ok i) := by
  obtain ⟨before, after, rfl⟩ := List.append_of_mem mem
  obtain ⟨earlier, i, -, -, -, law⟩ := h.split
  exact ⟨earlier, i, law⟩

/-- An interface for which an address is declared has one that was moved to its place in the
bank. -/
theorem ofMember?_of_law {earlier : List Post} (law : InterfaceLaw earlier slot (.ok i))
    (declared : slot.decl.carrier.address? ≠ none) :
    ∃ a b, Address.ofMember? slot.key.bankIndex a = some b := by
  generalize ok : Except.ok i = outcome at law
  cases law with
  | repeated => cases ok
  | named _ law =>
      obtain ⟨binding, bound, -⟩ := map_eq_ok_iff.mp ok.symm
      rw [bound] at law
      generalize carrier : slot.decl.carrier = c at law declared
      generalize bound : Except.ok binding = outcome at law
      cases law with
      | tcp law =>
          obtain ⟨b, rfl, -⟩ := map_eq_ok_iff.mp bound.symm
          obtain ⟨a, moved⟩ := law.exists_ofMember? declared
          exact ⟨a, b, moved⟩
      | coap law =>
          obtain ⟨b, rfl, -⟩ := map_eq_ok_iff.mp bound.symm
          obtain ⟨a, moved⟩ := law.exists_ofMember? declared
          exact ⟨a, b, moved⟩
      | uart => exact absurd rfl declared
      | custom => exact absurd rfl declared

/-- When a member of a bank has its turn, its index is small if an address is declared. -/
theorem index_le_of_lawful (valid : p.validate = .ok ()) (whole : p.slots = before ++ slot :: after)
    (lawful : Lawful before posts) (declared : slot.decl.carrier.address? ≠ none)
    (member : slot.key.bankIndex = some index) : index ≤ 2 ^ 63 := by
  by_contra large
  have less : 65537 < index := by omega
  have mem := mem_before valid whole member less
  obtain ⟨earlier, i, law⟩ := lawful.exists_law mem
  obtain ⟨a, b, moved⟩ := ofMember?_of_law law declared
  have beyond : a.ofMember? (some 65537) = none := ofMember?_eq_none (by decide) a
  cases beyond.symm.trans moved

/-! ## One interface -/

/-- The first interfaces of the line were given out by the law, and nothing else is claimed. -/
structure Reached (slots : List Slot) (posts : List Post) (s : Allocation) : Prop where
  /-- The law was followed. -/
  lawful : Lawful slots posts
  /-- Exactly what the interfaces own is claimed. -/
  grants : Allocation.Grants {} ((posts.map (·.2.binding)).filterMap (·.resource?)) s

/-- An interface with a new name gets what the law says. -/
theorem Reached.law (h : Reached before posts s) (valid : p.validate = .ok ())
    (whole : p.slots = before ++ slot :: after)
    (new : ¬ ∃ x ∈ posts, x.1 = slot.key ∧ x.2.name = slot.name) :
    InterfaceLaw posts slot
      (((slot.decl.carrier.claim slot.key.bankIndex s).map (·.1)).map
        fun binding => ⟨slot.name, binding, []⟩) := by
  refine InterfaceLaw.named new (bindingLaw_claim (records_of_grants h.grants) _ ?_)
  intro declared index member
  exact index_le_of_lawful valid whole h.lawful declared member

/-- Where what an interface needs can be claimed, it is given out. -/
theorem Reached.step {binding : Binding} (h : Reached before posts s) (valid : p.validate = .ok ())
    (whole : p.slots = before ++ slot :: after)
    (new : ¬ ∃ x ∈ posts, x.1 = slot.key ∧ x.2.name = slot.name)
    (claimed : slot.decl.carrier.claim slot.key.bankIndex s = .ok (binding, t)) :
    Reached (before ++ [slot]) (posts ++ [(slot.key, ⟨slot.name, binding, []⟩)]) t := by
  have law := h.law valid whole new
  rw [claimed] at law
  refine ⟨h.lawful.snoc law, ?_⟩
  have last : [binding].filterMap (·.resource?) = binding.resource?.toList := by
    cases owned : binding.resource? <;> simp [owned]
  rw [List.map_append, List.filterMap_append, List.map_singleton, last]
  exact h.grants.trans (grants_of_claim claimed)

/-- Where it cannot be claimed, the law has refused the interface. -/
theorem Reached.failsAt (h : Reached before posts s) (valid : p.validate = .ok ())
    (whole : p.slots = before ++ slot :: after)
    (new : ¬ ∃ x ∈ posts, x.1 = slot.key ∧ x.2.name = slot.name)
    (refused : slot.decl.carrier.claim slot.key.bankIndex s = .error fault) :
    FailsAt p.slots slot.key fault := by
  have law := h.law valid whole new
  rw [refused] at law
  exact ⟨before, slot, after, posts, whole, h.lawful, law, rfl⟩

/-! ## One federate -/

/-- The interfaces that a federate was given so far are those of the list, by their names. -/
def Knows (key : FederateKey) (earlier : List Interface) (posts : List Post) : Prop :=
  ∀ name, (∃ i ∈ earlier, i.name = name) ↔ ∃ x ∈ posts, x.1 = key ∧ x.2.name = name

/-- One more interface is known after it was given. -/
theorem Knows.cons {earlier : List Interface} (h : Knows key earlier posts) (i : Interface) :
    Knows key (i :: earlier) (posts ++ [(key, i)]) := by
  intro name
  simp only [List.exists_mem_cons_iff, h name, List.mem_append, List.mem_singleton]
  constructor
  · rintro (rfl | ⟨x, hx, same⟩)
    · exact ⟨_, Or.inr rfl, rfl, rfl⟩
    · exact ⟨x, Or.inl hx, same⟩
  · rintro ⟨x, hx | rfl, same⟩
    · exact Or.inr ⟨x, hx, same⟩
    · exact Or.inl same.2

/-- What a federate asks for, one interface at a time. -/
theorem slotsFrom_cons (key : FederateKey) (position : Nat) (d : InterfaceDecl)
    (ds : List InterfaceDecl) :
    slotsFrom key position (d :: ds) = ⟨key, position, d⟩ :: slotsFrom key (position + 1) ds := rfl

/-- Interfaces that are claimed one after the other follow the law. -/
theorem law_claimAll {ds : List InterfaceDecl} {earlier : List Interface}
    (valid : p.validate = .ok ()) (h : Reached before posts s)
    (whole : p.slots = before ++ (slotsFrom key earlier.length ds ++ after))
    (knows : Knows key earlier posts) :
    (∀ is t, claimAll key.bankIndex earlier ds s = (.ok is, t) →
      ∃ later, is = earlier.reverse ++ later ∧
        Reached (before ++ slotsFrom key earlier.length ds) (posts ++ later.map (key, ·)) t) ∧
    (∀ fault t, claimAll key.bankIndex earlier ds s = (.error fault, t) →
      FailsAt p.slots key fault) := by
  induction ds generalizing before posts earlier s with
  | nil =>
      constructor
      · intro is t claimed
        cases claimed
        exact ⟨[], by simp, by simpa [slotsFrom] using h⟩
      · intro fault t claimed
        cases claimed
  | cons d ds ih =>
      rw [slotsFrom_cons, List.cons_append] at whole
      have known := knows (d.nameAt earlier.length)
      have fresh : (∀ i ∈ earlier, i.name ≠ d.nameAt earlier.length) →
          ¬ ∃ x ∈ posts, x.1 = key ∧ x.2.name = d.nameAt earlier.length := by
        rw [← known]
        rintro new ⟨i, hi, same⟩
        exact new i hi same
      -- where this interface is given, the others follow the law behind it
      have behind := fun binding u new (claim : d.carrier.claim key.bankIndex s = .ok (binding, u)) =>
        ih (h.step valid whole (fresh new) claim) (by rw [whole, List.append_assoc]; rfl)
          (knows.cons ⟨d.nameAt earlier.length, binding, []⟩)
      constructor
      · intro is t claimed
        obtain ⟨new, binding, u, claim, rest⟩ := claimInTurn_cons_eq_ok_iff.mp claimed
        obtain ⟨later, rfl, reached⟩ := (behind binding u new claim).1 is t rest
        refine ⟨⟨d.nameAt earlier.length, binding, []⟩ :: later, by simp, ?_⟩
        rw [slotsFrom_cons, List.append_cons before, List.map_cons, List.append_cons posts]
        exact reached
      · intro fault t claimed
        rcases claimInTurn_cons_eq_error_iff.mp claimed with
          ⟨repeated, rfl, -⟩ | ⟨new, ⟨refused, -⟩ | ⟨binding, u, claim, rest⟩⟩
        · exact ⟨before, _, _, posts, whole, h.lawful,
            InterfaceLaw.repeated (known.mp repeated), rfl⟩
        · exact h.failsAt valid whole (fresh new) refused
        · exact (behind binding u new claim).2 fault t rest

/-- A federate that declares no interfaces gets what one gets that declares one for TCP. -/
theorem claim_declarations (inst : Instance) (bank : Option Nat) (s : Allocation) :
    Interfaces.claim inst.declarations bank s = Interfaces.claim inst.interfaces bank s := by
  unfold Instance.declarations
  cases inst.interfaces with
  | nil => rfl
  | cons d ds => rfl

/-- Every instance declares an interface. -/
theorem declarations_ne_nil (inst : Instance) : inst.declarations ≠ [] := by
  unfold Instance.declarations
  split
  · exact List.cons_ne_nil _ _
  · rename_i declared
    exact fun none => declared (List.isEmpty_iff.mpr none)

/-- The interfaces of a federate are what its declarations are claimed as, one after the other. -/
theorem claimAll_declarations {inst : Instance} {bank : Option Nat} {is : Interfaces}
    (h : Interfaces.claim inst.interfaces bank s = (.ok is, t)) :
    claimAll bank [] inst.declarations s = (.ok is.toList, t) := by
  rw [← claim_declarations] at h
  obtain ⟨list, claimed, rfl⟩ := claim_eq_ok_iff.mp h
  -- there is at least one declaration, hence at least one interface
  have lengths := length_claimAll claimed
  have some := List.length_pos_iff.mpr (declarations_ne_nil inst)
  have kept : list ≠ [] := List.length_pos_iff.mp (by omega)
  rw [Interfaces.toList_ofList kept]
  exact claimed

/-- Claiming the interfaces of a federate follows the law. -/
theorem law_claim {inst : Instance} (valid : p.validate = .ok ()) (h : Reached before posts s)
    (whole : p.slots = before ++ (slotsFrom key 0 inst.declarations ++ after))
    (first : ∀ x ∈ posts, x.1 ≠ key) :
    (∀ is t, Interfaces.claim inst.interfaces key.bankIndex s = (.ok is, t) →
      Reached (before ++ slotsFrom key 0 inst.declarations)
        (posts ++ is.toList.map (key, ·)) t) ∧
    (∀ fault t, Interfaces.claim inst.interfaces key.bankIndex s = (.error fault, t) →
      FailsAt p.slots key fault) := by
  have knows : Knows key [] posts := by
    intro name
    simp only [List.not_mem_nil, false_and, exists_false, false_iff]
    rintro ⟨x, hx, same, -⟩
    exact first x hx same
  have line : p.slots =
      before ++ (slotsFrom key ([] : List Interface).length inst.declarations ++ after) := whole
  obtain ⟨given, refused⟩ := law_claimAll valid h line knows
  constructor
  · intro is t claimed
    obtain ⟨later, same, reached⟩ := given is.toList t (claimAll_declarations claimed)
    rw [same]
    exact reached
  · intro fault t claimed
    rw [← claim_declarations] at claimed
    exact refused fault t (claim_eq_error_iff.mp claimed)

/-! ## All federates -/

/-- Claiming the interfaces of federates follows the law. -/
theorem law_claimFederates {members : List (FederateKey × Instance)} (valid : p.validate = .ok ())
    (h : Reached before posts s)
    (whole : p.slots = before ++ members.flatMap fun m => slotsFrom m.1 0 m.2.declarations)
    (distinct : (members.map (·.1)).Nodup) (first : ∀ x ∈ posts, x.1 ∉ members.map (·.1)) :
    (∀ fs t, claimFederates members s = .ok (fs, t) → Reached p.slots (posts ++ postsOf fs) t) ∧
    (∀ key fault, claimFederates members s = .error (key, fault) → FailsAt p.slots key fault) := by
  induction members generalizing before posts s with
  | nil =>
      constructor
      · intro fs t claimed
        cases claimed
        simpa [whole, postsOf] using h
      · intro key fault claimed
        cases claimed
  | cons member members ih =>
      obtain ⟨key, inst⟩ := member
      rw [List.flatMap_cons] at whole
      rw [List.map_cons] at first distinct
      obtain ⟨new, distinct⟩ := List.nodup_cons.mp distinct
      obtain ⟨given, refused⟩ := law_claim valid h whole fun x hx same =>
        first x hx (same ▸ List.mem_cons_self)
      have others : ∀ is : Interfaces, ∀ x ∈ posts ++ is.toList.map (key, ·),
          x.1 ∉ members.map (·.1) := by
        intro is x hx
        rcases List.mem_append.mp hx with hx | hx
        · exact fun known => first x hx (List.mem_cons_of_mem _ known)
        · obtain ⟨i, -, rfl⟩ := List.mem_map.mp hx
          exact new
      -- where this federate has its interfaces, the others follow the law behind it
      have behind := fun is u claim =>
        ih (given is u claim) (by rw [whole, List.append_assoc]) distinct (others is)
      constructor
      · intro fs t claimed
        obtain ⟨is, u, rest, claim, later, rfl⟩ := claimFederates_cons_eq_ok_iff.mp claimed
        have reached := (behind is u claim).1 rest t later
        rw [List.append_assoc] at reached
        exact reached
      · intro other fault claimed
        rcases claimFederates_cons_eq_error_iff.mp claimed with
          ⟨rfl, u, failed⟩ | ⟨is, u, claim, later⟩
        · exact refused fault u failed
        · exact (behind is u claim).2 other fault later

/-- Choosing the grandmaster keeps the interfaces. -/
theorem postsOf_chooseGrandmaster (fs : List Federate) :
    postsOf (chooseGrandmaster fs) = postsOf fs := by
  have stations : ∀ gs : List Federate,
      postsOf gs = (gs.map (·.station)).flatMap fun f => f.2.toList.map (f.1, ·) := by
    intro gs
    rw [List.flatMap_map]
    rfl
  rw [stations, stations, map_station_chooseGrandmaster]

/-- Enlisting federates follows the law. -/
theorem law_enlist (valid : p.validate = .ok ()) (federated : p.federated = true) :
    (∀ n, Federation.enlist p = .ok n → Lawful p.slots (postsOf n.federates)) ∧
    (∀ fault, Federation.enlist p = .error fault →
      ∃ key cause, FailsAt p.slots key cause ∧ fault = .federate key.text cause) := by
  have fresh : Reached [] [] {} := ⟨Lawful.nil, Allocation.Grants.refl {}⟩
  have distinct : (p.members.map (·.1)).Nodup := by
    have keys := nodup_keys valid
    rwa [Program.keys, if_pos federated] at keys
  obtain ⟨given, refused⟩ := law_claimFederates valid fresh rfl distinct (by simp)
  unfold Federation.enlist
  rw [if_pos federated]
  constructor
  · intro n enlisted
    split at enlisted
    · rename_i fs t claimed
      cases enlisted
      rw [postsOf_chooseGrandmaster]
      exact (given fs t claimed).lawful
    · cases enlisted
  · intro fault enlisted
    split at enlisted
    · cases enlisted
    · rename_i key cause claimed
      cases enlisted
      exact ⟨key, cause, refused key cause claimed, rfl⟩

/-- **Federates are enlisted by the law.** A federated program that passes its checks gets its
federates, with their interfaces, exactly where the law gives every interface something, and they
are what the law gives. If it gives an interface nothing, the first such interface is the reason why
the federates cannot be enlisted, and the program has no topology; the fault names the federate. -/
theorem enlist_law (p : Program) (valid : p.validate = .ok ()) (federated : p.federated = true) :
    (∀ posts, Lawful p.slots posts ↔
      ∃ n, Federation.enlist p = .ok n ∧ n.federates.map (·.key) = p.members.map (·.1) ∧
        postsOf n.federates = posts) ∧
    (∀ fault, Federation.enlist p = .error fault ↔
      ∃ key cause, FailsAt p.slots key cause ∧ fault = .federate key.text cause) ∧
    (∀ fault, Federation.enlist p = .error fault → Federation.resolve p = .error fault) := by
  obtain ⟨given, refused⟩ := law_enlist valid federated
  refine ⟨?_, ?_, fun fault => resolve_of_enlist_error valid⟩
  · intro posts
    constructor
    · intro lawful
      cases enlisted : Federation.enlist p with
      | ok n =>
          have keys := map_key_enlist enlisted
          rw [Program.keys, if_pos federated] at keys
          exact ⟨n, rfl, keys, (given n enlisted).deterministic lawful⟩
      | error fault =>
          obtain ⟨key, cause, fails, -⟩ := refused fault enlisted
          exact absurd lawful fails.not_lawful
    · rintro ⟨n, enlisted, -, rfl⟩
      exact given n enlisted
  · intro fault
    constructor
    · exact refused fault
    · rintro ⟨key, cause, fails, rfl⟩
      cases enlisted : Federation.enlist p with
      | ok n => exact absurd (given n enlisted) fails.not_lawful
      | error fault' =>
          obtain ⟨key', cause', fails', rfl⟩ := refused fault' enlisted
          obtain ⟨rfl, rfl⟩ := fails.deterministic fails'
          rfl

/-- A bank of two members, each of which asks for an address and for the serial device 3. -/
def terminals : Program where
  name := "terminals"
  federated := true
  instances :=
    [{ name := "t", bankWidth := some 2,
       interfaces := [⟨none, .tcp (some "10.0.0.1")⟩, ⟨some "line", .uart (some 3) {}⟩] }]

/-- The interface with an address that a terminal asks for. -/
def terminalHost (index : Nat) : Slot :=
  ⟨⟨"t", some index⟩, 0, ⟨none, .tcp (some "10.0.0.1")⟩⟩

/-- The serial line that a terminal asks for. -/
def terminalLine (index : Nat) : Slot :=
  ⟨⟨"t", some index⟩, 1, ⟨some "line", .uart (some 3) {}⟩⟩

/-- What the terminals are given before one of them gets nothing. -/
def terminalPosts : List Post :=
  [(⟨"t", some 0⟩, ⟨"tcp_ip_0", .tcp (.v4 10 0 0 0), []⟩),
   (⟨"t", some 0⟩, ⟨"line", .uart ⟨3, {}⟩, []⟩),
   (⟨"t", some 1⟩, ⟨"tcp_ip_0", .tcp (.v4 10 0 0 1), []⟩)]

/-- The second terminal gets the address as declared, but not the device that the first one has. -/
theorem terminals_refused : terminals.validate = .ok () ∧ terminals.federated = true ∧
    Federation.enlist terminals = .error (.federate "t_1" (.deviceInUse 3)) := by
  have valid : terminals.validate = .ok () := rfl
  have read : Address.read? "10.0.0.1" = some (.v4 10 0 0 1) := by decide +kernel
  -- the first terminal gets the address below the one that is declared, and the device
  have address : AddressLaw (some 0) [] (some "10.0.0.1") (.ok (.v4 10 0 0 0)) :=
    AddressLaw.asked read rfl (Or.inr (by simp))
  have host := @InterfaceLaw.named [] (terminalHost 0) _ (by decide) (BindingLaw.tcp address)
  have device : DeviceLaw [] (some 3) (.ok 3) := DeviceLaw.asked (by decide) (by simp)
  have line := @InterfaceLaw.named (terminalPosts.take 1) (terminalLine 0) _ (by decide)
    (BindingLaw.uart device)
  -- the second one gets the address that is declared, and no device
  have address : AddressLaw (some 1) [.v4 10 0 0 0] (some "10.0.0.1") (.ok (.v4 10 0 0 1)) :=
    AddressLaw.asked read rfl (Or.inr (by decide))
  have host' := @InterfaceLaw.named (terminalPosts.take 2) (terminalHost 1) _ (by decide)
    (BindingLaw.tcp address)
  have device : DeviceLaw [3] (some 3) (.error (.deviceInUse 3)) :=
    DeviceLaw.inUse (by decide) (by decide)
  have line' := @InterfaceLaw.named terminalPosts (terminalLine 1) _ (by decide)
    (BindingLaw.uart device)
  have given : Lawful [terminalHost 0, terminalLine 0, terminalHost 1] terminalPosts :=
    ((Lawful.nil.snoc host).snoc line).snoc host'
  have fails : FailsAt terminals.slots ⟨"t", some 1⟩ (.deviceInUse 3) :=
    ⟨_, terminalLine 1, [], _, rfl, given, line', rfl⟩
  exact ⟨valid, rfl, ((enlist_law terminals valid rfl).2.1 _).mpr ⟨_, _, fails, rfl⟩⟩

end ReactorNet
