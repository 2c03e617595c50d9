import Mathlib.Algebra.BigOperators.Group.List.Basic
import Mathlib.Algebra.Group.Action.Defs
import Mathlib.Algebra.GroupWithZero.Nat
import Mathlib.Algebra.Order.BigOperators.Group.List
import Mathlib.Algebra.Order.Group.Nat
import Mathlib.Data.List.Perm.Subperm
import Mathlib.Data.List.Range
import ReactorNet.Proofs.Ownership

/-!
# `ReactorNet.Proofs.Views` · what single federates and bundles see

A topology is looked at federate by federate and bundle by bundle: which groups stay inside a
federate, which a bundle carries, how many bundles and neighbours a federate has. Each view is a
filter of its own over groups or bundles. `resolve_counted` says that together they see every group
as often as they should, and that their numbers fit.

**Why nothing is seen twice.** Bundles divide the groups that cross (`perm_groupsOf`), and federates
divide the groups that stay and whose source has an owner (`perm_localGroups`). No two bundles join
the same federates in the same direction, so a neighbour accounts for two bundles at most.
-/

namespace ReactorNet

variable {p : Program} {f : Federation} {groups : List Group} {g : Group} {b : Bundle} {i j k n : Nat}

/-! ## Counting -/

/-- A list in which no element occurs more than `c` times has at most `c` times as many elements as
there are different ones. -/
theorem length_le_mul_eraseDups {κ : Type} [DecidableEq κ] {l : List κ} {c : Nat}
    (bounded : ∀ a, l.count a ≤ c) : l.length ≤ c * l.eraseDups.length := by
  have divided := perm_flatMap_filter (l := l) (f := id) (q := fun _ => true) (nodup_eraseDups l)
    fun a ha => iff_of_true rfl (List.mem_eraseDups.mpr ha)
  have total := divided.length_eq
  rw [List.filter_true, List.length_flatMap] at total
  have share : ∀ x ∈ l.eraseDups.map fun a => (l.filter fun y => id y = a).length, x ≤ c := by
    intro x hx
    obtain ⟨a, -, rfl⟩ := List.mem_map.mp hx
    have counted : (l.filter fun y => id y = a).length = l.count a := by
      rw [List.count, List.countP_eq_length_filter]
      congr 1
    rw [counted]
    exact bounded a
  have bound := List.sum_le_card_nsmul _ c share
  rwa [total, List.length_map, smul_eq_mul, Nat.mul_comm] at bound

/-- There are no more different elements than elements. -/
theorem length_eraseDups_le {κ : Type} [DecidableEq κ] (l : List κ) :
    l.eraseDups.length ≤ l.length := by
  have distinct : l.eraseDups.Nodup := nodup_eraseDups l
  exact (distinct.subperm fun _ ha => List.mem_eraseDups.mp ha).length_le

/-- If every element has a property for two of the numbers below `n`, then the numbers of elements
that have it, over all numbers below `n`, add up to twice the number of elements. -/
theorem sum_length_filter {α : Type} {l : List α} {q : Nat → α → Bool}
    (two : ∀ a ∈ l, ((List.range n).filter fun i => q i a).length = 2) :
    ((List.range n).map fun i => (l.filter (q i)).length).sum = 2 * l.length := by
  induction l with
  | nil => simp
  | cons a l ih =>
      have first := two a List.mem_cons_self
      have rest := ih fun c hc => two c (List.mem_cons_of_mem a hc)
      have step : ∀ i, ((a :: l).filter (q i)).length =
          (if q i a then 1 else 0) + (l.filter (q i)).length := by
        intro i
        rw [List.filter_cons]
        split
        · rw [List.length_cons, Nat.add_comm]
        · rw [Nat.zero_add]
      have ones : ((List.range n).map fun i => if q i a then 1 else 0).sum = 2 := by
        rw [← first, List.sum_map_ite]
        simp
      simp only [step, List.sum_map_add, ones, rest, List.length_cons]
      omega

/-! ## Bundles divide the groups that cross -/

/-- A group crosses between federates if it has a destination. -/
theorem isSome_crossing? {owners : Owners} (grouped : groupConnections p owners = .ok groups)
    (hg : g ∈ groups) : g.crossing?.isSome = g.isFederated := by
  obtain ⟨q, hq⟩ := List.exists_mem_of_ne_nil _ ((grouped_of_groupConnections grouped).nonempty g hg)
  obtain ⟨k, s, ps, -, -, key⟩ := exists_statement_of_mem_group grouped hg hq
  unfold Group.crossing? Group.isFederated
  rw [← key]
  unfold ChannelPair.groupKey
  -- a pair with a destination in its key has two owners
  rcases crosses : q.isFederated with _ | _
  · cases q.source.federate with
    | none => rfl
    | some s => rfl
  · unfold ChannelPair.isFederated at crosses
    split at crosses
    · rename_i source destination
      simp [source, destination]
    · cases crosses

/-- The numbers of the groups that cross lead back to these groups. -/
theorem filterMap_crossings {later : List Group} (h : groups.drop i = later) :
    ((crossings i later).map (·.2)).filterMap (fun k => groups[k]?) =
      later.filter fun g => g.crossing?.isSome := by
  induction later generalizing i with
  | nil => rfl
  | cons g later ih =>
      have here : groups[i]? = some g := by
        rw [← List.head?_drop, h, List.head?_cons]
      have rest : groups.drop (i + 1) = later := by
        rw [← List.drop_drop, h, List.drop_one, List.tail_cons]
      rw [crossings_cons, List.map_append, List.filterMap_append, ih rest, List.filter_cons]
      cases g.crossing? with
      | none => rfl
      | some federates => simp [here]

/-- The groups of bundles are the groups that cross, each in one bundle. -/
theorem perm_groupsOf (h : Federation.resolve p = .ok f) :
    (f.bundles.flatMap f.groupsOf).Perm (f.groups.filter (·.isFederated)) := by
  have divided := (gathered_partition f.groups).perm_share.map (·.2)
  rw [List.map_flatMap] at divided
  have parts : f.bundles.flatMap (·.groups) =
      (partition f.groups).flatMap fun part =>
        (parting.share (crossings 0 f.groups) part).map (·.2) := by
    rw [← map_toPart_resolve h, List.flatMap_map]
    refine List.flatMap_congr fun b hb => ?_
    exact (part_groups (toPart_mem_partition h hb)).1
  have numbers := divided.filterMap fun k => f.groups[k]?
  rw [← parts, List.filterMap_flatMap, filterMap_crossings List.drop_zero] at numbers
  have federated : (f.groups.filter fun g => g.crossing?.isSome) = f.groups.filter (·.isFederated) :=
    List.filter_congr fun g hg => isSome_crossing? (groups_resolve h) hg
  rwa [federated] at numbers

/-- No two groups of a topology are the same. -/
theorem nodup_groups (h : Federation.resolve p = .ok f) : f.groups.Nodup := by
  have uid := (grouped_of_groupConnections (groups_resolve h)).uid
  rw [List.nodup_iff_getElem?_ne_getElem?]
  intro i j hij hj same
  have atJ : f.groups[j]? = some f.groups[j] := List.getElem?_eq_getElem hj
  -- groups are numbered by their positions
  have first := uid i _ (same.trans atJ)
  have second := uid j _ atJ
  omega

/-! ## Federates divide the groups that stay -/

/-- A group has a source if the program is federated and the group leaves a port of an instance; the
source is then a federate of the topology. -/
theorem mem_range_iff (h : Federation.resolve p = .ok f) (hg : g ∈ f.groups) :
    g.key.sourceFederate ∈ (List.range f.federates.length).map some ↔
      p.federated = true ∧ g.key.sourcePort.instanceName.isSome = true := by
  have grouped := groups_resolve h
  obtain ⟨q, hq⟩ := List.exists_mem_of_ne_nil _ ((grouped_of_groupConnections grouped).nonempty g hg)
  obtain ⟨k, s, ps, expanded, hps, key⟩ := exists_statement_of_mem_group grouped hg hq
  have isChannel := (joins_of_mem_pairs expanded hps).1
  have port : g.key.sourcePort = q.sourcePort := by rw [← key]; rfl
  have source : g.key.sourceFederate = q.source.federate := by rw [← key]; rfl
  rw [port, source]
  by_cases federated : p.federated = true
  · have belongs := belongs_of_isChannel h federated isChannel
    unfold Federation.Belongs at belongs
    simp only [federated, true_and]
    cases hname : q.sourcePort.instanceName with
    | none =>
        rw [hname] at belongs
        simp [belongs]
    | some name =>
        rw [hname] at belongs
        obtain ⟨inst, k, -, owner, unique⟩ := belongs
        obtain ⟨g', hg', -⟩ := (unique k).mpr rfl
        have hk : k < f.federates.length := (List.getElem?_eq_some_iff.mp hg').1
        simp [owner, hk]
  · obtain ⟨-, -, -, -, -, owner⟩ := shape_of_isChannel isChannel
    have nobody : q.source.federate = none := by
      rw [owner, Program.owner?, Program.owners, Program.keys, if_neg federated]
      cases q.sourcePort.instanceName <;> rfl
    simp [federated, nobody]

/-- The groups of federates are the groups that stay and have a source, each in one federate. -/
theorem perm_localGroups (h : Federation.resolve p = .ok f) :
    ((List.range f.federates.length).flatMap f.localGroups).Perm
      ((f.groups.filter fun g => !g.isFederated).filter fun g =>
        p.federated && g.key.sourcePort.instanceName.isSome) := by
  have distinct : ((List.range f.federates.length).map some).Nodup :=
    List.nodup_range.map (Option.some_injective Nat)
  have divided := perm_flatMap_filter (l := f.groups.filter fun g => !g.isFederated)
    (f := fun g => g.key.sourceFederate)
    (q := fun g => p.federated && g.key.sourcePort.instanceName.isSome) distinct fun g hg => by
      rw [Bool.and_eq_true]
      exact (mem_range_iff h (List.mem_filter.mp hg).1).symm
  rw [List.flatMap_map] at divided
  have views : (List.range f.federates.length).flatMap f.localGroups =
      (List.range f.federates.length).flatMap fun i =>
        (f.groups.filter fun g => !g.isFederated).filter fun g => g.key.sourceFederate = some i := by
    refine List.flatMap_congr fun i _ => ?_
    rw [Federation.localGroups, List.filter_filter]
    refine List.filter_congr fun g _ => ?_
    rw [Bool.and_comm, beq_eq_decide]
  rwa [views]

/-! ## The bundles of a federate -/

/-- A bundle joins two different federates of the topology. -/
theorem ends_of_mem_bundles (h : Federation.resolve p = .ok f) (hb : b ∈ f.bundles) :
    b.source < f.federates.length ∧ b.destination < f.federates.length ∧
      b.source ≠ b.destination := by
  have count : f.federates.length = p.keys.length := by
    rw [← map_key_resolve h, List.length_map]
  rw [count]
  exact ends_of_mem_partition (resolve_eq_ok_iff.mp h).1 (groups_resolve h) (toPart_mem_partition h hb)

/-- A bundle involves two federates. -/
theorem length_filter_involves (hs : b.source < n) (hd : b.destination < n)
    (different : b.source ≠ b.destination) :
    ((List.range n).filter fun i => b.involves i).length = 2 := by
  have ends : ((List.range n).filter fun i => b.involves i).Perm [b.source, b.destination] := by
    rw [List.perm_ext_iff_of_nodup (List.nodup_range.filter _) (by simpa using different)]
    intro i
    simp only [List.mem_filter, List.mem_range, Bundle.involves, Bool.or_eq_true, beq_iff_eq,
      List.mem_cons, List.not_mem_nil, or_false]
    constructor
    · rintro ⟨-, rfl | rfl⟩
      · exact Or.inl rfl
      · exact Or.inr rfl
    · rintro (rfl | rfl)
      · exact ⟨hs, Or.inl rfl⟩
      · exact ⟨hd, Or.inr rfl⟩
  exact ends.length_eq

/-- The peer of a federate is at the other end. -/
theorem peer?_eq_some_iff : b.peer? i = some j ↔
    (b.source = i ∧ b.destination = j) ∨ (b.source ≠ i ∧ b.destination = i ∧ b.source = j) := by
  unfold Bundle.peer? Bundle.side?
  by_cases hs : b.source = i
  · subst hs
    simp [Side.choose]
  · by_cases hd : b.destination = i
    · subst hd
      simp [hs, Ne.symm hs, Side.choose]
    · simp [hs, hd, Ne.symm hs, Ne.symm hd]

/-- A federate has a peer in every bundle that it takes part in. -/
theorem length_peers (f : Federation) (i : Nat) :
    ((f.bundlesOf i).filterMap fun b => b.peer? i).length = (f.bundlesOf i).length := by
  refine List.filterMap_length_eq_length.mpr fun b hb => ?_
  have involved := (List.mem_filter.mp hb).2
  rw [Bundle.involves, Bool.or_eq_true, beq_iff_eq, beq_iff_eq] at involved
  by_cases hs : b.source = i
  · exact Option.isSome_of_eq_some (peer?_eq_some_iff.mpr (Or.inl ⟨hs, rfl⟩))
  · exact Option.isSome_of_eq_some
      (peer?_eq_some_iff.mpr (Or.inr ⟨hs, involved.resolve_left hs, rfl⟩))

/-- A federate shares two bundles at most with a peer: one in either direction. -/
theorem count_peers_le (h : Federation.resolve p = .ok f) (i j : Nat) :
    ((f.bundlesOf i).filterMap fun b => b.peer? i).count j ≤ 2 := by
  rw [List.count_filterMap, List.countP_eq_length_filter,
    ← List.length_map (fun b : Bundle => (b.source, b.destination))]
  have distinct : (((f.bundlesOf i).filter fun b => b.peer? i == some j).map
      fun b => (b.source, b.destination)).Nodup := by
    have all : (f.bundles.map fun b => (b.source, b.destination)).Nodup := by
      rw [map_ends_resolve h]
      exact (gathered_partition f.groups).distinct
    exact all.sublist ((List.filter_sublist.trans List.filter_sublist).map _)
  have ends : (((f.bundlesOf i).filter fun b => b.peer? i == some j).map
      fun b => (b.source, b.destination)) ⊆ [(i, j), (j, i)] := by
    intro x hx
    obtain ⟨b, hb, rfl⟩ := List.mem_map.mp hx
    have peer := (List.mem_filter.mp hb).2
    rw [beq_iff_eq, peer?_eq_some_iff] at peer
    rcases peer with ⟨rfl, rfl⟩ | ⟨-, rfl, rfl⟩
    · exact List.mem_cons_self
    · exact List.mem_cons_of_mem _ List.mem_cons_self
  exact (distinct.subperm ends).length_le

/-! ## Topologies -/

/-- How the views of a topology add up. -/
structure Federation.Counted (p : Program) (f : Federation) : Prop where
  /-- A group that crosses is listed in one bundle, and once there; any other in none. -/
  bundled : ∀ g ∈ f.groups, (f.bundles.flatMap f.groupsOf).count g = if g.isFederated then 1 else 0
  /-- A group that stays is listed in one federate, and once there, if the program is federated and
  the group leaves a port of an instance; any other in none. -/
  kept : ∀ g ∈ f.groups, ((List.range f.federates.length).flatMap f.localGroups).count g =
    if g.isFederated = false ∧ p.federated = true ∧ g.key.sourcePort.instanceName.isSome = true
    then 1 else 0
  /-- As many groups leave the sources of bundles as cross. -/
  outputs : (f.bundles.map fun b => b.outputs b.source).sum = f.groups.countP (·.isFederated)
  /-- As many groups enter the destinations of bundles as cross. -/
  inputs : (f.bundles.map fun b => b.inputs b.destination).sum = f.groups.countP (·.isFederated)
  /-- Each bundle is one of two federates. -/
  bundles : ((List.range f.federates.length).map fun i => (f.bundlesOf i).length).sum =
    2 * f.bundles.length
  /-- A federate has no more neighbours than bundles, and at most two bundles with each of them. -/
  neighbors : ∀ i, (f.neighbors i).length ≤ (f.bundlesOf i).length ∧
    (f.bundlesOf i).length ≤ 2 * (f.neighbors i).length
  /-- A federate needs three system events for each bundle, and two more. -/
  events : ∀ i, ClockSync.systemEvents (f.bundlesOf i).length = 3 * (f.bundlesOf i).length + 2

/-- Every number in a bundle is that of a group. -/
theorem length_groupsOf (h : Federation.resolve p = .ok f) (hb : b ∈ f.bundles) :
    (f.groupsOf b).length = b.groups.length := by
  refine List.filterMap_length_eq_length.mpr fun k hk => ?_
  obtain ⟨g, hg, -⟩ := (mem_groups_iff h hb).mp hk
  rw [hg]
  rfl

/-- The bundles of a topology have as many groups as cross. -/
theorem sum_length_groups (h : Federation.resolve p = .ok f) :
    (f.bundles.map fun b => b.groups.length).sum = f.groups.countP (·.isFederated) := by
  have divided := (perm_groupsOf h).length_eq
  rw [List.length_flatMap, ← List.countP_eq_length_filter] at divided
  rw [← divided]
  exact congrArg List.sum (List.map_congr_left fun b hb => (length_groupsOf h hb).symm)

/-- **The views of a topology add up.** Whatever program resolves: every group is seen as often as
it should be, by bundles, by federates or by none, and all numbers fit. -/
theorem resolve_counted (p : Program) (f : Federation) (h : Federation.resolve p = .ok f) :
    f.Counted p := by
  refine ⟨?_, ?_, ?_, ?_, ?_, ?_, fun _ => rfl⟩
  · intro g hg
    rw [(perm_groupsOf h).count_eq, ((nodup_groups h).filter _).count]
    simp [hg]
  · intro g hg
    rw [(perm_localGroups h).count_eq, (((nodup_groups h).filter _).filter _).count]
    refine if_congr ?_ rfl rfl
    simp [hg, and_comm]
  · rw [← sum_length_groups h]
    simp [Bundle.outputs]
  · rw [← sum_length_groups h]
    simp [Bundle.inputs]
  · refine sum_length_filter fun b hb => ?_
    obtain ⟨hs, hd, different⟩ := ends_of_mem_bundles h hb
    exact length_filter_involves hs hd different
  · intro i
    have peers := length_peers f i
    unfold Federation.neighbors
    constructor
    · rw [← peers]
      exact length_eraseDups_le _
    · rw [← peers]
      exact length_le_mul_eraseDups (count_peers_le h i)

/-- The relay with a connection that stays inside a federate, and one from a port of the program. -/
def relayTapped : Program :=
  { relay with
    ports := [{ name := "tick", width := 2 }]
    statements := relay.statements ++
      [{ left := [.ofInstance "a" "out"], right := [.ofInstance "a" "ack"] },
        { left := [.ofProgram "tick"], right := [.ofInstance "a" "ack"] }] }

/-- Four of its groups cross, one stays, and one has no source. The bank has two members, which have
bundles in both directions with the other federate. -/
theorem relayTapped_counted : ∃ f, Federation.resolve relayTapped = .ok f ∧ f.Counted relayTapped ∧
    f.groups.map (·.isFederated) = [true, true, true, true, false, false] ∧
    (List.range f.federates.length).map (fun i =>
      ((f.bundlesOf i).length, (f.neighbors i).length, (f.localGroups i).length)) =
        [(4, 2, 1), (2, 1, 0), (2, 1, 0)] := by
  have outcome : (Federation.resolve relayTapped).toOption.map (fun f =>
      (f.groups.map (·.isFederated), (List.range f.federates.length).map fun i =>
        ((f.bundlesOf i).length, (f.neighbors i).length, (f.localGroups i).length))) =
          some ([true, true, true, true, false, false], [(4, 2, 1), (2, 1, 0), (2, 1, 0)]) := by
    decide +kernel
  obtain ⟨f, hf, values⟩ := Option.map_eq_some_iff.mp outcome
  obtain ⟨groups, numbers⟩ := Prod.mk.inj values
  have hf := eq_ok_of_toOption hf
  exact ⟨f, hf, resolve_counted relayTapped f hf, groups, numbers⟩

end ReactorNet
