import ReactorNet.Proofs.Enlistment
import ReactorNet.Proofs.FirstLink

/-!
# `ReactorNet.Proofs.Partition` · which groups travel together

A bundle is a part of the groups before its channel is laid, and laying channels neither adds nor
drops a part (`map_toPart_layParts`). So what is said of parts is said of bundles: `resolve_bundled`
tells for which federates there is one, which groups it has, and in which order.

**Both directions.** Parts are told apart by an ordered pair of federates. Hence groups between the
same two federates share a bundle only if they go the same way.
-/

namespace ReactorNet

variable {p : Program} {owners : Owners} {groups groups' : List Group} {n m : Network} {part : Part}
  {parts : List Part} {bs : List Bundle} {federates : Nat × Nat} {i k : Nat} {f : Federation}

/-! ## Crossings -/

/-- A crossing is that of the group with its number. -/
theorem mem_crossings {x : (Nat × Nat) × Nat} :
    x ∈ crossings 0 groups ↔ ∃ g, groups[x.2]? = some g ∧ g.crossing? = some x.1 := by
  obtain ⟨federates, k⟩ := x
  rw [crossings, List.mem_filterMap]
  constructor
  · rintro ⟨⟨g, j⟩, hg, hx⟩
    obtain ⟨c, crossing, hc⟩ := Option.map_eq_some_iff.mp hx
    cases hc
    exact ⟨g, List.mem_zipIdx_iff_getElem?.mp hg, crossing⟩
  · rintro ⟨g, hg, crossing⟩
    refine ⟨(g, k), List.mem_zipIdx_iff_getElem?.mpr hg, ?_⟩
    rw [crossing]
    rfl

/-- Crossings stand in the order of their groups. -/
theorem pairwise_crossings (i : Nat) (groups : List Group) :
    (crossings i groups).Pairwise fun x y => x.2 < y.2 := by
  rw [crossings, List.pairwise_filterMap]
  have numbered : (groups.zipIdx i).Pairwise fun x y => x.2 < y.2 := by
    rw [← List.pairwise_map, List.zipIdx_map_snd]
    exact List.pairwise_lt_range'
  refine numbered.imp fun {x y} hxy a ha b hb => ?_
  obtain ⟨_, -, rfl⟩ := Option.map_eq_some_iff.mp ha
  obtain ⟨_, -, rfl⟩ := Option.map_eq_some_iff.mp hb
  exact hxy

/-! ## Parts -/

/-- The groups of a part are those that cross between its federates, in their order. -/
theorem part_groups (h : part ∈ partition groups) :
    part.2 = ((crossings 0 groups).filter fun x => x.1 = part.1).map (·.2) ∧ part.2 ≠ [] := by
  obtain ⟨k, hk⟩ := List.mem_iff_getElem?.mp h
  obtain ⟨x, xs, share, hrow⟩ := (gathered_partition groups).row k part hk
  have members : part.2 = (x :: xs).map (·.2) := by rw [hrow, parting_row]
  refine ⟨?_, ?_⟩
  · rw [members, ← share]
    rfl
  · rw [members]
    simp

/-- A group is in a part if it crosses between the federates of the part. -/
theorem mem_part_iff (h : part ∈ partition groups) :
    k ∈ part.2 ↔ ∃ g, groups[k]? = some g ∧ g.crossing? = some part.1 := by
  rw [(part_groups h).1, List.mem_map]
  constructor
  · rintro ⟨x, hx, rfl⟩
    obtain ⟨crosses, hx⟩ := List.mem_filter.mp hx
    rw [← of_decide_eq_true hx]
    exact mem_crossings.mp crosses
  · rintro crosses
    exact ⟨(part.1, k), List.mem_filter.mpr ⟨mem_crossings.mpr crosses, by simp⟩, rfl⟩

/-- The groups of a part stand in their order. -/
theorem pairwise_part (h : part ∈ partition groups) : part.2.Pairwise (· < ·) := by
  rw [(part_groups h).1, List.pairwise_map]
  exact (pairwise_crossings 0 groups).sublist List.filter_sublist

/-- There is a part for two federates if a group crosses between them. -/
theorem mem_map_partition_iff :
    federates ∈ (partition groups).map (·.1) ↔ ∃ g ∈ groups, g.crossing? = some federates := by
  refine (gathered_partition groups).mem_keys_iff.trans (List.mem_map.trans ?_)
  constructor
  · rintro ⟨x, hx, rfl⟩
    obtain ⟨g, hg, crossing⟩ := mem_crossings.mp hx
    exact ⟨g, List.mem_of_getElem? hg, crossing⟩
  · rintro ⟨g, hg, crossing⟩
    obtain ⟨k, hk⟩ := List.mem_iff_getElem?.mp hg
    exact ⟨(federates, k), mem_crossings.mpr ⟨g, hk, crossing⟩, rfl⟩

/-- Parts stand in the order of their first groups. -/
theorem pairwise_partition (groups : List Group) :
    (partition groups).Pairwise fun a b => ∀ k ∈ a.2.head?, ∀ l ∈ b.2.head?, k < l := by
  have gathered := gathered_partition groups
  refine (gathered.pairwise_first (pairwise_crossings 0 groups)).imp_of_mem ?_
  intro a b ha hb order k hk l hl
  rw [(part_groups ha).1, List.head?_map] at hk
  rw [(part_groups hb).1, List.head?_map] at hl
  obtain ⟨x, hx, rfl⟩ := Option.map_eq_some_iff.mp hk
  obtain ⟨y, hy, rfl⟩ := Option.map_eq_some_iff.mp hl
  exact order x hx y hy

/-- Groups are parted by their keys. -/
theorem partition_congr (same : groups.map (·.key) = groups'.map (·.key)) :
    partition groups = partition groups' := by
  have crossing : groups.map (·.crossing?) = groups'.map (·.crossing?) := by
    have keys := congrArg (List.map GroupKey.crossing?) same
    rwa [List.map_map, List.map_map] at keys
  rw [partition_eq_gather, partition_eq_gather, crossings_eq, crossings_eq, crossing]

/-! ## Statements -/

/-- A group crosses between two federates if a statement connects them. -/
theorem exists_crossing_iff (grouped : groupConnections p owners = .ok groups) :
    (∃ g ∈ groups, g.crossing? = some federates) ↔ ∃ i, p.Connects owners federates i := by
  obtain ⟨-, rfl⟩ := groupConnections_eq_ok_iff.mp grouped
  have gathered := Gathering.gathered_gather (G := grouping) (p.contributions owners)
  constructor
  · rintro ⟨g, hg, crossing⟩
    obtain ⟨c, hc, key⟩ :=
      List.mem_map.mp (gathered.mem_keys_iff.mp (List.mem_map.mpr ⟨g, hg, rfl⟩))
    obtain ⟨i, hi, number, pair⟩ := mem_contributionsFrom.mp hc
    rw [Nat.zero_add] at number
    subst number
    refine ⟨c.number, c.statement, hi, c.pair, pair, ?_⟩
    rw [← crossing?_groupKey c.statement]
    exact (congrArg GroupKey.crossing? key).trans crossing
  · rintro ⟨i, s, hs, q, hq, crosses⟩
    have mem : (⟨i, s, q⟩ : Contribution) ∈ p.contributions owners :=
      mem_contributionsFrom.mpr ⟨i, hs, (Nat.zero_add i).symm, hq⟩
    obtain ⟨g, hg, key⟩ :=
      List.mem_map.mp (gathered.mem_keys_iff.mpr (List.mem_map.mpr ⟨_, mem, rfl⟩))
    refine ⟨g, hg, ?_⟩
    exact (congrArg GroupKey.crossing? key).trans ((crossing?_groupKey s q).mpr crosses)

/-- A statement connects two federates if it has a pair from a channel of the one to a channel of
the other, and they are different. -/
theorem connects_iff : p.Connects owners federates i ↔
    ∃ s, p.statements[i]? = some s ∧ ∃ q ∈ s.channelPairs (p.expand owners) i,
      q.source.federate = some federates.1 ∧ q.destination.federate = some federates.2 ∧
        federates.1 ≠ federates.2 := by
  refine exists_congr fun s => and_congr_right fun _ => ?_
  refine exists_congr fun q => and_congr_right fun _ => ?_
  constructor
  · intro crosses
    exact ⟨crosses.2.1, crosses.2.2, crosses.ne⟩
  · rintro ⟨source, destination, different⟩
    refine ⟨?_, source, destination⟩
    simpa [ChannelPair.isFederated, source, destination] using different

/-! ## Bundles -/

/-- A bundle without its channel. -/
def Bundle.toPart (b : Bundle) : Part := ((b.source, b.destination), b.groups)

/-- Laying channels makes one bundle of each part. -/
theorem map_toPart_layParts (h : layParts groups parts n = (.ok bs, m)) :
    bs.map (·.toPart) = parts := by
  induction parts generalizing n bs with
  | nil =>
      cases h
      rfl
  | cons part parts ih =>
      obtain ⟨b, u, cs, first, rest, rfl⟩ := layParts_cons_ok.mp h
      obtain ⟨f, g, r, -, -, -, -, rfl, -⟩ := layBundle_eq_ok_iff.mp first
      rw [List.map_cons, ih rest]
      rfl

/-- The bundles of a topology are the parts of its groups. -/
theorem map_toPart_resolve (h : Federation.resolve p = .ok f) :
    f.bundles.map (·.toPart) = partition f.groups := by
  obtain ⟨-, n, -, -, laid, -⟩ := resolve_eq_ok_iff.mp h
  exact map_toPart_layParts laid

/-- A bundle of a topology is a part of its groups. -/
theorem toPart_mem_partition {b : Bundle} (h : Federation.resolve p = .ok f) (hb : b ∈ f.bundles) :
    b.toPart ∈ partition f.groups :=
  map_toPart_resolve h ▸ List.mem_map.mpr ⟨b, hb, rfl⟩

/-- The bundles of a topology join the federates of the parts. -/
theorem map_ends_resolve (h : Federation.resolve p = .ok f) :
    f.bundles.map (fun b => (b.source, b.destination)) = (partition f.groups).map (·.1) := by
  rw [← map_toPart_resolve h, List.map_map]
  rfl

/-- There is a bundle from one federate to another if some statement connects them. -/
theorem exists_bundle_iff (h : Federation.resolve p = .ok f) {s d : Nat} :
    (∃ b ∈ f.bundles, b.source = s ∧ b.destination = d) ↔
      ∃ i, p.Connects (Federation.owners f.federates) (s, d) i := by
  have listed : (∃ b ∈ f.bundles, b.source = s ∧ b.destination = d) ↔
      (s, d) ∈ f.bundles.map fun b => (b.source, b.destination) := by
    simp only [List.mem_map, Prod.mk.injEq]
  rw [listed, map_ends_resolve h, owners_resolve h]
  exact mem_map_partition_iff.trans (exists_crossing_iff (groups_resolve h))

/-- What a group crosses between, in terms of its key. -/
theorem crossing?_eq_some_iff {g : Group} :
    g.crossing? = some federates ↔
      g.key.sourceFederate = some federates.1 ∧ g.key.destinationFederate = some federates.2 := by
  obtain ⟨s, d⟩ := federates
  unfold Group.crossing?
  cases g.key.sourceFederate with
  | none => simp
  | some s' =>
      cases g.key.destinationFederate with
      | none => simp
      | some d' => simp

/-- The groups of a bundle are those from its source to its destination. -/
theorem mem_groups_iff {b : Bundle} (h : Federation.resolve p = .ok f) (hb : b ∈ f.bundles) :
    k ∈ b.groups ↔ ∃ g, f.groups[k]? = some g ∧
      g.key.sourceFederate = some b.source ∧ g.key.destinationFederate = some b.destination := by
  refine (mem_part_iff (toPart_mem_partition h hb)).trans ?_
  exact exists_congr fun g => and_congr_right fun _ => crossing?_eq_some_iff

/-- A bundle does not lead back to the federate that it comes from. -/
theorem source_ne_destination {b : Bundle} (h : Federation.resolve p = .ok f)
    (hb : b ∈ f.bundles) : b.source ≠ b.destination := by
  obtain ⟨i, connects⟩ := (exists_bundle_iff h).mp ⟨b, hb, rfl, rfl⟩
  obtain ⟨s, -, q, -, -, -, different⟩ := connects_iff.mp connects
  exact different

/-- Groups that go opposite ways are not in one bundle. -/
theorem not_mem_groups_of_opposite {b : Bundle} {l : Nat} {g g' : Group}
    (h : Federation.resolve p = .ok f) (hb : b ∈ f.bundles) (hg : f.groups[k]? = some g)
    (hg' : f.groups[l]? = some g') (out : g.key.sourceFederate = g'.key.destinationFederate)
    (hk : k ∈ b.groups) : l ∉ b.groups := by
  intro hl
  obtain ⟨_, hk, source, -⟩ := (mem_groups_iff h hb).mp hk
  obtain ⟨_, hl, -, destination⟩ := (mem_groups_iff h hb).mp hl
  rw [hg, Option.some.injEq] at hk
  rw [hg', Option.some.injEq] at hl
  subst hk hl
  rw [source, destination, Option.some.injEq] at out
  exact source_ne_destination h hb out

/-- Which bundles a topology has. -/
structure Federation.Bundled (p : Program) (f : Federation) : Prop where
  /-- There is a bundle from one federate to another if some statement has a pair from a channel of
  the one to a channel of the other. -/
  exists_iff : ∀ s d, (∃ b ∈ f.bundles, b.source = s ∧ b.destination = d) ↔
    ∃ (i : Nat) (t : Statement), p.statements[i]? = some t ∧
      ∃ q ∈ t.channelPairs (p.expand (Federation.owners f.federates)) i,
        q.source.federate = some s ∧ q.destination.federate = some d ∧ s ≠ d
  /-- No two bundles join the same federates in the same direction. -/
  distinct : (f.bundles.map fun b => (b.source, b.destination)).Nodup
  /-- No bundle is empty. -/
  nonempty : ∀ b ∈ f.bundles, b.groups ≠ []
  /-- The groups of a bundle stand in their order, and none stands there twice. -/
  increasing : ∀ b ∈ f.bundles, b.groups.Pairwise (· < ·)
  /-- The groups of a bundle are those from its source to its destination. -/
  mem_iff : ∀ b ∈ f.bundles, ∀ k, k ∈ b.groups ↔ ∃ g, f.groups[k]? = some g ∧
    g.key.sourceFederate = some b.source ∧ g.key.destinationFederate = some b.destination
  /-- Bundles stand in the order of their first groups. -/
  ordered : f.bundles.Pairwise fun b c => ∀ k ∈ b.groups.head?, ∀ l ∈ c.groups.head?, k < l
  /-- Groups in opposite directions are never in one bundle. -/
  directions : ∀ b ∈ f.bundles, ∀ c ∈ f.bundles, ∀ k ∈ b.groups, ∀ l ∈ c.groups, ∀ g h,
    f.groups[k]? = some g → f.groups[l]? = some h →
      g.key.sourceFederate = h.key.destinationFederate →
        g.key.destinationFederate = h.key.sourceFederate → b ≠ c

/-- **Bundles are the groups of each ordered pair of federates.** Whatever program resolves has one
for each ordered pair that a statement connects, made of all groups between the two, in order. -/
theorem resolve_bundled (p : Program) (f : Federation) (h : Federation.resolve p = .ok f) :
    f.Bundled p := by
  refine ⟨?_, ?_, ?_, ?_, ?_, ?_, ?_⟩
  · intro s d
    refine (exists_bundle_iff h).trans ?_
    simp only [connects_iff]
  · rw [map_ends_resolve h]
    exact (gathered_partition f.groups).distinct
  · intro b hb
    exact (part_groups (toPart_mem_partition h hb)).2
  · intro b hb
    exact pairwise_part (toPart_mem_partition h hb)
  · intro b hb k
    exact mem_groups_iff h hb
  · have order := pairwise_partition f.groups
    rw [← map_toPart_resolve h, List.pairwise_map] at order
    exact order
  · rintro b hb c hc k hk l hl g g' hg hg' out - rfl
    exact not_mem_groups_of_opposite h hb hg hg' out hk hl

/-- The relay with a delayed connection besides, which goes where the first one goes. -/
def relayDelayed : Program :=
  { relay with statements := relay.statements ++
      [{ left := [.ofInstance "a" "out"], right := [.ofInstance "b" "data"], delayNs := some 5 }] }

/-- Its groups are bundled: those with the delay join the bundles of the first ones. -/
theorem relayDelayed_bundled : ∃ f, Federation.resolve relayDelayed = .ok f ∧
    f.bundles.map (·.toPart) =
      [((0, 1), [0, 4]), ((0, 2), [1, 5]), ((1, 0), [2]), ((2, 0), [3])] ∧
    f.Bundled relayDelayed := by
  have resolves : (Federation.resolve relayDelayed).toOption.map
      (fun f => f.bundles.map (·.toPart)) =
        some [((0, 1), [0, 4]), ((0, 2), [1, 5]), ((1, 0), [2]), ((2, 0), [3])] := by decide +kernel
  cases hf : Federation.resolve relayDelayed with
  | error fault =>
      rw [hf] at resolves
      cases resolves
  | ok f =>
      rw [hf] at resolves
      exact ⟨f, rfl, Option.some.inj resolves, resolve_bundled relayDelayed f hf⟩

end ReactorNet
