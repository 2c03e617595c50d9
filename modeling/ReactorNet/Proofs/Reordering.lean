import Mathlib.Data.List.Perm.Basic
import ReactorNet.Proofs.Partition
import ReactorNet.Proofs.Renumbering

/-!
# `ReactorNet.Proofs.Reordering` · what the order of statements decides

`groupConnections_reordered` compares the groups of a program with those of the same program after
its statements were put in another order. Neither order has groups when the other has none. The
groups have the same keys; and groups with one key have the same pairs, fan out alike and buffer as
much. So the bundles join the same federates, and carry the same keys.

**What the order does decide.** The numbers of groups and statements, the links, and the order of
groups and of pairs. None of them is in `Reordered`.

**Why no induction on the permutation.** `Grouped` describes groups by what is contributed to them.
So each field is compared with what the contributions say, which are permuted with the statements.
-/

namespace ReactorNet

variable {p : Program} {owners : Owners} {gs hs : List Group} {g h : Group}
  {cs ds : List Contribution} {part : Part}

/-! ## One group -/

/-- The fan-out does not depend on the order of the pairs. -/
theorem maxDownstreams_of_perm (same : g.pairs.Perm h.pairs) :
    g.maxDownstreams = h.maxDownstreams := by
  have slots : (g.pairs.map Group.sourceSlot).Perm (h.pairs.map Group.sourceSlot) := same.map _
  unfold Group.maxDownstreams
  simp only [slots.count_eq]
  exact (slots.map _).foldl_op_eq

/-- Without numbers, the contributions to a group are those of the contributions without numbers. -/
theorem map_bare_contributions (g : Group) (cs : List Contribution) :
    (g.contributions cs).map (·.bare) = g.contributions (cs.map (·.bare)) := by
  unfold Group.contributions
  rw [List.filter_map]
  rfl

/-- The pairs of a group do not tell the numbers of statements. -/
theorem Grouped.pairs_bare (grouped : Grouped cs gs) (hg : g ∈ gs) :
    g.pairs = (g.contributions (cs.map (·.bare))).map (·.pair) := by
  rw [grouped.pairs g hg, ← map_bare_contributions, List.map_map]
  rfl

/-- Nor do the pending events that it buffers. -/
theorem Grouped.maxPending_bare (grouped : Grouped cs gs) (hg : g ∈ gs) :
    IsGreatest {n | ∃ c ∈ g.contributions (cs.map (·.bare)), n = c.statement.requestedEvents}
      g.maxPending := by
  have greatest := grouped.maxPending g hg
  simp only [← map_bare_contributions, List.mem_map, exists_exists_and_eq_and]
  exact greatest

/-- Groups with one key get permuted contributions from permuted contributions. -/
theorem perm_contributions (perm : cs.Perm ds) (key : g.key = h.key) :
    (g.contributions cs).Perm (h.contributions ds) := by
  unfold Group.contributions
  rw [key]
  exact perm.filter _

/-! ## Parts -/

/-- The keys of the groups of a part. -/
def Part.keys (groups : List Group) (part : Part) : List GroupKey :=
  part.2.filterMap fun k => groups[k]?.map (·.key)

/-- A part carries the keys of groups that cross between its federates. -/
theorem mem_partKeys_iff (hpart : part ∈ partition gs) {key : GroupKey} :
    key ∈ part.keys gs ↔ key ∈ gs.map (·.key) ∧ key.crossing? = some part.1 := by
  rw [Part.keys, List.mem_filterMap, List.mem_map]
  constructor
  · rintro ⟨k, hk, found⟩
    obtain ⟨g, hg, rfl⟩ := Option.map_eq_some_iff.mp found
    obtain ⟨g', hg', crossing⟩ := (mem_part_iff hpart).mp hk
    obtain rfl : g = g' := Option.some.inj (hg.symm.trans hg')
    exact ⟨⟨g, List.mem_of_getElem? hg, rfl⟩, crossing⟩
  · rintro ⟨⟨g, hg, rfl⟩, crossing⟩
    obtain ⟨k, hk⟩ := List.mem_iff_getElem?.mp hg
    refine ⟨k, (mem_part_iff hpart).mpr ⟨g, hk, crossing⟩, ?_⟩
    rw [hk]
    rfl

/-- The federates of parts, in terms of keys. -/
theorem mem_map_partition_iff_keys {federates : Nat × Nat} :
    federates ∈ (partition gs).map (·.1) ↔
      ∃ key ∈ gs.map (·.key), key.crossing? = some federates := by
  rw [mem_map_partition_iff]
  simp only [List.mem_map, exists_exists_and_eq_and]
  exact Iff.rfl

/-! ## Groups -/

/-- Whether groups are the same but for their order, their numbers and their links. -/
structure Reordered (gs hs : List Group) : Prop where
  /-- The keys are the same. -/
  keys : (gs.map (·.key)).Perm (hs.map (·.key))
  /-- Groups with one key have the same pairs. -/
  pairs : ∀ g ∈ gs, ∀ h ∈ hs, g.key = h.key → g.pairs.Perm h.pairs
  /-- A source channel has as many destinations at most. -/
  maxDownstreams : ∀ g ∈ gs, ∀ h ∈ hs, g.key = h.key → g.maxDownstreams = h.maxDownstreams
  /-- As many pending events are buffered. -/
  maxPending : ∀ g ∈ gs, ∀ h ∈ hs, g.key = h.key → g.maxPending = h.maxPending
  /-- The same federates need a bundle, in the same direction. -/
  federates : ((partition gs).map (·.1)).Perm ((partition hs).map (·.1))
  /-- Bundles of the same federates carry the same keys. -/
  carried : ∀ part ∈ partition gs, ∀ part' ∈ partition hs, part.1 = part'.1 →
    ∀ key, key ∈ part.keys gs ↔ key ∈ part'.keys hs

/-- Permuted contributions make up the same groups. -/
theorem Reordered.of_perm (hg : Grouped cs gs) (hh : Grouped ds hs)
    (perm : (cs.map (·.bare)).Perm (ds.map (·.bare))) : Reordered gs hs := by
  have contributed : (cs.map (·.key)).Perm (ds.map (·.key)) := by
    have keys := perm.map (·.key)
    rwa [List.map_map, List.map_map] at keys
  have mem : ∀ key, key ∈ gs.map (·.key) ↔ key ∈ hs.map (·.key) := by
    intro key
    rw [hg.keys, hh.keys, List.mem_eraseDups, List.mem_eraseDups]
    exact contributed.mem_iff
  have pairs : ∀ g ∈ gs, ∀ h ∈ hs, g.key = h.key → g.pairs.Perm h.pairs := by
    intro g mem h mem' key
    rw [hg.pairs_bare mem, hh.pairs_bare mem']
    exact (perm_contributions perm key).map _
  have distinct : ∀ groups : List Group, ((partition groups).map (·.1)).Nodup :=
    fun groups => (gathered_partition groups).distinct
  refine ⟨?_, pairs, ?_, ?_, ?_, ?_⟩
  · rw [List.perm_ext_iff_of_nodup (hg.keys ▸ nodup_eraseDups _) (hh.keys ▸ nodup_eraseDups _)]
    exact mem
  · intro g mem h mem' key
    exact maxDownstreams_of_perm (pairs g mem h mem' key)
  · intro g mem h mem' key
    -- both are the greatest request among the same contributions
    have greatest := hg.maxPending_bare mem
    simp only [(perm_contributions perm key).mem_iff] at greatest
    exact greatest.unique (hh.maxPending_bare mem')
  · rw [List.perm_ext_iff_of_nodup (distinct gs) (distinct hs)]
    intro federates
    rw [mem_map_partition_iff_keys, mem_map_partition_iff_keys]
    simp only [mem]
  · intro part hpart part' hpart' same key
    rw [mem_partKeys_iff hpart, mem_partKeys_iff hpart', mem, same]

/-! ## Programs -/

/-- A program with its statements in another order makes the same contributions, but for their order
and the numbers of the statements. -/
theorem perm_contributions_of_perm {ss : List Statement} (perm : p.statements.Perm ss) :
    ((p.contributions owners).map (·.bare)).Perm
      (((p.withStatements ss).contributions owners).map (·.bare)) := by
  unfold Program.contributions
  rw [map_bare_contributionsFrom, map_bare_contributionsFrom]
  exact perm.flatMap_right _

/-- **The order of statements decides on nothing but orders, numbers and links.** A program has
groups if it has groups with its statements in another order, and then the groups are the same but
for these. -/
theorem groupConnections_reordered (p : Program) (ss : List Statement) (owners : Owners)
    (perm : p.statements.Perm ss) :
    ((∃ gs, groupConnections p owners = .ok gs) ↔
      ∃ hs, groupConnections (p.withStatements ss) owners = .ok hs) ∧
    ∀ gs hs, groupConnections p owners = .ok gs →
      groupConnections (p.withStatements ss) owners = .ok hs → Reordered gs hs := by
  constructor
  · rw [exists_groups_iff, exists_groups_iff]
    exact forall_congr' fun s => imp_congr_left perm.mem_iff
  · intro gs hs hg hh
    exact Reordered.of_perm (grouped_of_groupConnections hg) (grouped_of_groupConnections hh)
      (perm_contributions_of_perm perm)

/-- The port that a group leaves, how many pairs it has, and the pending events that it buffers. -/
def Group.traffic (g : Group) : String × Nat × Nat :=
  (g.key.sourcePort.port, g.pairs.length, g.maxPending)

/-- The statements of the relay, the first one last. -/
def firstLast : List Statement := relay.statements.drop 1 ++ relay.statements.take 1

/-- In that order, what the relay hears is numbered before what it sends, and the groups are the
same otherwise. -/
theorem relay_reordered : relay.statements.Perm firstLast ∧ ∃ gs hs,
    groupConnections relay relayOwners = .ok gs ∧
    groupConnections (relay.withStatements firstLast) relayOwners = .ok hs ∧
    gs.map (·.traffic) = [("out", 2, 4), ("out", 2, 4), ("done", 1, 1), ("done", 1, 1)] ∧
    hs.map (·.traffic) = [("done", 1, 1), ("done", 1, 1), ("out", 2, 4), ("out", 2, 4)] ∧
    Reordered gs hs := by
  have perm : relay.statements.Perm firstLast := by
    show (relay.statements.take 1 ++ relay.statements.drop 1).Perm firstLast
    exact List.perm_append_comm
  obtain ⟨grouped, reordered⟩ := groupConnections_reordered relay firstLast relayOwners perm
  have before : (groupConnections relay relayOwners).toOption.map (List.map (·.traffic)) =
      some [("out", 2, 4), ("out", 2, 4), ("done", 1, 1), ("done", 1, 1)] := by decide +kernel
  have after :
      (groupConnections (relay.withStatements firstLast) relayOwners).toOption.map
        (List.map (·.traffic)) =
          some [("done", 1, 1), ("done", 1, 1), ("out", 2, 4), ("out", 2, 4)] := by decide +kernel
  obtain ⟨gs, hg, traffic⟩ := Option.map_eq_some_iff.mp before
  have hg := eq_ok_of_toOption hg
  obtain ⟨hs, hh⟩ := grouped.mp ⟨gs, hg⟩
  rw [hh] at after
  exact ⟨perm, gs, hs, hg, hh, traffic, Option.some.inj after, reordered gs hs hg hh⟩

end ReactorNet
