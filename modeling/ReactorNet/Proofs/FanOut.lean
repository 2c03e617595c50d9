import ReactorNet.Proofs.Splitting

/-!
# `ReactorNet.Proofs.FanOut` · the busiest channel of a group

A group reports the fan-out of its busiest source channel. `resolve_fans_out` says which number this
is: of all channels that the source port has, over all members of its bank and all indices within
the port, the greatest number of pairs that leave one of them. So no group reports less than one, or
more than its pairs.

**What is counted.** Pairs are counted by what the owner of a channel sees, and to a federate its
own member has bank index 0, whichever member that is. `downstreams_eq_count` says that nothing is
added up that should not be: all pairs of a group leave channels of one owner, and the members of a
bank are different federates.
-/

namespace ReactorNet

variable {p : Program} {g : Group} {groups : List Group} {q : ChannelPair} {b i : Nat}

/-! ## The greatest count -/

/-- Whether a pair leaves the channel of a port with the given bank index and index within the
port. -/
def ChannelPair.Leaves (q : ChannelPair) (port : PortKey) (bankIndex portIndex : Nat) : Prop :=
  q.sourcePort = port ∧ q.source.bankIndex = bankIndex ∧ q.source.portIndex = portIndex

instance (q : ChannelPair) (port : PortKey) (bankIndex portIndex : Nat) :
    Decidable (q.Leaves port bankIndex portIndex) :=
  inferInstanceAs (Decidable (_ ∧ _ ∧ _))

/-- How many pairs of a group leave a channel of its source port. -/
def Group.downstreams (g : Group) (bankIndex portIndex : Nat) : Nat :=
  g.pairs.countP fun q => q.Leaves g.key.sourcePort bankIndex portIndex

/-- Whether a group reports the fan-out of the busiest channel of its source port, which has the
given widths. -/
structure Group.FansOut (g : Group) (bankWidth portWidth : Nat) : Prop where
  /-- It is the greatest number of pairs that leave one channel of the port. -/
  greatest : IsGreatest {n | ∃ b < bankWidth, ∃ i < portWidth, n = g.downstreams b i} g.maxDownstreams
  /-- At least one pair leaves the busiest channel. -/
  pos : 1 ≤ g.maxDownstreams
  /-- At most all pairs leave it. -/
  le : g.maxDownstreams ≤ g.pairs.length

/-- The number that a group reports is the greatest of the counts of its pairs. -/
theorem isGreatest_maxDownstreams (nonempty : g.pairs ≠ []) :
    IsGreatest {n | ∃ q ∈ g.pairs, n = (g.pairs.map Group.sourceSlot).count (Group.sourceSlot q)}
      g.maxDownstreams := by
  have bounded := maxDownstreams_le_iff.mp (Nat.le_refl g.maxDownstreams)
  constructor
  · by_contra missed
    -- a bound that is never reached could be lowered, but it is the least one
    have lower : g.maxDownstreams ≤ g.maxDownstreams - 1 := by
      refine maxDownstreams_le_iff.mpr fun q hq => Nat.le_sub_one_of_lt ?_
      exact lt_of_le_of_ne (bounded q hq) fun reached => missed ⟨q, hq, reached.symm⟩
    obtain ⟨q, hq⟩ := List.exists_mem_of_ne_nil _ nonempty
    have counted : 0 < (g.pairs.map Group.sourceSlot).count (Group.sourceSlot q) :=
      List.count_pos_iff.mpr (List.mem_map_of_mem hq)
    have := bounded q hq
    omega
  · rintro n ⟨q, hq, rfl⟩
    exact bounded q hq

/-! ## Channels of the source port -/

/-- No key stands for two federates. -/
theorem eq_of_lookup_owners {key key' : FederateKey} {k : Nat} (valid : p.validate = .ok ())
    (h : p.owners.lookup key = some k) (h' : p.owners.lookup key' = some k) : key = key' := by
  have found := (lookup_owners_iff (nodup_keys valid)).mp h
  rw [(lookup_owners_iff (nodup_keys valid)).mp h', Option.some.injEq] at found
  exact found.symm

/-- The pairs of a group leave channels that its source port has. -/
theorem source_of_mem_group (grouped : groupConnections p p.owners = .ok groups) (hg : g ∈ groups)
    (hq : q ∈ g.pairs) : q.sourcePort = g.key.sourcePort ∧ q.source.federate = g.key.sourceFederate ∧
      ∃ bankWidth portWidth, p.shape? g.key.sourcePort = some (bankWidth, portWidth) ∧
        q.source.bankIndex < bankWidth ∧ q.source.portIndex < portWidth := by
  obtain ⟨i, s, ps, expanded, hq, key⟩ := exists_statement_of_mem_group grouped hg hq
  obtain ⟨bankWidth, portWidth, shape, bank, index, -⟩ :=
    shape_of_isChannel (joins_of_mem_pairs expanded hq).1
  rw [← key]
  exact ⟨rfl, rfl, bankWidth, portWidth, shape, bank, index⟩

/-- The pairs of a group that leave the channel of one of them are those that its owner counts with
it. -/
theorem downstreams_eq_count (valid : p.validate = .ok ())
    (grouped : groupConnections p p.owners = .ok groups) (hg : g ∈ groups) (hq : q ∈ g.pairs) :
    g.downstreams q.source.bankIndex q.source.portIndex =
      (g.pairs.map Group.sourceSlot).count (Group.sourceSlot q) := by
  unfold Group.downstreams
  rw [List.count, List.countP_map]
  refine List.countP_congr fun r hr => ?_
  obtain ⟨port, owner, -⟩ := source_of_mem_group grouped hg hq
  obtain ⟨port', owner', -⟩ := source_of_mem_group grouped hg hr
  rw [decide_eq_true_eq, Function.comp_apply, beq_iff_eq]
  constructor
  · rintro ⟨-, bank, index⟩
    unfold Group.sourceSlot PortChannel.codeBankIndex
    rw [bank, index, owner, owner']
  · intro same
    have members := sourceSlot_ownerless (fun _ _ _ => eq_of_lookup_owners valid) grouped hg hr hq same
    exact ⟨port', (Prod.mk.inj members).2, (Prod.mk.inj members).1⟩

/-- Some pair leaves a channel that is counted. -/
theorem exists_mem_of_downstreams (counted : 0 < g.downstreams b i) :
    ∃ q ∈ g.pairs, q.source.bankIndex = b ∧ q.source.portIndex = i := by
  obtain ⟨q, hq, leaves⟩ := List.countP_pos_iff.mp counted
  exact ⟨q, hq, (of_decide_eq_true leaves).2⟩

/-! ## Topologies -/

/-- **A group reports the fan-out of its busiest channel.** Where a program resolves, the number of
downstreams of a group is the greatest number of its pairs that leave one channel of its source
port, over all members of the bank and all indices within the port. It is at least one, and at most
the number of pairs. -/
theorem resolve_fans_out (p : Program) (f : Federation) (h : Federation.resolve p = .ok f) (g : Group)
    (hg : g ∈ f.groups) : ∃ bankWidth portWidth,
      p.shape? g.key.sourcePort = some (bankWidth, portWidth) ∧ g.FansOut bankWidth portWidth := by
  have valid := (resolve_eq_ok_iff.mp h).1
  have grouped := groups_resolve h
  obtain ⟨⟨q, hq, reached⟩, bounded⟩ :=
    isGreatest_maxDownstreams ((grouped_of_groupConnections grouped).nonempty g hg)
  obtain ⟨-, -, bankWidth, portWidth, shape, bank, index⟩ := source_of_mem_group grouped hg hq
  refine ⟨bankWidth, portWidth, shape, ⟨⟨?_, ?_⟩, ?_, ?_⟩⟩
  · refine ⟨q.source.bankIndex, bank, q.source.portIndex, index, ?_⟩
    rw [reached, downstreams_eq_count valid grouped hg hq]
  · rintro n ⟨b, -, i, -, rfl⟩
    rcases Nat.eq_zero_or_pos (g.downstreams b i) with none | counted
    · rw [none]
      exact Nat.zero_le _
    · obtain ⟨r, hr, rfl, rfl⟩ := exists_mem_of_downstreams counted
      exact bounded ⟨r, hr, downstreams_eq_count valid grouped hg hr⟩
  · rw [reached]
    exact List.count_pos_iff.mpr (List.mem_map_of_mem hq)
  · rw [reached]
    exact List.count_le_length.trans_eq (List.length_map _)

/-- Two members of a bank take turns, two channels each, until five destinations are served. -/
def fountain : Program where
  name := "fountain"
  federated := true
  instances := [
    { name := "jets", bankWidth := some 2, ports := [⟨"out", 2⟩] },
    { name := "basin", ports := [⟨"drops", 5⟩] }]
  statements := [
    { left := [.ofInstance "jets" "out"], right := [.ofInstance "basin" "drops"], iterated := true }]

/-- Of three pairs that leave the first member, two leave the same channel. -/
theorem fountain_fans_out : ∃ f g, Federation.resolve fountain = .ok f ∧ g ∈ f.groups ∧
    g.size = (3, 2) ∧ fountain.shape? g.key.sourcePort = some (2, 2) ∧ g.FansOut 2 2 := by
  have outcome : (Federation.resolve fountain).toOption.bind (fun f => f.groups[0]?.map fun g =>
      (g.size, fountain.shape? g.key.sourcePort)) = some ((3, 2), some (2, 2)) := by decide +kernel
  obtain ⟨f, hf, first⟩ := Option.bind_eq_some_iff.mp outcome
  obtain ⟨g, hg, values⟩ := Option.map_eq_some_iff.mp first
  obtain ⟨size, shape⟩ := Prod.mk.inj values
  have resolved := eq_ok_of_toOption hf
  have mem : g ∈ f.groups := List.mem_of_getElem? hg
  obtain ⟨bankWidth, portWidth, found, fans⟩ := resolve_fans_out fountain f resolved g mem
  rw [shape] at found
  cases found
  exact ⟨f, g, resolved, mem, size, shape, fans⟩

end ReactorNet
