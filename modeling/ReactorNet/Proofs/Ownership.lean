import ReactorNet.Proofs.Partition

/-!
# `ReactorNet.Proofs.Ownership` · which federate owns a channel

The owner of a channel is looked up once, when a reference is expanded, and copied through queues,
pairs, groups and bundles from then on. `resolve_consistent` says that it is the right one at every
place where it arrives: in a federated program the federate whose key names the instance and, if the
instance is a bank, the bank index of the channel.

Every end of a pair is a channel of its port (`joins_of_mem_pairs`), also where the left side is
replayed; a channel of a port has the owner that its port and bank index ask for
(`belongs_of_isChannel`); and a group has its federates from a key that each of its pairs has.
-/

namespace ReactorNet

variable {p : Program} {owners : Owners} {f : Federation} {expand : Expansion} {port : PortKey}
  {c : PortChannel} {q : ChannelPair} {ps : List ChannelPair} {i : Nat} {r : PortRef}
  {queue : ChannelQueue}

/-! ## The ends of a pair -/

/-- Whether a channel is one that a reference to a port expands to. -/
def IsChannel (expand : Expansion) (port : PortKey) (c : PortChannel) : Prop :=
  ∃ r queue, expand r = .ok queue ∧ r.key = port ∧ c ∈ queue.all

/-- Whether both ends of a pair are channels of their ports. -/
def ChannelPair.Joins (expand : Expansion) (q : ChannelPair) : Prop :=
  IsChannel expand q.sourcePort q.source ∧ IsChannel expand q.destinationPort q.destination

/-- Whether all channels that are left to a replay are channels of the port at hand. -/
def Replay.Sound (expand : Expansion) (replay : Replay) : Prop :=
  ∀ c ∈ replay.left, IsChannel expand replay.port c

/-- Two lists that are paired element by element. -/
theorem exists_of_mem_zipWith {α β γ : Type} {f : α → β → γ} {xs : List α} {ys : List β}
    {z : γ} (h : z ∈ List.zipWith f xs ys) : ∃ x ∈ xs, ∃ y ∈ ys, z = f x y := by
  rw [← List.map_uncurry_zip_eq_zipWith] at h
  obtain ⟨⟨x, y⟩, hxy, rfl⟩ := List.mem_map.mp h
  exact ⟨x, (List.of_mem_zip hxy).1, y, (List.of_mem_zip hxy).2, rfl⟩

/-- Pairing ports joins their channels. -/
theorem joins_of_mem_pairPorts {ls rs : List PortRef} (h : pairPorts expand i ls rs = .ok ps)
    (hq : q ∈ ps) : q.Joins expand := by
  fun_induction pairPorts expand i ls rs generalizing ps with
  | case1 l ls r rs ih =>
      obtain ⟨sources, hl, h⟩ := bind_eq_ok_iff.mp h
      obtain ⟨destinations, hr, h⟩ := bind_eq_ok_iff.mp h
      dsimp only at h
      split at h
      · obtain ⟨_, thrown, -⟩ := bind_eq_ok_iff.mp h
        cases thrown
      · obtain ⟨more, hmore, h⟩ := bind_eq_ok_iff.mp h
        cases h
        rcases List.mem_append.mp hq with hq | hq
        · obtain ⟨s, hs, d, hd, rfl⟩ := exists_of_mem_zipWith hq
          exact ⟨⟨l, sources, hl, rfl, hs⟩, ⟨r, destinations, hr, rfl, hd⟩⟩
        · exact ih hmore hq
  | case2 =>
      cases h
      cases hq

/-- The next channel of a replay is a channel of the port that it comes with. -/
theorem isChannel_of_next {side : List PortRef} {attempts : Nat} {replay rest : Replay}
    (sound : replay.Sound expand)
    (h : replay.next expand i side attempts = .ok (port, c, rest)) :
    IsChannel expand port c ∧ rest.Sound expand := by
  fun_induction Replay.next expand i side attempts replay with
  | case1 =>
      cases h
      exact ⟨sound c List.mem_cons_self, fun e he => sound e (List.mem_cons_of_mem _ he)⟩
  | case2 => cases h
  | case3 attempts position current next r found ih =>
      obtain ⟨queue, expanded, h⟩ := bind_eq_ok_iff.mp h
      exact ih queue (fun e he => ⟨r, queue, expanded, rfl, he⟩) h
  | case4 => cases h

/-- Serving channels of a port joins them. -/
theorem joins_of_mem_serve {side : List PortRef} {ds : List PortChannel} {replay rest : Replay}
    (sound : replay.Sound expand) (channels : ∀ d ∈ ds, IsChannel expand port d)
    (h : replay.serve expand i side port ds = .ok (ps, rest)) :
    (∀ q ∈ ps, q.Joins expand) ∧ rest.Sound expand := by
  induction ds generalizing replay ps with
  | nil =>
      cases h
      exact ⟨fun q hq => (List.not_mem_nil hq).elim, sound⟩
  | cons d ds ih =>
      obtain ⟨⟨sourcePort, source, replay'⟩, next, h⟩ := bind_eq_ok_iff.mp h
      obtain ⟨⟨pairs, rest'⟩, served, h⟩ := bind_eq_ok_iff.mp h
      cases h
      obtain ⟨isChannel, sound'⟩ := isChannel_of_next sound next
      obtain ⟨joins, final⟩ :=
        ih sound' (fun e he => channels e (List.mem_cons_of_mem _ he)) served
      refine ⟨?_, final⟩
      intro q hq
      rcases List.mem_cons.mp hq with rfl | hq
      · exact ⟨isChannel, channels d List.mem_cons_self⟩
      · exact joins q hq

/-- Serving ports joins their channels. -/
theorem joins_of_mem_serveAll {side rs : List PortRef} {replay : Replay}
    (sound : replay.Sound expand) (h : replay.serveAll expand i side rs = .ok ps) (hq : q ∈ ps) :
    q.Joins expand := by
  induction rs generalizing replay ps with
  | nil =>
      cases h
      cases hq
  | cons r rs ih =>
      obtain ⟨queue, expanded, h⟩ := bind_eq_ok_iff.mp h
      obtain ⟨⟨pairs, rest⟩, served, h⟩ := bind_eq_ok_iff.mp h
      obtain ⟨more, hmore, h⟩ := bind_eq_ok_iff.mp h
      cases h
      obtain ⟨joins, sound'⟩ :=
        joins_of_mem_serve sound (fun d hd => ⟨r, queue, expanded, rfl, hd⟩) served
      rcases List.mem_append.mp hq with hq | hq
      · exact joins q hq
      · exact ih sound' hmore hq

/-- The pairs of a statement join channels of their ports. -/
theorem joins_of_mem_pairs {s : Statement} (h : s.pairs expand i = .ok ps) (hq : q ∈ ps) :
    q.Joins expand := by
  unfold Statement.pairs at h
  split at h
  · cases h
  · cases h
  · rename_i l ls _ _
    split at h
    · obtain ⟨queue, expanded, h⟩ := bind_eq_ok_iff.mp h
      refine joins_of_mem_serveAll ?_ h hq
      exact fun c hc => ⟨l, queue, expanded, rfl, hc⟩
    · split at h
      · cases h
      · exact joins_of_mem_pairPorts h hq

/-! ## The owner of a channel -/

/-- The channels of a port: one for each pair of a bank index and a port index, owned as the bank
index says. -/
theorem mem_portChannels {bankWidth portWidth : Nat} {interleaved : Bool}
    {owner : Nat → Option Nat} :
    c ∈ portChannels bankWidth portWidth interleaved owner ↔
      c.bankIndex < bankWidth ∧ c.portIndex < portWidth ∧ c.federate = owner c.bankIndex := by
  obtain ⟨portIndex, bankIndex, federate⟩ := c
  cases interleaved with
  | false =>
      simp only [portChannels, Bool.false_eq_true, if_false, List.mem_flatMap, List.mem_map,
        List.mem_range, PortChannel.mk.injEq]
      constructor
      · rintro ⟨b, hb, j, hj, rfl, rfl, rfl⟩
        exact ⟨hb, hj, rfl⟩
      · rintro ⟨hb, hj, rfl⟩
        exact ⟨bankIndex, hb, portIndex, hj, rfl, rfl, rfl⟩
  | true =>
      simp only [portChannels, if_true, List.mem_flatMap, List.mem_map, List.mem_range,
        PortChannel.mk.injEq]
      constructor
      · rintro ⟨j, hj, b, hb, rfl, rfl, rfl⟩
        exact ⟨hb, hj, rfl⟩
      · rintro ⟨hb, hj, rfl⟩
        exact ⟨portIndex, hj, bankIndex, hb, rfl, rfl, rfl⟩

/-- A channel of a port lies within its shape and has the owner that its bank index asks for. -/
theorem shape_of_isChannel (h : IsChannel (p.expand owners) port c) :
    ∃ bankWidth portWidth, p.shape? port = some (bankWidth, portWidth) ∧
      c.bankIndex < bankWidth ∧ c.portIndex < portWidth ∧
      c.federate = p.owner? owners port c.bankIndex := by
  obtain ⟨r, queue, expanded, rfl, hc⟩ := h
  unfold Program.expand at expanded
  split at expanded
  · rename_i bankWidth portWidth shape
    cases expanded
    exact ⟨bankWidth, portWidth, shape, mem_portChannels.mp hc⟩
  · cases expanded

/-- Whether a channel of a port belongs to whom it should: a channel of the program itself to
nobody, and a channel of an instance to exactly the federate whose key names the instance and, if
that is a bank, the bank index. -/
def Federation.Belongs (p : Program) (f : Federation) (port : PortKey) (c : PortChannel) : Prop :=
  match port.instanceName with
  | none => c.federate = none
  | some name => ∃ i k, p.instance? name = some i ∧ c.federate = some k ∧
      ∀ j, (∃ g, f.federates[j]? = some g ∧
        g.key = ⟨name, if i.bankWidth.isSome then some c.bankIndex else none⟩) ↔ j = k

/-- An instance within whose bank width an index lies has a member with that index. -/
theorem mem_keys {name : String} {inst : Instance} {b : Nat} (federated : p.federated = true)
    (found : p.instance? name = some inst) (hb : b < inst.bankWidth.getD 1) :
    ⟨name, if inst.bankWidth.isSome then some b else none⟩ ∈ p.keys := by
  have named : inst.name = name := by simpa using List.find?_some found
  rw [Program.keys, if_pos federated, map_fst_members, List.mem_flatMap]
  refine ⟨inst, List.mem_of_find?_eq_some found, ?_⟩
  rw [List.mem_map, named]
  refine ⟨_, ?_, rfl⟩
  unfold Instance.members
  cases hw : inst.bankWidth with
  | none => simp
  | some width => simpa [hw] using hb

/-- Every channel of a port belongs to whom it should. -/
theorem belongs_of_isChannel (h : Federation.resolve p = .ok f) (federated : p.federated = true)
    (isChannel : IsChannel (p.expand p.owners) port c) : f.Belongs p port c := by
  obtain ⟨bankWidth, portWidth, shape, hb, -, owner⟩ := shape_of_isChannel isChannel
  have distinct := nodup_keys (resolve_eq_ok_iff.mp h).1
  unfold Federation.Belongs
  unfold Program.shape? at shape
  unfold Program.owner? at owner
  cases hport : port.instanceName with
  | none =>
      rw [hport] at owner
      exact owner
  | some name =>
      rw [hport] at owner shape
      obtain ⟨inst, found, shape⟩ := Option.bind_eq_some_iff.mp shape
      obtain ⟨declared, -, shape⟩ := Option.bind_eq_some_iff.mp shape
      cases shape
      have key : p.ownerKey name c.bankIndex =
          ⟨name, if inst.bankWidth.isSome then some c.bankIndex else none⟩ := by
        rw [Program.ownerKey, found]
        rfl
      obtain ⟨k, hk⟩ := List.mem_iff_getElem?.mp (mem_keys federated found hb)
      refine ⟨inst, k, found, ?_, ?_⟩
      · rw [owner]
        show p.owners.lookup (p.ownerKey name c.bankIndex) = some k
        rw [key]
        exact (lookup_owners_iff distinct).mpr hk
      · intro j
        rw [← Option.map_eq_some_iff, ← List.getElem?_map, map_key_resolve h,
          ← lookup_owners_iff distinct, (lookup_owners_iff distinct).mpr hk, Option.some.injEq]
        exact eq_comm

/-! ## The owners of a topology -/

/-- A pair of a group comes from a statement, and has the key of the group. -/
theorem exists_statement_of_mem_group {groups : List Group} {g : Group}
    (grouped : groupConnections p owners = .ok groups) (hg : g ∈ groups) (hq : q ∈ g.pairs) :
    ∃ (i : Nat) (s : Statement) (ps : List ChannelPair), s.pairs (p.expand owners) i = .ok ps ∧
      q ∈ ps ∧ q.groupKey s = g.key := by
  rw [(grouped_of_groupConnections grouped).pairs g hg] at hq
  obtain ⟨c, hc, rfl⟩ := List.mem_map.mp hq
  obtain ⟨hc, key⟩ := List.mem_filter.mp hc
  obtain ⟨k, -, -, pair⟩ := mem_contributionsFrom.mp hc
  unfold Statement.channelPairs at pair
  split at pair
  · rename_i ps expanded
    exact ⟨c.number, c.statement, ps, expanded, pair, of_decide_eq_true key⟩
  · cases pair

/-- An owner is one of the federates. -/
theorem owner_lt {port : PortKey} {b k : Nat} (valid : p.validate = .ok ())
    (h : p.owner? p.owners port b = some k) : k < p.keys.length := by
  obtain ⟨name, -, found⟩ := Option.bind_eq_some_iff.mp h
  exact (List.getElem?_eq_some_iff.mp ((lookup_owners_iff (nodup_keys valid)).mp found)).1

/-- The federates of a part are federates of the program, and different. -/
theorem ends_of_mem_partition (valid : p.validate = .ok ())
    (grouped : groupConnections p p.owners = .ok groups) (h : part ∈ partition groups) :
    part.1.1 < p.keys.length ∧ part.1.2 < p.keys.length ∧ part.1.1 ≠ part.1.2 := by
  obtain ⟨g, hg, crossing⟩ := mem_map_partition_iff.mp (List.mem_map.mpr ⟨part, h, rfl⟩)
  obtain ⟨q, hq⟩ := List.exists_mem_of_ne_nil _ ((grouped_of_groupConnections grouped).nonempty g hg)
  obtain ⟨k, s, ps, expanded, hps, key⟩ := exists_statement_of_mem_group grouped hg hq
  have crosses : q.Crosses part.1 := by
    rw [← crossing?_groupKey s, key]
    exact crossing
  obtain ⟨sourceChannel, destinationChannel⟩ := joins_of_mem_pairs expanded hps
  obtain ⟨-, -, -, -, -, source⟩ := shape_of_isChannel sourceChannel
  obtain ⟨-, -, -, -, -, destination⟩ := shape_of_isChannel destinationChannel
  have source := source.symm.trans crosses.2.1
  have destination := destination.symm.trans crosses.2.2
  exact ⟨owner_lt valid source, owner_lt valid destination, crosses.ne⟩

/-- Whether every channel of a topology is owned as it should be, and travels with its owners. -/
structure Federation.Consistent (p : Program) (f : Federation) : Prop where
  /-- Federates are the instances in the order of declaration; the members of a bank stand in the
  order of their indices. -/
  keys : f.federates.map (·.key) = p.instances.flatMap fun i =>
    match i.bankWidth with
    | some width => (List.range width).map fun b => ⟨i.name, some b⟩
    | none => [⟨i.name, none⟩]
  /-- No two federates have the same key. -/
  distinct : (f.federates.map (·.key)).Nodup
  /-- The number of a federate is its position. -/
  numbered : ∀ k g, f.federates[k]? = some g →
    (Federation.owners f.federates).lookup g.key = some k
  /-- The pairs of a group leave its source port. -/
  source : ∀ g ∈ f.groups, ∀ q ∈ g.pairs, q.sourcePort = g.key.sourcePort
  /-- Both ends of every pair belong to whom they should. -/
  belongs : ∀ g ∈ f.groups, ∀ q ∈ g.pairs,
    f.Belongs p q.sourcePort q.source ∧ f.Belongs p q.destinationPort q.destination
  /-- The pairs of a bundle leave channels of its source and enter channels of its destination. -/
  bundled : ∀ b ∈ f.bundles, ∀ k ∈ b.groups, ∃ g, f.groups[k]? = some g ∧ ∀ q ∈ g.pairs,
    q.source.federate = some b.source ∧ q.destination.federate = some b.destination

/-- **Ownership is consistent.** Where a federated program resolves, every end of a connection
belongs to the federate that its port and bank index name, and is carried by a bundle of that
federate. -/
theorem resolve_consistent (p : Program) (f : Federation) (federated : p.federated = true)
    (h : Federation.resolve p = .ok f) : f.Consistent p := by
  have distinct := nodup_keys (resolve_eq_ok_iff.mp h).1
  have grouped := groups_resolve h
  refine ⟨?_, ?_, ?_, ?_, ?_, ?_⟩
  · rw [map_key_resolve h, Program.keys, if_pos federated, map_fst_members]
    congr 1
    funext i
    unfold Instance.members
    cases i.bankWidth with
    | none => rfl
    | some width => simp only [List.map_map, Function.comp_def]
  · rw [map_key_resolve h]
    exact distinct
  · intro k g hg
    rw [owners_resolve h, lookup_owners_iff distinct, ← map_key_resolve h, List.getElem?_map, hg]
    rfl
  · intro g hg q hq
    obtain ⟨i, s, ps, -, -, key⟩ := exists_statement_of_mem_group grouped hg hq
    rw [← key]
    rfl
  · intro g hg q hq
    obtain ⟨i, s, ps, expanded, hq, -⟩ := exists_statement_of_mem_group grouped hg hq
    obtain ⟨source, destination⟩ := joins_of_mem_pairs expanded hq
    exact ⟨belongs_of_isChannel h federated source, belongs_of_isChannel h federated destination⟩
  · intro b hb k hk
    obtain ⟨g, hg, crossing⟩ := (mem_part_iff (toPart_mem_partition h hb)).mp hk
    refine ⟨g, hg, fun q hq => ?_⟩
    obtain ⟨i, s, ps, -, -, key⟩ := exists_statement_of_mem_group grouped (List.mem_of_getElem? hg) hq
    have crosses : q.Crosses b.toPart.1 := by
      rw [← crossing?_groupKey s, key]
      exact crossing
    exact ⟨crosses.2.1, crosses.2.2⟩

/-- The relay, whose bank has a federate for each of its members, is consistent. -/
theorem relay_consistent : relay.federated = true ∧
    ∃ f, Federation.resolve relay = .ok f ∧ f.Consistent relay := by
  have resolves : (Federation.resolve relay).toOption.isSome = true := by decide +kernel
  obtain ⟨f, hf⟩ := exists_eq_ok resolves
  exact ⟨rfl, f, hf, resolve_consistent relay f rfl hf⟩

end ReactorNet
