import ReactorNet.Proofs.Ownership

/-!
# `ReactorNet.Proofs.Splitting` · what deploying a program changes about its groups

The connections of a program are grouped whether its instances are deployed on their own or not.
`groupConnections_split` compares the two: deploying the instances splits groups, and does nothing
else. Each group is divided by the federates that its pairs come from and go to, no pair is lost or
moved, and no source channel has more destinations in a part than in the whole.

**Two runs.** Who owns a channel is never looked at while statements are expanded. So the run
without federates is the run with federates, with owners erased (`pairs_ownerless`), fault or not.

**Fan-out.** Seen from inside a federate every bank index is 0, so channels of different members
would be confused if a group could hold both. It cannot, because the members of a bank are different
federates.
-/

namespace ReactorNet

variable {p : Program} {owners : Owners} {expand bare : Expansion} {i : Nat} {s : Statement}
  {side : List PortRef}

/-! ## Erasing owners -/

/-- A channel without its owner. -/
def PortChannel.ownerless (c : PortChannel) : PortChannel := { c with federate := none }

/-- A pair without the owners of its ends. -/
def ChannelPair.ownerless (q : ChannelPair) : ChannelPair :=
  { q with source := q.source.ownerless, destination := q.destination.ownerless }

/-- A replay of channels without their owners. -/
def Replay.ownerless (replay : Replay) : Replay :=
  { replay with left := replay.left.map (·.ownerless) }

/-- A contribution without the owners of its pair. -/
def Contribution.ownerless (c : Contribution) : Contribution := { c with pair := c.pair.ownerless }

/-- Whether references expand to the same channels, except that they have no owners. -/
def Ownerless (expand bare : Expansion) : Prop :=
  ∀ r, (bare r).map (·.all) = (expand r).map fun queue => queue.all.map (·.ownerless)

/-- Without federates, references expand to channels without owners. -/
theorem ownerless_expand (p : Program) (owners : Owners) :
    Ownerless (p.expand owners) (p.expand []) := by
  intro r
  unfold Program.expand
  cases p.shape? r.key with
  | none => rfl
  | some shape =>
      obtain ⟨bankWidth, portWidth⟩ := shape
      have nobody : ∀ b, p.owner? [] r.key b = none := by
        intro b
        unfold Program.owner?
        cases r.key.instanceName <;> rfl
      simp only [Except.map, ChannelQueue.all, List.nil_append, Except.ok.injEq]
      unfold portChannels
      split
      · simp [List.map_flatMap, nobody, PortChannel.ownerless, Function.comp_def]
      · simp [List.map_flatMap, nobody, PortChannel.ownerless, Function.comp_def]

/-- A reference expands in both ways, or in neither with one fault. -/
theorem Ownerless.expand_cases (h : Ownerless expand bare) (r : PortRef) :
    (∃ fault, expand r = .error fault ∧ bare r = .error fault) ∨
    ∃ queue queue', expand r = .ok queue ∧ bare r = .ok queue' ∧
      queue'.all = queue.all.map (·.ownerless) := by
  have at_r := h r
  cases he : expand r with
  | error fault =>
      rw [he] at at_r
      exact Or.inl ⟨fault, rfl, map_eq_error_iff.mp at_r⟩
  | ok queue =>
      rw [he] at at_r
      obtain ⟨queue', hb, all⟩ := map_eq_ok_iff.mp at_r
      exact Or.inr ⟨queue, queue', rfl, hb, all⟩

/-! ## Statements -/

/-- Pairing ports without owners. -/
theorem pairPorts_ownerless (h : Ownerless expand bare) (ls rs : List PortRef) :
    pairPorts bare i ls rs = (pairPorts expand i ls rs).map (List.map (·.ownerless)) := by
  induction ls generalizing rs with
  | nil => rfl
  | cons l ls ih =>
      cases rs with
      | nil => rfl
      | cons r rs =>
          rw [pairPorts, pairPorts, ih]
          rcases h.expand_cases l with ⟨fault, hl, hl'⟩ | ⟨ql, ql', hl, hl', left⟩
          · rw [hl, hl']
            rfl
          rcases h.expand_cases r with ⟨fault, hr, hr'⟩ | ⟨qr, qr', hr, hr', right⟩
          · simp only [hl, hl', hr, hr', bind, Except.bind]
            rfl
          simp only [hl, hl', hr, hr', bind, Except.bind, left, right, List.length_map]
          split
          · rfl
          · cases pairPorts expand i ls rs with
            | error fault => rfl
            | ok more =>
                simp only [Except.map, pure, Except.pure, Except.ok.injEq, List.map_append,
                  List.map_zipWith, List.zipWith_map]
                rfl

/-- The next channel of a replay without owners. -/
theorem next_ownerless (h : Ownerless expand bare) (attempts : Nat) (replay : Replay) :
    replay.ownerless.next bare i side attempts =
      (replay.next expand i side attempts).map fun x => (x.1, x.2.1.ownerless, x.2.2.ownerless) := by
  induction attempts generalizing replay with
  | zero =>
      obtain ⟨position, port, cs⟩ := replay
      cases cs with
      | nil => rfl
      | cons c cs => rfl
  | succ attempts ih =>
      obtain ⟨position, port, cs⟩ := replay
      cases cs with
      | cons c cs => rfl
      | nil =>
          simp only [Replay.ownerless, List.map_nil]
          rw [Replay.next, Replay.next]
          cases side[(position + 1) % side.length]? with
          | none => rfl
          | some r =>
              rcases h.expand_cases r with ⟨fault, hr, hr'⟩ | ⟨queue, queue', hr, hr', all⟩
              · simp only [hr, hr', bind, Except.bind]
                rfl
              · simp only [hr, hr', bind, Except.bind, all]
                exact ih ⟨(position + 1) % side.length, r.key, queue.all⟩

/-- Serving the channels of a port without owners. -/
theorem serve_ownerless (h : Ownerless expand bare) (port : PortKey) (ds : List PortChannel)
    (replay : Replay) :
    replay.ownerless.serve bare i side port (ds.map (·.ownerless)) =
      (replay.serve expand i side port ds).map fun x => (x.1.map (·.ownerless), x.2.ownerless) := by
  induction ds generalizing replay with
  | nil => rfl
  | cons d ds ih =>
      rw [List.map_cons, Replay.serve, Replay.serve, next_ownerless h]
      cases replay.next expand i side side.length with
      | error fault => rfl
      | ok x =>
          simp only [Except.map, bind, Except.bind, ih]
          cases x.2.2.serve expand i side port ds with
          | error fault => rfl
          | ok y => rfl

/-- Serving ports without owners. -/
theorem serveAll_ownerless (h : Ownerless expand bare) (rs : List PortRef) (replay : Replay) :
    replay.ownerless.serveAll bare i side rs =
      (replay.serveAll expand i side rs).map (List.map (·.ownerless)) := by
  induction rs generalizing replay with
  | nil => rfl
  | cons r rs ih =>
      rw [Replay.serveAll, Replay.serveAll]
      rcases h.expand_cases r with ⟨fault, hr, hr'⟩ | ⟨queue, queue', hr, hr', all⟩
      · rw [hr, hr']
        rfl
      simp only [hr, hr', bind, Except.bind, all, serve_ownerless h]
      cases replay.serve expand i side r.key queue.all with
      | error fault => rfl
      | ok x =>
          simp only [Except.map, ih]
          cases x.2.serveAll expand i side rs with
          | error fault => rfl
          | ok more => simp [pure, Except.pure]

/-- The pairs of a statement without owners, or the same fault. -/
theorem pairs_ownerless (h : Ownerless expand bare) (s : Statement) :
    s.pairs bare i = (s.pairs expand i).map (List.map (·.ownerless)) := by
  unfold Statement.pairs
  cases s.left with
  | nil => rfl
  | cons l ls =>
      cases s.right with
      | nil => rfl
      | cons r rs =>
          dsimp only
          split
          · rcases h.expand_cases l with ⟨fault, hl, hl'⟩ | ⟨queue, queue', hl, hl', all⟩
            · rw [hl, hl']
              rfl
            · simp only [hl, hl', bind, Except.bind, all]
              exact serveAll_ownerless h (r :: rs) ⟨0, l.key, queue.all⟩
          · split
            · rfl
            · exact pairPorts_ownerless h (l :: ls) (r :: rs)

/-- The contributions of statements without owners. -/
theorem contributionsFrom_ownerless (h : Ownerless expand bare) (i : Nat) (ss : List Statement) :
    contributionsFrom bare i ss = (contributionsFrom expand i ss).map (·.ownerless) := by
  induction ss generalizing i with
  | nil => rfl
  | cons s ss ih =>
      have pairs : s.channelPairs bare i = (s.channelPairs expand i).map (·.ownerless) := by
        rw [Statement.channelPairs, Statement.channelPairs, pairs_ownerless h]
        cases s.pairs expand i with
        | error fault => rfl
        | ok ps => rfl
      rw [contributionsFrom, contributionsFrom, ih, pairs, List.map_append, List.map_map, List.map_map]
      rfl

/-- Grouping fails without owners where it fails with them, and with the same fault. -/
theorem groupConnections_bare_cases (p : Program) (owners : Owners) :
    (∃ fault, groupConnections p [] = .error fault ∧ groupConnections p owners = .error fault) ∨
    ∃ gs hs, groupConnections p [] = .ok gs ∧ groupConnections p owners = .ok hs := by
  have pairs : ∀ (i : Nat) (s : Statement), s.pairs (p.expand []) i =
      (s.pairs (p.expand owners) i).map (List.map (·.ownerless)) :=
    fun i s => pairs_ownerless (ownerless_expand p owners) s
  have expands : ∀ (i : Nat) (s : Statement), (∃ ps, s.pairs (p.expand owners) i = .ok ps) →
      ∃ ps, s.pairs (p.expand []) i = .ok ps := by
    rintro i s ⟨ps, hps⟩
    exact ⟨_, (pairs i s).trans (by rw [hps]; rfl)⟩
  cases grouped : groupConnections p owners with
  | error fault =>
      obtain ⟨k, s, hs, failed, before⟩ := enterStatements_eq_error_iff.mp grouped
      refine Or.inl ⟨fault, enterStatements_eq_error_iff.mpr ⟨k, s, hs, ?_, ?_⟩, rfl⟩
      · rw [pairs, failed]
        rfl
      · intro j t hj ht
        exact expands _ t (before j t hj ht)
  | ok hs =>
      obtain ⟨all, -⟩ := groupConnections_eq_ok_iff.mp grouped
      have bare := groupConnections_eq_ok_iff.mpr ⟨fun i s hs => expands i s (all i s hs), rfl⟩
      exact Or.inr ⟨_, hs, bare, rfl⟩

/-! ## Keys -/

/-- A key without federates. -/
def GroupKey.ownerless (k : GroupKey) : GroupKey :=
  { k with sourceFederate := none, destinationFederate := none }

/-- The federate that a pair comes from, and the one that it goes to if that is another one. -/
def ChannelPair.route (q : ChannelPair) : Option Nat × Option Nat :=
  (q.source.federate, if q.isFederated then q.destination.federate else none)

/-- The federates of a key. -/
def GroupKey.route (k : GroupKey) : Option Nat × Option Nat :=
  (k.sourceFederate, k.destinationFederate)

/-- Keys that differ in nothing but federates, and have these in common as well, are the same. -/
theorem GroupKey.eq_iff {k k' : GroupKey} :
    k = k' ↔ k.ownerless = k'.ownerless ∧ k.route = k'.route := by
  obtain ⟨port, delay, physical, source, destination⟩ := k
  obtain ⟨port', delay', physical', source', destination'⟩ := k'
  simp [GroupKey.ownerless, GroupKey.route, and_assoc]

/-- A contribution without owners has the key without federates. -/
theorem key_ownerless (c : Contribution) : c.ownerless.key = c.key.ownerless := by
  refine Contribution.key_eq_iff.mpr ⟨rfl, rfl, rfl, rfl, ?_⟩
  have stays : c.ownerless.pair.isFederated = false := rfl
  rw [stays]
  rfl

/-- Whether a group has the source port, the delay and the physical flag of another. -/
def Group.Covers (whole part : Group) : Prop :=
  whole.key.sourcePort = part.key.sourcePort ∧ whole.key.delayNs = part.key.delayNs ∧
    whole.key.physical = part.key.physical

/-- A group covers another if their keys are the same without federates. -/
theorem covers_iff {whole part : Group} :
    whole.Covers part ↔ whole.key.ownerless = part.key.ownerless := by
  unfold Group.Covers GroupKey.ownerless
  simp

/-! ## Fan-out -/

/-- The greatest of several numbers is bounded if all of them are. -/
theorem foldl_max_le_iff {l : List Nat} {m n : Nat} :
    l.foldl max m ≤ n ↔ m ≤ n ∧ ∀ k ∈ l, k ≤ n := by
  induction l generalizing m with
  | nil => simp
  | cons k l ih =>
      rw [List.foldl_cons, ih, Nat.max_le, List.forall_mem_cons, and_assoc]

/-- No source channel has more destinations than a bound if each has no more. -/
theorem maxDownstreams_le_iff {g : Group} {n : Nat} :
    g.maxDownstreams ≤ n ↔
      ∀ q ∈ g.pairs, (g.pairs.map Group.sourceSlot).count (Group.sourceSlot q) ≤ n := by
  unfold Group.maxDownstreams
  simp only [foldl_max_le_iff, Nat.zero_le, true_and, List.forall_mem_map]

/-- A port of an instance has as many members as the instance. -/
theorem bankWidth_of_shape? {port : PortKey} {name : String} {bankWidth portWidth : Nat}
    (named : port.instanceName = some name) (h : p.shape? port = some (bankWidth, portWidth)) :
    ∃ inst, p.instance? name = some inst ∧ bankWidth = inst.bankWidth.getD 1 := by
  unfold Program.shape? at h
  rw [named] at h
  obtain ⟨inst, found, h⟩ := Option.bind_eq_some_iff.mp h
  obtain ⟨declared, -, h⟩ := Option.bind_eq_some_iff.mp h
  cases h
  exact ⟨inst, found, rfl⟩

/-- Channels of one port with one owner are of the same member, if the owner sees them as such. -/
theorem bankIndex_eq {port : PortKey} {c d : PortChannel}
    (distinct : ∀ key key' k, owners.lookup key = some k → owners.lookup key' = some k → key = key')
    (hc : IsChannel (p.expand owners) port c) (hd : IsChannel (p.expand owners) port d)
    (owner : c.federate = d.federate) (slot : c.codeBankIndex = d.codeBankIndex) :
    c.bankIndex = d.bankIndex := by
  obtain ⟨width, _, shape, hcb, -, hco⟩ := shape_of_isChannel hc
  obtain ⟨width', _, shape', hdb, -, hdo⟩ := shape_of_isChannel hd
  unfold PortChannel.codeBankIndex at slot
  rw [← owner] at slot hdo
  cases known : c.federate with
  | none => simpa [known] using slot
  | some k =>
      rw [known] at hco hdo
      obtain ⟨name, named, hck⟩ := Option.bind_eq_some_iff.mp hco.symm
      obtain ⟨name', named', hdk⟩ := Option.bind_eq_some_iff.mp hdo.symm
      obtain rfl : name = name' := Option.some.inj (named.symm.trans named')
      have keys := congrArg FederateKey.bankIndex (distinct _ _ k hck hdk)
      obtain ⟨inst, found, rfl⟩ := bankWidth_of_shape? named shape
      obtain ⟨inst', found', rfl⟩ := bankWidth_of_shape? named shape'
      obtain rfl : inst = inst' := Option.some.inj (found.symm.trans found')
      unfold Program.ownerKey at keys
      rw [found] at keys
      cases bank : inst.bankWidth with
      | none =>
          -- an instance that is no bank has one member only
          rw [bank, Option.getD_none] at hcb hdb
          omega
      | some width => simpa [bank] using keys

/-! ## Splitting -/

/-- Whether the groups `parts` split the groups `whole`, when owners are erased. -/
structure Splits (whole parts : List Group) : Prop where
  /-- Each part is covered by one group. -/
  covered : ∀ g ∈ parts, ∃! w, w ∈ whole ∧ w.Covers g
  /-- Its pairs are pairs of that group, in their order. -/
  pairs : ∀ g ∈ parts, ∀ w ∈ whole, w.Covers g → (g.pairs.map (·.ownerless)).Sublist w.pairs
  /-- The pairs of a group have owners by which they are divided: each pair is in the one part that
  it covers and that has the federates of the pair. -/
  divided : ∀ w ∈ whole, ∃ qs : List ChannelPair, qs.map (·.ownerless) = w.pairs ∧
    (∀ g ∈ parts, w.Covers g → g.pairs = qs.filter fun q => q.route = g.key.route) ∧
    ∀ q ∈ qs, ∃! g, g ∈ parts ∧ w.Covers g ∧ q.route = g.key.route
  /-- No source channel has more destinations in a part. -/
  maxDownstreams : ∀ g ∈ parts, ∀ w ∈ whole, w.Covers g → g.maxDownstreams ≤ w.maxDownstreams

section

variable {whole parts : List Group} {w g : Group} {cs : List Contribution} {q : ChannelPair}

/-- The pairs that a group of the program without federates is made of, with their owners. -/
def Group.owned (w : Group) (cs : List Contribution) : List ChannelPair :=
  (cs.filter fun c => c.key.ownerless = w.key.ownerless).map (·.pair)

/-- A group has the key of a contribution, and each contribution has a group with its key. -/
theorem Grouped.exists_key_iff (h : Grouped cs parts) {k : GroupKey} :
    (∃ g ∈ parts, g.key = k) ↔ ∃ c ∈ cs, c.key = k := by
  rw [← List.mem_map, ← List.mem_map, h.keys, List.mem_eraseDups]

/-- Groups with one key are the same. -/
theorem Grouped.eq_of_key_eq {g' : Group} (h : Grouped cs parts) (hg : g ∈ parts) (hg' : g' ∈ parts)
    (same : g.key = g'.key) : g = g' :=
  List.inj_on_of_nodup_map (h.keys ▸ nodup_eraseDups _) hg hg' same

/-- Without federates, keys have none. -/
theorem key_ownerless_of_mem (h : Grouped (cs.map (·.ownerless)) whole) (hw : w ∈ whole) :
    w.key.ownerless = w.key := by
  obtain ⟨_, hc, key⟩ := h.exists_key_iff.mp ⟨w, hw, rfl⟩
  obtain ⟨c, -, rfl⟩ := List.mem_map.mp hc
  rw [← key, key_ownerless]
  rfl

/-- The pairs of a group of the program without federates, in terms of those with owners. -/
theorem map_ownerless_owned (h : Grouped (cs.map (·.ownerless)) whole) (hw : w ∈ whole) :
    (w.owned cs).map (·.ownerless) = w.pairs := by
  rw [h.pairs w hw, Group.contributions, List.filter_map, List.map_map, Group.owned, List.map_map]
  refine congrArg _ (List.filter_congr fun c _ => ?_)
  rw [Function.comp_apply, key_ownerless, key_ownerless_of_mem h hw]

/-- The pairs of a part are those of its group that have its federates. -/
theorem pairs_eq_filter_owned (h : Grouped cs parts) (hg : g ∈ parts) (covers : w.Covers g) :
    g.pairs = (w.owned cs).filter fun q => q.route = g.key.route := by
  have same : (cs.filter fun c => c.key.ownerless = w.key.ownerless).filter
      (fun c => c.key.route = g.key.route) = g.contributions cs := by
    rw [List.filter_filter]
    refine List.filter_congr fun c _ => ?_
    rw [Bool.eq_iff_iff, Bool.and_eq_true, decide_eq_true_eq, decide_eq_true_eq, decide_eq_true_eq,
      GroupKey.eq_iff (k := c.key), covers_iff.mp covers, and_comm]
  rw [h.pairs g hg, ← same, Group.owned, List.filter_map]
  rfl

/-- Each part is covered by one group. -/
theorem existsUnique_covers (hw : Grouped (cs.map (·.ownerless)) whole) (hp : Grouped cs parts)
    (hg : g ∈ parts) : ∃! w, w ∈ whole ∧ w.Covers g := by
  obtain ⟨c, hc, key⟩ := hp.exists_key_iff.mp ⟨g, hg, rfl⟩
  obtain ⟨w, mem, found⟩ :=
    hw.exists_key_iff.mpr ⟨c.ownerless, List.mem_map.mpr ⟨c, hc, rfl⟩, rfl⟩
  rw [key_ownerless, key] at found
  refine ⟨w, ⟨mem, covers_iff.mpr ?_⟩, ?_⟩
  · rw [found]
    rfl
  · rintro w' ⟨mem', covers⟩
    refine hw.eq_of_key_eq mem' mem ?_
    rw [found, ← key_ownerless_of_mem hw mem', covers_iff.mp covers]

/-- Each pair of a group is in one part. -/
theorem existsUnique_part (hp : Grouped cs parts) (hq : q ∈ w.owned cs) :
    ∃! g, g ∈ parts ∧ w.Covers g ∧ q.route = g.key.route := by
  obtain ⟨c, hc, rfl⟩ := List.mem_map.mp hq
  obtain ⟨hc, whole⟩ := List.mem_filter.mp hc
  have whole : c.key.ownerless = w.key.ownerless := of_decide_eq_true whole
  obtain ⟨g, hg, key⟩ := hp.exists_key_iff.mpr ⟨c, hc, rfl⟩
  refine ⟨g, ⟨hg, covers_iff.mpr ?_, ?_⟩, ?_⟩
  · rw [key, whole]
  · rw [key]
    rfl
  · rintro g' ⟨hg', covers, route⟩
    refine hp.eq_of_key_eq hg' hg ?_
    rw [key, GroupKey.eq_iff, ← covers_iff.mp covers]
    exact ⟨whole.symm, route.symm⟩

/-- Groups without federates are split by federates, if no two channels are confused. -/
theorem splits_of_grouped (hw : Grouped (cs.map (·.ownerless)) whole) (hp : Grouped cs parts)
    (slots : ∀ g ∈ parts, ∀ q ∈ g.pairs, ∀ r ∈ g.pairs,
      Group.sourceSlot q = Group.sourceSlot r →
        Group.sourceSlot q.ownerless = Group.sourceSlot r.ownerless) : Splits whole parts := by
  have pairs : ∀ g ∈ parts, ∀ w ∈ whole, w.Covers g →
      (g.pairs.map (·.ownerless)).Sublist w.pairs := by
    intro g hg w mem covers
    rw [pairs_eq_filter_owned hp hg covers, ← map_ownerless_owned hw mem]
    exact List.filter_sublist.map _
  refine ⟨fun g hg => existsUnique_covers hw hp hg, pairs, ?_, ?_⟩
  · intro w mem
    exact ⟨w.owned cs, map_ownerless_owned hw mem,
      fun g hg covers => pairs_eq_filter_owned hp hg covers, fun q hq => existsUnique_part hp hq⟩
  · intro g hg w mem covers
    have sub := pairs g hg w mem covers
    rw [maxDownstreams_le_iff]
    intro q hq
    have hq' : q.ownerless ∈ w.pairs := sub.subset (List.mem_map.mpr ⟨q, hq, rfl⟩)
    calc (g.pairs.map Group.sourceSlot).count (Group.sourceSlot q)
        ≤ ((g.pairs.map (·.ownerless)).map Group.sourceSlot).count (Group.sourceSlot q.ownerless) := by
          rw [List.map_map, List.count, List.count, List.countP_map, List.countP_map]
          refine List.countP_mono_left fun r hr same => ?_
          simp only [Function.comp_apply, beq_iff_eq] at same ⊢
          exact slots g hg r hr q hq same
      _ ≤ (w.pairs.map Group.sourceSlot).count (Group.sourceSlot q.ownerless) :=
          (sub.map _).count_le _
      _ ≤ w.maxDownstreams := maxDownstreams_le_iff.mp (Nat.le_refl _) _ hq'

end

/-! ## Programs -/

/-- The program with its instances deployed on their own. -/
def Program.deployed (p : Program) : Program := { p with federated := true }

/-- A program that is federated is deployed. -/
theorem deployed_eq (h : p.federated = true) : p.deployed = p := by
  unfold Program.deployed
  rw [← h]

/-- The checks do not look at whether a program is deployed. -/
theorem validate_deployed (valid : p.validate = .ok ()) : p.deployed.validate = .ok () := by
  rw [validate_eq_ok_iff] at valid ⊢
  refine ⟨valid.ports, valid.instances, valid.distinct, fun s hs => ?_⟩
  obtain ⟨left, right, declared, serverPort⟩ := valid.statements s hs
  exact ⟨left, right, declared, serverPort⟩

/-- In a group, what its owner sees as one channel is one channel of the port. -/
theorem sourceSlot_ownerless {groups : List Group} {g : Group} {q r : ChannelPair}
    (distinct : ∀ key key' k, owners.lookup key = some k → owners.lookup key' = some k → key = key')
    (grouped : groupConnections p owners = .ok groups) (hg : g ∈ groups) (hq : q ∈ g.pairs)
    (hr : r ∈ g.pairs) (same : Group.sourceSlot q = Group.sourceSlot r) :
    Group.sourceSlot q.ownerless = Group.sourceSlot r.ownerless := by
  obtain ⟨_, s, _, expanded, hq, key⟩ := exists_statement_of_mem_group grouped hg hq
  obtain ⟨_, t, _, expanded', hr, key'⟩ := exists_statement_of_mem_group grouped hg hr
  obtain ⟨portIndex, bankIndex⟩ := Prod.mk.inj same
  have keys := key.trans key'.symm
  have port : q.sourcePort = r.sourcePort := congrArg GroupKey.sourcePort keys
  have owner : q.source.federate = r.source.federate := congrArg GroupKey.sourceFederate keys
  have hc := (joins_of_mem_pairs expanded hq).1
  have hd := (joins_of_mem_pairs expanded' hr).1
  rw [← port] at hd
  have members : q.source.bankIndex = r.source.bankIndex := bankIndex_eq distinct hc hd owner bankIndex
  exact Prod.ext portIndex members

/-- **Deploying the instances of a program splits its groups.** With and without federates, grouping
fails with the same fault, or the groups with federates split those without. -/
theorem groupConnections_split (p : Program) (valid : p.validate = .ok ()) :
    (p.federated = true → ∀ n, Federation.enlist p = .ok n →
      Federation.owners n.federates = p.deployed.owners) ∧
    ((∃ fault, groupConnections p [] = .error fault ∧
        groupConnections p p.deployed.owners = .error fault) ∨
      ∃ whole parts, groupConnections p [] = .ok whole ∧
        groupConnections p p.deployed.owners = .ok parts ∧ Splits whole parts) := by
  constructor
  · intro federated n enlisted
    rw [deployed_eq federated, owners_enlist enlisted]
  · rcases groupConnections_bare_cases p p.deployed.owners with failed | ⟨whole, parts, hw, hp⟩
    · exact Or.inl failed
    · refine Or.inr ⟨whole, parts, hw, hp, ?_⟩
      have grouped := grouped_of_groupConnections hw
      rw [Program.contributions, contributionsFrom_ownerless (ownerless_expand p p.deployed.owners)]
        at grouped
      refine splits_of_grouped grouped (grouped_of_groupConnections hp) ?_
      intro g hg q hq r hr same
      have keys : p.deployed.keys.Nodup := nodup_keys (validate_deployed valid)
      refine sourceSlot_ownerless ?_ hp hg hq hr same
      intro key key' k h h'
      have found := (lookup_owners_iff keys).mp h
      rw [(lookup_owners_iff keys).mp h', Option.some.injEq] at found
      exact found.symm

/-- How many pairs a group has, and how many destinations the busiest of its source channels. -/
def Group.size (g : Group) : Nat × Nat := (g.pairs.length, g.maxDownstreams)

/-- The relay sends to the members of a bank and hears from them: each of its two groups is
split. -/
theorem relay_split : relay.validate = .ok () ∧ ∃ whole parts,
    groupConnections relay [] = .ok whole ∧
    groupConnections relay relay.deployed.owners = .ok parts ∧ Splits whole parts ∧
    whole.map (·.size) = [(4, 2), (2, 1)] ∧ parts.map (·.size) = [(2, 2), (2, 2), (1, 1), (1, 1)] := by
  have valid : relay.validate = .ok () := rfl
  have before : (groupConnections relay []).toOption.map (List.map (·.size)) =
      some [(4, 2), (2, 1)] := by decide +kernel
  have after : (groupConnections relay relay.deployed.owners).toOption.map (List.map (·.size)) =
      some [(2, 2), (2, 2), (1, 1), (1, 1)] := by decide +kernel
  rcases (groupConnections_split relay valid).2 with
    ⟨fault, failed, -⟩ | ⟨whole, parts, hw, hp, splits⟩
  · rw [failed] at before
    cases before
  · rw [hw] at before
    rw [hp] at after
    exact ⟨valid, whole, parts, hw, hp, splits, Option.some.inj before, Option.some.inj after⟩

end ReactorNet
