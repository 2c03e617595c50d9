import ReactorNet.Proofs.Ownership
import ReactorNet.Proofs.Runs

/-!
# `ReactorNet.Proofs.Faults` · why a program can have no topology

`Program.Fault` lists what can keep a program from having a topology, with everything that the fault
then says about the program. `resolve_faults` says that there is nothing else: of the faults that
guard against errors of the library itself, those cannot occur that a reference, a queue or a number
of a federate would have to be wrong for. The one that is left tells of a statement whose sides name
different numbers of ports.

**Why the guards hold.** Each for a reason of its own: references are checked before they are
expanded; runs take what both queues hold; no port is empty, so a replay always finds a channel;
groups cross only between different federates, whose numbers are positions; and every federate has
an interface.
-/

namespace ReactorNet

variable {p : Program} {owners : Owners} {expand : Expansion} {i : Nat} {s : Statement}
  {fault : ResolutionFault} {groups : List Group} {n m : Network} {part : Part} {earlier : List Part}
  {bs : List Bundle}

/-! ## Statements -/

/-- Why a statement has no pairs. -/
inductive Statement.Fault (expand : Expansion) (number : Nat) (s : Statement) :
    ResolutionFault → Prop where
  /-- Its sides name different numbers of ports. -/
  | unpaired (once : s.iterated = false) (differ : s.left.length ≠ s.right.length) :
      s.Fault expand number (.unpaired number s.left.length s.right.length)
  /-- Two ports that face each other have different numbers of channels. -/
  | widthMismatch {k : Nat} {l r : PortRef} {left right : ChannelQueue} (once : s.iterated = false)
      (even : s.left.length = s.right.length) (hl : s.left[k]? = some l) (hr : s.right[k]? = some r)
      (expandLeft : expand l = .ok left) (expandRight : expand r = .ok right)
      (differ : left.all.length ≠ right.all.length) :
      s.Fault expand number (.widthMismatch number l r left.all.length right.all.length)

/-- Whether all of the references are expanded. -/
def Expands (expand : Expansion) (refs : List PortRef) : Prop :=
  ∀ r ∈ refs, ∃ queue, expand r = .ok queue

/-- Ports that cannot be paired face each other with different numbers of channels. -/
theorem exists_mismatch {ls rs : List PortRef} (left : Expands expand ls) (right : Expands expand rs)
    (h : pairPorts expand i ls rs = .error fault) :
    ∃ (k : Nat) (l r : PortRef) (ql qr : ChannelQueue), ls[k]? = some l ∧ rs[k]? = some r ∧
      expand l = .ok ql ∧ expand r = .ok qr ∧ ql.all.length ≠ qr.all.length ∧
      fault = .widthMismatch i l r ql.all.length qr.all.length := by
  induction ls generalizing rs with
  | nil => cases h
  | cons l ls ih =>
      cases rs with
      | nil => cases h
      | cons r rs =>
          obtain ⟨⟨ql, hql⟩, left⟩ := List.forall_mem_cons.mp left
          obtain ⟨⟨qr, hqr⟩, right⟩ := List.forall_mem_cons.mp right
          rw [pairPorts, hql] at h
          simp only [bind, Except.bind, hqr] at h
          by_cases differ : ql.all.length = qr.all.length
          · simp only [differ, bne_self_eq_false, Bool.false_eq_true, if_false] at h
            cases rest : pairPorts expand i ls rs with
            | error cause =>
                rw [rest] at h
                cases h
                obtain ⟨k, found⟩ := ih left right rest
                exact ⟨k + 1, found⟩
            | ok more =>
                rw [rest] at h
                cases h
          · simp only [bne_iff_ne.mpr differ, if_true] at h
            cases h
            exact ⟨0, l, r, ql, qr, rfl, rfl, hql, hqr, differ, rfl⟩

/-- A replay always finds a channel, as no port of its side is empty. -/
theorem exists_next {side : List PortRef} (fresh : Fresh expand) (nonempty : side ≠ [])
    (left : Expands expand side) (replay : Replay) :
    ∃ x, replay.next expand i side side.length = .ok x := by
  obtain ⟨position, port, cs⟩ := replay
  cases cs with
  | cons c cs => exact ⟨_, Replay.next.eq_1 ..⟩
  | nil =>
      obtain ⟨attempts, hn⟩ := Nat.exists_eq_succ_of_ne_zero (mt List.length_eq_zero_iff.mp nonempty)
      have inside : (position + 1) % side.length < side.length := Nat.mod_lt _ (by omega)
      have hr : side[(position + 1) % side.length]? = some side[(position + 1) % side.length] :=
        List.getElem?_eq_getElem inside
      obtain ⟨queue, hq⟩ := left _ (List.mem_of_getElem? hr)
      obtain ⟨c, cs, hcs⟩ := List.exists_cons_of_ne_nil (fresh _ queue hq).2.2
      rw [hn, Replay.next]
      simp only [hr, bind, Except.bind, hq, fresh.all_eq hq, hcs]
      exact ⟨_, Replay.next.eq_1 ..⟩

/-- Serving channels of a port succeeds. -/
theorem exists_serve {side : List PortRef} (fresh : Fresh expand) (nonempty : side ≠ [])
    (left : Expands expand side) (port : PortKey) (ds : List PortChannel) (replay : Replay) :
    ∃ x, replay.serve expand i side port ds = .ok x := by
  induction ds generalizing replay with
  | nil => exact ⟨_, rfl⟩
  | cons d ds ih =>
      obtain ⟨⟨sourcePort, source, rest⟩, next⟩ := exists_next (i := i) fresh nonempty left replay
      obtain ⟨⟨pairs, final⟩, served⟩ := ih rest
      simp only [Replay.serve, bind, Except.bind, next, served]
      exact ⟨_, rfl⟩

/-- Serving ports succeeds. -/
theorem exists_serveAll {side rs : List PortRef} (fresh : Fresh expand) (nonempty : side ≠ [])
    (left : Expands expand side) (right : Expands expand rs) (replay : Replay) :
    ∃ ps, replay.serveAll expand i side rs = .ok ps := by
  induction rs generalizing replay with
  | nil => exact ⟨_, rfl⟩
  | cons r rs ih =>
      obtain ⟨⟨queue, hq⟩, right⟩ := List.forall_mem_cons.mp right
      obtain ⟨⟨pairs, rest⟩, served⟩ :=
        exists_serve (i := i) fresh nonempty left r.key queue.all replay
      obtain ⟨more, hmore⟩ := ih right rest
      refine ⟨pairs ++ more, bind_eq_ok_iff.mpr ⟨_, hq, ?_⟩⟩
      refine bind_eq_ok_iff.mpr ⟨_, served, ?_⟩
      exact bind_eq_ok_iff.mpr ⟨_, hmore, rfl⟩

/-- References to declared ports are expanded. -/
theorem expands_of_declared {refs : List PortRef}
    (declared : ∀ r ∈ refs, ∃ shape, p.shape? r.key = some shape) (owners : Owners) :
    Expands (p.expand owners) refs := by
  intro r hr
  obtain ⟨⟨bankWidth, portWidth⟩, shape⟩ := declared r hr
  rw [Program.expand, shape]
  exact ⟨_, rfl⟩

/-- The references of a sound statement are expanded. -/
theorem Statement.Sound.expands (sound : s.Sound p) (owners : Owners) :
    Expands (p.expand owners) (s.left ++ s.right) :=
  expands_of_declared sound.declared owners

/-- A sound statement has no pairs only for one of two reasons. -/
theorem fault_of_pairs (valid : p.validate = .ok ()) (sound : s.Sound p)
    (h : s.pairs (p.expand owners) i = .error fault) : s.Fault (p.expand owners) i fault := by
  have fresh := fresh_expand valid owners
  have left : Expands (p.expand owners) s.left := fun r hr =>
    sound.expands owners r (List.mem_append_left _ hr)
  have right : Expands (p.expand owners) s.right := fun r hr =>
    sound.expands owners r (List.mem_append_right _ hr)
  unfold Statement.pairs at h
  split at h
  · rename_i hl
    exact absurd hl sound.left
  · rename_i hr _
    exact absurd hr sound.right
  · rename_i l ls hl _
    rw [← hl] at h
    split at h
    · -- an iterated statement has pairs in any case
      obtain ⟨queue, hq⟩ := left l (by rw [hl]; exact List.mem_cons_self)
      obtain ⟨ps, served⟩ := exists_serveAll (i := i) fresh sound.left left right
        ⟨0, l.key, queue.all⟩
      rw [bind_eq_ok_iff.mpr ⟨queue, hq, served⟩] at h
      cases h
    · rename_i once
      have once : s.iterated = false := by simpa using once
      split at h
      · rename_i differ
        cases h
        exact .unpaired once (by simpa using differ)
      · rename_i even
        obtain ⟨k, l, r, ql, qr, hkl, hkr, hql, hqr, differ, rfl⟩ := exists_mismatch left right h
        exact .widthMismatch once (by simpa using even) hkl hkr hql hqr differ

/-! ## Channels -/

/-- Whether a fault can arise where a channel is laid. -/
inductive InterfaceFault.OfChannel : InterfaceFault → Prop where
  /-- The link names an interface that the federate does not have. -/
  | unknownInterface (name : String) : OfChannel (.unknownInterface name)
  /-- The ends speak different protocols. -/
  | protocolMismatch {source destination : Protocol} (differ : source ≠ destination) :
      OfChannel (.protocolMismatch source destination)
  /-- The port that the link asks for is claimed. -/
  | portInUse (a : Address) (port : Nat) : OfChannel (.portInUse a port)
  /-- The port that the link asks for may not be asked for. -/
  | portOutOfRange (port : Nat) : OfChannel (.portOutOfRange port)
  /-- The address has no free port. -/
  | noPortLeft (a : Address) : OfChannel (.noPortLeft a)

/-- Claiming the port that a side listens on fails for reasons of channels. -/
theorem ofChannel_of_claimServerPort {asked : Option Nat} {a : Address} {t : Allocation}
    {cause : InterfaceFault} (h : claimServerPort asked a t = .error cause) : cause.OfChannel := by
  cases asked with
  | none =>
      simp only [claimServerPort, Allocation.takePort] at h
      split at h
      · cases h
      · cases h
        exact .noPortLeft a
  | some port =>
      have h := map_eq_error_iff.mp h
      unfold Allocation.reservePort at h
      split at h
      · cases h
        exact .portOutOfRange port
      · split at h
        · cases h
        · cases h
          exact .portInUse a port

/-- Laying a channel between bindings fails for reasons of channels. -/
theorem ofChannel_of_lay {link : Link} {x y : Binding} {t : Allocation} {cause : InterfaceFault}
    (h : Channel.lay link x y t = .error cause) : cause.OfChannel := by
  unfold Channel.lay at h
  split at h
  · exact ofChannel_of_claimServerPort (map_eq_error_iff.mp h)
  · cases h
  · cases h
  · cases h
  · rename_i tcp uart coap custom
    cases h
    refine .protocolMismatch ?_
    intro same
    -- bindings of one protocol have been dealt with
    cases x <;> cases y <;> simp_all [Binding.protocol]

/-- Choosing an interface fails if there is none of that name. -/
theorem ofChannel_of_choice {is : Interfaces} {asked : Option String} {cause : InterfaceFault}
    (h : is.choice asked = .error cause) : cause.OfChannel := by
  rw [Interfaces.choice_eq] at h
  split at h
  · cases h
  · split at h
    · cases h
    · cases h
      exact .unknownInterface _

/-- Laying a channel between federates fails for reasons of channels. -/
theorem ofChannel_of_synthesize {link : Option Link} {source destination : Interfaces}
    {t : Allocation} {cause : InterfaceFault}
    (h : synthesize link source destination t = .error cause) : cause.OfChannel := by
  rw [synthesize_eq] at h
  rcases bind_eq_error_iff.mp h with failed | ⟨x, -, h⟩
  · exact ofChannel_of_choice failed
  rcases bind_eq_error_iff.mp h with failed | ⟨y, -, h⟩
  · exact ofChannel_of_choice failed
  rcases bind_eq_error_iff.mp h with failed | ⟨channel, -, h⟩
  · exact ofChannel_of_lay failed
  · cases h

/-! ## Numbers and positions -/

/-- How many interfaces each federate of a program has: as many as are declared, but at least
one. -/
def Program.interfaceCounts (p : Program) : List Nat :=
  if p.federated then p.members.map fun x => max 1 x.2.interfaces.length else []

/-- A federate has an interface for each declared one, and one if none is declared. -/
theorem length_claim {bank : Option Nat} {decls : List InterfaceDecl} {is : Interfaces}
    {t u : Allocation} (h : Interfaces.claim decls bank t = (.ok is, u)) :
    is.toList.length = max 1 decls.length := by
  obtain ⟨list, claimed, rfl⟩ := claim_eq_ok_iff.mp h
  have counted := length_claimAll claimed
  rw [List.length_nil, Nat.zero_add] at counted
  rw [← counted]
  cases list with
  | nil => rfl
  | cons first others =>
      rw [Interfaces.toList_ofList (List.cons_ne_nil _ _), List.length_cons]
      omega

/-- Federates that are enlisted have as many interfaces as the program says. -/
theorem interfaceCounts_enlist (h : Federation.enlist p = .ok n) :
    n.federates.map (fun f => f.interfaces.toList.length) = p.interfaceCounts := by
  have counts : List.Forall₂ (· = ·) ((n.federates.map (·.station)).map fun x => x.2.toList.length)
      (p.enlisted.map fun x => max 1 x.2.interfaces.length) :=
    List.rel_map (fun _ _ ⟨_, _, _, claimed⟩ => length_claim claimed) (forall₂_enlist h)
  rw [List.forall₂_eq_eq_eq, List.map_map] at counts
  refine counts.trans ?_
  unfold Program.interfaceCounts Program.enlisted
  split
  · rfl
  · rfl

/-- Networks of one outline have as many federates, with as many interfaces. -/
theorem interfaceCounts_of_outline_eq (h : m.outline = n.outline) :
    m.federates.map (fun f => f.interfaces.toList.length) =
      n.federates.map fun f => f.interfaces.toList.length := by
  have counts := congrArg (List.map fun x => x.2.length) h
  unfold Network.outline Interfaces.outline at counts
  simpa only [List.map_map, Function.comp_def, List.length_map] using counts

/-- Whether everything is there that laying the channel of a part looks up by a number: the groups,
the two federates, which are different, and a first interface of either. -/
structure Part.InBounds (groups : List Group) (n : Network) (part : Part) : Prop where
  /-- The numbers of the groups are positions. -/
  groups : ∀ k ∈ part.2, k < groups.length
  /-- The number of the source is a position. -/
  source : part.1.1 < n.federates.length
  /-- The number of the destination is a position. -/
  destination : part.1.2 < n.federates.length
  /-- The two federates are different. -/
  different : part.1.1 ≠ part.1.2
  /-- No federate is without an interface. -/
  interfaces : ∀ f ∈ n.federates, 0 < f.interfaces.toList.length

/-- Whenever the channel of a part is to be laid, the numbers of the part are positions. -/
theorem inBounds_of_layParts (valid : p.validate = .ok ()) (enlisted : Federation.enlist p = .ok n)
    (grouped : groupConnections p p.owners = .ok groups) (h : part ∈ partition groups)
    (laid : layParts groups earlier n = (.ok bs, m)) :
    part.InBounds groups m ∧
      m.federates.map (fun f => f.interfaces.toList.length) = p.interfaceCounts := by
  have counts :=
    (interfaceCounts_of_outline_eq (outline_layParts laid)).trans (interfaceCounts_enlist enlisted)
  have count : m.federates.length = p.keys.length := by
    rw [← map_key_layParts enlisted laid, List.length_map]
  obtain ⟨source, destination, different⟩ := ends_of_mem_partition valid grouped h
  refine ⟨⟨?_, by rwa [count], by rwa [count], different, ?_⟩, counts⟩
  · intro k hk
    obtain ⟨g, hg, -⟩ := (mem_part_iff h).mp hk
    exact (List.getElem?_eq_some_iff.mp hg).1
  · intro f hf
    have mem : f.interfaces.toList.length ∈ p.interfaceCounts := by
      rw [← counts]
      exact List.mem_map.mpr ⟨f, hf, rfl⟩
    unfold Program.interfaceCounts at mem
    split at mem
    · obtain ⟨x, -, hx⟩ := List.mem_map.mp mem
      omega
    · cases mem

/-! ## Programs -/

/-- Why a program has no topology. -/
inductive Program.Fault (p : Program) : ResolutionFault → Prop where
  /-- It does not pass its checks. -/
  | rejected {r : Rejection} (h : p.validate = .error r) : p.Fault (.description (.rejected r))
  /-- The interfaces of one of its federates cannot be claimed. -/
  | federate {key : FederateKey} {cause : InterfaceFault} (h : key ∈ p.keys) :
      p.Fault (.federate key.text cause)
  /-- One of its statements has no pairs. -/
  | statement {i : Nat} {s : Statement} {fault : ResolutionFault} (hs : p.statements[i]? = some s)
      (h : s.Fault (p.expand p.owners) i fault) : p.Fault fault
  /-- The channel between two of its federates cannot be laid. -/
  | bundle {source destination : FederateKey} {cause : InterfaceFault} (hs : source ∈ p.keys)
      (hd : destination ∈ p.keys) (different : source ≠ destination) (h : cause.OfChannel) :
      p.Fault (.bundle source.text destination.text cause)

/-- Where interfaces cannot be claimed, they are those of a federate, whose key comes with the
fault. -/
theorem exists_claim_of_claimFederates {members : List (FederateKey × Instance)} {t : Allocation}
    {key : FederateKey} {cause : InterfaceFault}
    (h : claimFederates members t = .error (key, cause)) :
    ∃ inst, (key, inst) ∈ members ∧
      ∃ u v, Interfaces.claim inst.interfaces key.bankIndex u = (.error cause, v) := by
  induction members generalizing t with
  | nil => cases h
  | cons member members ih =>
      rcases claimFederates_cons_eq_error_iff.mp h with ⟨rfl, u, refused⟩ | ⟨is, u, -, failed⟩
      · exact ⟨member.2, List.mem_cons_self, t, u, refused⟩
      · obtain ⟨later, mem, refused⟩ := ih failed
        exact ⟨later, List.mem_cons_of_mem _ mem, refused⟩

/-- Enlisting federates fails at one of them, whose interfaces cannot be claimed. -/
theorem exists_claim_of_enlist (h : Federation.enlist p = .error fault) :
    ∃ key inst cause, p.federated = true ∧ (key, inst) ∈ p.members ∧
      fault = .federate key.text cause ∧
      ∃ u v, Interfaces.claim inst.interfaces key.bankIndex u = (.error cause, v) := by
  unfold Federation.enlist at h
  split at h
  · rename_i federated
    split at h
    · cases h
    · rename_i key cause refused
      cases h
      obtain ⟨inst, mem, claimed⟩ := exists_claim_of_claimFederates refused
      exact ⟨key, inst, cause, federated, mem, rfl, claimed⟩
  · cases h

/-- Grouping connections fails at a statement. -/
theorem exists_fault_of_groupConnections (valid : p.validate = .ok ())
    (h : groupConnections p p.owners = .error fault) :
    ∃ (i : Nat) (s : Statement), p.statements[i]? = some s ∧ s.Fault (p.expand p.owners) i fault := by
  obtain ⟨k, s, hs, failed, -⟩ := enterStatements_eq_error_iff.mp h
  rw [Nat.zero_add] at failed
  have sound := (validate_eq_ok_iff.mp valid).statements s (List.mem_of_getElem? hs)
  exact ⟨k, s, hs, fault_of_pairs valid sound failed⟩

/-- Laying channels fails at one of them, between two federates of the program. -/
theorem exists_fault_of_layBundles (valid : p.validate = .ok ())
    (enlisted : Federation.enlist p = .ok n) (grouped : groupConnections p p.owners = .ok groups)
    (h : layBundles groups n = (.error fault, m)) :
    ∃ source ∈ p.keys, ∃ destination ∈ p.keys, source ≠ destination ∧
      ∃ cause, cause.OfChannel ∧ fault = .bundle source.text destination.text cause := by
  obtain ⟨earlier, part, later, bs, whole, laid, failed⟩ := exists_of_layParts_error h
  have mem : part ∈ partition groups := by
    rw [whole]
    exact List.mem_append_right _ List.mem_cons_self
  obtain ⟨bounds, -⟩ := inBounds_of_layParts valid enlisted grouped mem laid
  have hf := List.getElem?_eq_getElem bounds.source
  have hg := List.getElem?_eq_getElem bounds.destination
  rw [layBundle_eq hf hg bounds.different] at failed
  -- the keys of the network are those of the program, so different positions have different ones
  have keys := map_key_layParts enlisted laid
  split at failed
  · rename_i cause refused
    cases failed
    refine ⟨_, ?_, _, ?_, ?_, cause, ofChannel_of_synthesize refused, rfl⟩
    · rw [← keys]
      exact List.mem_map.mpr ⟨_, List.getElem_mem _, rfl⟩
    · rw [← keys]
      exact List.mem_map.mpr ⟨_, List.getElem_mem _, rfl⟩
    · intro same
      have distinct := nodup_keys valid
      rw [← keys] at distinct
      refine bounds.different ((List.getElem?_inj (by simpa using bounds.source) distinct).mp ?_)
      rw [List.getElem?_map, List.getElem?_map, hf, hg, Option.map_some, Option.map_some, same]
  · cases failed

/-- What can be said of a program that has no topology, and of every way to one. -/
structure Program.FaultsKnown (p : Program) : Prop where
  /-- The fault is a rejection, or that of a federate, a statement or a bundle. -/
  known : ∀ fault, Federation.resolve p = .error fault → p.Fault fault
  /-- The library is to blame exactly if a statement that is not iterated names different numbers of
  ports on its sides. -/
  internal : ∀ fault, Federation.resolve p = .error fault → (fault.blame = .internal ↔
    ∃ i s, p.statements[i]? = some s ∧ s.iterated = false ∧ s.left.length ≠ s.right.length ∧
      fault = .unpaired i s.left.length s.right.length)
  /-- No reference is unknown, no queue is short, no side is empty and no federate is missing. -/
  never : ∀ fault, Federation.resolve p = .error fault → (∀ r, fault ≠ .unknownPort r) ∧
    (∀ port asked left, fault ≠ .underflow port asked left) ∧ (∀ i, fault ≠ .emptySide i) ∧
    ∀ i j, fault ≠ .noSuchPair i j
  /-- The pairs of a statement, and the fault instead of them, are the same if they are taken from
  queues in runs. -/
  runs : p.validate = .ok () → ∀ (s : Statement) (i : Nat),
    s.pairsInRuns (p.expand p.owners) i = s.pairs (p.expand p.owners) i
  /-- At every step, the numbers of a part are positions, and no interface has been lost. -/
  inBounds : p.validate = .ok () → ∀ n groups, Federation.enlist p = .ok n →
    groupConnections p p.owners = .ok groups →
      ∀ earlier part, earlier ++ [part] <+: partition groups →
        ∀ bs m, layParts groups earlier n = (.ok bs, m) → part.InBounds groups m ∧
          m.federates.map (fun f => f.interfaces.toList.length) = p.interfaceCounts

/-- The fault of a program that does not resolve is known. -/
theorem fault_of_resolve (h : Federation.resolve p = .error fault) : p.Fault fault := by
  cases valid : p.validate with
  | error r =>
      rw [Federation.resolve, valid] at h
      cases h
      exact .rejected valid
  | ok _ =>
      cases enlisted : Federation.enlist p with
      | error cause =>
          rw [resolve_of_enlist_error valid enlisted] at h
          cases h
          obtain ⟨key, inst, cause, federated, mem, rfl, -⟩ := exists_claim_of_enlist enlisted
          refine .federate ?_
          rw [Program.keys, if_pos federated]
          exact List.mem_map.mpr ⟨_, mem, rfl⟩
      | ok n =>
          rw [resolve_of_enlist valid enlisted] at h
          cases grouped : groupConnections p p.owners with
          | error cause =>
              rw [grouped] at h
              cases h
              obtain ⟨i, s, hs, failed⟩ := exists_fault_of_groupConnections valid grouped
              exact .statement hs failed
          | ok groups =>
              rw [grouped] at h
              dsimp only at h
              split at h
              · cases h
              · rename_i laid
                cases h
                obtain ⟨source, hs, destination, hd, different, cause, ofChannel, rfl⟩ :=
                  exists_fault_of_layBundles valid enlisted grouped laid
                exact .bundle hs hd different ofChannel

/-- **Every fault is accounted for.** A program has no topology only if it is rejected, or a
federate, a statement or a bundle is at fault; and nothing else can go wrong on the way. -/
theorem resolve_faults (p : Program) : p.FaultsKnown := by
  refine ⟨fun fault h => fault_of_resolve h, ?_, ?_, ?_, ?_⟩
  · intro fault h
    constructor
    · intro internal
      cases fault_of_resolve h with
      | rejected => cases internal
      | federate => cases internal
      | bundle => cases internal
      | statement hs fault =>
          cases fault with
          | unpaired once differ => exact ⟨_, _, hs, once, differ, rfl⟩
          | widthMismatch => cases internal
    · rintro ⟨i, s, -, -, -, rfl⟩
      rfl
  · intro fault h
    cases fault_of_resolve h with
    | rejected => simp
    | federate => simp
    | bundle => simp
    | statement hs fault =>
        cases fault with
        | unpaired => simp
        | widthMismatch => simp
  · intro valid s i
    exact pairsInRuns_eq valid p.owners s i
  · intro valid n groups enlisted grouped earlier part next bs m laid
    have mem : part ∈ partition groups := next.subset (List.mem_append_right _ List.mem_cons_self)
    exact inBounds_of_layParts valid enlisted grouped mem laid

/-- Two ports that are connected to one: the fault for which the library is to blame. -/
example : (match Federation.resolve {
      name := "uneven"
      ports := [{ name := "x" }, { name := "y" }]
      statements := [{ left := [.ofProgram "x", .ofProgram "y"], right := [.ofProgram "y"] }] } with
    | .ok _ => none
    | .error fault => some (fault, fault.blame)) = some (.unpaired 0 2 1, .internal) := by
  decide +kernel

end ReactorNet
