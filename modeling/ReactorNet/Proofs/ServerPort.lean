import ReactorNet.Proofs.FirstLink
import ReactorNet.Proofs.Validation

/-!
# `ReactorNet.Proofs.ServerPort` · the ports that channels listen on

`PortLaw` says what a channel gets that listens on an address: the port that it asks for, or the
least one that no earlier channel was given there, or one of three faults. Every bundle with a TCP
channel obeys it, with the link of the first statement that connects its federates
(`serverPort_law`).

It mentions only the ports that earlier channels were given. The allocation keeps less than these,
but it knows the same of every port (`isPortUsed_iff`), because interfaces claim no ports and each
channel claims the one that it listens on.
-/

namespace ReactorNet

variable {p : Program} {n m : Network} {groups : List Group} {part : Part} {parts : List Part}
  {bs : List Bundle} {s : Allocation} {a b : Address} {given : List Nat} {asked : Option Nat}
  {outcome outcome' : Except InterfaceFault Nat} {q : Nat}

/-! ## The law -/

/-- What a channel gets that listens on an address on which other channels were given ports. -/
inductive PortLaw (given : List Nat) (a : Address) :
    (asked : Option Nat) → (outcome : Except InterfaceFault Nat) → Prop where
  /-- A port that is asked for is given, if it was not given before. -/
  | asked {q : Nat} (inRange : q < 65535) (free : q ∉ given) : PortLaw given a (some q) (.ok q)
  /-- The last port may not be asked for. -/
  | outOfRange {q : Nat} (beyond : 65535 ≤ q) : PortLaw given a (some q) (.error (.portOutOfRange q))
  /-- A port that was given before is refused. -/
  | inUse {q : Nat} (inRange : q < 65535) (taken : q ∈ given) :
      PortLaw given a (some q) (.error (.portInUse a q))
  /-- Where no port is asked for, the least one is given that was not given before. -/
  | least {q : Nat} (least : IsLeast {k | 1024 ≤ k ∧ k ≤ 65535 ∧ k ∉ given} q) :
      PortLaw given a none (.ok q)
  /-- Where no port is asked for and all were given before, there is none left. -/
  | exhausted (all : ∀ k, 1024 ≤ k → k ≤ 65535 → k ∈ given) :
      PortLaw given a none (.error (.noPortLeft a))

/-- The law leaves no choice. -/
theorem PortLaw.deterministic (h : PortLaw given a asked outcome)
    (h' : PortLaw given a asked outcome') : outcome = outcome' := by
  cases h with
  | asked inRange free =>
      cases h' with
      | asked => rfl
      | outOfRange beyond => omega
      | inUse _ taken => exact absurd taken free
  | outOfRange beyond =>
      cases h' with
      | asked inRange => omega
      | outOfRange => rfl
      | inUse inRange => omega
  | inUse inRange taken =>
      cases h' with
      | asked _ free => exact absurd taken free
      | outOfRange beyond => omega
      | inUse => rfl
  | least hq =>
      cases h' with
      | least hq' => rw [hq.unique hq']
      | exhausted all => exact absurd (all _ hq.1.1 hq.1.2.1) hq.1.2.2
  | exhausted all =>
      cases h' with
      | least hq => exact absurd (all _ hq.1.1 hq.1.2.1) hq.1.2.2
      | exhausted => rfl

/-- Claiming a port obeys the law, if the allocation has those ports claimed that were given. -/
theorem portLaw_claimServerPort (used : ∀ q, s.isPortUsed a q = true ↔ q ∈ given)
    (positive : asked ≠ some 0) :
    PortLaw given a asked ((claimServerPort asked a s).map (·.1)) := by
  unfold Allocation.isPortUsed at used
  cases asked with
  | none =>
      unfold claimServerPort Allocation.takePort
      simp only
      cases taken : (s.portsOf a).take? with
      | none =>
          refine PortLaw.exhausted fun k hk hl => ?_
          exact (used k).mp (Pool.take?_eq_none_iff.mp taken k hk hl)
      | some x =>
          have least := (Pool.take?_eq_some taken).1
          refine PortLaw.least ?_
          simpa only [← Bool.not_eq_true, used] using least
  | some q =>
      have nonzero : q ≠ 0 := fun h => positive (by rw [h])
      unfold claimServerPort Allocation.reservePort lastReservablePort
      by_cases inRange : q < 65535
      · have accepted : (q == 0 || decide (65534 < q)) = false := by
          simp only [Bool.or_eq_false_iff, beq_eq_false_iff_ne, decide_eq_false_iff_not]
          omega
        simp only [accepted, Bool.false_eq_true, if_false]
        cases reserved : (s.portsOf a).reserve? q with
        | none => exact PortLaw.inUse inRange ((used q).mp (Pool.reserve?_eq_none_iff.mp reserved))
        | some pool =>
            refine PortLaw.asked inRange fun taken => ?_
            have free := Pool.isUsed_eq_false_of_reserve? reserved
            rw [(used q).mpr taken] at free
            cases free
      · have refused : (q == 0 || decide (65534 < q)) = true := by
          simp only [Bool.or_eq_true, decide_eq_true_eq]
          omega
        simp only [refused, if_true]
        exact PortLaw.outOfRange (by omega)

/-- The law tells what claiming a port leads to. -/
theorem portLaw_iff (used : ∀ q, s.isPortUsed a q = true ↔ q ∈ given) (positive : asked ≠ some 0) :
    PortLaw given a asked outcome ↔ (claimServerPort asked a s).map (·.1) = outcome := by
  have law := portLaw_claimServerPort used positive
  constructor
  · exact law.deterministic
  · intro h
    exact h ▸ law

/-! ## The ports that were given -/

/-- The ports of an address that channels were given. -/
def portsGiven (bs : List Bundle) (a : Address) : List Nat :=
  bs.filterMap fun b => b.laid.channel.listener?.bind fun x => if x.1 = a then some x.2 else none

/-- A port was given if a bundle owns it. -/
theorem mem_portsGiven : q ∈ portsGiven bs a ↔ Resource.port a q ∈ bs.filterMap (·.resource?) := by
  unfold portsGiven
  rw [List.mem_filterMap, List.mem_filterMap]
  refine exists_congr fun b => and_congr_right fun _ => ?_
  unfold Bundle.resource?
  cases b.laid.channel.listener? with
  | none => simp
  | some x =>
      obtain ⟨c, k⟩ := x
      by_cases hc : c = a <;> simp [hc]

/-- An interface owns no port. -/
theorem port_not_mem_resources : Resource.port a q ∉ n.resources := by
  intro h
  rw [Network.resources, List.mem_flatMap] at h
  obtain ⟨f, -, h⟩ := h
  rw [Interfaces.resources, List.mem_filterMap] at h
  obtain ⟨i, -, h⟩ := h
  unfold Interface.resource? at h
  cases hb : i.binding <;> rw [hb] at h <;>
    simp [Binding.resource?, Address.resource?] at h

/-- Of the ports of an address, those are claimed that channels were given. -/
theorem isPortUsed_iff (enlisted : Federation.enlist p = .ok n)
    (laid : layParts groups parts n = (.ok bs, m)) :
    m.allocation.isPortUsed a q = true ↔ q ∈ portsGiven bs a := by
  have grants := (grants_of_enlist enlisted).trans (grants_of_layParts laid)
  have fresh : ({} : Allocation).holds (.port a q) = false := Pool.isUsed_fresh q
  have holds := grants.holds_iff (.port a q)
  rw [List.mem_append, fresh, ← mem_portsGiven] at holds
  simpa [Allocation.holds, port_not_mem_resources] using holds

/-! ## What is asked for -/

/-- No statement of a program that passes its checks asks for port 0. -/
theorem serverPort_ne_zero {i : Nat} {s : Statement} (valid : p.validate = .ok ())
    (hs : p.statements[i]? = some s) : (s.link.getD {}).serverPort ≠ some 0 := by
  have sound := (validate_eq_ok_iff.mp valid).statements s (List.mem_of_getElem? hs)
  have port := sound.serverPort
  cases hl : s.link with
  | none => simp
  | some link => simpa [hl] using port

/-! ## One step -/

/-- Networks with one outline have the same federates, up to the endpoints on their interfaces. -/
theorem getElem?_of_outline_eq {i : Nat} {f : Federate} (same : m.outline = n.outline)
    (hf : n.federates[i]? = some f) :
    ∃ f', m.federates[i]? = some f' ∧ f'.key = f.key ∧
      f'.interfaces.outline = f.interfaces.outline := by
  have at_i := congrArg (·[i]?) same
  simp only [Network.outline, List.getElem?_map, hf, Option.map_some, Option.map_eq_some_iff,
    Prod.mk.injEq] at at_i
  exact at_i

/-- The bundle of a part with a TCP channel between two interfaces that listens on a port. -/
def tcpBundle (part : Part) (link : Link) (x y : Interface) (a b : Address) (port : Nat) : Bundle :=
  ⟨part.1.1, part.1.2, part.2, .tcp a b link.serverSide port, link.encryption, x.name, y.name⟩

/-- A step that lays a TCP channel succeeds or fails as the claim of the port that it listens on. -/
theorem layBundle_tcp {f g : Federate} {x y : Interface} {link : Link}
    (hlink : (partLink groups part).getD {} = link) (different : part.1.1 ≠ part.1.2)
    (hf : m.federates[part.1.1]? = some f) (hg : m.federates[part.1.2]? = some g)
    (hx : f.interfaces.choice link.left = .ok (x.name, .tcp a))
    (hy : g.interfaces.choice link.right = .ok (y.name, .tcp b)) :
    let claimed :=
      (claimServerPort link.serverPort (link.serverSide.choose a b) m.allocation).map (·.1)
    (∀ q, claimed = .ok q ↔
      ∃ u, layBundle groups part m = .ok (tcpBundle part link x y a b q, u)) ∧
    (∀ fault, claimed = .error fault ↔
      layBundle groups part m = .error (.bundle f.name g.name fault)) := by
  subst hlink
  have laid := synthesize_tcp (s := m.allocation) hx hy
  rw [layBundle_eq hf hg different]
  cases claimed : claimServerPort _ _ m.allocation with
  | error cause =>
      rw [claimed] at laid
      cases hr : synthesize (partLink groups part) f.interfaces g.interfaces m.allocation with
      | error fault =>
          rw [hr] at laid
          cases laid
          simp [Except.map]
      | ok r =>
          rw [hr] at laid
          cases laid
  | ok claim =>
      rw [claimed] at laid
      obtain ⟨r, hr, hlaid⟩ := map_eq_ok_iff.mp laid
      rw [hr]
      simp [Except.map, tcpBundle, hlaid]

/-! ## The run -/

/-- **Ports are given by a law.** Whenever the channel of a part is to be laid, it gets the link of
the first statement that connects the two federates. If that chooses interfaces with addresses, the
port that the channel listens on, or the fault instead of it, is what the law says of the ports that
earlier channels were given on the address of the side that listens. -/
theorem serverPort_law (p : Program) (n : Network) (groups : List Group)
    (valid : p.validate = .ok ()) (enlisted : Federation.enlist p = .ok n)
    (grouped : groupConnections p (Federation.owners n.federates) = .ok groups)
    (earlier : List Part) (part : Part) (next : earlier ++ [part] <+: partition groups)
    (bs : List Bundle) (m : Network) (laid : layParts groups earlier n = (.ok bs, m)) :
    ∃ i s, IsLeast {i | p.Connects (Federation.owners n.federates) part.1 i} i ∧
      p.statements[i]? = some s ∧
      ∀ link, link = s.link.getD {} → ∀ f g x y a b server,
        n.federates[part.1.1]? = some f → n.federates[part.1.2]? = some g →
        f.interfaces.resolve link.left = .ok x → g.interfaces.resolve link.right = .ok y →
        x.binding = .tcp a → y.binding = .tcp b → server = link.serverSide.choose a b →
        (∀ q, PortLaw (portsGiven bs server) server link.serverPort (.ok q) ↔
          ∃ u, layParts groups (earlier ++ [part]) n =
            (.ok (bs ++ [tcpBundle part link x y a b q]), u)) ∧
        (∀ fault, PortLaw (portsGiven bs server) server link.serverPort (.error fault) ↔
          layParts groups (earlier ++ [part]) n = (.error (.bundle f.name g.name fault), m)) := by
  have mem : part ∈ partition groups := next.subset (List.mem_append_right _ List.mem_cons_self)
  obtain ⟨i, s, least, hs, hlink⟩ := partLink_eq grouped mem
  refine ⟨i, s, least, hs, ?_⟩
  rintro link rfl f g x y a b server hf hg hx hy hxa hyb rfl
  -- the step is made on a network that has the same federates up to endpoints
  obtain ⟨f', hf', hfkey, hfout⟩ := getElem?_of_outline_eq (outline_layParts laid) hf
  obtain ⟨g', hg', hgkey, hgout⟩ := getElem?_of_outline_eq (outline_layParts laid) hg
  have hfx : f'.interfaces.choice (s.link.getD {}).left = .ok (x.name, .tcp a) := by
    rw [Interfaces.choice_congr hfout, Interfaces.choice, hx, ← hxa]
    rfl
  have hgy : g'.interfaces.choice (s.link.getD {}).right = .ok (y.name, .tcp b) := by
    rw [Interfaces.choice_congr hgout, Interfaces.choice, hy, ← hyb]
    rfl
  have hfname : f'.name = f.name := congrArg FederateKey.text hfkey
  have hgname : g'.name = g.name := congrArg FederateKey.text hgkey
  obtain ⟨_, _, _, _, crosses⟩ := least.1
  obtain ⟨gives, fails⟩ := layBundle_tcp (by rw [hlink]) crosses.ne hf' hg' hfx hgy
  have used := fun q => isPortUsed_iff (a := (s.link.getD {}).serverSide.choose a b) (q := q)
    enlisted laid
  constructor
  · intro q
    rw [portLaw_iff used (serverPort_ne_zero valid hs), gives]
    exact exists_congr fun u => (layParts_concat_ok laid).symm
  · intro fault
    rw [portLaw_iff used (serverPort_ne_zero valid hs), fails, hfname, hgname]
    exact (layParts_concat_error laid).symm

/-- The federates of the relay. -/
def relayNetwork : Network := (Federation.enlist relay).toOption.get (by decide +kernel)

/-- The groups of the relay. -/
def relayGroups : List Group :=
  (groupConnections relay (Federation.owners relayNetwork.federates)).toOption.getD []

/-- The third channel of the relay. Its link puts the server on the side of the destination, which
has the address on which the two channels before it listen. -/
theorem relay_serverPort :
    relay.validate = .ok () ∧ Federation.enlist relay = .ok relayNetwork ∧
    groupConnections relay (Federation.owners relayNetwork.federates) = .ok relayGroups ∧
    [((0, 1), [0]), ((0, 2), [1])] ++ [((1, 0), [2])] <+: partition relayGroups ∧
    ∃ bs m, layParts relayGroups [((0, 1), [0]), ((0, 2), [1])] relayNetwork = (.ok bs, m) ∧
      ∃ x y u, layParts relayGroups ([((0, 1), [0]), ((0, 2), [1])] ++ [((1, 0), [2])])
        relayNetwork = (.ok (bs ++ [tcpBundle ((1, 0), [2]) { serverSide := .right } x y
          (.v4 10 0 0 2) (.v4 10 0 0 1) 1026]), u) := by
  have valid : relay.validate = .ok () := rfl
  have enlisted : Federation.enlist relay = .ok relayNetwork := eq_ok_get _
  have grouped : groupConnections relay (Federation.owners relayNetwork.federates) =
      .ok relayGroups := by
    obtain ⟨groups, hgroups⟩ := exists_eq_ok (by decide +kernel :
      (groupConnections relay (Federation.owners relayNetwork.federates)).toOption.isSome = true)
    rw [relayGroups, hgroups]
    rfl
  have next : [((0, 1), [0]), ((0, 2), [1])] ++ [((1, 0), [2])] <+: partition relayGroups := by
    decide +kernel
  -- the two channels before it, and the ports that they were given
  have ports : (layParts relayGroups [((0, 1), [0]), ((0, 2), [1])] relayNetwork).1.toOption.map
      (portsGiven · (.v4 10 0 0 1)) = some [1024, 1025] := by decide +kernel
  obtain ⟨bs, hbs, given⟩ := Option.map_eq_some_iff.mp ports
  obtain ⟨m, laid⟩ : ∃ m, layParts relayGroups [((0, 1), [0]), ((0, 2), [1])] relayNetwork =
      (.ok bs, m) := by
    cases h : layParts relayGroups [((0, 1), [0]), ((0, 2), [1])] relayNetwork with
    | mk result m =>
        rw [h] at hbs
        cases result with
        | error fault => cases hbs
        | ok cs => cases hbs; exact ⟨m, rfl⟩
  obtain ⟨f, hf, hx⟩ := Option.map_eq_some_iff.mp (by decide +kernel :
    relayNetwork.federates[1]?.map (·.interfaces.first.binding) = some (.tcp (.v4 10 0 0 2)))
  obtain ⟨g, hg, hy⟩ := Option.map_eq_some_iff.mp (by decide +kernel :
    relayNetwork.federates[0]?.map (·.interfaces.first.binding) = some (.tcp (.v4 10 0 0 1)))
  refine ⟨valid, enlisted, grouped, next, bs, m, laid, f.interfaces.first, g.interfaces.first, ?_⟩
  obtain ⟨i, s, least, hs, law⟩ := serverPort_law relay relayNetwork relayGroups valid enlisted
    grouped [((0, 1), [0]), ((0, 2), [1])] ((1, 0), [2]) next bs m laid
  -- of its three statements, the second is the one from the bank
  have second : IsLeast {i | relay.Connects (Federation.owners relayNetwork.federates) (1, 0) i} 1 := by
    refine ⟨by decide +kernel, fun j hj => ?_⟩
    cases j with
    | zero => exact absurd hj (by decide +kernel)
    | succ j => omega
  obtain rfl := least.unique second
  cases hs
  refine ((law _ rfl f g f.interfaces.first g.interfaces.first _ _ _ hf hg rfl rfl hx hy rfl).1
    1026).mp (PortLaw.least ?_)
  change IsLeast {k | 1024 ≤ k ∧ k ≤ 65535 ∧ k ∉ portsGiven bs (.v4 10 0 0 1)} 1026
  rw [given]
  refine ⟨by simp, ?_⟩
  rintro k ⟨low, high, free⟩
  simp only [List.mem_cons, List.not_mem_nil] at free
  omega

end ReactorNet
