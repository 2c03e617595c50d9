import ReactorNet.Proofs.Endpoints
import ReactorNet.Proofs.Refusal

/-!
# `ReactorNet.Proofs.ChannelLaw` · why a channel is refused, and what one adds

`ChannelFault` lists what keeps a channel from being laid between two federates, each reason behind
those that count before it. `synthesize_law` says that these are all reasons: a channel is refused
for the one that applies, and laid where none does. Then it adds an endpoint to either of the two
interfaces and the port that a side listens on, and leaves everything else as it is.

**Protocols are compared once.** Bindings are matched against each other protocol by protocol, and
what is left over does not fit. `lay_eq_error_iff` says of all sixteen cases that this is a
comparison of the two protocols, and that it is made before any port is claimed.

**Which interface.** `Interfaces.Chooses` tells the position of the interface that a link chooses.
Hence the law can say of whole tables that nothing changed in any other place.
-/

namespace ReactorNet

variable {is : Interfaces} {asked : Option String} {k m : Nat} {i j : Interface} {name : String}
  {fault : InterfaceFault} {link : Link} {x y : Binding} {s t : Allocation} {a : Address} {q : Nat}
  {port : Option Nat} {c : Channel}

/-! ## The law -/

/-- Which interface a link chooses, and where it stands. -/
inductive Interfaces.Chooses (is : Interfaces) :
    (asked : Option String) → (position : Nat) → Interface → Prop where
  /-- The default interface, if the link names none. -/
  | default : is.Chooses none 0 is.first
  /-- The first interface with the name, if it names one. -/
  | named {name : String} {k : Nat} {i : Interface} (there : is.toList[k]? = some i)
      (called : i.name = name) (first : ∀ l < k, ∀ x, is.toList[l]? = some x → x.name ≠ name) :
      is.Chooses (some name) k i

/-- Whether no interface has a name. -/
def Interfaces.Lacks (is : Interfaces) (name : String) : Prop := ∀ i ∈ is.toList, i.name ≠ name

/-- Why a channel is refused. Each reason counts only where those before it do not apply. -/
inductive ChannelFault (link : Link) (source destination : Interfaces) (s : Allocation) :
    InterfaceFault → Prop where
  /-- The interface that the link names on the left is not one of the source. -/
  | source {name : String} (asked : link.left = some name) (absent : source.Lacks name) :
      ChannelFault link source destination s (.unknownInterface name)
  /-- The interface that it names on the right is not one of the destination. -/
  | destination {k : Nat} {i : Interface} {name : String} (left : source.Chooses link.left k i)
      (asked : link.right = some name) (absent : destination.Lacks name) :
      ChannelFault link source destination s (.unknownInterface name)
  /-- The two interfaces speak different protocols. -/
  | protocol {k m : Nat} {i j : Interface} (left : source.Chooses link.left k i)
      (right : destination.Chooses link.right m j) (differ : i.protocol ≠ j.protocol) :
      ChannelFault link source destination s (.protocolMismatch i.protocol j.protocol)
  /-- The port that a side of a TCP channel listens on is refused. -/
  | port {k m : Nat} {i j : Interface} {a b : Address} {fault : InterfaceFault}
      (left : source.Chooses link.left k i) (right : destination.Chooses link.right m j)
      (hi : i.binding = .tcp a) (hj : j.binding = .tcp b)
      (refused : (s.perform (portOperation link.serverPort (link.serverSide.choose a b))).1 =
        .refused fault) :
      ChannelFault link source destination s fault

/-- What laying a channel leads to between two interfaces, which stand at the given positions. -/
structure Synthesis.Joins (r : Synthesis) (link : Link) (source destination : Interfaces)
    (s : Allocation) (k m : Nat) (i j : Interface) : Prop where
  /-- The interfaces speak one protocol. -/
  protocol_eq : i.protocol = j.protocol
  /-- The channel speaks it. -/
  channel : r.laid.channel.protocol = i.protocol
  /-- Both of its endpoints speak it. -/
  endpoint : ∀ side, (r.laid.channel.endpoint side).protocol = i.protocol
  /-- On the left, the channel is bound as the interface of the source, whose name is recorded. -/
  left : r.laid.channel.binding .left = i.binding ∧ r.laid.sourceInterface = i.name
  /-- On the right, it is bound as that of the destination. -/
  right : r.laid.channel.binding .right = j.binding ∧ r.laid.destinationInterface = j.name
  /-- The encryption is that of the link. -/
  encryption : r.laid.encryption = link.encryption
  /-- Of the interfaces of the source, the one at its position gets an endpoint. -/
  source : r.source.toList = source.toList.set k (i.extend [r.laid.channel.endpoint .left])
  /-- So does the one of the destination. -/
  destination : r.destination.toList =
    destination.toList.set m (j.extend [r.laid.channel.endpoint .right])
  /-- A TCP channel listens on the port that is given for it, and nothing but this port is
  claimed. -/
  listens : i.protocol = .tcp → ∃ a b q, r.laid.channel = .tcp a b link.serverSide q ∧
    s.perform (portOperation link.serverPort (link.serverSide.choose a b)) =
      (.given q, r.allocation) ∧
    s.Grants [.port (link.serverSide.choose a b) q] r.allocation
  /-- No other channel claims anything, whatever port the link asks for. -/
  untouched : i.protocol ≠ .tcp → r.allocation = s

/-! ## The interface that is chosen -/

/-- An interface that a link chooses has a position. -/
theorem resolve_eq_ok_iff_chooses : is.resolve asked = .ok i ↔ ∃ k, is.Chooses asked k i := by
  cases asked with
  | none =>
      constructor
      · rintro ⟨⟩
        exact ⟨0, .default⟩
      · rintro ⟨k, ⟨⟩⟩
        rfl
  | some name =>
      have found : is.resolve (some name) = .ok i ↔ is.find? name = some i := by
        rw [Interfaces.resolve]
        cases is.find? name with
        | none => simp
        | some j => simp
      rw [found, Interfaces.find?, List.find?_eq_some_iff_getElem]
      constructor
      · rintro ⟨called, k, inside, rfl, first⟩
        refine ⟨k, .named (List.getElem?_eq_getElem inside) (beq_iff_eq.mp called) ?_⟩
        intro l hl x hx
        obtain ⟨_, rfl⟩ := List.getElem?_eq_some_iff.mp hx
        simpa using first l hl
      · rintro ⟨k, ⟨⟩ | ⟨there, called, first⟩⟩
        obtain ⟨inside, here⟩ := List.getElem?_eq_some_iff.mp there
        refine ⟨beq_iff_eq.mpr called, k, inside, here, fun l hl => ?_⟩
        have outside := first l hl _ (List.getElem?_eq_getElem (hl.trans inside))
        simpa using outside

/-- None is chosen only where the link names one that is not there. -/
theorem resolve_eq_error_iff_lacks : is.resolve asked = .error fault ↔
    ∃ name, asked = some name ∧ is.Lacks name ∧ fault = .unknownInterface name := by
  cases asked with
  | none => simp [Interfaces.resolve]
  | some name =>
      rw [Interfaces.resolve, Interfaces.find?]
      cases found : is.toList.find? (fun i => i.name == name) with
      | none =>
          have absent : is.Lacks name := by
            intro i hi
            simpa using List.find?_eq_none.mp found i hi
          simp [absent, eq_comm]
      | some i =>
          have there : ¬ is.Lacks name := fun absent =>
            absent i (List.mem_of_find?_eq_some found) (by simpa using List.find?_some found)
          simp [there]

/-- An endpoint is put where the first interface with the name stands. -/
theorem mintOn_eq_set {l : List Interface} (e : Endpoint) (there : l[k]? = some i)
    (first : ∀ n < k, ∀ x, l[n]? = some x → x.name ≠ i.name) :
    Interfaces.mintOn i.name e l = l.set k (i.extend [e]) := by
  induction l generalizing k with
  | nil => cases there
  | cons j l ih =>
      rw [Interfaces.mintOn]
      cases k with
      | zero =>
          cases there
          rw [if_pos (beq_self_eq_true i.name)]
          rfl
      | succ k =>
          have other : ¬ (j.name == i.name) = true := by
            simpa using first 0 k.succ_pos j rfl
          have rest := ih there fun n hn x hx => first (n + 1) (Nat.succ_lt_succ hn) x hx
          rw [if_neg other, rest]
          rfl

/-- The interface that was chosen gets the endpoint, and no other does. -/
theorem Interfaces.Chooses.toList_mint (h : is.Chooses asked k i) (e : Endpoint) :
    (is.mint i.name e).toList = is.toList.set k (i.extend [e]) := by
  have put : mintOn i.name e is.toList = is.toList.set k (i.extend [e]) := by
    cases h with
    | default => exact mintOn_eq_set e rfl nofun
    | named there called first =>
        subst called
        exact mintOn_eq_set e there first
  rw [Interfaces.mint, put, toList_ofList]
  rw [Interfaces.toList]
  cases k with
  | zero => exact List.cons_ne_nil _ _
  | succ k => exact List.cons_ne_nil _ _

/-! ## The channel between two bindings -/

/-- The operation on the claims is refused where the port cannot be claimed. -/
theorem refused_portOperation_iff :
    (s.perform (portOperation port a)).1 = .refused fault ↔
      claimServerPort port a s = .error fault := by
  rw [Allocation.answer_portOperation]
  cases claimServerPort port a s with
  | error cause => simp [Answer.ofPort, Except.map]
  | ok r => simp [Answer.ofPort, Except.map]

/-- Where the port can be claimed, the operation gives it and leaves what is left. -/
theorem perform_portOperation (h : claimServerPort port a s = .ok (q, t)) :
    s.perform (portOperation port a) = (.given q, t) := by
  have answer := Allocation.answer_portOperation port a s
  rw [h] at answer
  exact Prod.ext answer (Allocation.perform_portOperation_of_ok h)

/-- A channel cannot be laid between bindings of different protocols, nor between addresses if its
port is refused; there is no other reason. -/
theorem lay_eq_error_iff : Channel.lay link x y s = .error fault ↔
    (x.protocol ≠ y.protocol ∧ fault = .protocolMismatch x.protocol y.protocol) ∨
    ∃ a b, x = .tcp a ∧ y = .tcp b ∧
      (s.perform (portOperation link.serverPort (link.serverSide.choose a b))).1 = .refused fault := by
  simp only [refused_portOperation_iff]
  cases x with
  | tcp a =>
      cases y with
      | tcp b => simp [Channel.lay, Binding.protocol, map_eq_error_iff]
      | uart _ => simp [Channel.lay, Binding.protocol, eq_comm]
      | coap _ => simp [Channel.lay, Binding.protocol, eq_comm]
      | custom _ => simp [Channel.lay, Binding.protocol, eq_comm]
  | uart _ => cases y <;> simp [Channel.lay, Binding.protocol, eq_comm]
  | coap _ => cases y <;> simp [Channel.lay, Binding.protocol, eq_comm]
  | custom _ => cases y <;> simp [Channel.lay, Binding.protocol, eq_comm]

/-- A channel that listens was given its port. -/
theorem listens_of_lay (h : Channel.lay link x y s = .ok (c, t)) (tcp : x.protocol = .tcp) :
    ∃ a b q, c = .tcp a b link.serverSide q ∧
      s.perform (portOperation link.serverPort (link.serverSide.choose a b)) = (.given q, t) ∧
      s.Grants [.port (link.serverSide.choose a b) q] t := by
  unfold Channel.lay at h
  split at h
  · rename_i a b
    obtain ⟨⟨q, u⟩, claimed, h⟩ := map_eq_ok_iff.mp h
    cases h
    exact ⟨a, b, q, rfl, perform_portOperation claimed, grants_of_claimServerPort claimed⟩
  · cases tcp
  · cases tcp
  · cases tcp
  · cases h

/-- A channel that does not listen claims nothing. -/
theorem untouched_of_lay (h : Channel.lay link x y s = .ok (c, t)) (other : x.protocol ≠ .tcp) :
    t = s := by
  unfold Channel.lay at h
  split at h
  · exact absurd rfl other
  · cases h
    rfl
  · cases h
    rfl
  · cases h
    rfl
  · cases h

/-! ## Laying a channel -/

/-- What is laid joins the two interfaces that the link chooses. -/
theorem exists_joins {requested : Option Link} {source destination : Interfaces} {r : Synthesis}
    (h : synthesize requested source destination s = .ok r) : ∃ k m i j,
      source.Chooses (requested.getD {}).left k i ∧ destination.Chooses (requested.getD {}).right m j ∧
      r.Joins (requested.getD {}) source destination s k m i j := by
  obtain ⟨i, hi, h⟩ := bind_eq_ok_iff.mp h
  obtain ⟨j, hj, h⟩ := bind_eq_ok_iff.mp h
  obtain ⟨⟨channel, t⟩, laid, h⟩ := bind_eq_ok_iff.mp h
  cases h
  obtain ⟨k, left⟩ := resolve_eq_ok_iff_chooses.mp hi
  obtain ⟨m, right⟩ := resolve_eq_ok_iff_chooses.mp hj
  obtain ⟨bindingLeft, bindingRight, -⟩ := binding_of_lay laid
  -- the channel speaks the protocol of what it is bound to on either side
  have speaksLeft : channel.protocol = i.protocol := by
    rw [← protocol_binding .left channel, bindingLeft]
    rfl
  have speaksRight : channel.protocol = j.protocol := by
    rw [← protocol_binding .right channel, bindingRight]
    rfl
  refine ⟨k, m, i, j, left, right, ?_⟩
  exact {
    protocol_eq := speaksLeft.symm.trans speaksRight
    channel := speaksLeft
    endpoint := fun side => (protocol_endpoint side channel).trans speaksLeft
    left := ⟨bindingLeft, rfl⟩
    right := ⟨bindingRight, rfl⟩
    encryption := rfl
    source := left.toList_mint _
    destination := right.toList_mint _
    listens := listens_of_lay laid
    untouched := untouched_of_lay laid }

/-- A channel is refused where an interface is looked up on either side, or between the two. -/
theorem synthesize_eq_error_iff {requested : Option Link} {source destination : Interfaces} :
    synthesize requested source destination s = .error fault ↔
      source.resolve (requested.getD {}).left = .error fault ∨
      ∃ i, source.resolve (requested.getD {}).left = .ok i ∧
        (destination.resolve (requested.getD {}).right = .error fault ∨
        ∃ j, destination.resolve (requested.getD {}).right = .ok j ∧
          Channel.lay (requested.getD {}) i.binding j.binding s = .error fault) := by
  simp only [synthesize, bind_eq_error_iff]
  -- nothing can fail behind the channel
  simp [pure, Except.pure]

/-- A channel is refused for one of the reasons of the law, and for each of them. -/
theorem synthesize_eq_error_iff_channelFault {requested : Option Link}
    {source destination : Interfaces} :
    synthesize requested source destination s = .error fault ↔
      ChannelFault (requested.getD {}) source destination s fault := by
  rw [synthesize_eq_error_iff]
  constructor
  · rintro (hi | ⟨i, hi, hj | ⟨j, hj, refused⟩⟩)
    · obtain ⟨name, asked, absent, rfl⟩ := resolve_eq_error_iff_lacks.mp hi
      exact .source asked absent
    · obtain ⟨k, left⟩ := resolve_eq_ok_iff_chooses.mp hi
      obtain ⟨name, asked, absent, rfl⟩ := resolve_eq_error_iff_lacks.mp hj
      exact .destination left asked absent
    · obtain ⟨k, left⟩ := resolve_eq_ok_iff_chooses.mp hi
      obtain ⟨m, right⟩ := resolve_eq_ok_iff_chooses.mp hj
      rcases lay_eq_error_iff.mp refused with ⟨differ, rfl⟩ | ⟨a, b, ha, hb, refused⟩
      · exact .protocol left right differ
      · exact .port left right ha hb refused
  · intro h
    cases h with
    | source asked absent =>
        exact Or.inl (resolve_eq_error_iff_lacks.mpr ⟨_, asked, absent, rfl⟩)
    | destination left asked absent =>
        have hj := resolve_eq_error_iff_lacks.mpr ⟨_, asked, absent, rfl⟩
        exact Or.inr ⟨_, resolve_eq_ok_iff_chooses.mpr ⟨_, left⟩, Or.inl hj⟩
    | protocol left right differ =>
        refine Or.inr ⟨_, resolve_eq_ok_iff_chooses.mpr ⟨_, left⟩,
          Or.inr ⟨_, resolve_eq_ok_iff_chooses.mpr ⟨_, right⟩, ?_⟩⟩
        exact lay_eq_error_iff.mpr (Or.inl ⟨differ, rfl⟩)
    | port left right hi hj refused =>
        refine Or.inr ⟨_, resolve_eq_ok_iff_chooses.mpr ⟨_, left⟩,
          Or.inr ⟨_, resolve_eq_ok_iff_chooses.mpr ⟨_, right⟩, ?_⟩⟩
        exact lay_eq_error_iff.mpr (Or.inr ⟨_, _, hi, hj, refused⟩)

/-- **Channels are refused and laid by the law.** Between any two tables of interfaces, with any
claims, a channel is refused for the first reason that applies. Where none applies it is laid; then
it joins the two interfaces that the link chooses, which get an endpoint each, and claims the port
that it listens on, if it does, and nothing else. -/
theorem synthesize_law (requested : Option Link) (source destination : Interfaces) (s : Allocation) :
    (∀ fault, synthesize requested source destination s = .error fault ↔
      ChannelFault (requested.getD {}) source destination s fault) ∧
    ((∃ r, synthesize requested source destination s = .ok r) ↔
      ∀ fault, ¬ ChannelFault (requested.getD {}) source destination s fault) ∧
    ∀ r, synthesize requested source destination s = .ok r → ∃ k m i j,
      source.Chooses (requested.getD {}).left k i ∧ destination.Chooses (requested.getD {}).right m j ∧
        r.Joins (requested.getD {}) source destination s k m i j := by
  refine ⟨fun fault => synthesize_eq_error_iff_channelFault, ?_, fun r => exists_joins⟩
  simp only [← synthesize_eq_error_iff_channelFault]
  cases synthesize requested source destination s with
  | error fault => simp
  | ok r => simp

/-- Between the serial line of one federate of a crowded site and the TCP interface of the other, a
channel is refused because of their protocols: that the link asks for port 0 does not count. Between
the two serial lines the link leads to a channel, which claims nothing. -/
theorem crowdedSite_law :
    synthesize (some { left := some "line", serverPort := some 0 }) (crowdedSite {}).tables[0]
      (crowdedSite {}).tables[1] (crowdedSite {}).allocation = .error (.protocolMismatch .uart .tcp) ∧
    ∃ r, synthesize (some { left := some "line", right := some "line", serverPort := some 0 })
        (crowdedSite {}).tables[0] (crowdedSite {}).tables[1] (crowdedSite {}).allocation = .ok r ∧
      r.laid.channel.protocol = .uart ∧ r.allocation = (crowdedSite {}).allocation := by
  constructor
  · refine ((synthesize_law _ _ _ _).1 _).mpr ?_
    have line : (crowdedSite {}).tables[0].Chooses (some "line") 1 ⟨"line", .uart ⟨0, {}⟩, []⟩ :=
      .named rfl rfl (by decide)
    have host : (crowdedSite {}).tables[1].Chooses none 0 .loopback := .default
    exact @ChannelFault.protocol { left := some "line", serverPort := some 0 } _ _ _ 1 0 _ _ line host
      (by decide)
  · obtain ⟨-, clear, joins⟩ := synthesize_law
      (some { left := some "line", right := some "line", serverPort := some 0 })
      (crowdedSite {}).tables[0] (crowdedSite {}).tables[1] (crowdedSite {}).allocation
    have laid : ∃ r, synthesize
        (some { left := some "line", right := some "line", serverPort := some 0 })
        (crowdedSite {}).tables[0] (crowdedSite {}).tables[1] (crowdedSite {}).allocation = .ok r :=
      ⟨_, rfl⟩
    obtain ⟨r, hr⟩ := laid
    obtain ⟨k, m, i, j, left, -, joined⟩ := joins r hr
    -- the interface that is chosen on the left is the serial line
    have line : Except.ok i = Except.ok ⟨"line", .uart ⟨0, {}⟩, []⟩ :=
      (resolve_eq_ok_iff_chooses.mpr ⟨k, left⟩).symm
    cases line
    exact ⟨r, hr, joined.channel, joined.untouched (by decide)⟩

end ReactorNet
