import ReactorNet.Proofs.Ends
import ReactorNet.Proofs.EnlistmentLaw

/-!
# `ReactorNet.Proofs.CompileFlags` · the flags that a federate is built with

The flags of a federate say which channel implementations its build contains. They are made of its
interfaces, before any channel is known. `flags_of_resolve` says what they are, read off the
declarations: a flag for each protocol that is declared, in the order in which the protocols are
first declared, then the federated one, and none twice. And it says that they are enough: the
implementation of every channel that the federate takes part in is among them.

**Why they are enough.** A channel is laid between two interfaces that speak its protocol
(`protocol_binding`), whichever interfaces the link chooses on either side; so on both sides its
protocol is that of an interface (`protocol_mem_of_bundle`). The flags of the declarations are those
of the interfaces because claiming an interface does not change what it speaks (`protocol_claim`),
and laying channels does not either.
-/

namespace ReactorNet

variable {p : Program} {n : Network} {f : Federation} {g : Federate} {b : Bundle} {k : Nat}

/-! ## Flags and protocols -/

/-- Different protocols have different flags. -/
theorem compileFlag_injective : Function.Injective Protocol.compileFlag := by
  intro q r same
  cases q <;> cases r <;> first | rfl | exact absurd same (by decide)

/-- No protocol has the federated flag. -/
theorem compileFlag_ne_federatedFlag (q : Protocol) : q.compileFlag ≠ Interfaces.federatedFlag := by
  cases q <;> decide

/-- Where different elements go to different ones, duplicates may be erased before or after. -/
theorem eraseDups_map {α β : Type} [DecidableEq α] [DecidableEq β] {φ : α → β}
    (injective : Function.Injective φ) (l : List α) : (l.map φ).eraseDups = l.eraseDups.map φ := by
  induction l using List.reverseRecOn with
  | nil => rfl
  | append_singleton l a ih =>
      rw [List.map_append, List.map_singleton, eraseDups_concat, eraseDups_concat, ih]
      by_cases seen : a ∈ l
      · rw [if_pos seen, if_pos (List.mem_map_of_mem seen)]
      · have new : φ a ∉ l.map φ := fun h => seen ((List.mem_map_of_injective injective).mp h)
        rw [if_neg seen, if_neg new, List.map_append, List.map_singleton]

/-- Erasing duplicates leaves elements in the order in which they first occur. -/
theorem pairwise_idxOf_eraseDups {α : Type} [DecidableEq α] (l : List α) :
    l.eraseDups.Pairwise fun a b => l.idxOf a < l.idxOf b := by
  induction l using List.reverseRecOn with
  | nil => simp
  | append_singleton l c ih =>
      -- what has occurred before stays where it is
      have before : l.eraseDups.Pairwise fun a b => (l ++ [c]).idxOf a < (l ++ [c]).idxOf b := by
        refine ih.imp_of_mem fun {a b} ha hb order => ?_
        rwa [List.idxOf_append_of_mem (List.mem_eraseDups.mp ha),
          List.idxOf_append_of_mem (List.mem_eraseDups.mp hb)]
      rw [eraseDups_concat]
      split
      · exact before
      · rename_i new
        refine List.pairwise_append.mpr ⟨before, List.pairwise_singleton _ _, fun a ha b hb => ?_⟩
        have seen := List.mem_eraseDups.mp ha
        rw [List.mem_singleton.mp hb, List.idxOf_append_of_mem seen, List.idxOf_append_of_notMem new]
        exact Nat.lt_of_lt_of_le (List.idxOf_lt_length_of_mem seen) (Nat.le_add_right _ _)

/-! ## What the interfaces speak -/

/-- The protocols of the interfaces, in their order. -/
def Interfaces.protocols (is : Interfaces) : List Protocol := is.toList.map (·.protocol)

/-- The protocols of the interfaces, in terms of the outline. -/
theorem Interfaces.protocols_eq (is : Interfaces) :
    is.protocols = is.outline.map fun x => x.2.protocol := by
  rw [outline, List.map_map]
  rfl

/-- The protocols that an instance declares. -/
def Instance.protocols (i : Instance) : List Protocol := i.declarations.map (·.carrier.protocol)

/-- What is claimed for an interface speaks the protocol that is declared. -/
theorem protocol_claim {c : Carrier} {bank : Option Nat} {s t : Allocation} {x : Binding}
    (h : c.claim bank s = .ok (x, t)) : x.protocol = c.protocol := by
  cases c with
  | tcp declared =>
      obtain ⟨r, -, h⟩ := map_eq_ok_iff.mp h
      cases h
      rfl
  | coap declared =>
      obtain ⟨r, -, h⟩ := map_eq_ok_iff.mp h
      cases h
      rfl
  | uart declared line =>
      obtain ⟨r, -, h⟩ := map_eq_ok_iff.mp h
      cases h
      rfl
  | custom header symbol args =>
      cases h
      rfl

/-- Interfaces that are claimed behind others speak the protocols that are declared. -/
theorem protocol_claimAll {bank : Option Nat} {earlier is : List Interface}
    {decls : List InterfaceDecl} {s t : Allocation}
    (h : claimAll bank earlier decls s = (.ok is, t)) :
    is.map (·.protocol) = earlier.reverse.map (·.protocol) ++ decls.map (·.carrier.protocol) := by
  induction decls generalizing earlier s with
  | nil =>
      cases h
      simp
  | cons d decls ih =>
      obtain ⟨-, binding, u, claimed, rest⟩ := claimInTurn_cons_eq_ok_iff.mp h
      have spoken : (⟨d.nameAt earlier.length, binding, []⟩ : Interface).protocol =
          d.carrier.protocol := protocol_claim claimed
      rw [ih rest, List.reverse_cons, List.map_append, List.append_assoc, List.map_singleton,
        List.map_cons, spoken, List.singleton_append]

/-- The interfaces of a federate speak the protocols that its instance declares. -/
theorem protocols_claim {inst : Instance} {bank : Option Nat} {is : Interfaces} {s t : Allocation}
    (h : Interfaces.claim inst.interfaces bank s = (.ok is, t)) : is.protocols = inst.protocols :=
  protocol_claimAll (claimAll_declarations h)

/-- The federates of a topology are members of the program, and speak what these declare. -/
theorem exists_member_of_resolve (resolved : Federation.resolve p = .ok f)
    (hg : f.federates[k]? = some g) :
    ∃ inst, p.members[k]? = some (g.key, inst) ∧ g.interfaces.protocols = inst.protocols := by
  obtain ⟨-, n, enlisted, -, laid, -⟩ := resolve_eq_ok_iff.mp resolved
  have spoken : List.Forall₂ (· = ·)
      ((n.federates.map (·.station)).map fun x => (x.1, x.2.protocols))
      (p.enlisted.map fun m => (m.1, m.2.protocols)) :=
    List.rel_map (fun _ _ ⟨key, _, _, claimed⟩ => Prod.ext key (protocols_claim claimed))
      (forall₂_enlist enlisted)
  rw [List.forall₂_eq_eq_eq, List.map_map] at spoken
  obtain ⟨g', hg', key, outline⟩ := getElem?_of_outline_eq (outline_layParts laid).symm hg
  have at_k := congrArg (·[k]?) spoken
  simp only [List.getElem?_map, hg', Option.map_some] at at_k
  obtain ⟨⟨key', inst⟩, hm, same⟩ := Option.map_eq_some_iff.mp at_k.symm
  obtain ⟨hkey, hprotocols⟩ := Prod.mk.inj same
  refine ⟨inst, ?_, ?_⟩
  · rw [show key' = g.key from hkey.trans key] at hm
    unfold Program.enlisted at hm
    split at hm
    · exact hm
    · cases hm
  · rw [Interfaces.protocols_eq, ← outline, ← Interfaces.protocols_eq]
    exact hprotocols.symm

/-! ## The flags -/

/-- A federate that a bundle takes part in has an interface that speaks the protocol of its
channel. -/
theorem protocol_mem_of_bundle {groups : List Group} (fits : b.Fits groups n)
    (hg : n.federates[k]? = some g) (involved : b.involves k = true) :
    b.laid.channel.protocol ∈ g.interfaces.protocols := by
  have ends : ∃ side, b.federateOn side = k := by
    rcases Bool.or_eq_true_iff.mp involved with source | destination
    · exact ⟨.left, beq_iff_eq.mp source⟩
    · exact ⟨.right, beq_iff_eq.mp destination⟩
  obtain ⟨side, rfl⟩ := ends
  obtain ⟨g', hg', chosen⟩ := fits.chosen side
  cases hg'.symm.trans hg
  rw [Interfaces.protocols_eq, ← protocol_binding side]
  exact List.mem_map_of_mem (f := fun x : String × Binding => x.2.protocol)
    (mem_outline_of_choice chosen)

/-- The flags are those of the protocols that are spoken, each once, and the federated one. -/
theorem compileFlags_eq (is : Interfaces) :
    is.compileFlags = is.protocols.eraseDups.map (·.compileFlag) ++ [Interfaces.federatedFlag] := by
  rw [Interfaces.compileFlags, Interfaces.protocols, ← eraseDups_map compileFlag_injective,
    List.map_map]
  rfl

/-- No flag is there twice. -/
theorem nodup_compileFlags (is : Interfaces) : is.compileFlags.Nodup := by
  rw [compileFlags_eq, List.nodup_append]
  refine ⟨(nodup_eraseDups _).map compileFlag_injective, List.nodup_singleton _, ?_⟩
  intro a ha b hb
  obtain ⟨q, -, rfl⟩ := List.mem_map.mp ha
  rw [List.mem_singleton.mp hb]
  exact compileFlag_ne_federatedFlag q

/-- What a federate of a topology is built with, as a member of the given instance. -/
structure Federation.Flagged (f : Federation) (k : Nat) (g : Federate) (inst : Instance)
    (protocols : List Protocol) : Prop where
  /-- The interfaces are those that the instance declares, as far as their protocols go. -/
  declared : g.interfaces.protocols = inst.protocols
  /-- The flags are those of the protocols, and the federated one behind them. -/
  flags : g.interfaces.compileFlags = protocols.map (·.compileFlag) ++ ["FEDERATED"]
  /-- None of them is there twice. -/
  distinct : g.interfaces.compileFlags.Nodup
  /-- The protocols are those that some interface speaks, and no others. -/
  spoken : ∀ q, q ∈ protocols ↔ ∃ i ∈ g.interfaces.toList, i.protocol = q
  /-- They stand in the order in which they are first declared. -/
  ordered : protocols.Pairwise fun q r => inst.protocols.idxOf q < inst.protocols.idxOf r
  /-- The flag of every channel that the federate takes part in is among them. -/
  channels : ∀ b ∈ f.bundles, b.involves k = true →
    b.laid.channel.protocol.compileFlag ∈ g.interfaces.compileFlags

/-- **A federate is built with what it declares, and that is all that its channels need.** -/
theorem flags_of_resolve (p : Program) (f : Federation) (resolved : Federation.resolve p = .ok f)
    (k : Nat) (g : Federate) (hg : f.federates[k]? = some g) :
    ∃ inst protocols, p.members[k]? = some (g.key, inst) ∧ f.Flagged k g inst protocols := by
  obtain ⟨inst, member, declared⟩ := exists_member_of_resolve resolved hg
  refine ⟨inst, g.interfaces.protocols.eraseDups, member, declared, compileFlags_eq _,
    nodup_compileFlags _, ?_, ?_, ?_⟩
  · intro q
    rw [List.mem_eraseDups]
    exact List.mem_map
  · rw [declared]
    exact pairwise_idxOf_eraseDups _
  · intro b hb involved
    have mem := protocol_mem_of_bundle (fits_of_resolve resolved hb) hg involved
    rw [compileFlags_eq]
    exact List.mem_append_left _ (List.mem_map_of_mem (List.mem_eraseDups.mpr mem))

/-- A federate with four interfaces of three protocols, and one that it reaches by the last of
them. -/
def manyLines : Program where
  name := "many_lines"
  federated := true
  instances := [
    { name := "a"
      ports := [{ name := "out" }]
      interfaces := [⟨none, .uart none {}⟩, ⟨none, .tcp none⟩, ⟨none, .uart none {}⟩,
        ⟨some "radio", .coap none⟩] },
    { name := "b"
      ports := [{ name := "data" }]
      interfaces := [⟨none, .tcp none⟩, ⟨some "radio", .coap none⟩] }]
  statements := [
    { left := [.ofInstance "a" "out"], right := [.ofInstance "b" "data"]
      link := some { left := some "radio", right := some "radio" } }]

/-- Its flags name each of the three protocols once, that of the channel last. -/
theorem manyLines_flags : ∃ f g, Federation.resolve manyLines = .ok f ∧ f.federates[0]? = some g ∧
    (∃ inst protocols, manyLines.members[0]? = some (g.key, inst) ∧ f.Flagged 0 g inst protocols) ∧
    g.interfaces.compileFlags =
      ["NETWORK_CHANNEL_UART", "NETWORK_CHANNEL_TCP", "NETWORK_CHANNEL_COAP", "FEDERATED"] ∧
    f.bundles.map (fun b => (b.source, b.laid.channel.protocol)) = [(0, .coap)] := by
  have outcome : (Federation.resolve manyLines).toOption.map (fun f =>
      (f.federates[0]?.map (·.interfaces.compileFlags),
        f.bundles.map fun b => (b.source, b.laid.channel.protocol))) =
      some (some ["NETWORK_CHANNEL_UART", "NETWORK_CHANNEL_TCP", "NETWORK_CHANNEL_COAP", "FEDERATED"],
        [(0, .coap)]) := by decide +kernel
  obtain ⟨f, hf, values⟩ := Option.map_eq_some_iff.mp outcome
  obtain ⟨first, bundles⟩ := Prod.mk.inj values
  obtain ⟨g, hg, flags⟩ := Option.map_eq_some_iff.mp first
  have resolved := eq_ok_of_toOption hf
  have flagged := flags_of_resolve manyLines f resolved 0 g hg
  exact ⟨f, g, resolved, hg, flagged, flags, bundles⟩

end ReactorNet
