import ReactorNet.Federation.Report
import ReactorNet.Proofs.Ends

/-!
# `ReactorNet.Proofs.Descriptors` · what the two sides of a bundle construct

`Fit` says how the ends of a channel belong together: what the interface on either side is bound to,
what the channel mints on it, and what the side constructs. `resolve_described` says that the ends
of every bundle of a topology fit, and that the two federates of the bundle, and no others,
construct them.

**Three notions of side.** Data flow from the left to the right; either side may listen, as the link
says; and each federate asks by its number for its own descriptor. A TCP channel names the side that
listens on both sides, a CoAP channel names the opposite side, and the others name their own.
-/

namespace ReactorNet

variable {p : Program} {f : Federation} {b : Bundle} {c : Channel} {link : Option Link}
  {x y : Binding}

/-! ## Families -/

/-- The family of the address that a descriptor names. -/
def Descriptor.family? : Descriptor → Option AddressFamily
  | tcp host .. => some host.family
  | coap remote => some remote.family
  | _ => none

/-- This is the family that a report shows of a descriptor. -/
theorem get?_family_toJson (d : Descriptor) :
    d.toJson.get? "family" = d.family?.map fun a => .str a.symbol := by
  cases d with
  | tcp host port isServer => rfl
  | uart p => rfl
  | coap remote => rfl
  | custom c => rfl

/-! ## Ends that fit -/

/-- An end of a channel. -/
structure End where
  /-- What the interface is bound to. -/
  binding : Binding
  /-- What is minted on the interface. -/
  endpoint : Endpoint
  /-- What the side constructs. -/
  descriptor : Descriptor
  /-- The family of the address in it. -/
  family : Option AddressFamily

/-- The end of a channel on a side, by an interface. -/
def Channel.endOn (c : Channel) (side : Side) (x : Binding) : End :=
  ⟨x, c.endpoint side, c.descriptor side, (c.descriptor side).family?⟩

/-- How the ends of a channel with a given link belong together. -/
inductive Fit (link : Option Link) : (source destination : End) → Prop where
  /-- The source listens, unless the link says that the destination does: both sides name the
  address of the source and its port, and only the endpoint of the source has the port. -/
  | tcpSource {a a' : Address} {port : Nat}
      (server : link = none ∨ ∃ l, link = some l ∧ l.serverSide = .left) :
      Fit link ⟨.tcp a, .tcp a (some port), .tcp a port true, some a.family⟩
        ⟨.tcp a', .tcp a' none, .tcp a port false, some a.family⟩
  /-- The destination listens if the link says so, with the roles exchanged. -/
  | tcpDestination {a a' : Address} {port : Nat}
      (server : ∃ l, link = some l ∧ l.serverSide = .right) :
      Fit link ⟨.tcp a, .tcp a none, .tcp a' port false, some a'.family⟩
        ⟨.tcp a', .tcp a' (some port), .tcp a' port true, some a'.family⟩
  /-- Each side of a CoAP channel names the address of the other. -/
  | coap {a a' : Address} :
      Fit link ⟨.coap a, .coap a, .coap a', some a'.family⟩
        ⟨.coap a', .coap a', .coap a, some a.family⟩
  /-- Each side of a serial line has the settings of its own interface. -/
  | uart {q q' : SerialPort} :
      Fit link ⟨.uart q, .uart q, .uart q, none⟩ ⟨.uart q', .uart q', .uart q', none⟩
  /-- Each side of a custom channel has the settings of its own interface. -/
  | custom {d d' : CustomChannel} :
      Fit link ⟨.custom d, .custom d, .custom d, none⟩ ⟨.custom d', .custom d', .custom d', none⟩

/-- The ends of a channel fit, by the interfaces that it was laid between. -/
theorem fit_endOn (server : ∀ a a' side port, c = .tcp a a' side port →
      side = (link.getD {}).serverSide) :
    Fit link (c.endOn .left (c.binding .left)) (c.endOn .right (c.binding .right)) := by
  cases c with
  | tcp a a' side port =>
      have server := server a a' side port rfl
      cases side with
      | left =>
          refine Fit.tcpSource ?_
          cases link with
          | none => exact Or.inl rfl
          | some l => exact Or.inr ⟨l, rfl, server.symm⟩
      | right =>
          refine Fit.tcpDestination ?_
          cases link with
          | none => cases server
          | some l => exact ⟨l, rfl, server.symm⟩
  | uart q q' => exact Fit.uart
  | coap a a' => exact Fit.coap
  | custom d d' => exact Fit.custom

/-! ## Descriptors of a bundle -/

/-- A bundle between two federates has a descriptor for each of them, and for no others. -/
theorem descriptor?_iff (different : b.source ≠ b.destination) {k : Nat} {d : Descriptor} :
    b.descriptor? k = some d ↔
      k = b.source ∧ d = b.laid.channel.descriptor .left ∨
      k = b.destination ∧ d = b.laid.channel.descriptor .right := by
  unfold Bundle.descriptor? Bundle.side?
  by_cases source : k = b.source
  · subst source
    simp only [beq_self_eq_true, if_true, Option.map_some, Option.some.injEq, true_and, different,
      false_and, or_false]
    exact eq_comm
  · by_cases destination : k = b.destination
    · subst destination
      simp only [beq_iff_eq, source, if_false, if_true, Option.map_some, Option.some.injEq, true_and,
        false_and, false_or]
      exact eq_comm
    · simp [source, destination]

/-- **The two sides of a bundle fit.** In the topology of a program, the two federates of a bundle,
and no others, have a descriptor of it. The ends fit, by the interfaces of the two federates that
the bundle records and the link of the first statement that connects them. -/
theorem resolve_described (p : Program) (f : Federation) (h : Federation.resolve p = .ok f)
    (b : Bundle) (hb : b ∈ f.bundles) :
    (∀ k d, b.descriptor? k = some d ↔
      k = b.source ∧ d = b.laid.channel.descriptor .left ∨
      k = b.destination ∧ d = b.laid.channel.descriptor .right) ∧
    ∃ i s g g' x y,
      IsLeast {i | p.Connects (Federation.owners f.federates) (b.source, b.destination) i} i ∧
      p.statements[i]? = some s ∧
      f.federates[b.source]? = some g ∧ g.interfaces.find? b.laid.sourceInterface = some x ∧
      f.federates[b.destination]? = some g' ∧
      g'.interfaces.find? b.laid.destinationInterface = some y ∧
      Fit s.link (b.laid.channel.endOn .left x.binding) (b.laid.channel.endOn .right y.binding) := by
  refine ⟨fun k d => descriptor?_iff (source_ne_destination h hb), ?_⟩
  have fits := fits_of_resolve h hb
  obtain ⟨g, hg, source⟩ := fits.chosen .left
  obtain ⟨g', hg', destination⟩ := fits.chosen .right
  obtain ⟨x, hx, -, left⟩ := find?_of_choice source
  obtain ⟨y, hy, -, right⟩ := find?_of_choice destination
  obtain ⟨i, s, least, hs, link⟩ := partLink_eq (groups_resolve h) (toPart_mem_partition h hb)
  rw [← owners_resolve h] at least
  have server := fits.server
  rw [link] at server
  refine ⟨i, s, g, g', x, y, least, hs, hg, hx, hg', hy, ?_⟩
  rw [left, right]
  exact fit_endOn server

/-- The third bundle of the relay goes from the first member of the bank to the sender, and what the
two construct fits. -/
theorem relay_described : ∃ f b, Federation.resolve relay = .ok f ∧ b ∈ f.bundles ∧
    b.descriptor? 1 = some (b.laid.channel.descriptor .left) ∧
    b.descriptor? 0 = some (b.laid.channel.descriptor .right) ∧ b.descriptor? 2 = none ∧
    ∃ s ∈ relay.statements, ∃ x y,
      Fit s.link (b.laid.channel.endOn .left x) (b.laid.channel.endOn .right y) := by
  have ends : (Federation.resolve relay).toOption.bind
      (fun f => f.bundles[2]?.map fun b => (b.source, b.destination)) = some (1, 0) := by
    decide +kernel
  obtain ⟨f, resolves, ends⟩ := Option.bind_eq_some_iff.mp ends
  have h : Federation.resolve relay = .ok f := eq_ok_of_toOption resolves
  obtain ⟨b, third, ends⟩ := Option.map_eq_some_iff.mp ends
  obtain ⟨source, destination⟩ := Prod.mk.inj ends
  have hb := List.mem_of_getElem? third
  obtain ⟨mine, i, s, g, g', x, y, -, hs, -, -, -, -, fit⟩ := resolve_described relay f h b hb
  refine ⟨f, b, h, hb, ?_, ?_, ?_, s, List.mem_of_getElem? hs, x.binding, y.binding, fit⟩
  · exact (mine 1 _).mpr (Or.inl ⟨source.symm, rfl⟩)
  · exact (mine 0 _).mpr (Or.inr ⟨destination.symm, rfl⟩)
  · refine Option.eq_none_iff_forall_ne_some.mpr fun d hd => ?_
    rcases (mine 2 d).mp hd with ⟨h2, -⟩ | ⟨h2, -⟩
    · omega
    · omega

end ReactorNet
