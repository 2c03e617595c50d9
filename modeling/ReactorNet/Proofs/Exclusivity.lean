import ReactorNet.Proofs.Bundling

/-!
# `ReactorNet.Proofs.Exclusivity` · no resource of a federation is shared

From nothing claimed, resolving a program grants what its interfaces own and then the ports that its
channels listen on (`grants_of_resolve`). `resolve_exclusive` reads off what that means: own
addresses, devices and listening ports are pairwise different, they lie within their ranges, and the
allocation of the federation accounts for every listening port.
-/

namespace ReactorNet

variable {p : Program} {n m : Network} {f : Federation}

/-- Resolving a program takes what its interfaces own, and then the ports that its channels listen
on. -/
theorem grants_of_resolve (h : Federation.resolve p = .ok f) :
    Allocation.Grants {} (f.network.resources ++ f.bundles.filterMap (·.resource?))
      f.network.allocation := by
  obtain ⟨-, n, enlisted, -, laid, -⟩ := resolve_eq_ok_iff.mp h
  have same : f.network.resources = n.resources := by
    rw [Network.resources_eq, Network.resources_eq, outline_layParts laid]
  rw [same]
  exact (grants_of_enlist enlisted).trans (grants_of_layParts laid)

/-- The interfaces of a federation, federate by federate. -/
def Federation.interfaces (f : Federation) : List Interface :=
  f.federates.flatMap fun g => g.interfaces.toList

/-- No two interfaces or channels of a federation share a resource. -/
structure Federation.Exclusive (f : Federation) : Prop where
  /-- Different interfaces have different addresses, loopback addresses apart. -/
  addresses : f.interfaces.Pairwise fun i j => ∀ a b,
    i.binding.address? = some a → j.binding.address? = some b →
      a.isLoopback = false → b.isLoopback = false → a ≠ b
  /-- Different serial interfaces have different devices. -/
  devices : f.interfaces.Pairwise fun i j => ∀ c d,
    i.binding = .uart c → j.binding = .uart d → c.device ≠ d.device
  /-- Devices are numbered up to 255. -/
  device_le : ∀ i ∈ f.interfaces, ∀ d, i.binding = .uart d → d.device ≤ 255
  /-- Different bundles listen on different addresses or different ports. -/
  listeners : f.bundles.Pairwise fun b c => ∀ x y,
    b.laid.channel.listener? = some x → c.laid.channel.listener? = some y → x ≠ y
  /-- A port that is listened on is positive, and the federation accounts for it. -/
  listener_used : ∀ b ∈ f.bundles, ∀ a port, b.laid.channel.listener? = some (a, port) →
    1 ≤ port ∧ f.network.allocation.isPortUsed a port = true

/-- An interface with an address that is not a loopback address owns it. -/
theorem resource?_of_address {i : Interface} {a : Address} (h : i.binding.address? = some a)
    (own : a.isLoopback = false) : i.resource? = some (.address a) := by
  unfold Interface.resource?
  cases hb : i.binding <;> rw [hb] at h <;> cases h <;>
    simp [Binding.resource?, Address.resource?, own]

/-- A serial interface owns its device. -/
theorem resource?_of_uart {i : Interface} {d : SerialPort} (h : i.binding = .uart d) :
    i.resource? = some (.device d.device) := by
  rw [Interface.resource?, h]
  rfl

/-- A bundle owns the port that its channel listens on. -/
theorem resource?_of_listener {b : Bundle} {a : Address} {port : Nat}
    (h : b.laid.channel.listener? = some (a, port)) : b.resource? = some (.port a port) := by
  rw [Bundle.resource?, h]
  rfl

/-- **Whatever program resolves, no resource is shared.** -/
theorem resolve_exclusive (p : Program) (f : Federation) (h : Federation.resolve p = .ok f) :
    f.Exclusive := by
  have grants := grants_of_resolve h
  have interfaces : f.network.resources = f.interfaces.filterMap (·.resource?) := by
    rw [Federation.interfaces, List.filterMap_flatMap]
    rfl
  rw [interfaces] at grants
  obtain ⟨ofInterfaces, ofBundles, -⟩ := List.nodup_append.mp grants.nodup
  have distinct := List.pairwise_filterMap.mp ofInterfaces
  have claimable : ∀ i ∈ f.interfaces, ∀ r, i.resource? = some r → r.Claimable := by
    intro i hi r hr
    exact grants.claimable r (List.mem_append_left _ (List.mem_filterMap.mpr ⟨i, hi, hr⟩))
  refine ⟨?_, ?_, ?_, ?_, ?_⟩
  · refine distinct.imp fun {i j} hij a b ha hb hla hlb hab => ?_
    exact hij _ (resource?_of_address ha hla) _ (resource?_of_address hb hlb) (by rw [hab])
  · refine distinct.imp fun {i j} hij c d hc hd hcd => ?_
    exact hij _ (resource?_of_uart hc) _ (resource?_of_uart hd) (by rw [hcd])
  · intro i hi d hd
    exact claimable i hi _ (resource?_of_uart hd)
  · refine (List.pairwise_filterMap.mp ofBundles).imp fun {b c} hbc x y hx hy hxy => ?_
    exact hbc _ (resource?_of_listener hx) _ (resource?_of_listener hy) (by rw [hxy])
  · intro b hb a port hl
    have mem : Resource.port a port ∈
        f.interfaces.filterMap (·.resource?) ++ f.bundles.filterMap (·.resource?) :=
      List.mem_append_right _ (List.mem_filterMap.mpr ⟨b, hb, resource?_of_listener hl⟩)
    exact ⟨(grants.claimable _ mem).1, (grants.holds_iff _).mpr (Or.inl mem)⟩

/-- The relay shares nothing. -/
theorem relay_exclusive : ∃ f, Federation.resolve relay = .ok f ∧ f.Exclusive := by
  have resolves : (Federation.resolve relay).toOption.isSome = true := by decide +kernel
  obtain ⟨f, hf⟩ := exists_eq_ok resolves
  exact ⟨f, hf, resolve_exclusive relay f hf⟩

end ReactorNet
