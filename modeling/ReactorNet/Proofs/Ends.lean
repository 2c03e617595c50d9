import ReactorNet.Proofs.Partition
import ReactorNet.Proofs.ServerPort

/-!
# `ReactorNet.Proofs.Ends` · the two ends of a channel

A channel was laid between two bindings (`Channel.binding`), and all that it mints and constructs is
made of them. `Bundle.Fits` says that a bundle fits a network: the federate at either end has an
interface of the recorded name and with the recorded binding, and it is the one that the link
chooses. Every bundle of a topology fits its network (`fits_of_resolve`).

**Why the network does not matter.** Which interface a link chooses depends on names and bindings
only, and laying channels keeps both; so a bundle fits the network before any channel, in which it
was laid, and after all of them (`Bundle.Fits.congr`).
-/

namespace ReactorNet

variable {p : Program} {f : Federation} {groups : List Group} {n m : Network} {part : Part}
  {parts : List Part} {b : Bundle} {bs : List Bundle} {is : Interfaces} {asked : Option String}
  {x : String × Binding} {c : Channel} {side : Side}

/-! ## Bindings of a channel -/

/-- What the interface on a side of a channel is bound to. -/
def Channel.binding (side : Side) : Channel → Binding
  | tcp s d .. => .tcp (side.choose s d)
  | uart s d => .uart (side.choose s d)
  | coap s d => .coap (side.choose s d)
  | custom s d => .custom (side.choose s d)

/-- Interfaces on both sides of a channel speak its protocol. -/
theorem protocol_binding (side : Side) (c : Channel) : (c.binding side).protocol = c.protocol := by
  cases c <;> rfl

/-- So do the endpoints on them. -/
theorem protocol_endpoint (side : Side) (c : Channel) : (c.endpoint side).protocol = c.protocol := by
  cases c <;> rfl

/-- A channel is laid between the bindings that it is asked for, and the side listens that the link
says. -/
theorem binding_of_lay {link : Link} {left right : Binding} {s t : Allocation}
    (h : Channel.lay link left right s = .ok (c, t)) :
    c.binding .left = left ∧ c.binding .right = right ∧
      ∀ x y server port, c = .tcp x y server port → server = link.serverSide := by
  unfold Channel.lay at h
  split at h
  · obtain ⟨⟨q, u⟩, -, h⟩ := map_eq_ok_iff.mp h
    cases h
    refine ⟨rfl, rfl, ?_⟩
    rintro x y server port ⟨⟩
    rfl
  · cases h
    exact ⟨rfl, rfl, nofun⟩
  · cases h
    exact ⟨rfl, rfl, nofun⟩
  · cases h
    exact ⟨rfl, rfl, nofun⟩
  · cases h

/-! ## The interface that is chosen -/

/-- The interface that a link chooses is the one of the federate with that name. -/
theorem find?_of_choice (h : is.choice asked = .ok x) :
    ∃ i, is.find? x.1 = some i ∧ i.name = x.1 ∧ i.binding = x.2 := by
  obtain ⟨i, chosen, rfl⟩ := map_eq_ok_iff.mp h
  refine ⟨i, ?_, rfl, rfl⟩
  unfold Interfaces.resolve at chosen
  cases asked with
  | none =>
      cases chosen
      exact List.find?_cons_of_pos (beq_self_eq_true is.first.name)
  | some name =>
      dsimp only at chosen
      split at chosen
      · rename_i j found
        cases chosen
        have same : i.name = name := by simpa using List.find?_some found
        rwa [same]
      · cases chosen

/-- It is listed in the outline. -/
theorem mem_outline_of_choice (h : is.choice asked = .ok x) : x ∈ is.outline := by
  obtain ⟨i, found, name, binding⟩ := find?_of_choice h
  exact List.mem_map.mpr ⟨i, List.mem_of_find?_eq_some found, Prod.ext name binding⟩

/-! ## Bundles that fit a network -/

/-- The number of the federate on a side of a bundle. -/
def Bundle.federateOn (side : Side) (b : Bundle) : Nat := side.choose b.source b.destination

/-- The name of the interface on a side of a channel. -/
def LaidChannel.interfaceOn (side : Side) (l : LaidChannel) : String :=
  side.choose l.sourceInterface l.destinationInterface

/-- The name of the interface that a link asks for on a side. -/
def Link.interfaceOn (side : Side) (l : Link) : Option String := side.choose l.left l.right

/-- A bundle fits a network with groups that it was made of: the link of the bundle chooses, on
either side, the interface that is recorded. -/
structure Bundle.Fits (groups : List Group) (n : Network) (b : Bundle) : Prop where
  /-- The interface on a side. -/
  chosen : ∀ side, ∃ g, n.federates[b.federateOn side]? = some g ∧
    g.interfaces.choice (((partLink groups b.toPart).getD {}).interfaceOn side) =
      .ok (b.laid.interfaceOn side, b.laid.channel.binding side)
  /-- The side that listens. -/
  server : ∀ x y server port, b.laid.channel = .tcp x y server port →
    server = ((partLink groups b.toPart).getD {}).serverSide

/-- Whether a bundle fits depends on the outline of the network. -/
theorem Bundle.Fits.congr (h : b.Fits groups n) (same : m.outline = n.outline) :
    b.Fits groups m := by
  refine ⟨fun side => ?_, h.server⟩
  obtain ⟨g, hg, chosen⟩ := h.chosen side
  obtain ⟨g', hg', -, outline⟩ := getElem?_of_outline_eq same hg
  refine ⟨g', hg', ?_⟩
  rw [Interfaces.choice_congr outline, chosen]

/-- A bundle fits the network on which its channel is laid. -/
theorem fits_of_layBundle (h : layBundle groups part n = .ok (b, m)) : b.Fits groups n := by
  obtain ⟨f, g, r, hf, hg, -, laid, rfl, -⟩ := layBundle_eq_ok_iff.mp h
  rw [synthesize_eq] at laid
  obtain ⟨x, hx, laid⟩ := bind_eq_ok_iff.mp laid
  obtain ⟨y, hy, laid⟩ := bind_eq_ok_iff.mp laid
  obtain ⟨⟨channel, t⟩, lay, laid⟩ := bind_eq_ok_iff.mp laid
  cases laid
  obtain ⟨left, right, server⟩ := binding_of_lay lay
  refine ⟨fun side => ?_, server⟩
  cases side with
  | left =>
      refine ⟨f, hf, ?_⟩
      rw [left]
      exact hx
  | right =>
      refine ⟨g, hg, ?_⟩
      rw [right]
      exact hy

/-- All bundles fit the network on which their channels are laid one after the other. -/
theorem fits_of_layParts (h : layParts groups parts n = (.ok bs, m)) (hb : b ∈ bs) :
    b.Fits groups n := by
  induction parts generalizing n bs with
  | nil =>
      cases h
      cases hb
  | cons part parts ih =>
      obtain ⟨c, u, cs, first, rest, rfl⟩ := layParts_cons_ok.mp h
      rcases List.mem_cons.mp hb with rfl | hb
      · exact fits_of_layBundle first
      · exact (ih rest hb).congr (outline_layBundle first).symm

/-- **Every bundle of a topology fits its network.** -/
theorem fits_of_resolve (h : Federation.resolve p = .ok f) (hb : b ∈ f.bundles) :
    b.Fits f.groups f.network := by
  obtain ⟨-, n, -, -, laid, -⟩ := resolve_eq_ok_iff.mp h
  exact (fits_of_layParts laid hb).congr (outline_layParts laid)

end ReactorNet
