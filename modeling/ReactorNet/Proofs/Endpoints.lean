import ReactorNet.Proofs.Ends

/-!
# `ReactorNet.Proofs.Endpoints` · the endpoints on interfaces record the bundles

`Bundle.minted` lists what the channel of a bundle mints on the interface of a federate with a given
name. `resolve_recorded` says that nothing else is ever minted: in a topology, the endpoints on
every interface are what the bundles mint on it, in the order of the bundles.

One step adds to every interface of the network what its bundle mints there, which is nothing on all
but two (`tables_layBundle`); a run adds what its bundles mint (`tables_layParts`). Interfaces are
found by their names, so all this rests on the interfaces of a federate having distinct names, which
claiming them makes sure of (`clear_enlist`).
-/

namespace ReactorNet

/-- What a bundle mints on the interface of a federate with the given name: the end of the source if
the federate is the source and the channel leaves by that interface, and the end of the destination
if it is the destination and the channel arrives there. -/
def Bundle.minted (b : Bundle) (federate : Nat) (name : String) : List Endpoint :=
  (if b.source = federate ∧ b.laid.sourceInterface = name then [b.laid.channel.endpoint .left]
    else []) ++
  (if b.destination = federate ∧ b.laid.destinationInterface = name then
    [b.laid.channel.endpoint .right] else [])

/-- An interface with more endpoints. -/
def Interface.extend (i : Interface) (es : List Endpoint) : Interface :=
  { i with endpoints := i.endpoints ++ es }

/-- The interfaces of the federates of a network. -/
def Network.tables (n : Network) : List (List Interface) :=
  n.federates.map fun f => f.interfaces.toList

/-- Interfaces of a federate are told apart by their names. -/
def Distinct (is : List Interface) : Prop := (is.map (·.name)).Nodup

variable {p : Program} {f : Federation} {n m : Network} {groups : List Group} {part : Part}
  {parts : List Part} {b : Bundle} {bs : List Bundle} {is : List Interface} {i : Interface}
  {e : Endpoint} {name : String} {s t : Allocation} {k : Nat}

/-! ## More endpoints -/

@[simp]
theorem extend_name (i : Interface) (es : List Endpoint) : (i.extend es).name = i.name := rfl

@[simp]
theorem extend_nil (i : Interface) : i.extend [] = i := by
  rw [Interface.extend, List.append_nil]

@[simp]
theorem extend_extend (i : Interface) (es es' : List Endpoint) :
    (i.extend es).extend es' = i.extend (es ++ es') := by
  simp only [Interface.extend, List.append_assoc]

/-- Where names are distinct, minting on the first interface with a name is minting on all of
them. -/
theorem mintOn_eq_map (distinct : Distinct is) :
    Interfaces.mintOn name e is = is.map fun i => i.extend (if i.name = name then [e] else []) := by
  induction is with
  | nil => rfl
  | cons i is ih =>
      obtain ⟨new, distinct⟩ := List.nodup_cons.mp distinct
      rw [Interfaces.mintOn, List.map_cons]
      by_cases same : i.name = name
      · rw [if_pos (beq_iff_eq.mpr same), if_pos same]
        -- no other interface has the name
        have others : is.map (fun i => i.extend (if i.name = name then [e] else [])) = is := by
          refine (List.map_congr_left fun j hj => ?_).trans (List.map_id is)
          have different : j.name ≠ name := by
            intro h
            exact new (List.mem_map.mpr ⟨j, hj, h.trans same.symm⟩)
          rw [if_neg different, extend_nil]
          rfl
        rw [others]
        rfl
      · have different : ¬ (i.name == name) = true := by simpa using same
        rw [if_neg different, if_neg same, extend_nil, ih distinct]

/-- Minting adds to the endpoints of the interface with the given name. -/
theorem toList_mint {is : Interfaces} (distinct : Distinct is.toList) (name : String) (e : Endpoint) :
    (is.mint name e).toList =
      is.toList.map fun i => i.extend (if i.name = name then [e] else []) := by
  have nonempty : is.toList.map (fun i => i.extend (if i.name = name then [e] else [])) ≠ [] := by
    simp [Interfaces.toList]
  rw [Interfaces.mint, mintOn_eq_map distinct, Interfaces.toList_ofList nonempty]

/-- More endpoints leave names distinct. -/
theorem Distinct.map_extend (distinct : Distinct is) (es : String → List Endpoint) :
    Distinct (is.map fun i => i.extend (es i.name)) := by
  have names : (is.map fun i => i.extend (es i.name)).map (·.name) = is.map (·.name) := by
    rw [List.map_map]
    rfl
  rwa [Distinct, names]

/-! ## Steps -/

/-- The interfaces of a federate, among all. -/
theorem getElem?_tables {g : Federate} (h : n.federates[k]? = some g) :
    n.tables[k]? = some g.interfaces.toList := by
  rw [Network.tables, List.getElem?_map, h]
  rfl

/-- **One step.** A step adds to every interface what its bundle mints there. -/
theorem tables_layBundle (distinct : ∀ is ∈ n.tables, Distinct is)
    (h : layBundle groups part n = .ok (b, m)) :
    m.tables = n.tables.mapIdx fun k is => is.map fun i => i.extend (b.minted k i.name) := by
  obtain ⟨f, g, r, hf, hg, different, laid, rfl, rfl⟩ := layBundle_eq_ok_iff.mp h
  rw [synthesize_eq] at laid
  obtain ⟨x, -, laid⟩ := bind_eq_ok_iff.mp laid
  obtain ⟨y, -, laid⟩ := bind_eq_ok_iff.mp laid
  obtain ⟨⟨channel, t⟩, -, laid⟩ := bind_eq_ok_iff.mp laid
  cases laid
  have distinct_f := distinct _ (List.mem_of_getElem? (getElem?_tables hf))
  have distinct_g := distinct _ (List.mem_of_getElem? (getElem?_tables hg))
  apply List.ext_getElem?
  intro k
  simp only [Network.tables, Network.withInterfaces, List.getElem?_mapIdx, List.getElem?_map,
    List.getElem?_modify]
  by_cases source : part.1.1 = k
  · subst source
    simp [hf, different.symm, toList_mint distinct_f, Bundle.minted, eq_comm]
  · by_cases destination : part.1.2 = k
    · subst destination
      simp [hg, different, toList_mint distinct_g, Bundle.minted, eq_comm]
    · simp [source, destination, Bundle.minted, Function.comp_def]

/-- **A run.** Laying channels adds to every interface what the bundles mint there, in their
order. -/
theorem tables_layParts (distinct : ∀ is ∈ n.tables, Distinct is)
    (h : layParts groups parts n = (.ok bs, m)) :
    m.tables =
      n.tables.mapIdx fun k is => is.map fun i => i.extend (bs.flatMap (·.minted k i.name)) := by
  induction parts generalizing n bs with
  | nil =>
      cases h
      apply List.ext_getElem?
      intro k
      simp
  | cons part parts ih =>
      obtain ⟨b, u, cs, first, rest, rfl⟩ := layParts_cons_ok.mp h
      have step := tables_layBundle distinct first
      have still : ∀ is ∈ u.tables, Distinct is := by
        intro is his
        rw [step, List.mem_mapIdx] at his
        obtain ⟨k, hk, rfl⟩ := his
        exact (distinct _ (List.getElem_mem hk)).map_extend (b.minted k)
      rw [ih still rest, step, List.mapIdx_mapIdx]
      congr 1
      funext k is
      simp

/-! ## The beginning -/

/-- Interfaces with distinct names on which nothing was minted. -/
structure Clear (is : List Interface) : Prop where
  /-- The names are distinct. -/
  distinct : Distinct is
  /-- There are no endpoints. -/
  bare : ∀ i ∈ is, i.endpoints = []

/-- Interfaces that are claimed one after the other have distinct names and no endpoints. -/
theorem clear_claimAll {bank : Option Nat} {ds : List InterfaceDecl} {earlier : List Interface}
    (clear : Clear earlier) (h : claimAll bank earlier ds s = (.ok is, t)) : Clear is := by
  induction ds generalizing earlier s with
  | nil =>
      cases h
      refine ⟨?_, fun i hi => clear.bare i (List.mem_reverse.mp hi)⟩
      rw [Distinct, List.map_reverse]
      exact List.nodup_reverse.mpr clear.distinct
  | cons d ds ih =>
      obtain ⟨new, binding, u, -, rest⟩ := claimInTurn_cons_eq_ok_iff.mp h
      refine ih ⟨?_, ?_⟩ rest
      · rw [Distinct, List.map_cons]
        refine List.nodup_cons.mpr ⟨?_, clear.distinct⟩
        simpa using new
      · intro i hi
        rcases List.mem_cons.mp hi with rfl | hi
        · rfl
        · exact clear.bare i hi

/-- Claiming the interfaces of a federate gives distinct names and no endpoints. -/
theorem clear_claim {decls : List InterfaceDecl} {bank : Option Nat} {is : Interfaces}
    (h : Interfaces.claim decls bank s = (.ok is, t)) : Clear is.toList := by
  obtain ⟨list, claimed, rfl⟩ := claim_eq_ok_iff.mp h
  have none : Clear [] := ⟨by simp [Distinct], by simp⟩
  have clear := clear_claimAll none claimed
  cases list with
  | nil => exact ⟨List.nodup_singleton _, fun i hi => List.mem_singleton.mp hi ▸ rfl⟩
  | cons i list => exact clear

/-- Federates are enlisted with distinct names of interfaces, and no endpoints on them. -/
theorem clear_enlist (h : Federation.enlist p = .ok n) : ∀ is ∈ n.tables, Clear is := by
  have clear := (forall₂_enlist h).imp fun station _ ⟨_, _, _, claimed⟩ =>
    (⟨clear_claim claimed, trivial⟩ : Clear station.2.toList ∧ True)
  intro is his
  obtain ⟨g, hg, rfl⟩ := List.mem_map.mp his
  exact ((List.forall₂_and_left _ _).mp clear).1 g.station (List.mem_map.mpr ⟨g, hg, rfl⟩)

/-! ## Topologies -/

/-- In a topology the endpoints record the bundles, and all else about the interfaces is as it was
when the federates were enlisted. -/
structure Federation.Recorded (f : Federation) (enlisted : Network) : Prop where
  /-- The endpoints on an interface are what the bundles mint on it, in the order of the bundles. -/
  endpoints_eq : ∀ k g, f.federates[k]? = some g → ∀ i ∈ g.interfaces.toList,
    i.endpoints = f.bundles.flatMap (·.minted k i.name)
  /-- The interfaces of a federate have distinct names. -/
  distinct : ∀ g ∈ f.federates, Distinct g.interfaces.toList
  /-- On either side of a bundle there is a federate that has the interface which is recorded. -/
  exists_interface : ∀ b ∈ f.bundles, ∀ side, ∃ g, f.federates[b.federateOn side]? = some g ∧
    ∃ i ∈ g.interfaces.toList, i.name = b.laid.interfaceOn side
  /-- Endpoints speak the protocol of their interface. -/
  protocol_eq : ∀ g ∈ f.federates, ∀ i ∈ g.interfaces.toList, ∀ e ∈ i.endpoints,
    e.protocol = i.protocol
  /-- The federates and the names and bindings of their interfaces are those that were enlisted. -/
  outline_eq : f.network.outline = enlisted.outline

/-- Where names are distinct, an interface with a name has the binding that is listed with it. -/
theorem binding_of_mem_outline {is : Interfaces} {x : Binding} (distinct : Distinct is.toList)
    (hi : i ∈ is.toList) (h : (i.name, x) ∈ is.outline) : i.binding = x := by
  obtain ⟨j, hj, same⟩ := List.mem_map.mp h
  obtain ⟨name, rfl⟩ := Prod.mk.inj same
  rw [List.inj_on_of_nodup_map distinct hi hj name.symm]

/-- What a bundle mints on an interface, by sides. -/
theorem mem_minted_iff : e ∈ b.minted k name ↔
    ∃ side, b.federateOn side = k ∧ b.laid.interfaceOn side = name ∧
      e = b.laid.channel.endpoint side := by
  rw [Bundle.minted, List.mem_append, List.mem_ite_nil_right, List.mem_ite_nil_right,
    List.mem_singleton, List.mem_singleton]
  constructor
  · rintro (⟨⟨source, name⟩, rfl⟩ | ⟨⟨destination, name⟩, rfl⟩)
    · exact ⟨.left, source, name, rfl⟩
    · exact ⟨.right, destination, name, rfl⟩
  · rintro ⟨side, federate, name, rfl⟩
    cases side with
    | left => exact Or.inl ⟨⟨federate, name⟩, rfl⟩
    | right => exact Or.inr ⟨⟨federate, name⟩, rfl⟩

/-- What a bundle that fits a network mints on an interface speaks the protocol of the interface. -/
theorem protocol_of_mem_minted {g : Federate} (fits : b.Fits groups n)
    (hg : n.federates[k]? = some g) (distinct : Distinct g.interfaces.toList)
    (hi : i ∈ g.interfaces.toList) (he : e ∈ b.minted k i.name) : e.protocol = i.protocol := by
  obtain ⟨side, rfl, name, rfl⟩ := mem_minted_iff.mp he
  obtain ⟨g', hg', chosen⟩ := fits.chosen side
  cases hg'.symm.trans hg
  rw [name] at chosen
  have binding := binding_of_mem_outline distinct hi (mem_outline_of_choice chosen)
  rw [protocol_endpoint, Interface.protocol, binding, protocol_binding]

/-- The endpoints of a topology are what its bundles mint. -/
theorem endpoints_of_layParts (clear : ∀ is ∈ n.tables, Clear is)
    (h : layParts groups parts n = (.ok bs, m)) (hk : m.tables[k]? = some is) (hi : i ∈ is) :
    i.endpoints = bs.flatMap (·.minted k i.name) := by
  rw [tables_layParts (fun is his => (clear is his).distinct) h, List.getElem?_mapIdx] at hk
  obtain ⟨js, hjs, rfl⟩ := Option.map_eq_some_iff.mp hk
  obtain ⟨j, hj, rfl⟩ := List.mem_map.mp hi
  have bare := (clear js (List.mem_of_getElem? hjs)).bare j hj
  rw [extend_name, Interface.extend, bare, List.nil_append]

/-- Laying channels leaves names distinct. -/
theorem distinct_of_outline_eq (same : m.outline = n.outline)
    (clear : ∀ is ∈ n.tables, Clear is) : ∀ g ∈ m.federates, Distinct g.interfaces.toList := by
  intro g hg
  obtain ⟨k, hk⟩ := List.mem_iff_getElem?.mp hg
  obtain ⟨g', hg', -, outline⟩ := getElem?_of_outline_eq same.symm hk
  have distinct := (clear _ (List.mem_of_getElem? (getElem?_tables hg'))).distinct
  have names : g'.interfaces.toList.map (·.name) = g.interfaces.toList.map (·.name) := by
    have names := congrArg (List.map Prod.fst) outline
    rwa [Interfaces.outline, Interfaces.outline, List.map_map, List.map_map] at names
  rwa [Distinct, names] at distinct

/-- **The endpoints record the bundles.** In the topology of a program, the endpoints on every
interface are exactly what the bundles mint on it, in their order; every bundle mints on either side
on one interface, which speaks the protocol of what is minted; and nothing else about interfaces has
changed since the federates were enlisted. -/
theorem resolve_recorded (p : Program) (f : Federation) (h : Federation.resolve p = .ok f) :
    ∃ n, Federation.enlist p = .ok n ∧ f.Recorded n := by
  obtain ⟨-, n, enlisted, -, laid, -⟩ := resolve_eq_ok_iff.mp h
  have clear := clear_enlist enlisted
  have outline := outline_layParts laid
  have distinct := distinct_of_outline_eq outline clear
  have endpoints : ∀ k g, f.federates[k]? = some g → ∀ i ∈ g.interfaces.toList,
      i.endpoints = f.bundles.flatMap (·.minted k i.name) := by
    intro k g hg i hi
    exact endpoints_of_layParts clear laid (getElem?_tables hg) hi
  refine ⟨n, enlisted, endpoints, distinct, ?_, ?_, outline⟩
  · intro b hb side
    obtain ⟨g, hg, chosen⟩ := (fits_of_resolve h hb).chosen side
    obtain ⟨i, hi, same⟩ := List.mem_map.mp (mem_outline_of_choice chosen)
    exact ⟨g, hg, i, hi, congrArg Prod.fst same⟩
  · intro g hg i hi e he
    obtain ⟨k, hk⟩ := List.mem_iff_getElem?.mp hg
    rw [endpoints k g hk i hi, List.mem_flatMap] at he
    obtain ⟨b, hb, he⟩ := he
    exact protocol_of_mem_minted (fits_of_resolve h hb) hk (distinct g hg) hi he

/-- The relay has a topology, and its endpoints record its bundles. -/
theorem relay_recorded : ∃ f n, Federation.resolve relay = .ok f ∧ Federation.enlist relay = .ok n ∧
    f.Recorded n := by
  obtain ⟨f, h⟩ := exists_eq_ok (by decide +kernel : (Federation.resolve relay).toOption.isSome = true)
  obtain ⟨n, enlisted, recorded⟩ := resolve_recorded relay f h
  exact ⟨f, n, h, enlisted, recorded⟩

end ReactorNet
