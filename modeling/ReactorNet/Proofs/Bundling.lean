import ReactorNet.Federation.Basic
import ReactorNet.Proofs.Grouping
import ReactorNet.Proofs.Interfaces

/-!
# `ReactorNet.Proofs.Bundling` · bundles and the laying of their channels

Bundles are the groups that cross between federates, gathered by the two federates
(`partition_eq_gather`). Laying the channel of a bundle is one step on a network;
`layBundle_eq_ok_iff` says when a step succeeds and all that it does then. Out of it come the two
facts that a run of steps needs:

* it keeps the outline of the network, that is, names and bindings of all interfaces
  (`outline_layParts`);
* it grants at most the ports that sides listen on (`grants_of_layParts`).
-/

namespace ReactorNet

variable {p : Program} {groups groups' : List Group} {n m : Network} {part : Part}
  {parts : List Part} {b : Bundle}
  {bs : List Bundle}

/-! ## Parts -/

/-- The groups that cross between federates: the two federates, and the number of the group. The
first group has the number `i`. -/
def crossings (i : Nat) (groups : List Group) : List ((Nat × Nat) × Nat) :=
  (groups.zipIdx i).filterMap fun x => x.1.crossing?.map (·, x.2)

/-- The crossings of groups, one group at a time. -/
theorem crossings_cons (i : Nat) (g : Group) (groups : List Group) :
    crossings i (g :: groups) = (g.crossing?.map (·, i)).toList ++ crossings (i + 1) groups := by
  unfold crossings
  rw [List.zipIdx_cons, List.filterMap_cons]
  rcases g.crossing? with _ | federates
  · rfl
  · rfl

/-- The crossings of groups, in terms of the federates that each crosses between. -/
theorem crossings_eq (groups : List Group) :
    crossings 0 groups =
      (groups.map (·.crossing?)).zipIdx.filterMap fun x => x.1.map (·, x.2) := by
  rw [crossings, List.zipIdx_map, List.filterMap_map]
  rfl

/-- Crossing groups are gathered into parts. -/
def parting : Gathering ((Nat × Nat) × Nat) Part (Nat × Nat) where
  keyOf := Prod.fst
  rowKey := Prod.fst
  opens _ x := (x.1, [x.2])
  add x part := (part.1, part.2 ++ [x.2])
  rowKey_opens _ _ := rfl
  rowKey_add _ _ := rfl

/-- Entering a group gathers its crossing. -/
theorem enterGroup_eq_enter (federates : Nat × Nat) (index k : Nat) (parts : List Part) :
    enterGroup federates index parts = parting.enter (federates, index) k parts := by
  induction parts generalizing k with
  | nil => rfl
  | cons part parts ih =>
      rw [enterGroup, Gathering.enter, ih (k + 1)]
      rfl

/-- Parting groups gathers their crossings. -/
theorem partitionFrom_eq_gather (i : Nat) (groups : List Group) (parts : List Part) :
    partitionFrom i groups parts = parting.gather (crossings i groups) parts := by
  induction groups generalizing i parts with
  | nil => rfl
  | cons g groups ih =>
      rw [partitionFrom, ih, crossings_cons]
      rcases g.crossing? with _ | federates
      · rfl
      · show parting.gather _ (enterGroup federates i parts) = _
        rw [enterGroup_eq_enter federates i 0]
        rfl

/-- The parts of groups are their crossings, gathered. -/
theorem partition_eq_gather (groups : List Group) :
    partition groups = parting.gather (crossings 0 groups) [] :=
  partitionFrom_eq_gather 0 groups []

/-- Groups are parted by gathering. -/
theorem gathered_partition (groups : List Group) :
    parting.Gathered (crossings 0 groups) (partition groups) :=
  partition_eq_gather groups ▸ Gathering.gathered_gather _

/-- A part, in terms of the crossings that it is made of. -/
theorem parting_row (k : Nat) (x : (Nat × Nat) × Nat) (xs : List ((Nat × Nat) × Nat)) :
    parting.row k x xs = (x.1, (x :: xs).map (·.2)) := by
  induction xs using List.reverseRecOn with
  | nil => rfl
  | append_singleton xs y ih =>
      rw [Gathering.row] at ih
      rw [Gathering.row, List.foldl_append, ih]
      simp [parting]

/-- The link of a part is the one of its first group. -/
def partLink (groups : List Group) (part : Part) : Option Link :=
  part.2.head?.bind fun i => groups[i]?.bind (·.link)

/-- The link of a part is read off the links of the groups. -/
theorem partLink_congr (same : groups.map (·.link) = groups'.map (·.link)) (part : Part) :
    partLink groups part = partLink groups' part := by
  have read : ∀ hs : List Group, partLink hs part =
      part.2.head?.bind fun i => (hs.map (·.link))[i]?.bind id := by
    intro hs
    unfold partLink
    simp only [List.getElem?_map, Option.bind_map, Function.id_comp]
  rw [read, read, same]

/-! ## Channels -/

/-- Where a channel listens: the address of the serving side, and the port. -/
def Channel.listener? : Channel → Option (Address × Nat)
  | tcp source destination server port => some (server.choose source destination, port)
  | _ => none

/-- What a bundle owns. -/
def Bundle.resource? (b : Bundle) : Option Resource :=
  b.laid.channel.listener?.map fun x => .port x.1 x.2

/-- Claiming the port that a side listens on takes the one that is given. -/
theorem grants_of_claimServerPort {asked : Option Nat} {a : Address} {q : Nat} {s t : Allocation}
    (h : claimServerPort asked a s = .ok (q, t)) : s.Grants [.port a q] t := by
  cases asked with
  | none => exact Allocation.grants_of_takePort h
  | some port =>
      obtain ⟨u, reserved, h⟩ := map_eq_ok_iff.mp h
      cases h
      exact Allocation.grants_of_reservePort reserved

/-- Laying a channel takes the port that it listens on. -/
theorem grants_of_lay {link : Link} {x y : Binding} {c : Channel} {s t : Allocation}
    (h : Channel.lay link x y s = .ok (c, t)) :
    s.Grants (c.listener?.map fun x => .port x.1 x.2).toList t := by
  unfold Channel.lay at h
  split at h
  · obtain ⟨⟨q, u⟩, claimed, h⟩ := map_eq_ok_iff.mp h
    cases h
    exact grants_of_claimServerPort claimed
  · cases h
    exact Allocation.Grants.refl _
  · cases h
    exact Allocation.Grants.refl _
  · cases h
    exact Allocation.Grants.refl _
  · cases h

/-- Laying a channel between federates, in terms of the interfaces that the link chooses. -/
theorem synthesize_eq (link : Option Link) (source destination : Interfaces) (s : Allocation) :
    synthesize link source destination s = (do
      let x ← source.choice (link.getD {}).left
      let y ← destination.choice (link.getD {}).right
      let (channel, t) ← Channel.lay (link.getD {}) x.2 y.2 s
      return {
        laid := ⟨channel, (link.getD {}).encryption, x.1, y.1⟩
        source := source.mint x.1 (channel.endpoint .left)
        destination := destination.mint y.1 (channel.endpoint .right)
        allocation := t }) := by
  simp only [synthesize, Interfaces.choice]
  cases source.resolve (link.getD {}).left with
  | error fault => rfl
  | ok i =>
      cases destination.resolve (link.getD {}).right with
      | error fault => rfl
      | ok j => rfl

/-- Laying a TCP channel comes down to claiming the port that it listens on. -/
theorem synthesize_tcp {link : Option Link} {source destination : Interfaces}
    {x y : String} {a b : Address} {s : Allocation}
    (hx : source.choice (link.getD {}).left = .ok (x, .tcp a))
    (hy : destination.choice (link.getD {}).right = .ok (y, .tcp b)) :
    (synthesize link source destination s).map (·.laid) =
      (claimServerPort (link.getD {}).serverPort ((link.getD {}).serverSide.choose a b) s).map
        fun r => ⟨.tcp a b (link.getD {}).serverSide r.1, (link.getD {}).encryption, x, y⟩ := by
  rw [synthesize_eq, hx, hy]
  simp only [bind, Except.bind, Channel.lay]
  rcases claimServerPort _ _ s with fault | r
  · rfl
  · rfl

/-- A channel that is laid changes the interfaces of either side by an endpoint at most. -/
theorem synthesize_ok {link : Option Link} {source destination : Interfaces} {s : Allocation}
    {r : Synthesis} (h : synthesize link source destination s = .ok r) :
    r.source.outline = source.outline ∧ r.destination.outline = destination.outline ∧
      s.Grants (r.laid.channel.listener?.map fun x => .port x.1 x.2).toList r.allocation := by
  rw [synthesize_eq] at h
  obtain ⟨x, -, h⟩ := bind_eq_ok_iff.mp h
  obtain ⟨y, -, h⟩ := bind_eq_ok_iff.mp h
  obtain ⟨⟨channel, t⟩, laid, h⟩ := bind_eq_ok_iff.mp h
  cases h
  exact ⟨Interfaces.outline_mint _ _ _, Interfaces.outline_mint _ _ _, grants_of_lay laid⟩

/-! ## One step -/

/-- The identities of the federates, with the names and bindings of their interfaces. -/
def Network.outline (n : Network) : List (FederateKey × List (String × Binding)) :=
  n.federates.map fun f => (f.key, f.interfaces.outline)

/-- Changing an element in what is not looked at changes nothing that is. -/
theorem map_modify_eq {α β : Type} {l : List α} {i : Nat} {g : α → α} {f : α → β}
    (h : ∀ a, l[i]? = some a → f (g a) = f a) : (l.modify i g).map f = l.map f := by
  apply List.ext_getElem?
  intro k
  rw [List.getElem?_map, List.getElem?_map, List.getElem?_modify]
  by_cases hk : i = k
  · subst hk
    cases ha : l[i]? with
    | none => rfl
    | some a => simp [h a ha]
  · simp [hk]

/-- A step between two federates, in terms of the channel that is laid. -/
theorem layBundle_eq {f g : Federate} (hf : n.federates[part.1.1]? = some f)
    (hg : n.federates[part.1.2]? = some g) (different : part.1.1 ≠ part.1.2) :
    layBundle groups part n =
      match synthesize (partLink groups part) f.interfaces g.interfaces n.allocation with
      | .error cause => .error (.bundle f.name g.name cause)
      | .ok r => .ok (⟨part.1.1, part.1.2, part.2, r.laid⟩,
          { (n.withInterfaces part.1.1 r.source).withInterfaces part.1.2 r.destination with
            allocation := r.allocation }) := by
  obtain ⟨⟨i, j⟩, indices⟩ := part
  have unequal : (i == j) = false := beq_eq_false_iff_ne.mpr different
  unfold layBundle
  simp only at hf hg ⊢
  rw [hf, hg]
  simp only [unequal, Bool.false_eq_true, if_false]
  rfl

/-- A step succeeds if the channel between two federates can be laid, and does nothing but put an
endpoint on an interface of either. -/
theorem layBundle_eq_ok_iff :
    layBundle groups part n = .ok (b, m) ↔
      ∃ f g r, n.federates[part.1.1]? = some f ∧ n.federates[part.1.2]? = some g ∧
        part.1.1 ≠ part.1.2 ∧
        synthesize (partLink groups part) f.interfaces g.interfaces n.allocation = .ok r ∧
        b = ⟨part.1.1, part.1.2, part.2, r.laid⟩ ∧
        m = { (n.withInterfaces part.1.1 r.source).withInterfaces part.1.2 r.destination with
          allocation := r.allocation } := by
  constructor
  · intro h
    obtain ⟨⟨i, j⟩, indices⟩ := part
    unfold layBundle at h
    simp only at h
    split at h
    · rename_i f g hf hg
      split at h
      · cases h
      · rename_i different
        split at h
        · cases h
        · rename_i r laid
          cases h
          exact ⟨f, g, r, hf, hg, by simpa using different, laid, rfl, rfl⟩
    · cases h
  · rintro ⟨f, g, r, hf, hg, different, laid, rfl, rfl⟩
    rw [layBundle_eq hf hg different, laid]

/-- A step keeps the outline of the network. -/
theorem outline_layBundle (h : layBundle groups part n = .ok (b, m)) : m.outline = n.outline := by
  obtain ⟨f, g, r, hf, hg, different, laid, -, rfl⟩ := layBundle_eq_ok_iff.mp h
  obtain ⟨source, destination, -⟩ := synthesize_ok laid
  unfold Network.outline Network.withInterfaces
  simp only
  rw [map_modify_eq, map_modify_eq]
  · intro a ha
    rw [hf] at ha
    cases ha
    simp only [source]
  · intro a ha
    rw [List.getElem?_modify_ne _ _ different, hg] at ha
    cases ha
    simp only [destination]

/-- A step takes the port that its channel listens on. -/
theorem grants_of_layBundle (h : layBundle groups part n = .ok (b, m)) :
    n.allocation.Grants b.resource?.toList m.allocation := by
  obtain ⟨f, g, r, -, -, -, laid, rfl, rfl⟩ := layBundle_eq_ok_iff.mp h
  exact (synthesize_ok laid).2.2

/-! ## Many steps -/

/-- Laying several channels, step by step. -/
theorem layParts_cons_ok :
    layParts groups (part :: parts) n = (.ok bs, m) ↔
      ∃ b u cs, layBundle groups part n = .ok (b, u) ∧ layParts groups parts u = (.ok cs, m) ∧
        bs = b :: cs := by
  rw [layParts]
  cases h : layBundle groups part n with
  | error fault => simp
  | ok r =>
      obtain ⟨b, u⟩ := r
      dsimp only
      cases hp : layParts groups parts u with
      | mk outcome v =>
          cases outcome with
          | error fault =>
              simp only [Prod.mk.injEq, reduceCtorEq, false_and, false_iff]
              rintro ⟨b', u', cs', first, rest, -⟩
              cases first
              rw [hp] at rest
              cases rest
          | ok cs =>
              simp only [Prod.mk.injEq, Except.ok.injEq]
              constructor
              · rintro ⟨rfl, rfl⟩
                exact ⟨b, u, cs, ⟨rfl, rfl⟩, hp, rfl⟩
              · rintro ⟨b', u', cs', ⟨rfl, rfl⟩, rest, rfl⟩
                rw [hp] at rest
                cases rest
                exact ⟨rfl, rfl⟩

/-- Where some channels were laid, one step more is the step on the network that they leave. -/
theorem layParts_concat (h : layParts groups parts n = (.ok bs, m)) (part : Part) :
    layParts groups (parts ++ [part]) n =
      match layBundle groups part m with
      | .ok (b, u) => (.ok (bs ++ [b]), u)
      | .error fault => (.error fault, m) := by
  induction parts generalizing n bs with
  | nil =>
      cases h
      rw [List.nil_append, layParts]
      rcases layBundle groups part m with fault | r
      · rfl
      · rfl
  | cons first parts ih =>
      obtain ⟨b, u, cs, hb, hcs, rfl⟩ := layParts_cons_ok.mp h
      rw [List.cons_append, layParts, hb]
      dsimp only
      rw [ih hcs]
      rcases layBundle groups part m with fault | r
      · rfl
      · rfl

/-- One step more succeeds if the step on the network that the others leave does. -/
theorem layParts_concat_ok (h : layParts groups parts n = (.ok bs, m)) {u : Network} :
    layParts groups (parts ++ [part]) n = (.ok (bs ++ [b]), u) ↔
      layBundle groups part m = .ok (b, u) := by
  rw [layParts_concat h]
  rcases layBundle groups part m with fault | ⟨c, v⟩
  · simp
  · simp

/-- One step more fails, and leaves that network as it is, if the step on it fails. -/
theorem layParts_concat_error (h : layParts groups parts n = (.ok bs, m))
    {fault : ResolutionFault} :
    layParts groups (parts ++ [part]) n = (.error fault, m) ↔
      layBundle groups part m = .error fault := by
  rw [layParts_concat h]
  rcases layBundle groups part m with cause | r
  · simp
  · simp

/-- Laying channels fails where one of them cannot be laid, after those before it were. -/
theorem exists_of_layParts_error {fault : ResolutionFault}
    (h : layParts groups parts n = (.error fault, m)) :
    ∃ earlier part later bs, parts = earlier ++ part :: later ∧
      layParts groups earlier n = (.ok bs, m) ∧ layBundle groups part m = .error fault := by
  induction parts generalizing n with
  | nil => cases h
  | cons part parts ih =>
      rw [layParts] at h
      cases first : layBundle groups part n with
      | error cause =>
          rw [first] at h
          cases h
          exact ⟨[], part, parts, [], rfl, rfl, first⟩
      | ok r =>
          obtain ⟨b, u⟩ := r
          rw [first] at h
          dsimp only at h
          split at h
          · cases h
          · rename_i cause v rest
            cases h
            obtain ⟨earlier, q, later, bs, rfl, before, failed⟩ := ih rest
            refine ⟨part :: earlier, q, later, b :: bs, rfl, ?_, failed⟩
            exact layParts_cons_ok.mpr ⟨b, u, bs, first, before, rfl⟩

/-- Laying channels keeps the outline of the network. -/
theorem outline_layParts (h : layParts groups parts n = (.ok bs, m)) : m.outline = n.outline := by
  induction parts generalizing n bs with
  | nil =>
      cases h
      rfl
  | cons part parts ih =>
      obtain ⟨b, u, cs, first, rest, -⟩ := layParts_cons_ok.mp h
      exact (ih rest).trans (outline_layBundle first)

/-- Laying channels takes the ports that they listen on. -/
theorem grants_of_layParts (h : layParts groups parts n = (.ok bs, m)) :
    n.allocation.Grants (bs.filterMap (·.resource?)) m.allocation := by
  induction parts generalizing n bs with
  | nil =>
      cases h
      exact Allocation.Grants.refl _
  | cons part parts ih =>
      obtain ⟨b, u, cs, first, rest, rfl⟩ := layParts_cons_ok.mp h
      have both := (grants_of_layBundle first).trans (ih rest)
      rw [List.filterMap_cons]
      cases hr : b.resource? with
      | none => simpa [hr] using both
      | some r => simpa [hr] using both

/-- A step reads of the groups only the link of the part. -/
theorem layBundle_congr (same : partLink groups part = partLink groups' part) (n : Network) :
    layBundle groups part n = layBundle groups' part n := by
  unfold partLink at same
  unfold layBundle
  simp only [same]

/-- Laying channels reads of the groups only the links of the parts. -/
theorem layParts_congr (same : ∀ part ∈ parts, partLink groups part = partLink groups' part)
    (n : Network) : layParts groups parts n = layParts groups' parts n := by
  induction parts generalizing n with
  | nil => rfl
  | cons part parts ih =>
      rw [layParts, layParts, layBundle_congr (same part List.mem_cons_self) n]
      simp only [ih fun q hq => same q (List.mem_cons_of_mem _ hq)]

/-! ## Topologies -/

/-- What the interfaces of a network own. -/
def Network.resources (n : Network) : List Resource :=
  n.federates.flatMap fun f => f.interfaces.resources

/-- What the interfaces of a network own, in terms of its outline. -/
theorem Network.resources_eq (n : Network) :
    n.resources = n.outline.flatMap fun x => x.2.filterMap fun y => y.2.resource? := by
  unfold resources outline
  rw [List.flatMap_map]
  simp only [Interfaces.resources_eq]

/-- Enlisting federates takes what their interfaces own. -/
theorem grants_of_enlist (h : Federation.enlist p = .ok n) :
    Allocation.Grants {} n.resources n.allocation := by
  unfold Federation.enlist at h
  split at h
  · split at h
    · rename_i federates allocation claimed
      cases h
      have same : (⟨chooseGrandmaster federates, allocation⟩ : Network).resources =
          federates.flatMap fun f => f.interfaces.resources := by
        have stations := congrArg (List.flatMap fun x => x.2.resources)
          (map_station_chooseGrandmaster federates)
        rwa [List.flatMap_map, List.flatMap_map] at stations
      rw [same]
      exact grants_of_claimFederates claimed
    · cases h
  · cases h
    exact Allocation.Grants.refl _

/-- A program has a topology if it passes its checks, its federates can be enlisted, its connections
grouped, and the channels of its bundles laid. -/
theorem resolve_eq_ok_iff {f : Federation} :
    Federation.resolve p = .ok f ↔
      p.validate = .ok () ∧ ∃ n, Federation.enlist p = .ok n ∧
        groupConnections p (Federation.owners n.federates) = .ok f.groups ∧
        layBundles f.groups n = (.ok f.bundles, f.network) ∧ f.name = p.name := by
  unfold Federation.resolve
  cases p.validate with
  | error r => simp
  | ok _ =>
      simp only [true_and]
      unfold Federation.resolveChecked
      rw [bind_eq_ok_iff]
      refine exists_congr fun n => and_congr_right fun _ => ?_
      rw [bind_eq_ok_iff]
      constructor
      · rintro ⟨groups, grouped, h⟩
        split at h
        · rename_i bundles network laid
          cases h
          exact ⟨grouped, laid, rfl⟩
        · cases h
      · rintro ⟨grouped, laid, named⟩
        refine ⟨f.groups, grouped, ?_⟩
        rw [laid, ← named]
        rfl

end ReactorNet
