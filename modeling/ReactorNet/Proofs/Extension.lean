import ReactorNet.Proofs.Bundling
import ReactorNet.Proofs.Validation

/-!
# `ReactorNet.Proofs.Extension` · what further statements change

A program to which connection statements are appended has the topology of the program before,
extended: groups gain pairs, bundles gain groups, and new ones follow behind those that there are.
No number, no link and no channel changes (`resolve_append`).

**Layers.** What is said of topologies is said of each stage first: of groups (`extends_groups`), of
parts (`extends_partition`) and of bundles (`extends_layParts`). Every stage reads of the one before
it only what an extension keeps.
-/

namespace ReactorNet

variable {p : Program} {more : List Statement} {groups groups' : List Group} {g g' : Group}

/-! ## Relations -/

/-- Every element of one list has its counterpart at the same position in the other. -/
def ExtendsBy {α β : Type} (related : α → β → Prop) (xs : List α) (ys : List β) : Prop :=
  ∀ (i : Nat) (x : α), xs[i]? = some x → ∃ y, ys[i]? = some y ∧ related x y

/-- A group with further pairs. -/
structure Group.Extends (g g' : Group) : Prop where
  /-- The number stays. -/
  uid : g'.uid = g.uid
  /-- Source port, delay, physical flag and federates stay. -/
  key : g'.key = g.key
  /-- The statement that counts stays the first one. -/
  statement : g'.statement = g.statement
  /-- The link stays the one of that statement. -/
  link : g'.link = g.link
  /-- Further pairs follow. -/
  pairs : g.pairs <+: g'.pairs
  /-- No fewer pending events are buffered. -/
  maxPending : g.maxPending ≤ g'.maxPending

/-- A bundle with further groups. -/
structure Bundle.Extends (b b' : Bundle) : Prop where
  /-- The data leave the same federate. -/
  source : b'.source = b.source
  /-- They enter the same federate. -/
  destination : b'.destination = b.destination
  /-- They use the same channel. -/
  laid : b'.laid = b.laid
  /-- Further groups follow. -/
  groups : b.groups <+: b'.groups

/-- A federation with further connections. -/
structure Federation.Extends (f f' : Federation) : Prop where
  /-- Groups gain pairs, and new groups follow. -/
  groups : ExtendsBy Group.Extends f.groups f'.groups
  /-- Bundles gain groups, and new bundles follow. -/
  bundles : ExtendsBy Bundle.Extends f.bundles f'.bundles

section ExtendsBy

variable {α β γ : Type} {related : α → β → Prop} {x : α} {xs : List α} {ys : List β}

/-- What related elements have in common is a prefix. -/
theorem ExtendsBy.isPrefix_map (h : ExtendsBy related xs ys) {f : α → γ} {f' : β → γ}
    (common : ∀ x y, related x y → f' y = f x) : xs.map f <+: ys.map f' := by
  rw [List.prefix_iff_getElem?]
  intro i hi
  rw [List.length_map] at hi
  obtain ⟨y, hy, hxy⟩ := h i xs[i] (List.getElem?_eq_getElem hi)
  rw [List.getElem?_map, hy, Option.map_some, common _ _ hxy, List.getElem_map]

/-- A list that is not empty is extended by one that is not empty either. -/
theorem ExtendsBy.cons (h : ExtendsBy related (x :: xs) ys) :
    ∃ y zs, ys = y :: zs ∧ related x y ∧ ExtendsBy related xs zs := by
  obtain ⟨y, hy, hxy⟩ := h 0 x rfl
  cases ys with
  | nil => cases hy
  | cons z zs =>
      obtain rfl : z = y := by simpa using hy
      exact ⟨z, zs, rfl, hxy, fun i a ha => h (i + 1) a ha⟩

/-- Related elements in front of lists that are related. -/
theorem ExtendsBy.push {y : β} (hxy : related x y) (h : ExtendsBy related xs ys) :
    ExtendsBy related (x :: xs) (y :: ys) := by
  intro i a ha
  cases i with
  | zero =>
      obtain rfl : x = a := by simpa using ha
      exact ⟨y, rfl, hxy⟩
  | succ i => exact h i a ha

end ExtendsBy

/-! ## Programs -/

/-- A program with further statements. -/
def Program.append (p : Program) (more : List Statement) : Program :=
  { p with statements := p.statements ++ more }

/-- A program that passes its checks passes them without its last statements. -/
theorem validate_of_append (h : (p.append more).validate = .ok ()) : p.validate = .ok () := by
  have sound := (validate_eq_ok_iff.mp h).statements
  show ((p.append more).withStatements p.statements).validate = .ok ()
  exact validate_withStatements h fun s hs => sound s (List.mem_append_left more hs)

/-! ## Groups -/

/-- Further statements contribute behind all others. -/
theorem contributionsFrom_append (expand : Expansion) (i : Nat) (ss ts : List Statement) :
    contributionsFrom expand i (ss ++ ts) =
      contributionsFrom expand i ss ++ contributionsFrom expand (i + ss.length) ts := by
  induction ss generalizing i with
  | nil => rfl
  | cons s ss ih =>
      rw [List.cons_append, contributionsFrom, contributionsFrom, ih, List.append_assoc,
        List.length_cons]
      congr 3
      omega

/-- Contributions that are added to a group extend it. -/
theorem extends_foldl_add (g : Group) (cs : List Contribution) :
    g.Extends (cs.foldl (fun g c => grouping.add c g) g) := by
  induction cs using List.reverseRecOn with
  | nil => exact ⟨rfl, rfl, rfl, rfl, List.prefix_rfl, Nat.le_refl _⟩
  | append_singleton cs c ih =>
      rw [List.foldl_append]
      refine ⟨ih.uid, ih.key, ih.statement, ih.link, ?_, ?_⟩
      · exact ih.pairs.trans (List.prefix_append _ _)
      · exact Nat.le_trans ih.maxPending (Nat.le_max_left _ _)

/-- A program with further statements has groups only if it has them without, and they extend
those. -/
theorem extends_groups {owners : Owners}
    (h : groupConnections (p.append more) owners = .ok groups') :
    ∃ groups, groupConnections p owners = .ok groups ∧
      ExtendsBy Group.Extends groups groups' := by
  obtain ⟨expands, rfl⟩ := groupConnections_eq_ok_iff.mp h
  refine ⟨_, groupConnections_eq_ok_iff.mpr ⟨?_, rfl⟩, ?_⟩
  · intro i s hs
    have length := (List.getElem?_eq_some_iff.mp hs).1
    exact expands i s ((List.getElem?_append_left length).trans hs)
  · intro i g hg
    have all : (p.append more).contributions owners = p.contributions owners ++
        contributionsFrom (p.expand owners) (0 + p.statements.length) more :=
      contributionsFrom_append (p.expand owners) 0 p.statements more
    rw [all, Gathering.gather_append]
    exact ⟨_, (Gathering.gathered_gather _).getElem?_gather hg _, extends_foldl_add _ _⟩

/-! ## Parts -/

/-- A part of an extension: it joins the same federates, further groups follow, and the link is that
of the part before. -/
def PartExtends (groups groups' : List Group) (part part' : Part) : Prop :=
  part'.1 = part.1 ∧ part.2 <+: part'.2 ∧ partLink groups' part' = partLink groups part

/-- Groups that are added to a part follow behind those that it has. -/
theorem parting_foldl_add (part : Part) (xs : List ((Nat × Nat) × Nat)) :
    xs.foldl (fun part x => parting.add x part) part = (part.1, part.2 ++ xs.map (·.2)) := by
  induction xs generalizing part with
  | nil => simp
  | cons x xs ih => rw [List.foldl_cons, ih]; simp [parting]

/-- A crossing names a group that there is. -/
theorem lt_of_mem_crossings {x : (Nat × Nat) × Nat} (h : x ∈ crossings 0 groups) :
    x.2 < groups.length := by
  obtain ⟨⟨g, i⟩, mem, hx⟩ := List.mem_filterMap.mp h
  obtain ⟨federates, -, rfl⟩ := Option.map_eq_some_iff.mp hx
  simpa using (List.mem_zipIdx mem).2.1

/-- Groups that are extended keep their crossings, and new ones follow. -/
theorem isPrefix_crossings (h : ExtendsBy Group.Extends groups groups') :
    crossings 0 groups <+: crossings 0 groups' := by
  have crossing : groups.map (·.crossing?) <+: groups'.map (·.crossing?) := by
    refine h.isPrefix_map fun g g' hg => ?_
    unfold Group.crossing?
    rw [hg.key]
  obtain ⟨rest, hrest⟩ := crossing
  rw [crossings_eq, crossings_eq, ← hrest, List.zipIdx_append, List.filterMap_append]
  exact List.prefix_append _ _

/-- Extended groups are parted alike, up to further groups and further parts. -/
theorem extends_partition (h : ExtendsBy Group.Extends groups groups') :
    ExtendsBy (PartExtends groups groups') (partition groups) (partition groups') := by
  intro i part hpart
  obtain ⟨later, hlater⟩ := isPrefix_crossings h
  have gathered := gathered_partition groups
  have hpart' := gathered.getElem?_gather hpart later
  rw [parting_foldl_add, partition_eq_gather, ← Gathering.gather_append, hlater,
    ← partition_eq_gather] at hpart'
  refine ⟨_, hpart', rfl, List.prefix_append _ _, ?_⟩
  -- the first group of the part is one of the groups before
  obtain ⟨x, xs, share, hrow⟩ := gathered.row i part hpart
  have mem : x ∈ crossings 0 groups := by
    refine List.mem_of_mem_filter (p := fun y => parting.keyOf y = parting.rowKey part) ?_
    unfold Gathering.share at share
    rw [share]
    exact List.mem_cons_self
  rw [parting_row] at hrow
  obtain ⟨g', hg', extended⟩ := h x.2 _ (List.getElem?_eq_getElem (lt_of_mem_crossings mem))
  rw [hrow]
  simp [partLink, hg', extended.link, List.getElem?_eq_getElem (lt_of_mem_crossings mem)]

/-! ## Bundles -/

variable {n m : Network}

/-- Laying the channel of a part does not depend on its further groups. -/
theorem extends_layBundle {part part' : Part} {b' : Bundle}
    (extended : PartExtends groups groups' part part')
    (h : layBundle groups' part' n = .ok (b', m)) :
    ∃ b, layBundle groups part n = .ok (b, m) ∧ b.Extends b' := by
  obtain ⟨federates, indices, link⟩ := extended
  obtain ⟨f, g, r, hf, hg, different, laid, rfl, rfl⟩ := layBundle_eq_ok_iff.mp h
  rw [federates] at hf hg different ⊢
  rw [link] at laid
  exact ⟨⟨part.1.1, part.1.2, part.2, r.laid⟩,
    layBundle_eq_ok_iff.mpr ⟨f, g, r, hf, hg, different, laid, rfl, rfl⟩, rfl, rfl, rfl, indices⟩

/-- Where channels of extended parts are laid, those of the parts before are laid first, and
alike. -/
theorem extends_layParts {parts parts' : List Part} {bs' : List Bundle}
    (extended : ExtendsBy (PartExtends groups groups') parts parts')
    (h : layParts groups' parts' n = (.ok bs', m)) :
    ∃ bs u, layParts groups parts n = (.ok bs, u) ∧ ExtendsBy Bundle.Extends bs bs' := by
  induction parts generalizing parts' n bs' with
  | nil => exact ⟨[], n, rfl, fun i x hx => by cases hx⟩
  | cons part parts ih =>
      obtain ⟨part', later', rfl, first, rest⟩ := extended.cons
      obtain ⟨b', u, cs', hb', hcs', rfl⟩ := layParts_cons_ok.mp h
      obtain ⟨b, hb, hbb'⟩ := extends_layBundle first hb'
      obtain ⟨bs, v, hbs, hbscs⟩ := ih rest hcs'
      exact ⟨b :: bs, v, layParts_cons_ok.mpr ⟨b, u, bs, hb, hbs, rfl⟩, hbscs.push hbb'⟩

/-! ## Topologies -/

/-- **Further statements extend a topology.** If a program with further statements has a topology,
it has one without them, and they only add to it. -/
theorem resolve_append (p : Program) (more : List Statement) (f' : Federation)
    (h : Federation.resolve (p.append more) = .ok f') :
    ∃ f, Federation.resolve p = .ok f ∧ f.Extends f' := by
  obtain ⟨valid, n, enlisted, grouped, laid, -⟩ := resolve_eq_ok_iff.mp h
  obtain ⟨groups, hgroups, extended⟩ := extends_groups grouped
  obtain ⟨bundles, m, hbundles, hextends⟩ := extends_layParts (extends_partition extended) laid
  refine ⟨⟨p.name, m, groups, bundles⟩, ?_, extended, hextends⟩
  exact resolve_eq_ok_iff.mpr ⟨validate_of_append valid, n, enlisted, hgroups, hbundles, rfl⟩

/-- Further statements for the relay: one that adds to its groups, and one with a delay, hence with
groups of its own, that asks for a port in vain. -/
def relayMore : List Statement := [
  { left := [.ofInstance "a" "out"], right := [.ofInstance "b" "data"], bufferSize := some 9 },
  { left := [.ofInstance "a" "out"], right := [.ofInstance "b" "data"], delayNs := some 5
    link := some { serverPort := some 2000 } }]

/-- They extend its topology. -/
theorem relay_append : ∃ f f', Federation.resolve (relay.append relayMore) = .ok f' ∧
    Federation.resolve relay = .ok f ∧ f.Extends f' := by
  have resolves : (Federation.resolve (relay.append relayMore)).toOption.isSome = true := by
    decide +kernel
  obtain ⟨f', hf'⟩ := exists_eq_ok resolves
  obtain ⟨f, hf, extended⟩ := resolve_append relay relayMore f' hf'
  exact ⟨f, f', hf', hf, extended⟩

end ReactorNet
