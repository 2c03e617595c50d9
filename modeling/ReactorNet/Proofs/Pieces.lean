import ReactorNet.Proofs.Enlistment
import ReactorNet.Proofs.Partition
import ReactorNet.Proofs.Renumbering
import ReactorNet.Proofs.Reporting

/-!
# `ReactorNet.Proofs.Pieces` · a statement for every two ports

A statement that is not iterated connects its ports one by one, so it can be replaced by as many
statements as either side has references: its pieces. `resolve_pieces` says that nothing comes of it
but other numbers of statements, whatever statements stand before and behind the one that is
replaced.

Statements come into a topology through the pairs that they contribute, and through their numbers.
`SamePairs` says of two lists of statements that they contribute the same. It is shown of a
statement and its pieces, it stays true between other statements, and the programs of such lists
have topologies that differ in numbers of statements only (`resolve_withStatements`).
-/

namespace ReactorNet

variable {p : Program} {expand : Expansion} {i : Nat} {s t : Statement} {ss ts : List Statement}
  {f : Federation}

/-! ## Pieces -/

/-- The statement that connects two ports as another statement does. -/
def Statement.piece (s : Statement) (l r : PortRef) : Statement := { s with left := [l], right := [r] }

/-- The statements that connect each left reference of a statement to the right one across from
it. -/
def Statement.pieces (s : Statement) : List Statement := List.zipWith s.piece s.left s.right

/-- A piece connects a left reference to a right one. -/
theorem exists_of_mem_pieces (h : t ∈ s.pieces) :
    ∃ l ∈ s.left, ∃ r ∈ s.right, s.piece l r = t := by
  obtain ⟨k, hk⟩ := List.mem_iff_getElem?.mp h
  obtain ⟨l, r, hl, hr, rfl⟩ := List.getElem?_zipWith_eq_some.mp hk
  exact ⟨l, List.mem_of_getElem? hl, r, List.mem_of_getElem? hr, rfl⟩

/-- Sides are paired by pairing their first ports and then the others. -/
theorem pairPorts_cons (l r : PortRef) (ls rs : List PortRef) :
    pairPorts expand i (l :: ls) (r :: rs) =
      pairPorts expand i [l] [r] >>= fun ps => (pairPorts expand i ls rs).map (ps ++ ·) := by
  rw [pairPorts, pairPorts]
  cases expand l with
  | error fault => rfl
  | ok left =>
      cases expand r with
      | error fault => rfl
      | ok right =>
          simp only [bind, Except.bind, pairPorts]
          split
          · rfl
          · cases pairPorts expand i ls rs with
            | error fault => rfl
            | ok ps => simp [pure, Except.pure, Except.map]

/-- A statement that connects port by port, and has as many on either side, pairs them. -/
theorem pairs_eq_pairPorts (left : s.left ≠ []) (once : s.iterated = false)
    (even : s.left.length = s.right.length) : s.pairs expand i = pairPorts expand i s.left s.right := by
  obtain ⟨l, ls, hl⟩ := List.exists_cons_of_ne_nil left
  rw [hl] at even
  obtain ⟨r, rs, hr⟩ := List.exists_cons_of_length_eq_add_one even.symm
  rw [hr] at even
  unfold Statement.pairs
  rw [hl, hr]
  simp [once, even]

/-- A piece has the pairs of its two ports. -/
theorem pairs_piece (once : s.iterated = false) (l r : PortRef) :
    (s.piece l r).pairs expand i = pairPorts expand i [l] [r] :=
  pairs_eq_pairPorts (List.cons_ne_nil _ _) once rfl

/-- Two sides have pairs if all pieces do, and then theirs. -/
theorem pairPorts_eq_ok_iff (once : s.iterated = false) {ls rs : List PortRef}
    {ps : List ChannelPair} : pairPorts expand 0 ls rs = .ok ps ↔
      (∀ t ∈ List.zipWith s.piece ls rs, t.HasPairs expand) ∧
        (List.zipWith s.piece ls rs).flatMap (·.channelPairs expand 0) = ps := by
  induction ls generalizing rs ps with
  | nil => simp [pairPorts, pure, Except.pure]
  | cons l ls ih =>
      cases rs with
      | nil => simp [pairPorts, pure, Except.pure]
      | cons r rs =>
          rw [pairPorts_cons, ← pairs_piece once, List.zipWith_cons_cons, List.forall_mem_cons,
            List.flatMap_cons]
          simp only [bind_eq_ok_iff, map_eq_ok_iff, pairs_eq_ok_iff_channelPairs, ih]
          constructor
          · rintro ⟨_, ⟨first, rfl⟩, _, ⟨others, rfl⟩, rfl⟩
            exact ⟨⟨first, others⟩, rfl⟩
          · rintro ⟨⟨first, others⟩, rfl⟩
            exact ⟨_, ⟨first, rfl⟩, _, ⟨others, rfl⟩, rfl⟩

/-! ## Statements that contribute the same -/

/-- Whether two lists of statements have pairs alike, and contribute the same. -/
structure SamePairs (expand : Expansion) (ss ts : List Statement) : Prop where
  /-- All of the first have pairs if all of the others do. -/
  hasPairs : (∀ s ∈ ss, s.HasPairs expand) ↔ ∀ t ∈ ts, t.HasPairs expand
  /-- Then they contribute the same. -/
  contributions : (∀ s ∈ ss, s.HasPairs expand) →
    (ss.flatMap fun s => s.contributions expand) = ts.flatMap fun t => t.contributions expand

/-- Statements contribute what they contribute. -/
theorem SamePairs.refl (expand : Expansion) (ss : List Statement) : SamePairs expand ss ss :=
  ⟨Iff.rfl, fun _ => rfl⟩

/-- The same is contributed in both directions. -/
theorem SamePairs.symm (same : SamePairs expand ss ts) : SamePairs expand ts ss :=
  ⟨same.hasPairs.symm, fun all => (same.contributions (same.hasPairs.mpr all)).symm⟩

/-- Lists that contribute the same do so one behind the other. -/
theorem SamePairs.append {ss' ts' : List Statement} (same : SamePairs expand ss ts)
    (same' : SamePairs expand ss' ts') : SamePairs expand (ss ++ ss') (ts ++ ts') := by
  constructor
  · rw [List.forall_mem_append, List.forall_mem_append, same.hasPairs, same'.hasPairs]
  · intro all
    obtain ⟨first, second⟩ := List.forall_mem_append.mp all
    rw [List.flatMap_append, List.flatMap_append, same.contributions first,
      same'.contributions second]

/-- A statement contributes what its pieces contribute. -/
theorem samePairs_pieces (left : s.left ≠ []) (once : s.iterated = false)
    (even : s.left.length = s.right.length) : SamePairs expand [s] s.pieces := by
  have pairs : ∀ {ps}, s.pairs expand 0 = .ok ps ↔ (∀ t ∈ s.pieces, t.HasPairs expand) ∧
      s.pieces.flatMap (·.channelPairs expand 0) = ps := by
    intro ps
    rw [pairs_eq_pairPorts left once even]
    exact pairPorts_eq_ok_iff once
  -- a piece contributes its pairs in the name of the whole
  have contributions : (s.pieces.flatMap fun t => t.contributions expand) =
      (s.pieces.flatMap (·.channelPairs expand 0)).map (⟨0, s.bare, ·⟩) := by
    rw [List.map_flatMap]
    apply List.flatMap_congr
    intro t ht
    obtain ⟨l, -, r, -, rfl⟩ := exists_of_mem_pieces ht
    rfl
  constructor
  · rw [List.forall_mem_singleton]
    unfold Statement.HasPairs
    simp only [pairs, exists_and_left, exists_eq', and_true]
    rfl
  · intro all
    obtain ⟨ps, hps⟩ := List.forall_mem_singleton.mp all
    rw [List.flatMap_singleton, contributions, (pairs.mp hps).2]
    unfold Statement.contributions
    rw [(pairs_eq_ok_iff_channelPairs.mp hps).2]

/-! ## Topologies -/

/-- Whether topologies differ in nothing but the numbers of statements. -/
structure Federation.SameButNumbers (f f' : Federation) : Prop where
  /-- The bundles are the same. -/
  bundles : f.bundles = f'.bundles
  /-- The federates are the same. -/
  federates : f.federates = f'.federates
  /-- The same is claimed. -/
  allocation : f.network.allocation = f'.network.allocation
  /-- The groups are the same, but for the numbers of the statements that they come from. -/
  groups : f.groups.map (·.unnumbered) = f'.groups.map (·.unnumbered)
  /-- The reports are the same. -/
  report : f.report = f'.report

/-- A report does not tell the numbers of statements. -/
theorem report_unnumbered (f : Federation) : (f.mapGroups Group.unnumbered).report = f.report := by
  apply report_mapGroups
  · intro g
    rfl
  · intro g
    rfl
  · intro g
    rfl

/-- Channels are laid alike for groups that differ in numbers of statements only. -/
theorem layBundles_of_unnumbered {gs hs : List Group}
    (same : gs.map (·.unnumbered) = hs.map (·.unnumbered)) (n : Network) :
    layBundles gs n = layBundles hs n := by
  have kept : ∀ {α : Type} (read : Group → α), (∀ g, read g.unnumbered = read g) →
      gs.map read = hs.map read := by
    intro α read unread
    have read_unnumbered : ∀ groups : List Group,
        groups.map read = (groups.map (·.unnumbered)).map read := by
      intro groups
      rw [List.map_map]
      exact List.map_congr_left fun g _ => (unread g).symm
    rw [read_unnumbered, same, ← read_unnumbered]
  have keys : gs.map (·.key) = hs.map (·.key) := kept _ fun _ => rfl
  have links : gs.map (·.link) = hs.map (·.link) := kept _ fun _ => rfl
  unfold layBundles
  rw [partition_congr keys]
  exact layParts_congr (fun part _ => partLink_congr links part) n

/-- If a program resolves, it does so with other statements that are sound and contribute the same,
and the topologies differ in the numbers of statements only. -/
theorem exists_resolve_withStatements (same : ∀ owners, SamePairs (p.expand owners) p.statements ss)
    (valid : (p.withStatements ss).validate = .ok ()) (h : Federation.resolve p = .ok f) :
    ∃ f', Federation.resolve (p.withStatements ss) = .ok f' ∧ f.SameButNumbers f' := by
  obtain ⟨-, n, enlisted, grouped, laid, named⟩ := resolve_eq_ok_iff.mp h
  have all := exists_groups_iff.mp ⟨_, grouped⟩
  obtain ⟨groups, grouped'⟩ : ∃ groups, groupConnections (p.withStatements ss)
      (Federation.owners n.federates) = .ok groups :=
    exists_groups_iff.mpr ((same _).hasPairs.mp all)
  have unnumbered : f.groups.map (·.unnumbered) = groups.map (·.unnumbered) := by
    rw [map_unnumbered_groups grouped, map_unnumbered_groups grouped', (same _).contributions all]
    rfl
  rw [layBundles_of_unnumbered unnumbered] at laid
  refine ⟨⟨f.name, f.network, groups, f.bundles⟩, ?_, rfl, rfl, rfl, unnumbered, ?_⟩
  · exact resolve_eq_ok_iff.mpr ⟨valid, n, enlisted, grouped', laid, named⟩
  · rw [← report_unnumbered f, ← report_unnumbered ⟨f.name, f.network, groups, f.bundles⟩]
    unfold Federation.mapGroups
    rw [unnumbered]

/-- With other sound statements that contribute the same, a program resolves if it does with its
own, and the topologies differ in the numbers of statements only. -/
theorem resolve_withStatements (same : ∀ owners, SamePairs (p.expand owners) p.statements ss)
    (valid : p.validate = .ok ()) (valid' : (p.withStatements ss).validate = .ok ()) :
    ((∃ f, Federation.resolve p = .ok f) ↔
      ∃ f', Federation.resolve (p.withStatements ss) = .ok f') ∧
    ∀ f f', Federation.resolve p = .ok f → Federation.resolve (p.withStatements ss) = .ok f' →
      f.SameButNumbers f' := by
  refine ⟨⟨?_, ?_⟩, ?_⟩
  · rintro ⟨f, h⟩
    obtain ⟨f', h', -⟩ := exists_resolve_withStatements same valid' h
    exact ⟨f', h'⟩
  · -- the statements of the program are put back in place of the others
    rintro ⟨f', h'⟩
    obtain ⟨f, h, -⟩ := exists_resolve_withStatements (p := p.withStatements ss)
      (fun owners => (same owners).symm) valid h'
    exact ⟨f, h⟩
  · intro f f' h h'
    obtain ⟨f'', h'', alike⟩ := exists_resolve_withStatements same valid' h
    obtain rfl : f' = f'' := Except.ok.inj (h'.symm.trans h'')
    exact alike

/-! ## Replacing a statement -/

/-- The pieces of a sound statement are sound. -/
theorem sound_of_mem_pieces (sound : s.Sound p) (h : t ∈ s.pieces) : t.Sound p := by
  obtain ⟨l, hl, r, hr, rfl⟩ := exists_of_mem_pieces h
  refine ⟨List.cons_ne_nil _ _, List.cons_ne_nil _ _, ?_, sound.serverPort⟩
  intro ref href
  apply sound.declared
  rcases List.mem_pair.mp href with rfl | rfl
  · exact List.mem_append_left _ hl
  · exact List.mem_append_right _ hr

/-- **A statement can be replaced by a statement for every two ports.** A program that passes its
checks resolves if it does with the pieces of a statement, that is not iterated and has as many
references on either side, in the place of the statement. Then the topologies differ in the numbers
of statements only. -/
theorem resolve_pieces (p : Program) (valid : p.validate = .ok ()) (before after : List Statement)
    (s : Statement) (stands : p.statements = before ++ s :: after) (once : s.iterated = false)
    (even : s.left.length = s.right.length) :
    ((∃ f, Federation.resolve p = .ok f) ↔
      ∃ f', Federation.resolve (p.withStatements (before ++ s.pieces ++ after)) = .ok f') ∧
    ∀ f f', Federation.resolve p = .ok f →
      Federation.resolve (p.withStatements (before ++ s.pieces ++ after)) = .ok f' →
        f.SameButNumbers f' := by
  have sound := (validate_eq_ok_iff.mp valid).statements
  rw [stands, List.forall_mem_append, List.forall_mem_cons] at sound
  obtain ⟨soundBefore, soundHere, soundAfter⟩ := sound
  refine resolve_withStatements (fun owners => ?_) valid (validate_withStatements valid ?_)
  · rw [stands, List.append_cons]
    exact ((SamePairs.refl _ before).append (samePairs_pieces soundHere.left once even)).append
      (SamePairs.refl _ after)
  · rw [List.forall_mem_append, List.forall_mem_append]
    exact ⟨⟨soundBefore, fun t ht => sound_of_mem_pieces soundHere ht⟩, soundAfter⟩

/-- A statement that sends to the members of a bank and hears from them. -/
def bothWays : Statement where
  left := [.ofInstance "a" "out", .ofInstance "b" "done"]
  right := [.ofInstance "b" "data", .ofInstance "a" "ack"]
  bufferSize := some 4
  link := some { serverSide := .right }

/-- The relay with that statement behind its first one. Those around it share keys with it. -/
def relayBothWays : Program :=
  relay.withStatements (relay.statements.take 1 ++ bothWays :: relay.statements.drop 1)

/-- In pieces, it hears from the bank in the third statement, and the topology is the same
otherwise. -/
theorem relayBothWays_pieces : relayBothWays.validate = .ok () ∧ ∃ f f',
    Federation.resolve relayBothWays = .ok f ∧
    Federation.resolve (relayBothWays.withStatements
      (relay.statements.take 1 ++ bothWays.pieces ++ relay.statements.drop 1)) = .ok f' ∧
    f.groups.map (·.statement) = [0, 0, 1, 1] ∧ f'.groups.map (·.statement) = [0, 0, 2, 2] ∧
    f.SameButNumbers f' := by
  have valid : relayBothWays.validate = .ok () := rfl
  obtain ⟨resolves, alike⟩ :=
    resolve_pieces relayBothWays valid (relay.statements.take 1) (relay.statements.drop 1) bothWays
      rfl rfl rfl
  have whole : (Federation.resolve relayBothWays).toOption.map (fun f => f.groups.map (·.statement)) =
      some [0, 0, 1, 1] := by decide +kernel
  have pieces : (Federation.resolve (relayBothWays.withStatements
      (relay.statements.take 1 ++ bothWays.pieces ++ relay.statements.drop 1))).toOption.map
        (fun f => f.groups.map (·.statement)) = some [0, 0, 2, 2] := by decide +kernel
  obtain ⟨f, hf, numbers⟩ := Option.map_eq_some_iff.mp whole
  have hf := eq_ok_of_toOption hf
  obtain ⟨f', hf'⟩ := resolves.mp ⟨f, hf⟩
  rw [hf'] at pieces
  exact ⟨valid, f, f', hf, hf', numbers, Option.some.inj pieces, alike f f' hf hf'⟩

end ReactorNet
