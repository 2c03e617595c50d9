import ReactorNet.Proofs.Partition
import ReactorNet.Proofs.Reporting

/-!
# `ReactorNet.Proofs.LinkInfluence` · which links have an influence

Two programs that differ in the links of statements only are told apart by nothing but the links
that count: for each ordered pair of federates, that of the first statement between them. Where
these are the same, `resolve_eq_of_links` says that both programs fail alike or have the same
bundles, federates, claims and reports.

Links are erased, and every stage but the last one works alike without them (`enlist`,
`groupConnections_unlinked`, `partition_unlinked`). The last one lays channels and reads of the
groups only the link of each part (`layParts_congr`), which is that of the first statement between
the two federates. Groups keep the links they were given, but a report does not show them
(`report_unlinked`).
-/

namespace ReactorNet

variable {p p' : Program} {owners : Owners} {groups groups' : List Group} {g : Group} {part : Part}
  {parts : List Part} {expand : Expansion} {i k : Nat} {f f' : Federation} {federates : Nat × Nat}

/-! ## Erasing links -/

/-- A statement without its link. -/
def Statement.unlinked (s : Statement) : Statement := { s with link := none }

/-- A program without its links. -/
def Program.unlinked (p : Program) : Program :=
  { p with statements := p.statements.map (·.unlinked) }

/-- The link of the statement with the given number. -/
def Program.link? (p : Program) (i : Nat) : Option Link := p.statements[i]?.bind (·.link)

/-- A group without its link. -/
def Group.unlinked (g : Group) : Group := { g with link := none }

/-- A topology whose groups have no links. -/
def Federation.unlinked (f : Federation) : Federation :=
  { f with groups := f.groups.map (·.unlinked) }

/-- A contribution without the link of its statement. -/
def Contribution.unlinked (c : Contribution) : Contribution :=
  { c with statement := c.statement.unlinked }

/-- Contributions without links are gathered into groups without links. -/
theorem carries_unlinked : grouping.Carries Contribution.unlinked Group.unlinked where
  keyOf _ := rfl
  rowKey _ := rfl
  opens _ _ := rfl
  add _ _ := rfl

/-- The pairs of a statement are entered into groups whatever their links are. -/
theorem enterPairs_unlinked (s : Statement) (gs : List Group) (ps : List ChannelPair) :
    enterPairs i s.unlinked (gs.map (·.unlinked)) ps =
      (enterPairs i s gs ps).map (·.unlinked) := by
  rw [enterPairs_eq_gather, enterPairs_eq_gather, ← carries_unlinked.gather, List.map_map]
  rfl

/-- Statements are entered into groups whatever their links are. -/
theorem enterStatements_unlinked (ss : List Statement) (gs : List Group) :
    enterStatements expand i (ss.map (·.unlinked)) (gs.map (·.unlinked)) =
      (enterStatements expand i ss gs).map (List.map (·.unlinked)) := by
  induction ss generalizing i gs with
  | nil => rfl
  | cons s ss ih =>
      have pairs : s.unlinked.pairs expand i = s.pairs expand i := rfl
      rw [List.map_cons, enterStatements, enterStatements, pairs]
      cases s.pairs expand i with
      | error fault => rfl
      | ok ps =>
          change enterStatements expand (i + 1) _ (enterPairs i s.unlinked _ ps) = _
          rw [enterPairs_unlinked, ih]
          rfl

/-- The groups of a program without links are those of the program, without links. -/
theorem groupConnections_unlinked (p : Program) (owners : Owners) :
    groupConnections p.unlinked owners =
      (groupConnections p owners).map (List.map (·.unlinked)) :=
  enterStatements_unlinked p.statements []

/-- Two programs that differ in links only both have groups that differ in links only, or neither
has any, for the same reason. -/
theorem groupConnections_cases (same : p.unlinked = p'.unlinked) (owners : Owners) :
    (∃ fault, groupConnections p owners = .error fault ∧
      groupConnections p' owners = .error fault) ∨
    ∃ groups groups', groupConnections p owners = .ok groups ∧
      groupConnections p' owners = .ok groups' ∧
      groups.map (·.unlinked) = groups'.map (·.unlinked) := by
  have both := groupConnections_unlinked p owners
  rw [same, groupConnections_unlinked] at both
  cases grouped : groupConnections p owners with
  | error fault =>
      cases grouped' : groupConnections p' owners with
      | error fault' =>
          rw [grouped, grouped'] at both
          cases both
          exact Or.inl ⟨fault, rfl, rfl⟩
      | ok groups' =>
          rw [grouped, grouped'] at both
          cases both
  | ok groups =>
      cases grouped' : groupConnections p' owners with
      | error fault' =>
          rw [grouped, grouped'] at both
          cases both
      | ok groups' =>
          rw [grouped, grouped'] at both
          exact Or.inr ⟨groups, groups', rfl, rfl, (Except.ok.inj both).symm⟩

/-- Groups cross between the same federates without links. -/
theorem partition_unlinked (groups : List Group) :
    partition (groups.map (·.unlinked)) = partition groups :=
  partition_congr (List.map_map.trans rfl)

/-- A statement connects federates whatever its link is. -/
theorem connects_unlinked :
    p.unlinked.Connects owners federates i ↔ p.Connects owners federates i := by
  unfold Program.Connects
  constructor
  · rintro ⟨s, hs, q, hq, crosses⟩
    obtain ⟨t, ht, rfl⟩ := Option.map_eq_some_iff.mp ((List.getElem?_map).symm.trans hs)
    exact ⟨t, ht, q, hq, crosses⟩
  · rintro ⟨s, hs, q, hq, crosses⟩
    refine ⟨s.unlinked, ?_, q, hq, crosses⟩
    exact (List.getElem?_map).trans (congrArg (Option.map (·.unlinked)) hs)

/-! ## Reports -/

/-- A report shows no links of groups. -/
theorem report_unlinked (f : Federation) : f.unlinked.report = f.report := by
  show (f.mapGroups Group.unlinked).report = f.report
  apply report_mapGroups
  · intro g
    rfl
  · intro g
    rfl
  · intro g
    rfl

/-! ## Topologies -/

/-- Two programs with the same groups up to links, and the same links that count, lay the same
channels. -/
theorem layBundles_eq_of_links (same : p.unlinked = p'.unlinked)
    (grouped : groupConnections p owners = .ok groups)
    (grouped' : groupConnections p' owners = .ok groups')
    (unlinked : groups.map (·.unlinked) = groups'.map (·.unlinked))
    (agree : ∀ federates i, IsLeast {i | p.Connects owners federates i} i →
      p.link? i = p'.link? i) (n : Network) :
    layBundles groups n = layBundles groups' n := by
  have parts : partition groups = partition groups' := by
    rw [← partition_unlinked groups, unlinked, partition_unlinked]
  have connects : ∀ federates i,
      p.Connects owners federates i ↔ p'.Connects owners federates i := by
    intro federates i
    rw [← connects_unlinked, same, connects_unlinked]
  unfold layBundles
  rw [← parts]
  refine layParts_congr (fun part hpart => ?_) n
  -- the link of a part is that of the first statement between its federates, in either program
  obtain ⟨i, s, least, hs, hlink⟩ := partLink_eq grouped hpart
  obtain ⟨j, t, least', ht, hlink'⟩ := partLink_eq grouped' (parts ▸ hpart)
  simp only [← connects] at least'
  obtain rfl := least.unique least'
  have links := agree part.1 i least
  rw [Program.link?, Program.link?, hs, ht] at links
  rw [hlink, hlink']
  exact links

/-- **Only the links that count have an influence.** Two programs that pass their checks and differ
in links only, and whose first statements between any two federates have the same links, both fail
for the same reason or both resolve to the same bundles, federates, claims and reports. -/
theorem resolve_eq_of_links (p p' : Program) (valid : p.validate = .ok ())
    (valid' : p'.validate = .ok ()) (same : p.unlinked = p'.unlinked)
    (agree : ∀ federates i, IsLeast {i | p.Connects p.owners federates i} i →
      p.link? i = p'.link? i) :
    (∃ fault, Federation.resolve p = .error fault ∧ Federation.resolve p' = .error fault) ∨
    ∃ f f', Federation.resolve p = .ok f ∧ Federation.resolve p' = .ok f' ∧
      f.bundles = f'.bundles ∧ f.federates = f'.federates ∧
      f.network.allocation = f'.network.allocation ∧ f.report = f'.report := by
  -- what does not look at links is the same for both programs
  have name : p.unlinked.name = p'.unlinked.name := congrArg Program.name same
  have owners : p.unlinked.owners = p'.unlinked.owners := congrArg Program.owners same
  have enlist : Federation.enlist p.unlinked = Federation.enlist p'.unlinked :=
    congrArg Federation.enlist same
  change p.name = p'.name at name
  change p.owners = p'.owners at owners
  change Federation.enlist p = Federation.enlist p' at enlist
  cases enlisted : Federation.enlist p with
  | error fault =>
      rw [resolve_of_enlist_error valid enlisted, resolve_of_enlist_error valid' (enlist ▸ enlisted)]
      exact Or.inl ⟨fault, rfl, rfl⟩
  | ok n =>
      rw [resolve_of_enlist valid enlisted, resolve_of_enlist valid' (enlist ▸ enlisted), ← owners]
      rcases groupConnections_cases same p.owners with ⟨fault, grouped, grouped'⟩ |
        ⟨groups, groups', grouped, grouped', unlinked⟩
      · rw [grouped, grouped']
        exact Or.inl ⟨fault, rfl, rfl⟩
      · rw [grouped, grouped']
        simp only [layBundles_eq_of_links same grouped grouped' unlinked agree n]
        rcases layBundles groups' n with ⟨fault | bundles, m⟩
        · exact Or.inl ⟨fault, rfl, rfl⟩
        · refine Or.inr ⟨_, _, rfl, rfl, rfl, rfl, rfl, ?_⟩
          rw [← report_unlinked, ← report_unlinked ⟨p'.name, m, groups', bundles⟩]
          unfold Federation.unlinked
          rw [name, unlinked]

/-- The relay, whose third statement asks for a port that no channel may have. -/
def relayRelinked : Program :=
  { relay with statements :=
      relay.statements.modify 2 fun s => { s with link := some { serverPort := some 65535 } } }

/-- The first statement of the relay connects the same federates before it does, so nobody
notices. -/
theorem relay_eq_of_links :
    ∃ f f', Federation.resolve relay = .ok f ∧ Federation.resolve relayRelinked = .ok f' ∧
      f.bundles = f'.bundles ∧ f.federates = f'.federates ∧
      f.network.allocation = f'.network.allocation ∧ f.report = f'.report := by
  have agree : ∀ federates i, IsLeast {i | relay.Connects relay.owners federates i} i →
      relay.link? i = relayRelinked.link? i := by
    rintro federates i ⟨connects, least⟩
    match i with
    | 0 => rfl
    | 1 => rfl
    | 2 =>
        have pairs : relay.statements[2]?.map (·.channelPairs (relay.expand relay.owners) 2) =
            relay.statements[0]?.map (·.channelPairs (relay.expand relay.owners) 0) := by
          decide +kernel
        obtain ⟨s, hs, q, hq, crosses⟩ := connects
        cases hs
        have same := congrArg (q ∈ ·) (Option.some.inj pairs)
        have earlier : relay.Connects relay.owners federates 0 :=
          ⟨_, rfl, q, same.mp hq, crosses⟩
        exact absurd (least earlier) (by decide)
    | i + 3 => rfl
  have resolves : (Federation.resolve relay).toOption.isSome = true := by decide +kernel
  rcases resolve_eq_of_links relay relayRelinked rfl rfl rfl agree with ⟨fault, refused, -⟩ | alike
  · rw [refused] at resolves
    cases resolves
  · exact alike

end ReactorNet
