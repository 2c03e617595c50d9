import ReactorNet.Proofs.Grouping

/-!
# `ReactorNet.Proofs.Renumbering` · what the numbers of statements decide

Statements are numbered by their positions, so a program whose statements are moved or replaced
numbers them anew. `toOption_pairs` says that the number of a statement decides nothing about its
pairs: where there are none, the fault tells it, and that is all. So whether a program has groups
can be asked of its statements one by one (`exists_groups_iff`). Its groups, up to the number of the
first statement of each, are gathered from what its statements contribute, whatever their numbers
are (`map_unnumbered_groups`).
-/

namespace ReactorNet

variable {p : Program} {owners : Owners} {expand : Expansion} {i : Nat} {s : Statement}
  {ps : List ChannelPair} {side : List PortRef} {gs : List Group}

/-! ## The pairs of a statement -/

/-- Ports are paired alike under every number. -/
theorem toOption_pairPorts (i j : Nat) (ls rs : List PortRef) :
    (pairPorts expand i ls rs).toOption = (pairPorts expand j ls rs).toOption := by
  induction ls generalizing rs with
  | nil => rfl
  | cons l ls ih =>
      cases rs with
      | nil => rfl
      | cons r rs =>
          rw [pairPorts, pairPorts]
          simp only [toOption_bind]
          congr 1
          funext left
          congr 1
          funext right
          split
          · rfl
          · simp only [toOption_bind, ih]

/-- The next channel of a replay is the same under every number. -/
theorem toOption_next (i j attempts : Nat) (replay : Replay) :
    (replay.next expand i side attempts).toOption = (replay.next expand j side attempts).toOption := by
  induction attempts generalizing replay with
  | zero =>
      obtain ⟨position, port, cs⟩ := replay
      cases cs with
      | nil => rfl
      | cons c cs => rfl
  | succ attempts ih =>
      obtain ⟨position, port, cs⟩ := replay
      cases cs with
      | cons c cs => rfl
      | nil =>
          rw [Replay.next, Replay.next]
          cases side[(position + 1) % side.length]? with
          | none => rfl
          | some r => simp only [toOption_bind, ih]

/-- The channels of a port are served alike under every number. -/
theorem toOption_serve (i j : Nat) (port : PortKey) (ds : List PortChannel) (replay : Replay) :
    (replay.serve expand i side port ds).toOption = (replay.serve expand j side port ds).toOption := by
  induction ds generalizing replay with
  | nil => rfl
  | cons d ds ih =>
      rw [Replay.serve, Replay.serve]
      simp only [toOption_bind, toOption_next i j, ih]

/-- Ports are served alike under every number. -/
theorem toOption_serveAll (i j : Nat) (rs : List PortRef) (replay : Replay) :
    (replay.serveAll expand i side rs).toOption = (replay.serveAll expand j side rs).toOption := by
  induction rs generalizing replay with
  | nil => rfl
  | cons r rs ih =>
      rw [Replay.serveAll, Replay.serveAll]
      simp only [toOption_bind, toOption_serve i j, ih]

/-- A statement has the same pairs, or none, under every number. -/
theorem toOption_pairs (i j : Nat) (s : Statement) :
    (s.pairs expand i).toOption = (s.pairs expand j).toOption := by
  unfold Statement.pairs
  split
  · rfl
  · rfl
  · split
    · simp only [toOption_bind, toOption_serveAll i j]
    · split
      · rfl
      · exact toOption_pairPorts i j _ _

/-- Whether a statement has pairs, under whatever number. -/
def Statement.HasPairs (expand : Expansion) (s : Statement) : Prop := ∃ ps, s.pairs expand 0 = .ok ps

/-- A statement has pairs if it has any, and then these. -/
theorem pairs_eq_ok_iff_channelPairs :
    s.pairs expand 0 = .ok ps ↔ s.HasPairs expand ∧ s.channelPairs expand 0 = ps := by
  unfold Statement.HasPairs Statement.channelPairs
  cases s.pairs expand 0 with
  | error fault => simp
  | ok qs => simp

/-- The pairs of a statement can be asked for under the number 0. -/
theorem pairs_eq_ok_iff : s.pairs expand i = .ok ps ↔ s.pairs expand 0 = .ok ps := by
  have same : (s.pairs expand i).toOption = (s.pairs expand 0).toOption := toOption_pairs i 0 s
  constructor
  · intro h
    rw [h] at same
    exact eq_ok_of_toOption same.symm
  · intro h
    rw [h] at same
    exact eq_ok_of_toOption same

/-- So can the list of its pairs. -/
theorem channelPairs_eq (i : Nat) (s : Statement) :
    s.channelPairs expand i = s.channelPairs expand 0 := by
  have get : ∀ j, s.channelPairs expand j = (s.pairs expand j).toOption.getD [] := by
    intro j
    unfold Statement.channelPairs
    cases s.pairs expand j with
    | error fault => rfl
    | ok ps => rfl
  rw [get, get, toOption_pairs i 0]

/-! ## Programs -/

/-- A program has groups if each of its statements has pairs. -/
theorem exists_groups_iff : (∃ gs, groupConnections p owners = .ok gs) ↔
    ∀ s ∈ p.statements, s.HasPairs (p.expand owners) := by
  simp only [groupConnections_eq_ok_iff, exists_and_left, exists_eq, and_true]
  constructor
  · intro expands s hs
    obtain ⟨i, hi⟩ := List.mem_iff_getElem?.mp hs
    obtain ⟨ps, hps⟩ := expands i s hi
    exact ⟨ps, pairs_eq_ok_iff.mp hps⟩
  · intro expands i s hi
    obtain ⟨ps, hps⟩ := expands s (List.mem_of_getElem? hi)
    exact ⟨ps, pairs_eq_ok_iff.mpr hps⟩

/-! ## Groups without numbers -/

/-- A statement without its sides: what it says of each of its pairs. -/
def Statement.bare (s : Statement) : Statement := { s with left := [], right := [], iterated := false }

/-- A contribution without the number and the sides of its statement. -/
def Contribution.bare (c : Contribution) : Contribution := ⟨0, c.statement.bare, c.pair⟩

/-- A group without the number of its first statement. -/
def Group.unnumbered (g : Group) : Group := { g with statement := 0 }

/-- Contributions without numbers are gathered into groups without numbers. -/
theorem carries_bare : grouping.Carries Contribution.bare Group.unnumbered where
  keyOf _ := rfl
  rowKey _ := rfl
  opens _ _ := rfl
  add _ _ := rfl

/-- What a statement contributes under every number. -/
def Statement.contributions (expand : Expansion) (s : Statement) : List Contribution :=
  (s.channelPairs expand 0).map (⟨0, s.bare, ·⟩)

/-- Without numbers, the contributions of statements are those of each of them. -/
theorem map_bare_contributionsFrom (i : Nat) (ss : List Statement) :
    (contributionsFrom expand i ss).map (·.bare) = ss.flatMap fun s => s.contributions expand := by
  induction ss generalizing i with
  | nil => rfl
  | cons s ss ih =>
      rw [contributionsFrom, List.map_append, List.map_map, ih, List.flatMap_cons, channelPairs_eq]
      rfl

/-- The groups of a program without numbers are gathered from what its statements contribute. -/
theorem map_unnumbered_groups (h : groupConnections p owners = .ok gs) :
    gs.map (·.unnumbered) =
      grouping.gather (p.statements.flatMap fun s => s.contributions (p.expand owners)) [] := by
  obtain ⟨-, rfl⟩ := groupConnections_eq_ok_iff.mp h
  rw [← map_bare_contributionsFrom 0]
  exact (carries_bare.gather _ []).symm

end ReactorNet
