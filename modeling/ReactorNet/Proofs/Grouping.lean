import Mathlib.Order.Bounds.Basic
import ReactorNet.Connection.Group
import ReactorNet.Proofs.Gathering
import ReactorNet.Proofs.Interfaces

/-!
# `ReactorNet.Proofs.Grouping` · the groups of a program

A pair of channels, together with the statement that it comes from, is a contribution;
`Program.contributions` lists those of a program in the order of the statements. The groups of a
program are its contributions, gathered by their keys (`enterStatements_eq_ok_iff`), and
`groupConnections_grouped` says what that means for every field of a group.

**Fields.** Five things of a pair and its statement make up the key (`Contribution.key_eq_iff`). The
first contribution to a group decides its number, its statement and its link; every contribution adds
its pair; the one that asks for most decides how many pending events it buffers.
-/

namespace ReactorNet

/-! ## Contributions -/

/-- The pairs of a statement; none if its sides do not fit. -/
def Statement.channelPairs (expand : Expansion) (number : Nat) (s : Statement) : List ChannelPair :=
  match s.pairs expand number with
  | .ok ps => ps
  | .error _ => []

/-- A pair of channels and the statement that it comes from. -/
structure Contribution where
  /-- The number of the statement. -/
  number : Nat
  /-- The statement. -/
  statement : Statement
  /-- The pair. -/
  pair : ChannelPair

/-- The key of a contribution. -/
def Contribution.key (c : Contribution) : GroupKey := c.pair.groupKey c.statement

/-- The key of a contribution is made of the port that the data leave, the delay and the physical
flag of the statement, the federate that the data leave, and the one that they enter if it is
another one. -/
theorem Contribution.key_eq_iff {c : Contribution} {k : GroupKey} :
    c.key = k ↔ k.sourcePort = c.pair.sourcePort ∧ k.delayNs = c.statement.delayNs ∧
      k.physical = c.statement.physical ∧ k.sourceFederate = c.pair.source.federate ∧
      k.destinationFederate =
        if c.pair.isFederated then c.pair.destination.federate else none := by
  constructor
  · rintro rfl
    exact ⟨rfl, rfl, rfl, rfl, rfl⟩
  · obtain ⟨port, delay, physical, source, destination⟩ := k
    rintro ⟨rfl, rfl, rfl, rfl, rfl⟩
    rfl

/-- The contributions of statements, the first of which has the given number. -/
def contributionsFrom (expand : Expansion) : (number : Nat) → List Statement → List Contribution
  | _, [] => []
  | i, s :: ss =>
    (s.channelPairs expand i).map (⟨i, s, ·⟩) ++ contributionsFrom expand (i + 1) ss

/-- The contributions of a program. -/
def Program.contributions (p : Program) (owners : Owners) : List Contribution :=
  contributionsFrom (p.expand owners) 0 p.statements

variable {expand : Expansion} {ss : List Statement} {cs : List Contribution} {c : Contribution}
  {gs hs : List Group} {g : Group} {i n : Nat}

/-- The contributions of a statement are its pairs. -/
theorem mem_contributionsFrom :
    c ∈ contributionsFrom expand i ss ↔
      ∃ k, ss[k]? = some c.statement ∧ c.number = i + k ∧
        c.pair ∈ c.statement.channelPairs expand c.number := by
  induction ss generalizing i with
  | nil => simp [contributionsFrom]
  | cons s ss ih =>
      rw [contributionsFrom, List.mem_append, List.mem_map, ih]
      constructor
      · rintro (⟨q, hq, rfl⟩ | ⟨k, hk, hn, hq⟩)
        · exact ⟨0, rfl, rfl, hq⟩
        · exact ⟨k + 1, hk, by omega, hq⟩
      · rintro ⟨k, hk, hn, hq⟩
        cases k with
        | zero =>
            obtain rfl : s = c.statement := by simpa using hk
            obtain rfl : c.number = i := hn
            exact Or.inl ⟨c.pair, hq, rfl⟩
        | succ k => exact Or.inr ⟨k, by simpa using hk, by omega, hq⟩

/-- The contributions stand in the order of their statements. -/
theorem pairwise_contributionsFrom :
    (contributionsFrom expand i ss).Pairwise fun c d => c.number ≤ d.number := by
  induction ss generalizing i with
  | nil => exact List.Pairwise.nil
  | cons s ss ih =>
      rw [contributionsFrom, List.pairwise_append]
      refine ⟨?_, ih, ?_⟩
      · rw [List.pairwise_map]
        exact List.pairwise_of_forall fun _ _ => le_rfl
      · intro c hc d hd
        obtain ⟨q, -, rfl⟩ := List.mem_map.mp hc
        obtain ⟨k, -, hn, -⟩ := mem_contributionsFrom.mp hd
        simp only
        omega

/-! ## Gathering -/

/-- Contributions are gathered into groups. -/
def grouping : Gathering Contribution Group GroupKey where
  keyOf := Contribution.key
  rowKey := Group.key
  opens uid c := .ofPair uid c.number c.statement c.pair
  add c g := g.add c.statement c.pair
  rowKey_opens _ _ := rfl
  rowKey_add _ _ := rfl

/-- The contributions to a group. -/
def Group.contributions (g : Group) (cs : List Contribution) : List Contribution :=
  cs.filter fun c => c.key = g.key

/-- Entering a pair gathers its contribution. -/
theorem enterPair_eq_enter (c : Contribution) (n : Nat) (gs : List Group) :
    enterPair c.number c.statement c.pair n gs = grouping.enter c n gs := by
  induction gs generalizing n with
  | nil => rfl
  | cons g gs ih =>
      rw [enterPair, Gathering.enter, ih]
      rfl

/-- Entering the pairs of a statement gathers its contributions. -/
theorem enterPairs_eq_gather (i : Nat) (s : Statement) (ps : List ChannelPair) (gs : List Group) :
    enterPairs i s gs ps = grouping.gather (ps.map (⟨i, s, ·⟩)) gs := by
  rw [enterPairs, Gathering.gather, List.foldl_map]
  congr 1
  funext gs q
  exact enterPair_eq_enter ⟨i, s, q⟩ 0 gs

/-- Entering statements succeeds if every one of them expands, and gathers their contributions. -/
theorem enterStatements_eq_ok_iff :
    enterStatements expand i ss gs = .ok hs ↔
      (∀ (k : Nat) (s : Statement), ss[k]? = some s → ∃ ps, s.pairs expand (i + k) = .ok ps) ∧
        hs = grouping.gather (contributionsFrom expand i ss) gs := by
  induction ss generalizing i gs with
  | nil =>
      simp [enterStatements, contributionsFrom, Gathering.gather, eq_comm]
  | cons s ss ih =>
      rw [enterStatements, contributionsFrom, Gathering.gather_append]
      cases hs : s.pairs expand i with
      | error fault =>
          constructor
          · intro h
            cases h
          · rintro ⟨expands, -⟩
            obtain ⟨ps, hps⟩ := expands 0 s rfl
            rw [Nat.add_zero, hs] at hps
            cases hps
      | ok ps =>
          have pairs : s.channelPairs expand i = ps := by rw [Statement.channelPairs, hs]
          change enterStatements expand (i + 1) ss (enterPairs i s gs ps) = _ ↔ _
          rw [ih, enterPairs_eq_gather, pairs]
          refine and_congr_left fun _ => ?_
          constructor
          · intro expands k t hk
            cases k with
            | zero =>
                obtain rfl : s = t := by simpa using hk
                exact ⟨ps, hs⟩
            | succ k =>
                have := expands k t (by simpa using hk)
                rwa [show i + 1 + k = i + (k + 1) by omega] at this
          · intro expands k t hk
            have := expands (k + 1) t (by simpa using hk)
            rwa [show i + (k + 1) = i + 1 + k by omega] at this

/-- Entering statements fails with the fault of the first of them that does not expand. -/
theorem enterStatements_eq_error_iff {fault : ResolutionFault} :
    enterStatements expand i ss gs = .error fault ↔
      ∃ (k : Nat) (s : Statement), ss[k]? = some s ∧ s.pairs expand (i + k) = .error fault ∧
        ∀ (j : Nat) (t : Statement), j < k → ss[j]? = some t →
          ∃ ps, t.pairs expand (i + j) = .ok ps := by
  induction ss generalizing i gs with
  | nil => simp [enterStatements]
  | cons s ss ih =>
      rw [enterStatements, bind_eq_error_iff]
      constructor
      · rintro (failed | ⟨ps, expanded, h⟩)
        · exact ⟨0, s, rfl, failed, fun j t hj => absurd hj (Nat.not_lt_zero j)⟩
        · obtain ⟨k, t, ht, failed, before⟩ := ih.mp h
          refine ⟨k + 1, t, ht, by rwa [show i + (k + 1) = i + 1 + k by omega], ?_⟩
          intro j u hj hu
          cases j with
          | zero =>
              obtain rfl : s = u := by simpa using hu
              exact ⟨ps, expanded⟩
          | succ j =>
              rw [show i + (j + 1) = i + 1 + j by omega]
              exact before j u (Nat.lt_of_succ_lt_succ hj) hu
      · rintro ⟨k, t, ht, failed, before⟩
        cases k with
        | zero =>
            obtain rfl : s = t := by simpa using ht
            exact Or.inl failed
        | succ k =>
            obtain ⟨ps, expanded⟩ := before 0 s k.succ_pos rfl
            refine Or.inr ⟨ps, expanded, ih.mpr ⟨k, t, ht, ?_, ?_⟩⟩
            · rwa [show i + 1 + k = i + (k + 1) by omega]
            · intro j u hj hu
              have := before (j + 1) u (Nat.succ_lt_succ hj) hu
              rwa [show i + (j + 1) = i + 1 + j by omega] at this

/-! ## The fields of a group -/

/-- The pending events that a statement asks for: its buffer size if that is positive, else one. -/
def Statement.requestedEvents (s : Statement) : Nat := (s.bufferSize.filter (0 < ·)).getD 1

/-- A statement buffers as many pending events as it asks for. -/
theorem pendingEvents_eq_requestedEvents (s : Statement) :
    s.pendingEvents = s.requestedEvents := by
  unfold Statement.pendingEvents Statement.requestedEvents
  cases s.bufferSize with
  | none => rfl
  | some n =>
      by_cases h : 0 < n
      · simp only [Option.filter, decide_eq_true h, if_true, Option.getD_some]
        omega
      · obtain rfl : n = 0 := by omega
        rfl

/-- A row of the gathering, field by field. -/
theorem grouping_row (uid : Nat) (c : Contribution) (ds : List Contribution) :
    grouping.row uid c ds =
      { uid := uid, key := c.key, pairs := (c :: ds).map (·.pair),
        maxPending := ds.foldl (fun n d => max n d.statement.pendingEvents) c.statement.pendingEvents,
        statement := c.number, link := c.statement.link } := by
  induction ds using List.reverseRecOn with
  | nil => rfl
  | append_singleton ds d ih =>
      rw [Gathering.row] at ih
      rw [Gathering.row, List.foldl_append, ih]
      simp [grouping, Group.add]

/-- The groups `gs` are what the contributions `cs` make up. -/
structure Grouped (cs : List Contribution) (gs : List Group) : Prop where
  /-- There is one group for each key, in the order in which the keys first occur. -/
  keys : gs.map (·.key) = (cs.map (·.key)).eraseDups
  /-- Groups are numbered by their position. -/
  uid : ∀ (i : Nat) (g : Group), gs[i]? = some g → g.uid = i
  /-- The pairs of a group are those with its key, in their order. -/
  pairs : ∀ g ∈ gs, g.pairs = (g.contributions cs).map (·.pair)
  /-- No group is empty. -/
  nonempty : ∀ g ∈ gs, g.pairs ≠ []
  /-- The first statement that contributes gives the group its number and link. -/
  first : ∀ g ∈ gs, ∃ c ∈ g.contributions cs,
    (∀ d ∈ g.contributions cs, c.number ≤ d.number) ∧
      g.statement = c.number ∧ g.link = c.statement.link
  /-- The group buffers as many pending events as any of the contributing statements asks for. -/
  maxPending : ∀ g ∈ gs,
    IsGreatest {n | ∃ c ∈ g.contributions cs, n = c.statement.requestedEvents} g.maxPending

/-- The greatest request of contributions that follow a first one. -/
theorem isGreatest_foldl_max (c : Contribution) (ds : List Contribution) :
    IsGreatest {n | ∃ d ∈ c :: ds, n = d.statement.requestedEvents}
      (ds.foldl (fun n d => max n d.statement.pendingEvents) c.statement.pendingEvents) := by
  induction ds using List.reverseRecOn with
  | nil => simp [pendingEvents_eq_requestedEvents]
  | append_singleton ds d ih =>
      rw [List.foldl_append, List.foldl_cons, List.foldl_nil,
        pendingEvents_eq_requestedEvents d.statement]
      obtain ⟨⟨e, he, hmax⟩, upper⟩ := ih
      constructor
      · rcases Nat.le_total (ds.foldl (fun n d => max n d.statement.pendingEvents)
          c.statement.pendingEvents) d.statement.requestedEvents with h | h
        · exact ⟨d, by simp, Nat.max_eq_right h⟩
        · refine ⟨e, ?_, (Nat.max_eq_left h).trans hmax⟩
          rw [← List.cons_append]
          exact List.mem_append_left _ he
      · rintro n ⟨e, he, rfl⟩
        rw [← List.cons_append, List.mem_append, List.mem_singleton] at he
        rcases he with he | rfl
        · exact Nat.le_trans (upper ⟨e, he, rfl⟩) (Nat.le_max_left _ _)
        · exact Nat.le_max_right _ _

/-- Gathering contributions that stand in the order of their statements makes groups. -/
theorem Grouped.ofGathered (h : grouping.Gathered cs gs)
    (sorted : cs.Pairwise fun c d => c.number ≤ d.number) : Grouped cs gs := by
  -- a group in terms of the first contribution to it and the others
  have made : ∀ g ∈ gs, ∃ i c ds, gs[i]? = some g ∧ g.contributions cs = c :: ds ∧
      g = grouping.row i c ds := by
    intro g hg
    obtain ⟨i, hi⟩ := List.mem_iff_getElem?.mp hg
    obtain ⟨c, ds, share, hrow⟩ := h.row i g hi
    exact ⟨i, c, ds, hi, share, hrow⟩
  refine ⟨h.keys, ?_, ?_, ?_, ?_, ?_⟩
  · intro i g hi
    obtain ⟨c, ds, -, hrow⟩ := h.row i g hi
    rw [hrow, grouping_row]
  · intro g hg
    obtain ⟨i, c, ds, -, share, hrow⟩ := made g hg
    rw [share, hrow, grouping_row]
  · intro g hg
    obtain ⟨i, c, ds, -, -, hrow⟩ := made g hg
    rw [hrow, grouping_row]
    simp
  · intro g hg
    obtain ⟨i, c, ds, -, share, hrow⟩ := made g hg
    have order : (c :: ds).Pairwise fun c d => c.number ≤ d.number :=
      share ▸ sorted.sublist List.filter_sublist
    rw [share]
    refine ⟨c, List.mem_cons_self, ?_, by rw [hrow, grouping_row], by rw [hrow, grouping_row]⟩
    intro d hd
    rcases List.mem_cons.mp hd with rfl | hd
    · exact le_rfl
    · exact (List.pairwise_cons.mp order).1 d hd
  · intro g hg
    obtain ⟨i, c, ds, -, share, hrow⟩ := made g hg
    rw [share, hrow, grouping_row]
    exact isGreatest_foldl_max c ds

/-- The groups of a program are formed if its statements expand, by gathering. -/
theorem groupConnections_eq_ok_iff {p : Program} {owners : Owners} :
    groupConnections p owners = .ok gs ↔
      (∀ (i : Nat) (s : Statement), p.statements[i]? = some s →
        ∃ ps, s.pairs (p.expand owners) i = .ok ps) ∧
      gs = grouping.gather (p.contributions owners) [] := by
  rw [groupConnections, enterStatements_eq_ok_iff]
  simp only [Nat.zero_add]
  rfl

/-- The groups of a program are what its contributions make up. -/
theorem grouped_of_groupConnections {p : Program} {owners : Owners}
    (h : groupConnections p owners = .ok gs) : Grouped (p.contributions owners) gs := by
  obtain ⟨-, rfl⟩ := groupConnections_eq_ok_iff.mp h
  exact Grouped.ofGathered (Gathering.gathered_gather _) pairwise_contributionsFrom

/-- A program whose statements all expand has the groups that its contributions make up: one for
each key in the order of first occurrence, with the pairs of that key, the number and link of the
first statement that contributes, and the greatest buffer that any of them asks for. -/
theorem groupConnections_grouped (p : Program) (owners : Owners)
    (expands : ∀ (i : Nat) (s : Statement), p.statements[i]? = some s →
      ∃ ps, s.pairs (p.expand owners) i = .ok ps) :
    ∃ gs, groupConnections p owners = .ok gs ∧ Grouped (p.contributions owners) gs := by
  refine ⟨_, groupConnections_eq_ok_iff.mpr ⟨expands, rfl⟩, ?_⟩
  exact Grouped.ofGathered (Gathering.gathered_gather _) pairwise_contributionsFrom

/-! ## An example

Two statements with one key contribute to the same groups, with a statement in the other direction
between them. -/

/-- A federate that sends to the members of a bank, twice, and hears from each of them. -/
def relay : Program where
  name := "relay"
  federated := true
  instances := [
    { name := "a"
      ports := [{ name := "out", width := 2 }, { name := "ack", width := 2 }]
      interfaces := [⟨none, .tcp (some "10.0.0.1")⟩, ⟨some "line", .uart none {}⟩] },
    { name := "b"
      bankWidth := some 2
      ports := [{ name := "data" }, { name := "done" }]
      interfaces := [⟨none, .tcp (some "10.0.0.3")⟩, ⟨some "line", .uart none {}⟩] }]
  statements := [
    { left := [.ofInstance "a" "out"], right := [.ofInstance "b" "data"] },
    { left := [.ofInstance "b" "done"], right := [.ofInstance "a" "ack"]
      link := some { serverSide := .right } },
    { left := [.ofInstance "a" "out"], right := [.ofInstance "b" "data"], bufferSize := some 4 }]

/-- The numbers of its federates. -/
def relayOwners : Owners := [(⟨"a", none⟩, 0), (⟨"b", some 0⟩, 1), (⟨"b", some 1⟩, 2)]

/-- Its statements expand, so they are grouped. -/
theorem relay_grouped : ∃ gs, groupConnections relay relayOwners = .ok gs ∧
    Grouped (relay.contributions relayOwners) gs := by
  refine groupConnections_grouped relay relayOwners ?_
  intro i s h
  match i, h with
  | 0, h => cases h; exact ⟨_, rfl⟩
  | 1, h => cases h; exact ⟨_, rfl⟩
  | 2, h => cases h; exact ⟨_, rfl⟩

end ReactorNet
