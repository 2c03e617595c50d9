import ReactorNet.Proofs.Bundling

/-!
# `ReactorNet.Proofs.FirstLink` · which statement decides on a channel

All statements that connect two federates share one network channel, and only one of them can have
its link count. `partLink_eq` says which: the first that has a pair between the two federates,
whatever becomes of its other pairs, and whichever statements contribute to the same groups later.

**Two gatherings.** The pairs of statements are gathered into groups, and the groups into parts. In
either the first row with a property comes from the first item with it, so the first group between
two federates leads back to the first pair between them.
-/

namespace ReactorNet

variable {p : Program} {owners : Owners} {groups : List Group} {g : Group} {part : Part}
  {federates : Nat × Nat} {i : Nat}

/-! ## Crossing pairs -/

/-- Whether a pair crosses from the first federate to the second. -/
def ChannelPair.Crosses (q : ChannelPair) (federates : Nat × Nat) : Prop :=
  q.isFederated = true ∧ q.source.federate = some federates.1 ∧
    q.destination.federate = some federates.2

/-- A pair that crosses does so between different federates. -/
theorem ChannelPair.Crosses.ne {q : ChannelPair} (h : q.Crosses federates) :
    federates.1 ≠ federates.2 := by
  obtain ⟨crosses, source, destination⟩ := h
  simpa [ChannelPair.isFederated, source, destination] using crosses

/-- Whether the statement with the given number has a pair that crosses between the federates. -/
def Program.Connects (p : Program) (owners : Owners) (federates : Nat × Nat) (i : Nat) : Prop :=
  ∃ s ∈ p.statements[i]?, ∃ q ∈ s.channelPairs (p.expand owners) i, q.Crosses federates

instance (q : ChannelPair) (federates : Nat × Nat) : Decidable (q.Crosses federates) :=
  inferInstanceAs (Decidable (_ ∧ _ ∧ _))

instance (p : Program) (owners : Owners) (federates : Nat × Nat) (i : Nat) :
    Decidable (p.Connects owners federates i) :=
  inferInstanceAs (Decidable (∃ s ∈ p.statements[i]?,
    ∃ q ∈ s.channelPairs (p.expand owners) i, q.Crosses federates))

/-- The two federates that groups with a key cross between. -/
def GroupKey.crossing? (k : GroupKey) : Option (Nat × Nat) := do
  return (← k.sourceFederate, ← k.destinationFederate)

/-- The key of a pair crosses as the pair does. -/
theorem crossing?_groupKey (s : Statement) (q : ChannelPair) :
    (q.groupKey s).crossing? = some federates ↔ q.Crosses federates := by
  obtain ⟨i, j⟩ := federates
  unfold ChannelPair.Crosses GroupKey.crossing? ChannelPair.groupKey
  -- a pair that stays inside a federate has no destination in its key
  rcases hf : q.isFederated with _ | _
  · rcases q.source.federate with _ | s
    · simp
    · simp
  · rcases q.source.federate with _ | s
    · simp
    · rcases q.destination.federate with _ | d
      · simp
      · simp

/-! ## The first crossing group -/

/-- The first crossing between two federates is that of the first group that crosses there. -/
theorem find?_crossings {x : (Nat × Nat) × Nat}
    (h : (crossings i groups).find? (fun y => y.1 = federates) = some x) :
    ∃ g, groups.find? (fun g => g.crossing? = some federates) = some g ∧
      i ≤ x.2 ∧ groups[x.2 - i]? = some g := by
  induction groups generalizing i with
  | nil => cases h
  | cons g groups ih =>
      rw [crossings_cons, List.find?_append] at h
      by_cases hg : g.crossing? = some federates
      · simp only [hg, Option.map_some, Option.toList_some, List.find?_singleton, decide_true,
          if_true, Option.some_or] at h
        obtain rfl := Option.some.inj h
        exact ⟨g, by simp [hg], Nat.le_refl _, by simp⟩
      · have skipped : (g.crossing?.map (·, i)).toList.find? (fun y => y.1 = federates) = none := by
          cases hc : g.crossing? with
          | none => rfl
          | some c =>
              have other : c ≠ federates := fun hcf => hg (hc.trans (congrArg some hcf))
              simp [other]
        rw [skipped, Option.none_or] at h
        obtain ⟨g', found, le, at_i⟩ := ih h
        refine ⟨g', by simpa [hg] using found, by omega, ?_⟩
        rwa [show x.2 - i = x.2 - (i + 1) + 1 by omega, List.getElem?_cons_succ]

/-- The link of a part is that of the first group that crosses between its federates. -/
theorem partLink_of_mem (h : part ∈ partition groups) :
    ∃ (i : Nat) (g : Group), groups[i]? = some g ∧
      groups.find? (fun g => g.crossing? = some part.1) = some g ∧
      partLink groups part = g.link := by
  obtain ⟨k, hk⟩ := List.mem_iff_getElem?.mp h
  obtain ⟨x, xs, share, hrow⟩ := (gathered_partition groups).row k part hk
  have first : (crossings 0 groups).find? (fun y => y.1 = part.1) = some x := by
    rw [← List.head?_filter]
    exact congrArg List.head? share
  obtain ⟨g, found, -, hg⟩ := find?_crossings first
  rw [Nat.sub_zero] at hg
  refine ⟨x.2, g, hg, found, ?_⟩
  rw [hrow, parting_row]
  simp [partLink, hg]

/-! ## The first statement -/

/-- Of contributions in the order of their statements, the first with a property has the least
number of all that have it. -/
theorem number_le_of_find? {cs : List Contribution} {c d : Contribution} {q : Contribution → Bool}
    (sorted : cs.Pairwise fun c d => c.number ≤ d.number) (found : cs.find? q = some c)
    (hd : d ∈ cs) (hq : q d = true) : c.number ≤ d.number := by
  obtain ⟨-, before, after, rfl, none_before⟩ := List.find?_eq_some_iff_append.mp found
  rw [List.pairwise_append, List.pairwise_cons] at sorted
  rcases List.mem_append.mp hd with hd | hd
  · have := none_before d hd
    rw [hq] at this
    cases this
  · rcases List.mem_cons.mp hd with rfl | hd
    · exact Nat.le_refl _
    · exact sorted.2.1.1 d hd

/-- The link of a part is that of the first statement that connects its federates. -/
theorem partLink_eq (grouped : groupConnections p owners = .ok groups)
    (h : part ∈ partition groups) :
    ∃ i s, IsLeast {i | p.Connects owners part.1 i} i ∧ p.statements[i]? = some s ∧
      partLink groups part = s.link := by
  obtain ⟨-, rfl⟩ := groupConnections_eq_ok_iff.mp grouped
  obtain ⟨k, g, hk, found, link⟩ := partLink_of_mem h
  have gathered := Gathering.gathered_gather (G := grouping) (p.contributions owners)
  obtain ⟨c, first, head⟩ := gathered.find?_row (q := fun key => key.crossing? = some part.1) found
  obtain ⟨c', ds, share, hrow⟩ := gathered.row k g hk
  obtain rfl : c' = c := by rw [share] at head; exact Option.some.inj head
  have crosses := List.find?_some first
  change decide (c'.key.crossing? = some part.1) = true at crosses
  rw [decide_eq_true_eq] at crosses
  obtain ⟨j, hj, hnumber, hpair⟩ := mem_contributionsFrom.mp (List.mem_of_find?_eq_some first)
  rw [Nat.zero_add] at hnumber
  rw [← hnumber] at hj
  refine ⟨c'.number, c'.statement, ⟨?_, ?_⟩, hj, ?_⟩
  · exact ⟨c'.statement, hj, c'.pair, hpair, (crossing?_groupKey _ _).mp crosses⟩
  · rintro j ⟨s, hs, q, hq, hcrosses⟩
    have mem : (⟨j, s, q⟩ : Contribution) ∈ p.contributions owners :=
      mem_contributionsFrom.mpr ⟨j, hs, (Nat.zero_add j).symm, hq⟩
    refine number_le_of_find? pairwise_contributionsFrom first mem ?_
    exact decide_eq_true ((crossing?_groupKey s q).mpr hcrosses)
  · rw [link, hrow, grouping_row]

end ReactorNet
