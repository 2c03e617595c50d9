import Mathlib.Data.List.Forall2
import Mathlib.Data.List.Nodup
import ReactorNet.Proofs.Pieces
import ReactorNet.Proofs.Replaying

/-!
# `ReactorNet.Proofs.PortByPort` · what a statement connects port by port

A statement that is not iterated pairs its ports one by one. `pairs_port_by_port` says when this
succeeds: both sides have to name the same number of ports, and ports that face each other have to
have the same number of channels. Then the channels of the left side, one port after the other, are
connected to those of the right side. If the statement is iterated, they are connected in the same
way.

**Why iterating changes nothing.** Nothing that is known of a replay depends on where a port ends:
channel `k` on the right is connected to channel `k` on the left, counted round and round. With the
same number of channels on both sides, the first lap is the last one.

**Two counts.** The condition counts the channels that the program declares, and the pairing those
of the queues that references expand to. `length_refChannels` says that these are the same.
-/

namespace ReactorNet

variable {p : Program} {owners : Owners} {expand : Expansion} {i : Nat} {s : Statement}
  {ps : List ChannelPair} {sources destinations : List (PortKey × PortChannel)}

/-! ## The condition -/

/-- How many channels a port has on all members of its bank. -/
def Program.channelCount (p : Program) (key : PortKey) : Nat :=
  match p.shape? key with
  | some (bankWidth, portWidth) => bankWidth * portWidth
  | none => 0

/-- Whether a statement can be connected port by port. -/
structure Statement.Matched (p : Program) (s : Statement) : Prop where
  /-- Both sides name the same number of ports. -/
  length : s.left.length = s.right.length
  /-- Ports that face each other have the same number of channels. -/
  channels : ∀ (k : Nat) (l r : PortRef), s.left[k]? = some l → s.right[k]? = some r →
    p.channelCount l.key = p.channelCount r.key

/-- Which pairs connect all channels of one side to those of the other. -/
structure Statement.Abreast (expand : Expansion) (s : Statement) (ps : List ChannelPair) : Prop where
  /-- The pairs start at the channels of the left side, one after the other. -/
  sources : ps.map (fun q => (q.sourcePort, q.source)) = sideChannels expand s.left
  /-- They end at those of the right side. -/
  destinations : ps.map (fun q => (q.destinationPort, q.destination)) = sideChannels expand s.right
  /-- No reference counts a channel twice. -/
  once : ∀ r ∈ s.left ++ s.right, (refChannels expand r).Nodup

/-- The same statement, but iterated. -/
def Statement.repeated (s : Statement) : Statement := { s with iterated := true }

/-! ## Counting channels -/

/-- In whichever order they are counted, a port has the same number of channels on each member. -/
theorem length_portChannels (bankWidth portWidth : Nat) (interleaved : Bool)
    (owner : Nat → Option Nat) :
    (portChannels bankWidth portWidth interleaved owner).length = bankWidth * portWidth := by
  unfold portChannels
  cases interleaved with
  | true => simp [Nat.mul_comm]
  | false => simp

/-- Two loops list no channel twice if both of their counters can be told from it. -/
theorem nodup_loops (channel : Nat → Nat → PortChannel) (told : Function.Injective2 channel)
    (m n : Nat) : ((List.range m).flatMap fun x => (List.range n).map (channel x)).Nodup := by
  have loops : ((List.range m).flatMap fun x => (List.range n).map (channel x)) =
      (List.product (List.range m) (List.range n)).map (Function.uncurry channel) := by
    unfold List.product
    rw [List.map_flatMap]
    apply List.flatMap_congr
    intro x _
    rw [List.map_map]
    rfl
  rw [loops]
  exact (List.nodup_range.product List.nodup_range).map told.uncurry

/-- No channel of a port is counted twice. -/
theorem nodup_portChannels (bankWidth portWidth : Nat) (interleaved : Bool)
    (owner : Nat → Option Nat) : (portChannels bankWidth portWidth interleaved owner).Nodup := by
  unfold portChannels
  cases interleaved with
  | true =>
      refine nodup_loops (fun i b => ⟨i, b, owner b⟩) ?_ portWidth bankWidth
      rintro i i' b b' ⟨⟩
      exact ⟨rfl, rfl⟩
  | false =>
      refine nodup_loops (fun b i => ⟨i, b, owner b⟩) ?_ bankWidth portWidth
      rintro b b' i i' ⟨⟩
      exact ⟨rfl, rfl⟩

/-- What a reference expands to lists the channels of its port. -/
theorem refChannels_expand (p : Program) (owners : Owners) (r : PortRef) :
    refChannels (p.expand owners) r = match p.shape? r.key with
      | some (bankWidth, portWidth) =>
          (portChannels bankWidth portWidth r.interleaved (p.owner? owners r.key)).map (r.key, ·)
      | none => [] := by
  unfold refChannels Program.expand
  cases p.shape? r.key with
  | none => rfl
  | some shape => rfl

/-- A reference has the channels that the program declares for its port. -/
theorem length_refChannels (p : Program) (owners : Owners) (r : PortRef) :
    (refChannels (p.expand owners) r).length = p.channelCount r.key := by
  rw [refChannels_expand, Program.channelCount]
  cases p.shape? r.key with
  | none => rfl
  | some shape => exact (List.length_map _).trans (length_portChannels _ _ _ _)

/-- A reference counts no channel twice. -/
theorem nodup_refChannels (p : Program) (owners : Owners) (r : PortRef) :
    (refChannels (p.expand owners) r).Nodup := by
  rw [refChannels_expand]
  cases p.shape? r.key with
  | none => exact List.nodup_nil
  | some shape => exact (nodup_portChannels _ _ _ _).map (Prod.mk_right_injective _)

/-- In terms of queues, a statement is matched where its references are, one by one. -/
theorem matched_iff_forall₂ : s.Matched p ↔ List.Forall₂ (fun l r =>
    (refChannels (p.expand owners) l).length = (refChannels (p.expand owners) r).length)
      s.left s.right := by
  simp only [length_refChannels, List.forall₂_iff_get]
  constructor
  · rintro ⟨even, channels⟩
    exact ⟨even, fun k hl hr =>
      channels k _ _ (List.getElem?_eq_getElem hl) (List.getElem?_eq_getElem hr)⟩
  · rintro ⟨even, channels⟩
    refine ⟨even, fun k l r hl hr => ?_⟩
    obtain ⟨hk, rfl⟩ := List.getElem?_eq_some_iff.mp hl
    obtain ⟨hk', rfl⟩ := List.getElem?_eq_some_iff.mp hr
    exact channels k hk hk'

/-! ## Channels side by side -/

/-- Connect channels to those next to them. -/
def abreast (sources destinations : List (PortKey × PortChannel)) : List ChannelPair :=
  List.zipWith (fun c d => ⟨c.1, c.2, d.1, d.2⟩) sources destinations

/-- Lists of the same length are both used up. -/
theorem ends_abreast (even : sources.length = destinations.length) :
    (abreast sources destinations).map (fun q => (q.sourcePort, q.source)) = sources ∧
      (abreast sources destinations).map (fun q => (q.destinationPort, q.destination)) =
        destinations := by
  unfold abreast
  rw [List.map_zipWith, List.map_zipWith]
  constructor
  · show List.zipWith (fun c _ => c) sources destinations = sources
    rw [← List.map_uncurry_zip_eq_zipWith]
    exact List.map_fst_zip even.le
  · show List.zipWith (fun _ d => d) sources destinations = destinations
    rw [← List.map_uncurry_zip_eq_zipWith]
    exact List.map_snd_zip even.ge

/-- For lists of the same length, wiring round and round does not get beyond the first round. -/
theorem wiring_eq_abreast (even : sources.length = destinations.length) :
    wiring sources 0 destinations = (abreast sources destinations).map some := by
  apply List.ext_getElem?
  intro k
  unfold wiring abreast
  rw [List.getElem?_map, List.getElem?_map, List.getElem?_zipIdx, List.getElem?_zipWith]
  cases hd : destinations[k]? with
  | none => simp
  | some d =>
      -- the first lap is not over
      have inside : k < sources.length := even ▸ (List.getElem?_eq_some_iff.mp hd).1
      simp [Nat.mod_eq_of_lt inside, List.getElem?_eq_getElem inside]

/-! ## Ports one by one -/

/-- Two ports are paired if they have the same number of channels, and then channel by channel. -/
theorem pairPorts_singleton_eq_ok_iff {l r : PortRef} {left right : ChannelQueue}
    (hl : expand l = .ok left) (hr : expand r = .ok right) : pairPorts expand i [l] [r] = .ok ps ↔
      (refChannels expand l).length = (refChannels expand r).length ∧
        abreast (refChannels expand l) (refChannels expand r) = ps := by
  have zipped : List.zipWith (⟨l.key, ·, r.key, ·⟩) left.all right.all =
      abreast (refChannels expand l) (refChannels expand r) := by
    rw [refChannels_eq hl, refChannels_eq hr, abreast, List.zipWith_map]
  have counts : (refChannels expand l).length = (refChannels expand r).length ↔
      left.all.length = right.all.length := by
    rw [refChannels_eq hl, refChannels_eq hr, List.length_map, List.length_map]
  rw [counts, ← zipped, pairPorts, hl]
  simp only [bind, Except.bind, hr]
  by_cases even : left.all.length = right.all.length
  · simp [even, pairPorts, pure, Except.pure]
  · simp [even, throw, throwThe, MonadExceptOf.throw]

/-- Where two ports have the same number of channels, those behind them face each other. -/
theorem abreast_append {c d cs ds : List (PortKey × PortChannel)} (even : c.length = d.length) :
    abreast (c ++ cs) (d ++ ds) = abreast c d ++ abreast cs ds :=
  List.zipWith_append even

/-- Sides are paired if any two ports that face each other have the same number of channels, and
then their channels are connected as if each side was one port. -/
theorem pairPorts_eq_ok_iff_abreast {ls rs : List PortRef} (left : Expands expand ls)
    (right : Expands expand rs) (even : ls.length = rs.length) : pairPorts expand i ls rs = .ok ps ↔
      List.Forall₂ (fun l r => (refChannels expand l).length = (refChannels expand r).length) ls rs ∧
        abreast (sideChannels expand ls) (sideChannels expand rs) = ps := by
  induction ls generalizing rs ps with
  | nil =>
      obtain rfl := List.length_eq_zero_iff.mp even.symm
      simp [pairPorts, sideChannels, abreast, pure, Except.pure]
  | cons l ls ih =>
      obtain ⟨r, rs, rfl⟩ := List.exists_cons_of_length_eq_add_one even.symm
      obtain ⟨⟨queue, hl⟩, left⟩ := List.forall_mem_cons.mp left
      obtain ⟨⟨queue', hr⟩, right⟩ := List.forall_mem_cons.mp right
      rw [pairPorts_cons, List.forall₂_cons, sideChannels_cons, sideChannels_cons]
      simp only [bind_eq_ok_iff, map_eq_ok_iff, pairPorts_singleton_eq_ok_iff hl hr,
        ih left right (Nat.succ.inj even)]
      constructor
      · rintro ⟨_, ⟨counts, rfl⟩, _, ⟨others, rfl⟩, rfl⟩
        exact ⟨⟨counts, others⟩, abreast_append counts⟩
      · rintro ⟨⟨counts, others⟩, rfl⟩
        exact ⟨_, ⟨counts, rfl⟩, _, ⟨others, rfl⟩, (abreast_append counts).symm⟩

/-- If the ports of two sides have the same numbers of channels, one by one, then so do the
sides. -/
theorem length_sideChannels_eq {ls rs : List PortRef} (h : List.Forall₂ (fun l r =>
    (refChannels expand l).length = (refChannels expand r).length) ls rs) :
    (sideChannels expand ls).length = (sideChannels expand rs).length := by
  induction h with
  | nil => rfl
  | cons counts _ ih =>
      rw [sideChannels_cons, sideChannels_cons, List.length_append, List.length_append, counts, ih]

/-! ## Statements -/

/-- The sides of a matched statement have the same number of channels, all in all. -/
theorem Statement.Matched.even (matched : s.Matched p) (owners : Owners) :
    (sideChannels (p.expand owners) s.left).length = (sideChannels (p.expand owners) s.right).length :=
  length_sideChannels_eq (matched_iff_forall₂.mp matched)

/-- A sound statement that is not iterated has pairs if it is matched, and then those of its
sides. -/
theorem pairs_eq_ok_iff_abreast (sound : s.Sound p) (once : s.iterated = false) :
    s.pairs (p.expand owners) i = .ok ps ↔ s.Matched p ∧
      abreast (sideChannels (p.expand owners) s.left)
        (sideChannels (p.expand owners) s.right) = ps := by
  obtain ⟨left, right⟩ := List.forall_mem_append.mp (sound.expands owners)
  by_cases even : s.left.length = s.right.length
  · rw [pairs_eq_pairPorts sound.left once even, pairPorts_eq_ok_iff_abreast left right even,
      matched_iff_forall₂]
  · constructor
    · intro h
      obtain ⟨l, ls, hl⟩ := List.exists_cons_of_ne_nil sound.left
      obtain ⟨r, rs, hr⟩ := List.exists_cons_of_ne_nil sound.right
      rw [hl, hr] at even
      have uneven : ((l :: ls).length != (r :: rs).length) = true := bne_iff_ne.mpr even
      unfold Statement.pairs at h
      rw [hl, hr] at h
      simp only [once, uneven, Bool.false_eq_true, if_false, if_true, reduceCtorEq] at h
    · rintro ⟨matched, -⟩
      exact absurd matched.length even

/-- A matched statement has the pairs of its sides if it is iterated, too. -/
theorem pairs_repeated (valid : p.validate = .ok ()) (hs : s ∈ p.statements) (matched : s.Matched p) :
    s.repeated.pairs (p.expand owners) i = .ok
      (abreast (sideChannels (p.expand owners) s.left) (sideChannels (p.expand owners) s.right)) := by
  have supplied := supplied_of_validate valid hs owners
  obtain ⟨left, right⟩ := List.forall_mem_append.mp (expands_of_declared supplied.declared owners)
  have iterated : s.repeated.iterated = true := rfl
  obtain ⟨ps, hps, wired⟩ :=
    exists_pairs_wired (i := i) iterated left right supplied.right supplied.channels
  rw [hps]
  congr 1
  apply List.map_injective_iff.mpr (Option.some_injective _)
  exact wired.trans (wiring_eq_abreast (matched.even owners))

/-- **A statement connects its sides port by port.** In a program that passes its checks, a
statement that is not iterated has pairs if and only if both sides name the same number of ports,
and ports that face each other have the same number of channels. Then it connects all channels of
the left side, one port after the other, to those of the right side, and so does the same statement
iterated. Both have these pairs in runs, too. -/
theorem pairs_port_by_port (p : Program) (valid : p.validate = .ok ()) (owners : Owners) (i : Nat)
    (s : Statement) (hs : s ∈ p.statements) (once : s.iterated = false) :
    ((∃ ps, s.pairs (p.expand owners) i = .ok ps) ↔ s.Matched p) ∧
    (∀ ps, s.pairs (p.expand owners) i = .ok ps →
      s.Abreast (p.expand owners) ps ∧ s.repeated.pairs (p.expand owners) i = .ok ps) ∧
    s.pairsInRuns (p.expand owners) i = s.pairs (p.expand owners) i ∧
    s.repeated.pairsInRuns (p.expand owners) i = s.repeated.pairs (p.expand owners) i := by
  have sound := (validate_eq_ok_iff.mp valid).statements s hs
  have pairs : ∀ ps, s.pairs (p.expand owners) i = .ok ps ↔ _ ∧ _ = ps := fun ps =>
    pairs_eq_ok_iff_abreast sound once
  refine ⟨?_, ?_, pairsInRuns_eq valid owners s i, pairsInRuns_eq valid owners s.repeated i⟩
  · simp only [pairs, exists_and_left, exists_eq', and_true]
  · intro ps h
    obtain ⟨matched, rfl⟩ := (pairs ps).mp h
    obtain ⟨sources, destinations⟩ := ends_abreast (matched.even owners)
    exact ⟨⟨sources, destinations, fun r _ => nodup_refChannels p owners r⟩,
      pairs_repeated valid hs matched⟩

/-- A statement that reads one port of a bank across its members, and another one member by
member. -/
def transposed : Statement where
  left := [(PortRef.ofInstance "grid" "row").interleave, .ofInstance "grid" "sum"]
  right := [.ofInstance "line" "cells", .ofInstance "pool" "item"]

/-- A program with that statement. -/
def transposition : Program where
  name := "transposition"
  instances := [
    { name := "grid", bankWidth := some 2, ports := [⟨"row", 3⟩, ⟨"sum", 1⟩] },
    { name := "line", ports := [⟨"cells", 6⟩] },
    { name := "pool", bankWidth := some 2, ports := [⟨"item", 1⟩] }]
  statements := [transposed]

/-- The indices of the members at the ends of a pair, with those of the channels. -/
def ChannelPair.indices (q : ChannelPair) : (Nat × Nat) × Nat × Nat :=
  ((q.source.bankIndex, q.source.portIndex), q.destination.bankIndex, q.destination.portIndex)

/-- The six channels of its first two ports and the two of the others are connected, iterated or
not. -/
theorem transposed_port_by_port : transposition.validate = .ok () ∧
    transposed ∈ transposition.statements ∧ transposed.iterated = false ∧
    transposed.Matched transposition ∧
    ∃ ps, transposed.pairs (transposition.expand []) 0 = .ok ps ∧
      transposed.Abreast (transposition.expand []) ps ∧
      transposed.repeated.pairs (transposition.expand []) 0 = .ok ps ∧
      ps.map (·.indices) = [((0, 0), 0, 0), ((1, 0), 0, 1), ((0, 1), 0, 2), ((1, 1), 0, 3),
        ((0, 2), 0, 4), ((1, 2), 0, 5), ((0, 0), 0, 0), ((1, 0), 1, 0)] := by
  have valid : transposition.validate = .ok () := rfl
  have found : (transposed.pairs (transposition.expand []) 0).toOption.map (List.map (·.indices)) =
      some [((0, 0), 0, 0), ((1, 0), 0, 1), ((0, 1), 0, 2), ((1, 1), 0, 3), ((0, 2), 0, 4),
        ((1, 2), 0, 5), ((0, 0), 0, 0), ((1, 0), 1, 0)] := by decide +kernel
  obtain ⟨matched, connected, -⟩ := pairs_port_by_port transposition valid [] 0 transposed
    (List.mem_singleton_self _) rfl
  obtain ⟨ps, hps, indices⟩ := Option.map_eq_some_iff.mp found
  have hps := eq_ok_of_toOption hps
  obtain ⟨abreast, again⟩ := connected ps hps
  exact ⟨valid, List.mem_singleton_self _, rfl, matched.mp ⟨ps, hps⟩, ps, hps, abreast, again,
    indices⟩

end ReactorNet
