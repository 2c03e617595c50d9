import Mathlib.Data.List.Nodup
import ReactorNet.Port.Session
import ReactorNet.Proofs.Ownership
import ReactorNet.Proofs.PortByPort

/-!
# `ReactorNet.Proofs.CountingOrder` · the order in which the channels of a port are counted

A port of width `W` on a bank of width `B` has a channel for each of its `B · W` cells, and
`counted_ofPort` says where a fresh queue has which cell:

* counted member by member, cell `(i / W, i % W)` stands at position `i`;
* with the bank index varying fastest, it is cell `(i % B, i / B)`.

So either order has every cell once, each with the owner of its member. `countedOut_of_expand` says the
same of the channels that a reference is expanded to.

**What can get lost.** For a port as wide as its bank, dividing by one width or by the other is the
same, and for a port or a bank of width one so are the two orders. `loops_eq_map` is therefore stated
for two loops of any lengths: position `i` is reached in round `i / n` of the outer loop if the inner
one has length `n`.
-/

namespace ReactorNet

variable {bankWidth portWidth : Nat} {interleaved : Bool} {owner : Nat → Option Nat}

/-- The cell of a channel: which member it is of, and which place it has there. -/
def PortChannel.cell (c : PortChannel) : Nat × Nat := (c.bankIndex, c.portIndex)

/-- What it means that channels are counted out for a port. -/
structure CountedOut (bankWidth portWidth : Nat) (interleaved : Bool) (owner : Nat → Option Nat)
    (cs : List PortChannel) : Prop where
  /-- Every member of the bank has as many channels as the port is wide. -/
  length : cs.length = bankWidth * portWidth
  /-- The cells are those of the port. -/
  within : ∀ c ∈ cs, c.bankIndex < bankWidth ∧ c.portIndex < portWidth
  /-- Every cell stands at one position and at no other. -/
  once : ∀ b w, b < bankWidth → w < portWidth → ∃! i : Nat, (cs.map (·.cell))[i]? = some (b, w)
  /-- A channel belongs to whom its member belongs. -/
  owned : ∀ c ∈ cs, c.federate = owner c.bankIndex
  /-- Counted member by member, the place within the port varies fastest. -/
  straight : interleaved = false → ∀ i < bankWidth * portWidth,
    (cs.map (·.cell))[i]? = some (i / portWidth, i % portWidth)
  /-- Interleaved, the member varies fastest. -/
  across : interleaved = true → ∀ i < bankWidth * portWidth,
    (cs.map (·.cell))[i]? = some (i % bankWidth, i / bankWidth)

/-! ## Positions -/

/-- Two loops, one inside of the other, are one loop: its counter, divided by the length of the
inner loop, gives the counters of both. -/
theorem loops_eq_map {α : Type} (f : Nat → Nat → α) (m n : Nat) :
    ((List.range m).flatMap fun x => (List.range n).map (f x)) =
      (List.range (m * n)).map fun i => f (i / n) (i % n) := by
  induction m with
  | zero => simp
  | succ m ih =>
      -- the last round begins where the others end, at `m * n`
      have round : ((List.range n).map (m * n + ·)).map (fun i => f (i / n) (i % n)) =
          (List.range n).map (f m) := by
        rw [List.map_map]
        refine List.map_congr_left fun y hy => ?_
        have inside : y < n := List.mem_range.mp hy
        have quotient : (m * n + y) / n = m := by
          rw [Nat.mul_comm, Nat.mul_add_div (by omega), Nat.div_eq_of_lt inside, Nat.add_zero]
        have remainder : (m * n + y) % n = y := by
          rw [Nat.mul_add_mod_self_right, Nat.mod_eq_of_lt inside]
        rw [Function.comp_apply, quotient, remainder]
      rw [List.range_succ, List.flatMap_append, ih, Nat.succ_mul, List.range_add, List.map_append,
        round, List.flatMap_singleton]

/-- Counted member by member, the channels of a port are found by dividing by its width. -/
theorem portChannels_straight : portChannels bankWidth portWidth false owner =
    (List.range (bankWidth * portWidth)).map fun i =>
      ⟨i % portWidth, i / portWidth, owner (i / portWidth)⟩ := by
  rw [portChannels, if_neg Bool.false_ne_true]
  exact loops_eq_map (fun b w => PortChannel.mk w b (owner b)) bankWidth portWidth

/-- Interleaved, they are found by dividing by the width of the bank. -/
theorem portChannels_across : portChannels bankWidth portWidth true owner =
    (List.range (bankWidth * portWidth)).map fun i =>
      ⟨i / bankWidth, i % bankWidth, owner (i % bankWidth)⟩ := by
  rw [portChannels, if_pos rfl, Nat.mul_comm]
  exact loops_eq_map (fun w b => PortChannel.mk w b (owner b)) portWidth bankWidth

/-! ## Cells -/

/-- A channel of a port is known by its cell. -/
theorem nodup_cells : ((portChannels bankWidth portWidth interleaved owner).map (·.cell)).Nodup := by
  refine List.Nodup.map_on ?_ (nodup_portChannels bankWidth portWidth interleaved owner)
  rintro ⟨w, b, k⟩ hc ⟨w', b', k'⟩ hd ⟨⟩
  -- members have owners, so no two channels of a cell differ in theirs
  have hk : k = owner b := (mem_portChannels.mp hc).2.2
  have hk' : k' = owner b := (mem_portChannels.mp hd).2.2
  rw [hk, hk']

/-- Every cell of a port is that of a channel. -/
theorem mem_cells {b w : Nat} (hb : b < bankWidth) (hw : w < portWidth) :
    (b, w) ∈ (portChannels bankWidth portWidth interleaved owner).map (·.cell) :=
  List.mem_map.mpr ⟨⟨w, b, owner b⟩, mem_portChannels.mpr ⟨hb, hw, rfl⟩, rfl⟩

/-- What stands in a list without duplicates stands at one position. -/
theorem existsUnique_position {α : Type} {x : α} {xs : List α} (nodup : xs.Nodup) (h : x ∈ xs) :
    ∃! i : Nat, xs[i]? = some x := by
  obtain ⟨i, hi⟩ := List.mem_iff_getElem?.mp h
  refine ⟨i, hi, fun j hj => ?_⟩
  have inside : j < xs.length := (List.getElem?_eq_some_iff.mp hj).1
  exact (List.getElem?_inj inside nodup).mp (hj.trans hi.symm)

/-- The channels of a port are counted out. -/
theorem countedOut_portChannels : CountedOut bankWidth portWidth interleaved owner
    (portChannels bankWidth portWidth interleaved owner) where
  length := length_portChannels bankWidth portWidth interleaved owner
  within c hc := ⟨(mem_portChannels.mp hc).1, (mem_portChannels.mp hc).2.1⟩
  once _ _ hb hw := existsUnique_position nodup_cells (mem_cells hb hw)
  owned c hc := (mem_portChannels.mp hc).2.2
  straight := by
    rintro rfl i hi
    simp [portChannels_straight, PortChannel.cell, List.getElem?_range hi]
  across := by
    rintro rfl i hi
    simp [portChannels_across, PortChannel.cell, List.getElem?_range hi]

/-- The channels that a reference stands for are counted out, for the shape of its port and with the
federates that own its members. -/
theorem countedOut_of_expand {p : Program} {owners : Owners} {r : PortRef} {queue : ChannelQueue}
    (h : p.expand owners r = .ok queue) : ∃ bankWidth portWidth,
      p.shape? r.key = some (bankWidth, portWidth) ∧
      CountedOut bankWidth portWidth r.interleaved (p.owner? owners r.key) queue.left := by
  unfold Program.expand at h
  split at h
  · rename_i bankWidth portWidth shape
    cases h
    exact ⟨bankWidth, portWidth, shape, countedOut_portChannels⟩
  · cases h

/-! ## Two orders -/

/-- Both orders have the same channels. -/
theorem perm_portChannels : (portChannels bankWidth portWidth true owner).Perm
    (portChannels bankWidth portWidth false owner) := by
  rw [List.perm_ext_iff_of_nodup (nodup_portChannels _ _ _ _) (nodup_portChannels _ _ _ _)]
  intro c
  rw [mem_portChannels, mem_portChannels]

/-- In a port or a bank of width one there is nothing to interleave. -/
theorem portChannels_eq_of_one (one : bankWidth = 1 ∨ portWidth = 1) :
    portChannels bankWidth portWidth true owner = portChannels bankWidth portWidth false owner := by
  rw [portChannels_straight, portChannels_across]
  refine List.map_congr_left fun i hi => ?_
  have inside : i < bankWidth * portWidth := List.mem_range.mp hi
  obtain rfl | rfl := one
  · rw [Nat.one_mul] at inside
    rw [Nat.div_one, Nat.mod_one, Nat.mod_eq_of_lt inside, Nat.div_eq_of_lt inside]
  · rw [Nat.mul_one] at inside
    rw [Nat.div_one, Nat.mod_one, Nat.mod_eq_of_lt inside, Nat.div_eq_of_lt inside]

/-- **The channels of a port are counted out.** Whatever the widths of a bank and of a port on it, a
fresh queue of the port has each of its cells once, at the position that the order of counting says,
and with the owner of its member. The two orders have the same channels, and are the same if one of
the widths is one. -/
theorem counted_ofPort (port : PortKey) (bankWidth portWidth : Nat) (owner : Nat → Option Nat) :
    (∀ interleaved, (CursorQueue.ofPort port bankWidth portWidth interleaved owner).cursor = 0 ∧
      CountedOut bankWidth portWidth interleaved owner
        (CursorQueue.ofPort port bankWidth portWidth interleaved owner).channels.toList) ∧
    (CursorQueue.ofPort port bankWidth portWidth true owner).channels.toList.Perm
      (CursorQueue.ofPort port bankWidth portWidth false owner).channels.toList ∧
    (bankWidth = 1 ∨ portWidth = 1 → CursorQueue.ofPort port bankWidth portWidth true owner =
      CursorQueue.ofPort port bankWidth portWidth false owner) := by
  refine ⟨fun interleaved => ⟨rfl, countedOut_portChannels⟩, perm_portChannels, fun one => ?_⟩
  rw [CursorQueue.ofPort, CursorQueue.ofPort, portChannels_eq_of_one one]

/-- The port of three cells for each of two members, whose owners have the numbers 4 and 5. -/
def rowOfGrid (interleaved : Bool) : CursorQueue :=
  .ofPort ⟨some "grid", "row"⟩ 2 3 interleaved fun b => some (b + 4)

/-- The six cells of that port in either order, and the four of a port that has one order only. -/
theorem rowOfGrid_counted :
    CountedOut 2 3 false (fun b => some (b + 4)) (rowOfGrid false).channels.toList ∧
    (rowOfGrid false).channels.toList.map (·.cell) =
      [(0, 0), (0, 1), (0, 2), (1, 0), (1, 1), (1, 2)] ∧
    CountedOut 2 3 true (fun b => some (b + 4)) (rowOfGrid true).channels.toList ∧
    (rowOfGrid true).channels.toList.map (·.cell) =
      [(0, 0), (1, 0), (0, 1), (1, 1), (0, 2), (1, 2)] ∧
    (rowOfGrid true).channels.toList.Perm (rowOfGrid false).channels.toList ∧
    ((1 = 1 ∨ 4 = 1) ∧ CursorQueue.ofPort ⟨none, "wide"⟩ 1 4 true (fun _ => none) =
      CursorQueue.ofPort ⟨none, "wide"⟩ 1 4 false (fun _ => none)) := by
  obtain ⟨counted, reordered, -⟩ := counted_ofPort ⟨some "grid", "row"⟩ 2 3 fun b => some (b + 4)
  obtain ⟨-, -, same⟩ := counted_ofPort ⟨none, "wide"⟩ 1 4 fun _ => none
  have one : 1 = 1 ∨ 4 = 1 := Or.inl rfl
  exact ⟨(counted false).2, by decide, (counted true).2, by decide, reordered, one, same one⟩

end ReactorNet
