import ReactorNet.Proofs.Faults

/-!
# `ReactorNet.Proofs.Replaying` · what an iterated statement connects

An iterated statement reads the channels of its left side round and round, until every channel of
its right side is served. `pairs_replayed` says that this ends, and which pairs come out: the `k`-th
channel on the right is connected to channel `k` of the left side, counted round and round.

**Where a replay is.** `Replay.At` says how much of the current lap was read. It does not change
when the next port is opened, be it in the same lap or at the start of the next one, and it goes on
by one with each channel.

**Why it ends.** Ports on the left may be empty, but not all of them. So a channel comes after as
many ports as the side has at most (`Replay.Within`), and every run that takes nothing brings it
nearer.
-/

namespace ReactorNet

variable {p : Program} {owners : Owners} {expand : Expansion} {i k n a rounds : Nat} {s : Statement}
  {side rs : List PortRef} {port : PortKey} {position : Nat} {c : PortChannel}
  {cs ds : List PortChannel} {replay : Replay} {reader : Reader} {right : ChannelQueue}

/-! ## Sides -/

/-- The channels of a reference, each with the port that it belongs to. -/
def refChannels (expand : Expansion) (r : PortRef) : List (PortKey × PortChannel) :=
  match expand r with
  | .ok queue => queue.all.map (r.key, ·)
  | .error _ => []

/-- The channels of the references of a side, one after the other. -/
def sideChannels (expand : Expansion) (side : List PortRef) : List (PortKey × PortChannel) :=
  side.flatMap (refChannels expand)

/-- The channels of a reference are those of the queue that it expands to. -/
theorem refChannels_eq {r : PortRef} {queue : ChannelQueue} (h : expand r = .ok queue) :
    refChannels expand r = queue.all.map (r.key, ·) := by
  rw [refChannels, h]

/-- The channels of a side are those of its first reference and then those of the others. -/
theorem sideChannels_cons (r : PortRef) (rs : List PortRef) :
    sideChannels expand (r :: rs) = refChannels expand r ++ sideChannels expand rs :=
  List.flatMap_cons

/-- A reference of a side has no more channels than the side. -/
theorem length_refChannels_le {r : PortRef} (h : r ∈ side) :
    (refChannels expand r).length ≤ (sideChannels expand side).length := by
  obtain ⟨before, after, rfl⟩ := List.append_of_mem h
  unfold sideChannels
  rw [List.flatMap_append, List.flatMap_cons, List.length_append, List.length_append]
  omega

/-- Channels to be served, the first of which has the number `k`, wired to those of a list, counted
round and round. -/
def wiring (sources : List (PortKey × PortChannel)) (k : Nat)
    (destinations : List (PortKey × PortChannel)) : List (Option ChannelPair) :=
  (destinations.zipIdx k).map fun x =>
    sources[x.2 % sources.length]?.map fun y => ⟨y.1, y.2, x.1.1, x.1.2⟩

section

variable {sources xs ys : List (PortKey × PortChannel)}

/-- Wiring goes on where it was left. -/
theorem wiring_append (k : Nat) : wiring sources k (xs ++ ys) =
    wiring sources k xs ++ wiring sources (k + xs.length) ys := by
  unfold wiring
  rw [List.zipIdx_append, List.map_append]

/-- The first channel is wired to the one with its number. -/
theorem wiring_cons {x y : PortKey × PortChannel} (h : sources[k % sources.length]? = some y) :
    wiring sources k (x :: xs) = some ⟨y.1, y.2, x.1, x.2⟩ :: wiring sources (k + 1) xs := by
  unfold wiring
  rw [List.zipIdx_cons, List.map_cons, h]
  rfl

end

/-! ## Laps -/

/-- The channels that are left of a lap. -/
def Replay.ahead (expand : Expansion) (side : List PortRef) (replay : Replay) :
    List (PortKey × PortChannel) :=
  replay.left.map (replay.port, ·) ++ sideChannels expand (side.drop (replay.position + 1))

/-- Whether `k` channels were read when a replay is as it is. -/
structure Replay.At (expand : Expansion) (side : List PortRef) (k : Nat) (replay : Replay) : Prop where
  /-- The port at hand is on the side. -/
  position : replay.position < side.length
  /-- The lap consists of what was read of it and what is left. The laps before it are complete. -/
  lap : ∃ read, read ++ replay.ahead expand side = sideChannels expand side ∧
    k % (sideChannels expand side).length = read.length % (sideChannels expand side).length

/-- Where a port was just opened, its channels and those of the ports behind it are left. -/
theorem ahead_opened {r : PortRef} {queue : ChannelQueue} (hr : side[position]? = some r)
    (expanded : expand r = .ok queue) :
    Replay.ahead expand side ⟨position, r.key, queue.all⟩ =
      sideChannels expand (side.drop position) := by
  obtain ⟨inside, rfl⟩ := List.getElem?_eq_some_iff.mp hr
  unfold Replay.ahead
  rw [List.drop_eq_getElem_cons inside, sideChannels_cons, refChannels_eq expanded]

/-- A replay starts with the first port. -/
theorem Replay.At.start {r : PortRef} {queue : ChannelQueue} (hr : side[0]? = some r)
    (expanded : expand r = .ok queue) : Replay.At expand side 0 ⟨0, r.key, queue.all⟩ := by
  refine ⟨(List.getElem?_eq_some_iff.mp hr).1, [], ?_, rfl⟩
  rw [List.nil_append, ahead_opened hr expanded, List.drop_zero]

/-- The channel at hand is the one whose turn it is, and when it was read it is the turn of the
next. -/
theorem Replay.At.take (h : Replay.At expand side k ⟨position, port, c :: cs⟩) :
    (sideChannels expand side)[k % (sideChannels expand side).length]? = some (port, c) ∧
      Replay.At expand side (k + 1) ⟨position, port, cs⟩ := by
  obtain ⟨inside, read, lap, count⟩ := h
  unfold Replay.ahead at lap
  rw [List.map_cons, List.cons_append] at lap
  constructor
  · have short : read.length < (sideChannels expand side).length := by
      rw [← lap, List.length_append, List.length_cons]
      omega
    rw [count, Nat.mod_eq_of_lt short, ← lap, List.getElem?_append_right (Nat.le_refl _),
      Nat.sub_self]
    rfl
  · refine ⟨inside, read ++ [(port, c)], ?_, ?_⟩
    · rw [List.append_assoc]
      exact lap
    · rw [List.length_append, Nat.add_mod, count, ← Nat.add_mod]
      rfl

/-- It stays the turn of the same channel when the next port is opened. -/
theorem Replay.At.turn {r : PortRef} {queue : ChannelQueue}
    (h : Replay.At expand side k ⟨position, port, []⟩)
    (hr : side[(position + 1) % side.length]? = some r) (expanded : expand r = .ok queue) :
    Replay.At expand side k ⟨(position + 1) % side.length, r.key, queue.all⟩ := by
  obtain ⟨inside, read, lap, count⟩ := h
  change position < side.length at inside
  change read ++ sideChannels expand (side.drop (position + 1)) = _ at lap
  by_cases more : position + 1 < side.length
  · -- the lap goes on
    refine ⟨Nat.mod_lt _ (Nat.zero_lt_of_lt inside), read, ?_, count⟩
    rw [ahead_opened hr expanded, Nat.mod_eq_of_lt more]
    exact lap
  · -- the lap is complete, so the next one starts
    have last : position + 1 = side.length := by omega
    rw [last, Nat.mod_self] at hr ⊢
    rw [last, List.drop_length] at lap
    refine ⟨Nat.zero_lt_of_lt inside, [], ?_, ?_⟩
    · rw [List.nil_append, ahead_opened hr expanded, List.drop_zero]
    · have complete : read = sideChannels expand side := by simpa [sideChannels] using lap
      rw [complete, Nat.mod_self] at count
      rw [count, List.length_nil, Nat.zero_mod]

/-! ## Ports on the way to a channel -/

/-- Whether there are channels at hand, or on one of the next `a` ports. -/
def Replay.Within (expand : Expansion) (side : List PortRef) (a : Nat) (replay : Replay) : Prop :=
  replay.left ≠ [] ∨ ∃ j < a, ∃ r, side[(replay.position + 1 + j) % side.length]? = some r ∧
    refChannels expand r ≠ []

/-- If a side has channels, they are on one of as many ports as it has. -/
theorem Replay.At.within (h : Replay.At expand side k replay)
    (channels : sideChannels expand side ≠ []) : Replay.Within expand side side.length replay := by
  obtain ⟨r, mem, nonempty⟩ : ∃ r ∈ side, refChannels expand r ≠ [] := by
    simpa [sideChannels, List.flatMap_eq_nil_iff] using channels
  obtain ⟨m, hm⟩ := List.mem_iff_getElem?.mp mem
  have inside := h.position
  have bound := (List.getElem?_eq_some_iff.mp hm).1
  refine Or.inr ⟨(m + side.length - (replay.position + 1)) % side.length, ?_, r, ?_, nonempty⟩
  · exact Nat.mod_lt _ (Nat.zero_lt_of_lt inside)
  · have there : (replay.position + 1 + (m + side.length - (replay.position + 1)) % side.length) %
        side.length = m := by
      rw [Nat.add_mod_mod, Nat.add_sub_cancel' (by omega), Nat.add_mod_right, Nat.mod_eq_of_lt bound]
    rw [there, hm]

/-- If none are at hand, the next port brings them one port nearer. -/
theorem Replay.Within.turn {r : PortRef} {queue : ChannelQueue}
    (h : Replay.Within expand side (a + 1) ⟨position, port, []⟩)
    (hr : side[(position + 1) % side.length]? = some r) (expanded : expand r = .ok queue) :
    Replay.Within expand side a ⟨(position + 1) % side.length, r.key, queue.all⟩ := by
  rcases h with there | ⟨j, hj, r', hr', nonempty⟩
  · exact absurd rfl there
  · cases j with
    | zero =>
        obtain rfl : r = r' := Option.some.inj (hr.symm.trans hr')
        left
        intro empty
        rw [refChannels_eq expanded, show queue.all = [] from empty] at nonempty
        exact nonempty rfl
    | succ j =>
        refine Or.inr ⟨j, Nat.lt_of_succ_lt_succ hj, r', ?_, nonempty⟩
        rw [← hr']
        congr 1
        simp only [Nat.mod_add_mod, Nat.add_assoc, Nat.add_comm j 1]

/-! ## One channel at a time -/

/-- The next port of a side can be opened. -/
theorem exists_turn (expands : Expands expand side) (inside : position < side.length) :
    ∃ r queue, side[(position + 1) % side.length]? = some r ∧ expand r = .ok queue := by
  have bound : (position + 1) % side.length < side.length := Nat.mod_lt _ (Nat.zero_lt_of_lt inside)
  obtain ⟨queue, expanded⟩ := expands _ (List.getElem_mem bound)
  exact ⟨_, queue, List.getElem?_eq_getElem bound, expanded⟩

/-- The channel at hand is read without opening a port. -/
theorem next_cons : Replay.next expand i side a ⟨position, port, c :: cs⟩ =
    .ok (port, c, ⟨position, port, cs⟩) := by
  rw [Replay.next]

/-- The next channel of a replay is the one whose turn it is. -/
theorem Replay.At.next (expands : Expands expand side) (h : replay.At expand side k)
    (within : replay.Within expand side a) :
    ∃ y rest, replay.next expand i side a = .ok (y.1, y.2, rest) ∧
      (sideChannels expand side)[k % (sideChannels expand side).length]? = some y ∧
      Replay.At expand side (k + 1) rest := by
  induction a generalizing replay with
  | zero =>
      obtain ⟨position, port, cs⟩ := replay
      cases cs with
      | nil =>
          rcases within with there | ⟨j, hj, -⟩
          · exact absurd rfl there
          · exact absurd hj (Nat.not_lt_zero j)
      | cons c cs => exact ⟨(port, c), _, next_cons, h.take⟩
  | succ a ih =>
      obtain ⟨position, port, cs⟩ := replay
      cases cs with
      | nil =>
          obtain ⟨r, queue, hr, expanded⟩ := exists_turn expands h.position
          obtain ⟨y, rest, found, turn, after⟩ := ih (h.turn hr expanded) (within.turn hr expanded)
          refine ⟨y, rest, ?_, turn, after⟩
          rw [Replay.next, hr]
          simp only [expanded]
          exact found
      | cons c cs => exact ⟨(port, c), _, next_cons, h.take⟩

/-- The channels of a port are wired to those whose turn it is. -/
theorem Replay.At.serve (expands : Expands expand side) (channels : sideChannels expand side ≠ [])
    (port : PortKey) (ds : List PortChannel) (h : replay.At expand side k) :
    ∃ ps rest, replay.serve expand i side port ds = .ok (ps, rest) ∧
      ps.map some = wiring (sideChannels expand side) k (ds.map (port, ·)) ∧
      Replay.At expand side (k + ds.length) rest := by
  induction ds generalizing replay k with
  | nil => exact ⟨[], replay, rfl, rfl, h⟩
  | cons d ds ih =>
      obtain ⟨y, rest, found, turn, after⟩ := h.next (i := i) expands (h.within channels)
      obtain ⟨ps, final, served, wired, last⟩ := ih after
      refine ⟨⟨y.1, y.2, port, d⟩ :: ps, final, ?_, ?_, ?_⟩
      · rw [Replay.serve, found]
        simp only [bind, Except.bind, served]
        rfl
      · rw [List.map_cons, List.map_cons, wiring_cons turn, wired]
      · rwa [List.length_cons, show k + (ds.length + 1) = k + 1 + ds.length by omega]

/-- The channels of ports are wired to those whose turn it is. -/
theorem Replay.At.serveAll (expands : Expands expand side) (others : Expands expand rs)
    (channels : sideChannels expand side ≠ []) (h : replay.At expand side k) :
    ∃ ps, replay.serveAll expand i side rs = .ok ps ∧
      ps.map some = wiring (sideChannels expand side) k (sideChannels expand rs) := by
  induction rs generalizing replay k with
  | nil => exact ⟨[], rfl, rfl⟩
  | cons r rs ih =>
      obtain ⟨⟨queue, expanded⟩, others⟩ := List.forall_mem_cons.mp others
      obtain ⟨ps, rest, served, wired, after⟩ :=
        h.serve (i := i) expands channels r.key queue.all
      obtain ⟨more, servedAll, wiredAll⟩ := ih others after
      refine ⟨ps ++ more, ?_, ?_⟩
      · rw [Replay.serveAll, expanded]
        simp only [bind, Except.bind, served, servedAll]
        rfl
      · rw [sideChannels_cons, refChannels_eq expanded, wiring_append, List.length_map,
          List.map_append, wired, wiredAll]

/-! ## Many channels at a time -/

/-- A run of channels at hand wires those whose turn it is. -/
theorem Replay.At.run {source : PortKey} (h : Replay.At expand side k ⟨position, source, cs⟩)
    (port : PortKey) (hl : n ≤ cs.length) (hr : n ≤ ds.length) :
    (runPairs n source port cs ds).map some =
        wiring (sideChannels expand side) k ((ds.take n).map (port, ·)) ∧
      Replay.At expand side (k + n) ⟨position, source, cs.drop n⟩ := by
  induction n generalizing cs ds k with
  | zero => exact ⟨rfl, h⟩
  | succ n ih =>
      obtain ⟨c, cs, rfl⟩ := List.exists_cons_of_length_pos (Nat.lt_of_lt_of_le n.succ_pos hl)
      obtain ⟨d, ds, rfl⟩ := List.exists_cons_of_length_pos (Nat.lt_of_lt_of_le n.succ_pos hr)
      obtain ⟨turn, rest⟩ := h.take
      obtain ⟨wired, after⟩ := ih rest (by simpa using hl) (by simpa using hr)
      constructor
      · rw [List.take_succ_cons, List.map_cons, wiring_cons turn, ← wired]
        rfl
      · rwa [show k + (n + 1) = k + 1 + n by omega]

/-- Going on to the next port, if no channel is at hand, brings the next channel one port nearer. -/
theorem exists_advance (whole : Whole expand) (expands : Expands expand side)
    (h : reader.replay.At expand side k) (within : reader.replay.Within expand side (a + 1)) :
    ∃ opened, reader.advance expand i side = .ok opened ∧ opened.replay.At expand side k ∧
      opened.replay.Within expand side a := by
  obtain ⟨position, ⟨source, taken, cs⟩⟩ := reader
  cases cs with
  | nil =>
      obtain ⟨r, queue, hr, expanded⟩ := exists_turn expands h.position
      change side[(position + 1) % side.length]? = some r at hr
      have opened : Reader.replay ⟨(position + 1) % side.length, queue⟩ =
          ⟨(position + 1) % side.length, r.key, queue.all⟩ := by
        rw [Reader.replay, (whole r queue expanded).1, whole.all_eq expanded]
      refine ⟨⟨(position + 1) % side.length, queue⟩, ?_, ?_, ?_⟩
      · unfold Reader.advance
        simp only [List.isEmpty_nil, if_true, hr, expanded]
        rfl
      · rw [opened]
        exact h.turn hr expanded
      · rw [opened]
        exact within.turn hr expanded
  | cons c cs => exact ⟨_, rfl, h, Or.inl (List.cons_ne_nil c cs)⟩

/-- A queue that is empty is served. -/
theorem serve_empty (h : right.left = []) :
    reader.serve expand i side rounds right = .ok ([], reader) := by
  cases rounds with
  | zero => rw [Reader.serve, h]; rfl
  | succ rounds => rw [Reader.serve, h]; rfl

/-- Serving a queue ends. It takes a run for each port on the way to the first channel, and for each
further channel as many runs as the side has ports, at most. -/
theorem exists_serve_runs (whole : Whole expand) (expands : Expands expand side)
    (channels : sideChannels expand side ≠ []) (h : reader.replay.At expand side k)
    (within : reader.replay.Within expand side a) (pos : 0 < a)
    (enough : right.left.length * side.length + a ≤ rounds + side.length) :
    ∃ ps rest, reader.serve expand i side rounds right = .ok (ps, rest) ∧
      ps.map some = wiring (sideChannels expand side) k (right.left.map (right.port, ·)) ∧
      rest.replay.At expand side (k + right.left.length) := by
  induction rounds generalizing reader right k a with
  | zero =>
      have served : right.left = [] := by
        rw [← List.length_eq_zero_iff]
        by_contra wanted
        have := Nat.le_mul_of_pos_left side.length (Nat.pos_of_ne_zero wanted)
        omega
      refine ⟨[], reader, serve_empty served, ?_, ?_⟩
      · rw [served]
        rfl
      · rwa [served]
  | succ rounds ih =>
      by_cases wanted : right.left = []
      · refine ⟨[], reader, serve_empty wanted, ?_, ?_⟩
        · rw [wanted]
          rfl
        · rwa [wanted]
      · obtain ⟨b, rfl⟩ := Nat.exists_eq_succ_of_ne_zero pos.ne'
        obtain ⟨opened, advanced, turn, within⟩ := exists_advance (i := i) whole expands h within
        obtain ⟨n, hn⟩ : ∃ n, n = min opened.queue.left.length right.left.length := ⟨_, rfl⟩
        have hr : n ≤ right.left.length := hn ▸ Nat.min_le_right _ _
        obtain ⟨wired, after⟩ := turn.run right.port (hn ▸ Nat.min_le_left _ _) hr
        have left : (right.after n).left.length = right.left.length - n := List.length_drop
        obtain ⟨a, within, pos, enough⟩ : ∃ a,
            Replay.Within expand side a (Reader.replay ⟨opened.position, opened.queue.after n⟩) ∧
            0 < a ∧ (right.after n).left.length * side.length + a ≤ rounds + side.length := by
          by_cases there : opened.queue.left = []
          · -- nothing was taken, but the next channel has come nearer
            have nothing : n = 0 := by rw [hn, there, List.length_nil, Nat.zero_min]
            have nearer : 0 < b := by
              rcases within with atHand | ⟨j, hj, -⟩
              · exact absurd there atHand
              · exact Nat.zero_lt_of_lt hj
            rw [left, nothing, Nat.sub_zero]
            exact ⟨b, within, nearer, by omega⟩
          · -- a channel was taken at least, so the next one may be a whole lap away
            refine ⟨side.length, after.within channels, Nat.zero_lt_of_lt h.position, ?_⟩
            have something : 0 < n :=
              hn ▸ Nat.lt_min.mpr ⟨List.length_pos_iff.mpr there, List.length_pos_iff.mpr wanted⟩
            have fewer : (right.left.length - n + 1) * side.length ≤
                right.left.length * side.length := Nat.mul_le_mul_right _ (by omega)
            rw [Nat.succ_mul] at fewer
            rw [left]
            omega
        obtain ⟨ps, rest, served, more, last⟩ := ih after within pos enough
        refine ⟨runPairs n opened.queue.port right.port opened.queue.left right.left ++ ps, rest,
          ?_, ?_, ?_⟩
        · rw [serve_succ advanced wanted hn, served]
          rfl
        · have parts : right.left.map (right.port, ·) =
              (right.left.take n).map (right.port, ·) ++ (right.left.drop n).map (right.port, ·) := by
            rw [← List.map_append, List.take_append_drop]
          rw [List.map_append, wired, more, parts, wiring_append, List.length_map, List.length_take,
            Nat.min_eq_left hr]
          rfl
        · rwa [left, Nat.add_assoc, Nat.add_sub_cancel' hr] at last

/-- Serving queues ends, if each of them is served in as many runs as it takes. -/
theorem exists_serveAll_runs (whole : Whole expand) (expands : Expands expand side)
    (others : Expands expand rs) (channels : sideChannels expand side ≠ [])
    (h : reader.replay.At expand side k)
    (enough : ∀ r ∈ rs, (refChannels expand r).length * side.length ≤ rounds) :
    ∃ ps, reader.serveAllWithin expand i side rounds rs = .ok ps ∧
      ps.map some = wiring (sideChannels expand side) k (sideChannels expand rs) := by
  induction rs generalizing reader k with
  | nil => exact ⟨[], rfl, rfl⟩
  | cons r rs ih =>
      obtain ⟨⟨right, expanded⟩, others⟩ := List.forall_mem_cons.mp others
      obtain ⟨first, enough⟩ := List.forall_mem_cons.mp enough
      rw [refChannels_eq expanded, List.length_map, whole.all_eq expanded] at first
      obtain ⟨ps, rest, served, wired, after⟩ := exists_serve_runs (i := i) whole expands channels h
        (h.within channels) (Nat.zero_lt_of_lt h.position) (Nat.add_le_add_right first _)
      obtain ⟨more, servedAll, wiredAll⟩ := ih others after enough
      refine ⟨ps ++ more, ?_, ?_⟩
      · rw [Reader.serveAllWithin, expanded]
        simp only [bind, Except.bind, served, servedAll]
        rfl
      · rw [sideChannels_cons, refChannels_eq expanded, whole.all_eq expanded, wiring_append,
          List.length_map, List.map_append, wired, wiredAll, (whole r right expanded).1]

/-! ## Statements -/

/-- Whether a statement has a right side and a channel on its left side, and refers to declared
ports. -/
structure Statement.Supplied (p : Program) (owners : Owners) (s : Statement) : Prop where
  /-- The right side names a port. -/
  right : s.right ≠ []
  /-- All references name declared ports. -/
  declared : ∀ r ∈ s.left ++ s.right, ∃ shape, p.shape? r.key = some shape
  /-- The ports on the left have a channel, all in all. -/
  channels : sideChannels (p.expand owners) s.left ≠ []

/-- Which pairs an iterated statement has. -/
structure Statement.Replayed (expand : Expansion) (s : Statement) (ps : List ChannelPair) : Prop where
  /-- There is a pair for each channel on the right. -/
  length : ps.length = (sideChannels expand s.right).length
  /-- The `k`-th channel on the right is connected to channel `k` on the left, counted round and
  round. -/
  wired : ∀ k d, (sideChannels expand s.right)[k]? = some d →
    ∃ c, (sideChannels expand s.left)[k % (sideChannels expand s.left).length]? = some c ∧
      ps[k]? = some ⟨c.1, c.2, d.1, d.2⟩

/-- The statements of a program that passes its checks are supplied. -/
theorem supplied_of_validate (valid : p.validate = .ok ()) (hs : s ∈ p.statements)
    (owners : Owners) : s.Supplied p owners := by
  have sound := (validate_eq_ok_iff.mp valid).statements s hs
  refine ⟨sound.right, sound.declared, ?_⟩
  obtain ⟨l, ls, hl⟩ := List.exists_cons_of_ne_nil sound.left
  obtain ⟨queue, expanded⟩ := sound.expands owners l (by rw [hl]; exact List.mem_cons_self)
  rw [hl, sideChannels_cons, refChannels_eq expanded]
  -- no port is empty, so the first one has a channel already
  intro nothing
  have empty := List.map_eq_nil_iff.mp (List.append_eq_nil_iff.mp nothing).1
  rw [(fresh_expand valid owners).all_eq expanded] at empty
  exact (fresh_expand valid owners l queue expanded).2.2 empty

/-- Pairs that are wired as the sides are, are those of the statement. -/
theorem replayed_of_wiring {ps : List ChannelPair} (h : ps.map some =
    wiring (sideChannels expand s.left) 0 (sideChannels expand s.right)) : s.Replayed expand ps := by
  constructor
  · have lengths := congrArg List.length h
    unfold wiring at lengths
    rwa [List.length_map, List.length_map, List.length_zipIdx] at lengths
  · intro k d hd
    have at_k := congrArg (·[k]?) h
    unfold wiring at at_k
    simp only [List.getElem?_map, List.getElem?_zipIdx, hd, Option.map_some, Nat.zero_add] at at_k
    obtain ⟨q, hq, found⟩ := Option.map_eq_some_iff.mp at_k
    obtain ⟨c, hc, rfl⟩ := Option.map_eq_some_iff.mp found.symm
    exact ⟨c, hc, hq⟩

/-- A side with channels has a first port, which can be opened. -/
theorem exists_first (expands : Expands expand side) (channels : sideChannels expand side ≠ []) :
    ∃ l ls queue, side = l :: ls ∧ expand l = .ok queue := by
  obtain ⟨l, ls, rfl⟩ : ∃ l ls, side = l :: ls := by
    apply List.exists_cons_of_ne_nil
    rintro rfl
    exact channels rfl
  obtain ⟨queue, expanded⟩ := expands l List.mem_cons_self
  exact ⟨l, ls, queue, rfl, expanded⟩

/-- One at a time, the channels of an iterated statement are wired as its sides are. -/
theorem exists_pairs_wired (iterated : s.iterated = true) (left : Expands expand s.left)
    (right : Expands expand s.right) (wanted : s.right ≠ [])
    (channels : sideChannels expand s.left ≠ []) :
    ∃ ps, s.pairs expand i = .ok ps ∧
      ps.map some = wiring (sideChannels expand s.left) 0 (sideChannels expand s.right) := by
  obtain ⟨l, ls, queue, hl, expanded⟩ := exists_first left channels
  obtain ⟨r, rs, hr⟩ := List.exists_cons_of_ne_nil wanted
  have start : Replay.At expand s.left 0 ⟨0, l.key, queue.all⟩ :=
    Replay.At.start (by rw [hl]; rfl) expanded
  obtain ⟨ps, served, wired⟩ := start.serveAll (i := i) left right channels
  refine ⟨ps, ?_, wired⟩
  unfold Statement.pairs
  rw [hl, hr] at served ⊢
  simp only [iterated, if_true, expanded]
  exact served

/-- In runs, they are so too. -/
theorem exists_replayWithin_wired (whole : Whole expand) (left : Expands expand s.left)
    (right : Expands expand s.right) (wanted : s.right ≠ [])
    (channels : sideChannels expand s.left ≠ [])
    (enough : (sideChannels expand s.right).length * s.left.length ≤ rounds) :
    ∃ ps, s.replayWithin expand i rounds = .ok ps ∧
      ps.map some = wiring (sideChannels expand s.left) 0 (sideChannels expand s.right) := by
  obtain ⟨l, ls, queue, hl, expanded⟩ := exists_first left channels
  obtain ⟨r, rs, hr⟩ := List.exists_cons_of_ne_nil wanted
  have start : Replay.At expand s.left 0 (Reader.replay ⟨0, queue⟩) := by
    rw [Reader.replay, (whole l queue expanded).1, ← whole.all_eq expanded]
    exact Replay.At.start (by rw [hl]; rfl) expanded
  have allowed : ∀ r ∈ s.right, (refChannels expand r).length * s.left.length ≤ rounds :=
    fun r hr => (Nat.mul_le_mul_right _ (length_refChannels_le hr)).trans enough
  obtain ⟨ps, served, wired⟩ := exists_serveAll_runs (i := i) whole left right channels start allowed
  refine ⟨ps, ?_, wired⟩
  unfold Statement.replayWithin
  rw [hl, hr] at served ⊢
  simp only [expanded]
  exact served

/-- **An iterated statement connects its right side to its left side, round and round.** This is so
where all references name declared ports and there is a channel on the left, hence in every program
that passes its checks. The loop over runs ends with the same pairs, after no more runs for a port
on the right than there are channels on the right times ports on the left. -/
theorem pairs_replayed (p : Program) (owners : Owners) (i : Nat) (s : Statement)
    (iterated : s.iterated = true) :
    (p.validate = .ok () → s ∈ p.statements → s.Supplied p owners) ∧
    (s.Supplied p owners → ∃ ps, s.pairs (p.expand owners) i = .ok ps ∧
      s.Replayed (p.expand owners) ps ∧
      ∀ rounds, (sideChannels (p.expand owners) s.right).length * s.left.length ≤ rounds →
        s.replayWithin (p.expand owners) i rounds = .ok ps) := by
  refine ⟨fun valid hs => supplied_of_validate valid hs owners, fun supplied => ?_⟩
  have expands := expands_of_declared supplied.declared owners
  have left : Expands (p.expand owners) s.left := fun r hr => expands r (List.mem_append_left _ hr)
  have right : Expands (p.expand owners) s.right := fun r hr => expands r (List.mem_append_right _ hr)
  obtain ⟨ps, hps, wired⟩ :=
    exists_pairs_wired (i := i) iterated left right supplied.right supplied.channels
  refine ⟨ps, hps, replayed_of_wiring wired, fun rounds enough => ?_⟩
  obtain ⟨qs, hqs, wired'⟩ := exists_replayWithin_wired (i := i) (whole_expand p owners) left right
    supplied.right supplied.channels enough
  -- both are wired as the sides are
  obtain rfl : qs = ps :=
    List.map_injective_iff.mpr (Option.some_injective _) (wired'.trans wired.symm)
  exact hqs

/-- A statement on whose left side every other port is empty. -/
def gapped : Statement where
  left := [.ofInstance "a" "none", .ofInstance "a" "x", .ofInstance "a" "none", .ofInstance "a" "z"]
  right := [.ofInstance "b" "d", .ofInstance "b" "e"]
  iterated := true

/-- A program with that statement, which does not pass the checks. -/
def gaps : Program where
  name := "gaps"
  instances := [
    { name := "a", ports := [⟨"none", 0⟩, ⟨"x", 2⟩, ⟨"z", 1⟩] },
    { name := "b", ports := [⟨"d", 4⟩, ⟨"e", 1⟩] }]
  statements := [gapped]

/-- The names of the ports at the ends of a pair, with the indices of the channels. -/
def ChannelPair.ends (q : ChannelPair) : (String × Nat) × String × Nat :=
  ((q.sourcePort.port, q.source.portIndex), q.destinationPort.port, q.destination.portIndex)

/-- Its channels are connected nevertheless, and the second lap goes on behind the first port on the
right. -/
theorem gaps_replayed : gapped.iterated = true ∧ gapped.Supplied gaps [] ∧
    ∃ ps, gapped.pairs (gaps.expand []) 0 = .ok ps ∧ gapped.Replayed (gaps.expand []) ps ∧
      gapped.replayWithin (gaps.expand []) 0 20 = .ok ps ∧
      ps.map (·.ends) = [(("x", 0), "d", 0), (("x", 1), "d", 1), (("z", 0), "d", 2),
        (("x", 0), "d", 3), (("x", 1), "e", 0)] := by
  have declared : ∀ r ∈ gapped.left ++ gapped.right, (gaps.shape? r.key).isSome = true := by
    decide +kernel
  have supplied : gapped.Supplied gaps [] :=
    ⟨List.cons_ne_nil _ _, fun r hr => Option.isSome_iff_exists.mp (declared r hr), by decide +kernel⟩
  have found : (gapped.pairs (gaps.expand []) 0).toOption.map (List.map (·.ends)) =
      some [(("x", 0), "d", 0), (("x", 1), "d", 1), (("z", 0), "d", 2), (("x", 0), "d", 3),
        (("x", 1), "e", 0)] := by decide +kernel
  obtain ⟨ps, hps, replayed, ended⟩ := (pairs_replayed gaps [] 0 gapped rfl).2 supplied
  rw [hps] at found
  exact ⟨rfl, supplied, ps, hps, replayed, ended 20 (by decide +kernel), Option.some.inj found⟩

end ReactorNet
