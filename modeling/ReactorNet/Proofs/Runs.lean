import ReactorNet.Connection.Runs
import ReactorNet.Proofs.Validation

/-!
# `ReactorNet.Proofs.Runs` · no queue is asked for too much

A statement is paired one channel at a time, or in runs that take from two queues what both hold.
`pairsInRuns_eq` says that for a program that passes its checks the outcome is the same, fault or
not. So no queue is asked for more channels than are left: this fault arises in runs only, and
pairing one channel at a time has none like it.

**Why every round gets on.** No port of a checked program is empty. Hence there are channels at hand
after one port was opened at most, and a run takes one of them at least.
-/

namespace ReactorNet

variable {p : Program} {owners : Owners} {expand : Expansion} {i rounds n : Nat} {side : List PortRef}
  {port source : PortKey} {position : Nat} {cs ds : List PortChannel} {left right : ChannelQueue}
  {reader : Reader}

/-- Whether references expand to queues of their ports, of which nothing was taken. -/
def Whole (expand : Expansion) : Prop :=
  ∀ r queue, expand r = .ok queue → queue.port = r.key ∧ queue.taken = []

/-- A program expands references to whole queues. -/
theorem whole_expand (p : Program) (owners : Owners) : Whole (p.expand owners) := by
  intro r queue h
  unfold Program.expand at h
  split at h
  · cases h
    exact ⟨rfl, rfl⟩
  · cases h

/-- All channels of a whole queue are left. -/
theorem Whole.all_eq (whole : Whole expand) {r : PortRef} {queue : ChannelQueue}
    (h : expand r = .ok queue) : queue.all = queue.left := by
  rw [ChannelQueue.all, (whole r queue h).2, List.nil_append]

/-- Whether references expand to queues of their ports which are not empty and of which nothing was
taken. -/
def Fresh (expand : Expansion) : Prop :=
  ∀ r queue, expand r = .ok queue → queue.port = r.key ∧ queue.taken = [] ∧ queue.left ≠ []

/-- Fresh queues are whole. -/
theorem Fresh.whole (fresh : Fresh expand) : Whole expand :=
  fun r queue h => ⟨(fresh r queue h).1, (fresh r queue h).2.1⟩

/-- All channels of a fresh queue are left. -/
theorem Fresh.all_eq (fresh : Fresh expand) {r : PortRef} {queue : ChannelQueue}
    (h : expand r = .ok queue) : queue.all = queue.left :=
  fresh.whole.all_eq h

/-- The references of a program that passes its checks expand to fresh queues. -/
theorem fresh_expand (valid : p.validate = .ok ()) (owners : Owners) : Fresh (p.expand owners) := by
  intro r queue h
  obtain ⟨hport, taken⟩ := whole_expand p owners r queue h
  refine ⟨hport, taken, ?_⟩
  unfold Program.expand at h
  split at h
  · rename_i bankWidth portWidth shape
    cases h
    obtain ⟨hb, hw⟩ := (validate_eq_ok_iff.mp valid).shape?_pos shape
    -- the channel with both indices 0 is there, in whichever order they are counted
    unfold portChannels
    split
    · intro h
      rw [List.flatMap_eq_nil_iff] at h
      have := h 0 (List.mem_range.mpr hw)
      simp at this
      omega
    · intro h
      rw [List.flatMap_eq_nil_iff] at h
      have := h 0 (List.mem_range.mpr hb)
      simp at this
      omega
  · cases h

/-! ## One run -/

/-- A queue after `n` channels were taken from it. -/
def ChannelQueue.after (q : ChannelQueue) (n : Nat) : ChannelQueue :=
  { q with taken := q.taken ++ q.left.take n, left := q.left.drop n }

/-- The pairs that a run takes from two queues. -/
def runPairs (n : Nat) (source port : PortKey) (cs ds : List PortChannel) : List ChannelPair :=
  List.zipWith (⟨source, ·, port, ·⟩) (cs.take n) (ds.take n)

/-- A queue that has `n` channels left can hand them out. -/
theorem take_eq {q : ChannelQueue} (h : n ≤ q.left.length) :
    q.take n = .ok (q.left.take n, q.after n) := by
  rw [ChannelQueue.take, ChannelQueue.take?, if_pos h]
  rfl

/-- A run that takes no more than there is pairs the channels in front. -/
theorem pairRun_eq (hl : n ≤ left.left.length) (hr : n ≤ right.left.length) :
    pairRun n left right =
      .ok (runPairs n left.port right.port left.left right.left, left.after n, right.after n) := by
  rw [pairRun, take_eq hl]
  simp only [bind, Except.bind, take_eq hr]
  rfl

/-- Served one at a time, channels are paired as in a run, as long as the port at hand has
channels. -/
theorem serve_eq_run (hl : n ≤ cs.length) (hr : n ≤ ds.length) :
    Replay.serve expand i side port ds ⟨position, source, cs⟩ =
      (Replay.serve expand i side port (ds.drop n) ⟨position, source, cs.drop n⟩).map fun x =>
        (runPairs n source port cs ds ++ x.1, x.2) := by
  induction n generalizing cs ds with
  | zero =>
      simp only [runPairs, List.take_zero, List.zipWith_nil_left, List.drop_zero, List.nil_append]
      cases Replay.serve expand i side port ds ⟨position, source, cs⟩ with
      | error fault => rfl
      | ok x => rfl
  | succ n ih =>
      obtain ⟨c, cs, rfl⟩ := List.exists_cons_of_length_pos (Nat.lt_of_lt_of_le n.succ_pos hl)
      obtain ⟨d, ds, rfl⟩ := List.exists_cons_of_length_pos (Nat.lt_of_lt_of_le n.succ_pos hr)
      have next : Replay.next expand i side side.length ⟨position, source, c :: cs⟩ =
          .ok (source, c, ⟨position, source, cs⟩) := by rw [Replay.next]
      have rest := @ih cs ds (by simpa using hl) (by simpa using hr)
      simp only [Replay.serve, next, bind, Except.bind, rest, List.drop_succ_cons]
      cases Replay.serve expand i side port (ds.drop n) ⟨position, source, cs.drop n⟩ with
      | error fault => rfl
      | ok x => rfl

/-! ## Many runs -/

/-- How far the left side has been replayed, without what was taken. -/
def Reader.replay (reader : Reader) : Replay := ⟨reader.position, reader.queue.port, reader.queue.left⟩

/-- Where channels are to be served, the left side goes on to the port that has channels. -/
theorem serve_eq_advance (fresh : Fresh expand) (h : ds ≠ []) :
    Replay.serve expand i side port ds reader.replay =
      (reader.advance expand i side >>= fun opened =>
        Replay.serve expand i side port ds opened.replay) := by
  obtain ⟨d, es, rfl⟩ := List.exists_cons_of_ne_nil h
  obtain ⟨position, ⟨source, taken, cs⟩⟩ := reader
  cases cs with
  | cons c cs => rfl
  | nil =>
      have next : Replay.next expand i side side.length ⟨position, source, []⟩ =
          ((Reader.mk position ⟨source, taken, []⟩).advance expand i side >>= fun opened =>
            Replay.next expand i side side.length opened.replay) := by
        unfold Reader.advance
        cases hn : side.length with
        | zero =>
            obtain rfl := List.length_eq_zero_iff.mp hn
            rfl
        | succ attempts =>
            rw [Replay.next]
            simp only [hn, List.isEmpty_nil, if_true]
            cases hr : side[(position + 1) % (attempts + 1)]? with
            | none => rfl
            | some r =>
                cases hq : expand r with
                | error fault => simp [hq, bind, Except.bind, Except.map]
                | ok queue =>
                    obtain ⟨hport, -, nonempty⟩ := fresh r queue hq
                    obtain ⟨c, cs, hcs⟩ := List.exists_cons_of_ne_nil nonempty
                    simp only [hq, bind, Except.bind, Except.map, Reader.replay,
                      fresh.all_eq hq, hcs, hport]
                    rw [Replay.next, Replay.next]
      simp only [Replay.serve, Reader.replay] at next ⊢
      rw [next]
      cases (Reader.mk position ⟨source, taken, []⟩).advance expand i side with
      | error fault => rfl
      | ok opened => rfl

/-- Where the left side was opened, channels are at hand. -/
theorem left_ne_nil_of_advance (fresh : Fresh expand) {opened : Reader}
    (h : reader.advance expand i side = .ok opened) : opened.queue.left ≠ [] := by
  unfold Reader.advance at h
  split at h
  · dsimp only at h
    split at h
    · rename_i r _
      obtain ⟨queue, expanded, rfl⟩ := map_eq_ok_iff.mp h
      exact (fresh r queue expanded).2.2
    · cases h
  · rename_i there
    cases h
    simpa using there

/-- A round takes from either queue what both hold. -/
theorem serve_succ {opened : Reader} (hopened : reader.advance expand i side = .ok opened)
    (wanted : right.left ≠ []) (hn : n = min opened.queue.left.length right.left.length) :
    reader.serve expand i side (rounds + 1) right =
      (Reader.serve expand i side rounds (right.after n)
        ⟨opened.position, opened.queue.after n⟩).map fun x =>
          (runPairs n opened.queue.port right.port opened.queue.left right.left ++ x.1, x.2) := by
  have hl : n ≤ opened.queue.left.length := hn ▸ Nat.min_le_left _ _
  have hr : n ≤ right.left.length := hn ▸ Nat.min_le_right _ _
  rw [Reader.serve, hopened]
  simp only [List.isEmpty_iff, wanted, if_false, bind, Except.bind, ← hn, pairRun_eq hl hr]
  cases Reader.serve expand i side rounds (right.after n) ⟨opened.position, opened.queue.after n⟩ with
  | error fault => rfl
  | ok x => rfl

/-- Serving a queue in runs is serving its channels one at a time. -/
theorem serve_runs (fresh : Fresh expand) (enough : right.left.length ≤ rounds) :
    (reader.serve expand i side rounds right).map (fun x => (x.1, x.2.replay)) =
      Replay.serve expand i side right.port right.left reader.replay := by
  induction rounds generalizing right reader with
  | zero =>
      have empty : right.left = [] := List.length_eq_zero_iff.mp (by omega)
      rw [Reader.serve, empty]
      rfl
  | succ rounds ih =>
      by_cases empty : right.left = []
      · rw [Reader.serve, empty]
        rfl
      · rw [serve_eq_advance fresh empty]
        cases hopened : reader.advance expand i side with
        | error fault =>
            rw [Reader.serve, hopened]
            simp only [List.isEmpty_iff, empty, if_false]
            rfl
        | ok opened =>
            have there := List.length_pos_iff.mpr (left_ne_nil_of_advance fresh hopened)
            have wanted := List.length_pos_iff.mpr empty
            obtain ⟨n, hn⟩ : ∃ n, n = min opened.queue.left.length right.left.length := ⟨_, rfl⟩
            -- a channel at least is taken, so one round less is enough for the rest
            have fewer : (right.after n).left.length ≤ rounds := by
              rw [ChannelQueue.after, List.length_drop]
              omega
            have rest := @ih (right.after n) ⟨opened.position, opened.queue.after n⟩ fewer
            rw [serve_succ hopened empty hn]
            change _ = Replay.serve expand i side right.port right.left opened.replay
            rw [Reader.replay, serve_eq_run (n := n) (by omega) (by omega)]
            change _ = (Replay.serve expand i side right.port (right.after n).left
              (Reader.replay ⟨opened.position, opened.queue.after n⟩)).map _
            rw [show right.port = (right.after n).port from rfl, ← rest]
            cases Reader.serve expand i side rounds (right.after n)
              ⟨opened.position, opened.queue.after n⟩ with
            | error fault => rfl
            | ok x => rfl

/-- Serving ports in runs is serving them one channel at a time. -/
theorem serveAll_runs (fresh : Fresh expand) (rs : List PortRef) (reader : Reader) :
    reader.serveAll expand i side rs = reader.replay.serveAll expand i side rs := by
  induction rs generalizing reader with
  | nil => rfl
  | cons r rs ih =>
      rw [Reader.serveAll, Replay.serveAll]
      cases hr : expand r with
      | error fault => rfl
      | ok right =>
          have run : (reader.serve expand i side right.left.length right).map
              (fun x => (x.1, x.2.replay)) =
                Replay.serve expand i side right.port right.left reader.replay :=
            serve_runs fresh (Nat.le_refl _)
          rw [(fresh r right hr).1] at run
          simp only [bind, Except.bind, fresh.all_eq hr, ← run]
          cases reader.serve expand i side right.left.length right with
          | error fault => rfl
          | ok x => simp only [Except.map, ih]

/-! ## Statements -/

/-- Pairing ports in runs is pairing all of their channels. -/
theorem pairPortsInRuns_eq (fresh : Fresh expand) (ls rs : List PortRef) :
    pairPortsInRuns expand i ls rs = pairPorts expand i ls rs := by
  induction ls generalizing rs with
  | nil => rfl
  | cons l ls ih =>
      cases rs with
      | nil => rfl
      | cons r rs =>
          rw [pairPortsInRuns, pairPorts, ih]
          cases hl : expand l with
          | error fault => rfl
          | ok left =>
              cases hr : expand r with
              | error fault => rfl
              | ok right =>
                  simp only [bind, Except.bind, fresh.all_eq hl, fresh.all_eq hr]
                  by_cases same : left.left.length = right.left.length
                  · rw [pairRun_eq (Nat.le_refl _) same.le, (fresh l left hl).1, (fresh r right hr).1]
                    simp only [runPairs, same, List.take_length, bne_self_eq_false]
                    rw [← same, List.take_length]
                  · have differ : (left.left.length != right.left.length) = true := bne_iff_ne.mpr same
                    simp only [differ, if_true]
                    rfl

/-- Where references expand to fresh queues, the pairs of a statement can be listed in runs. -/
theorem pairsInRuns_eq_of_fresh (fresh : Fresh expand) (s : Statement) :
    s.pairsInRuns expand i = s.pairs expand i := by
  unfold Statement.pairsInRuns Statement.pairs
  cases s.left with
  | nil => rfl
  | cons l ls =>
      cases s.right with
      | nil => rfl
      | cons r rs =>
          simp only [pairPortsInRuns_eq fresh]
          cases hl : expand l with
          | error fault => rfl
          | ok queue =>
              simp only [bind, Except.bind, serveAll_runs fresh, Reader.replay, fresh.all_eq hl,
                (fresh l queue hl).1]

/-- **No queue is asked for too much.** For a program that passes its checks, the pairs of a
statement or the fault instead of them are the same whether queues are emptied in runs or not. -/
theorem pairsInRuns_eq (valid : p.validate = .ok ()) (owners : Owners) (s : Statement) (i : Nat) :
    s.pairsInRuns (p.expand owners) i = s.pairs (p.expand owners) i :=
  pairsInRuns_eq_of_fresh (fresh_expand valid owners) s

end ReactorNet
