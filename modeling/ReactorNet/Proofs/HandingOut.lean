import ReactorNet.Port.Session
import ReactorNet.Proofs.Runs

/-!
# `ReactorNet.Proofs.HandingOut` · every channel is handed out once

A queue can be asked for channels, for the number of those left and for all of them, in any order
and as often as one likes. `session_accounts` says what the answers have in common: the channels
that were handed out, one answer after the other, followed by those that are left, are all channels
of the port. A request for more channels than are left is refused, and changes nothing.

**Why no request breaks off.** A `CursorQueue` takes the difference of the number of its channels
and its cursor, adds to the cursor and reads a stretch of its array. All of that exists as long as
the cursor is within the array. A request moves the cursor by the number of channels that it hands
out (`perform?_eq`), which are among those left.

`queue` reads off a cursor which channels were handed out and which are left. In a `ChannelQueue`
the two are lists of their own, and `HandsOut` says how a request or a session changes them: what is
handed out moves from the front of one list to the end of the other. `session?_eq` takes that back
to the array.
-/

namespace ReactorNet

variable {q r t : ChannelQueue} {c : CursorQueue} {cs ds : List PortChannel} {n : Nat}

/-! ## Two lists -/

namespace ChannelQueue

/-- A request for no more channels than are left is granted. -/
theorem perform_take (h : n ≤ q.left.length) :
    q.perform (.take n) = (.handedOut (q.left.take n), q.after n) := by
  rw [perform, take_eq h]

/-- A request for more is refused. -/
theorem perform_take_of_lt (h : q.left.length < n) :
    q.perform (.take n) = (.refused (.underflow q.port n q.left.length), q) := by
  rw [perform, take, take?, if_neg (Nat.not_le.mpr h)]

/-- What it means that a queue hands out channels and is another one then. -/
structure HandsOut (q : ChannelQueue) (cs : List PortChannel) (r : ChannelQueue) : Prop where
  /-- The queue is of the same port. -/
  port : r.port = q.port
  /-- The channels are added to those that were handed out before. -/
  taken : r.taken = q.taken ++ cs
  /-- They stood in front of those that are left. -/
  left : cs ++ r.left = q.left

/-- Where nothing is handed out, the queue stays as it is. -/
theorem HandsOut.refl (q : ChannelQueue) : q.HandsOut [] q := ⟨rfl, (List.append_nil _).symm, rfl⟩

/-- What is handed out first stands in front of what is handed out then. -/
theorem HandsOut.trans (h : q.HandsOut cs r) (h' : r.HandsOut ds t) : q.HandsOut (cs ++ ds) t where
  port := h'.port.trans h.port
  taken := by rw [h'.taken, h.taken, List.append_assoc]
  left := by rw [List.append_assoc, h'.left, h.left]

/-- A queue can hand out as many channels as are left. -/
theorem handsOut_after (q : ChannelQueue) (n : Nat) : q.HandsOut (q.left.take n) (q.after n) :=
  ⟨rfl, rfl, List.take_append_drop n q.left⟩

/-- No more channels are handed out than are left. -/
theorem HandsOut.length_le (h : q.HandsOut cs r) : cs.length ≤ q.left.length := by
  rw [← h.left, List.length_append]
  exact Nat.le_add_right _ _

/-- The number of channels that are handed out says what becomes of the queue. -/
theorem HandsOut.eq_after (h : q.HandsOut cs r) : r = q.after cs.length := by
  obtain ⟨rport, rtaken, rleft⟩ := r
  obtain ⟨port, taken, left⟩ := h
  obtain rfl : rport = q.port := port
  obtain rfl : rtaken = q.taken ++ cs := taken
  rw [after, ← left, List.take_left, List.drop_left]

/-- **One request.** The channels of its answer are handed out. -/
theorem handsOut_perform (q : ChannelQueue) (request : QueueRequest) :
    q.HandsOut (q.perform request).1.channels (q.perform request).2 := by
  cases request with
  | take n =>
      by_cases h : n ≤ q.left.length
      · rw [perform_take h]
        exact q.handsOut_after n
      · rw [perform_take_of_lt (Nat.not_le.mp h)]
        exact .refl q
  | takeAll => exact ⟨rfl, rfl, List.append_nil _⟩
  | countLeft => exact .refl q
  | listAll => exact .refl q

/-- **Many requests.** The channels of their answers are handed out, one answer after the other. -/
theorem handsOut_session (q : ChannelQueue) (requests : List QueueRequest) :
    q.HandsOut ((q.session requests).1.flatMap (·.channels)) (q.session requests).2 := by
  induction requests generalizing q with
  | nil => exact .refl q
  | cons request requests ih =>
      have first := q.handsOut_perform request
      have others := ih (q.perform request).2
      rw [session, List.flatMap_cons]
      exact first.trans others

end ChannelQueue

/-! ## An array and a cursor -/

namespace CursorQueue

/-- The queue as two lists: what stands before the cursor was handed out. -/
def queue (c : CursorQueue) : ChannelQueue where
  port := c.port
  taken := c.channels.toList.take c.cursor
  left := c.channels.toList.drop c.cursor

/-- The queue after `n` further channels were handed out. -/
def advance (c : CursorQueue) (n : Nat) : CursorQueue := { c with cursor := c.cursor + n }

/-- Whether the cursor is within the array, and the array can be counted in words. -/
structure Within (c : CursorQueue) : Prop where
  /-- The cursor does not get beyond the last channel. -/
  cursor : c.cursor ≤ c.channels.size
  /-- The number of channels is a word. -/
  fits : c.channels.size < wordCount

/-- The channels that are left are those behind the cursor. -/
theorem length_left (c : CursorQueue) : c.queue.left.length = c.channels.size - c.cursor := by
  rw [queue, List.length_drop, Array.length_toList]

/-- All channels are those of the port, wherever the cursor is. -/
theorem all_queue (c : CursorQueue) : c.queue.all = c.channels.toList :=
  List.take_append_drop c.cursor c.channels.toList

/-- A cursor that is moved on twice. -/
theorem advance_advance (c : CursorQueue) (m n : Nat) :
    (c.advance m).advance n = c.advance (m + n) := by
  simp only [advance, Nat.add_assoc]

/-- Two lists change as the array does with its cursor moved on. -/
theorem queue_advance (c : CursorQueue) (n : Nat) : (c.advance n).queue = c.queue.after n := by
  simp only [queue, advance, ChannelQueue.after, List.drop_drop, List.take_add]

/-- The number of channels left exists. -/
theorem countLeft?_eq (within : c.Within) : c.countLeft? = some c.queue.left.length := by
  rw [countLeft?, subtractWords?, if_pos within.cursor, length_left]

/-- The next `n` channels exist if `n` are left. -/
theorem stretch?_eq (within : c.Within) (h : n ≤ c.queue.left.length) :
    c.stretch? c.cursor (c.cursor + n) = some (c.queue.left.take n) := by
  have low := within.cursor
  rw [length_left] at h
  rw [stretch?, if_pos ⟨by omega, by omega⟩, Array.toList_extract, List.extract_eq_take_drop,
    Nat.add_sub_cancel_left]
  rfl

/-- A cursor that is moved on by no more channels than are left stays within the array. -/
theorem Within.advance (within : c.Within) (h : n ≤ c.queue.left.length) : (c.advance n).Within := by
  obtain ⟨low, fits⟩ := within
  rw [length_left] at h
  exact ⟨show c.cursor + n ≤ c.channels.size by omega, fits⟩

/-- **One request.** It is answered as by two lists, and moves the cursor by the number of channels
that it hands out. -/
theorem perform?_eq (within : c.Within) (request : QueueRequest) :
    c.perform? request = some ((c.queue.perform request).1,
      c.advance (c.queue.perform request).1.channels.length) := by
  have low := within.cursor
  have fits := within.fits
  cases request with
  | take n =>
      by_cases h : n ≤ c.queue.left.length
      · have word : c.cursor + n < wordCount := by
          rw [length_left] at h
          omega
        have moved : (c.queue.left.take n).length = n := List.length_take_of_le h
        rw [ChannelQueue.perform_take h]
        simp only [perform?, countLeft?_eq within, Option.bind_eq_bind, Option.bind_some,
          if_neg (Nat.not_lt.mpr h), addWords?, if_pos word, stretch?_eq within h, Option.pure_def,
          QueueAnswer.channels, moved]
        rfl
      · have more := Nat.not_le.mp h
        rw [ChannelQueue.perform_take_of_lt more]
        simp only [perform?, countLeft?_eq within, Option.bind_eq_bind, Option.bind_some, if_pos more]
        rfl
  | takeAll =>
      -- all that are left reach from the cursor to the end of the array
      have size : c.cursor + c.queue.left.length = c.channels.size := by
        rw [length_left]
        omega
      have rest := stretch?_eq within (Nat.le_refl c.queue.left.length)
      rw [size, List.take_length] at rest
      simp only [perform?, rest, Option.bind_eq_bind, Option.bind_some, ChannelQueue.perform,
        ChannelQueue.takeAll, QueueAnswer.channels, advance, size, Option.pure_def]
  | countLeft =>
      simp only [perform?, countLeft?_eq within, Option.bind_eq_bind, Option.bind_some]
      rfl
  | listAll =>
      rw [perform?, ChannelQueue.perform, all_queue]
      rfl

/-- A cursor that is moved on by the number of channels that two lists hand out stays within the
array, and stands where the lists say. -/
theorem Within.handsOut (within : c.Within) (h : c.queue.HandsOut cs r) :
    (c.advance cs.length).Within ∧ (c.advance cs.length).queue = r :=
  ⟨within.advance h.length_le, by rw [queue_advance, ← h.eq_after]⟩

/-- **Many requests.** They are answered as by two lists, and move the cursor by the number of
channels that they hand out. -/
theorem session?_eq (within : c.Within) (requests : List QueueRequest) :
    c.session? requests = some ((c.queue.session requests).1,
      c.advance ((c.queue.session requests).1.flatMap (·.channels)).length) := by
  induction requests generalizing c with
  | nil => rfl
  | cons request requests ih =>
      obtain ⟨within', moved⟩ := within.handsOut (c.queue.handsOut_perform request)
      have rest := ih within'
      rw [moved] at rest
      rw [session?, perform?_eq within]
      simp only [Option.bind_eq_bind, Option.bind_some, rest, Option.pure_def, ChannelQueue.session,
        List.flatMap_cons, List.length_append, advance_advance]

/-! ## The account of a session -/

/-- What it means that of the channels of a port some were handed out by a queue, and the rest is
left. -/
structure Accounts (port : PortKey) (channels handed rest : List PortChannel) (c : CursorQueue) :
    Prop where
  /-- Every channel was either handed out or is left, and they come in the order of the port. -/
  split : handed ++ rest = channels
  /-- The cursor is within the array. -/
  within : c.cursor ≤ c.channels.size
  /-- The channels that are left are those that are handed out if all are asked for. -/
  drains : c.perform? .takeAll = some (.handedOut rest, c.advance rest.length)
  /-- The number of channels left is what the number of those handed out lacks of all. -/
  counts : ∃ n, c.perform? .countLeft = some (.counted n, c) ∧ handed.length + n = channels.length
  /-- All channels of the port are listed, handed out or not. -/
  lists : c.perform? .listAll = some (.listed channels, c)
  /-- A request for no more channels than are left gets the next ones. -/
  takes : ∀ n ≤ rest.length, c.perform? (.take n) = some (.handedOut (rest.take n), c.advance n)
  /-- A request for more is refused, and changes nothing. -/
  refuses : ∀ n, rest.length < n →
    c.perform? (.take n) = some (.refused (.underflow port n rest.length), c)

/-- A cursor within its array has an account of the channels before and behind it. -/
theorem Within.accounts (within : c.Within) :
    c.Accounts c.port c.channels.toList c.queue.taken c.queue.left where
  split := c.all_queue
  within := within.cursor
  drains := perform?_eq within .takeAll
  counts := by
    refine ⟨c.queue.left.length, perform?_eq within .countLeft, ?_⟩
    rw [← List.length_append]
    exact congrArg List.length c.all_queue
  lists := by
    rw [← all_queue]
    exact perform?_eq within .listAll
  takes n h := by
    rw [perform?_eq within, ChannelQueue.perform_take h]
    simp only [QueueAnswer.channels, List.length_take_of_le h]
  refuses n h := by
    rw [perform?_eq within, ChannelQueue.perform_take_of_lt h]
    rfl

end CursorQueue

/-- **Every channel is handed out once.** Whatever a fresh queue is asked for, no request breaks
off, and the channels that were handed out, one answer after the other, followed by those that are
left, are all channels of the port. Requests for more channels than are left are refused and change
nothing. The answers are those of a queue that keeps two lists, and at the end these are the
channels that were handed out and those that are left. The array is any one whose places can be
numbered by words. -/
theorem session_accounts (port : PortKey) (channels : Array PortChannel)
    (fits : channels.size < wordCount) (requests : List QueueRequest) :
    ∃ answers rest c, (CursorQueue.mk port channels 0).session? requests = some (answers, c) ∧
      c.Accounts port channels.toList (answers.flatMap (·.channels)) rest ∧
      (ChannelQueue.mk port [] channels.toList).session requests =
        (answers, ⟨port, answers.flatMap (·.channels), rest⟩) := by
  have within : (CursorQueue.mk port channels 0).Within := ⟨Nat.zero_le _, fits⟩
  have answered := CursorQueue.session?_eq within requests
  have handed := (CursorQueue.mk port channels 0).queue.handsOut_session requests
  obtain ⟨within', moved⟩ := within.handsOut handed
  have account := within'.accounts
  rw [moved] at account
  -- nothing stands before the cursor of a fresh queue
  have fresh : (CursorQueue.mk port channels 0).queue = ⟨port, [], channels.toList⟩ := rfl
  rw [fresh] at answered handed account
  cases served : ChannelQueue.session ⟨port, [], channels.toList⟩ requests with
  | mk answers q =>
      rw [served] at answered handed account
      obtain ⟨qport, qtaken, rest⟩ := q
      obtain rfl : qport = port := handed.port
      obtain rfl : qtaken = answers.flatMap (·.channels) := handed.taken
      exact ⟨answers, rest, _, answered, account, rfl⟩

/-- The channels of an interleaved port of width two on a bank of two. -/
def crossedChannels : Array PortChannel := (portChannels 2 2 true fun b => some (b + 4)).toArray

/-- A queue that is asked for too much while one channel is left, and for nothing when none is. -/
theorem crossedChannels_accounts : crossedChannels.size < wordCount ∧
    ∃ rest c, (CursorQueue.mk ⟨some "grid", "row"⟩ crossedChannels 0).session?
        [.take 3, .take 2, .countLeft, .takeAll, .take 0, .takeAll, .listAll, .take 1] =
      some ([.handedOut [⟨0, 0, some 4⟩, ⟨0, 1, some 5⟩, ⟨1, 0, some 4⟩],
        .refused (.underflow ⟨some "grid", "row"⟩ 2 1), .counted 1, .handedOut [⟨1, 1, some 5⟩],
        .handedOut [], .handedOut [],
        .listed [⟨0, 0, some 4⟩, ⟨0, 1, some 5⟩, ⟨1, 0, some 4⟩, ⟨1, 1, some 5⟩],
        .refused (.underflow ⟨some "grid", "row"⟩ 1 0)], c) ∧
      c.Accounts ⟨some "grid", "row"⟩ crossedChannels.toList
        [⟨0, 0, some 4⟩, ⟨0, 1, some 5⟩, ⟨1, 0, some 4⟩, ⟨1, 1, some 5⟩] rest := by
  have fits : crossedChannels.size < wordCount := by decide
  obtain ⟨answers, rest, c, answered, account, same⟩ :=
    session_accounts ⟨some "grid", "row"⟩ crossedChannels fits
      [.take 3, .take 2, .countLeft, .takeAll, .take 0, .takeAll, .listAll, .take 1]
  obtain ⟨rfl, -⟩ := Prod.ext_iff.mp same
  exact ⟨fits, rest, c, answered, account⟩

end ReactorNet
