import ReactorNet.Proofs.Interfaces
import ReactorNet.Proofs.Ledger

/-!
# `ReactorNet.Proofs.InterfaceLaw` · what an interface is given

`InterfaceLaw` says what an interface gets that is built after others, or why it cannot be built:
its name is new among those of its federate, a device is the one that it asks for or the least one
not given before, and an address is the one that it asks for, moved to the place of its federate in
a bank. The law mentions nothing but the interfaces before it, and leaves no choice
(`InterfaceLaw.deterministic`).

An allocation in which exactly those resources are claimed that earlier interfaces own knows the
same of every device and every address (`Records`), so claiming what an interface needs obeys the
law (`bindingLaw_claim`).

The shift of an address is computed on words of 64 bits. It is one less than the index for every
index up to 2^63, and no greater one is in question: above 65536 a shifted address is out of range.
-/

namespace ReactorNet

variable {s : Allocation} {bank : Option Nat} {bs : List Binding} {given : List Nat} {d index : Nat}
  {addresses : List Address} {a b : Address}

/-! ## The law -/

/-- An interface and the federate that has it. -/
abbrev Post := FederateKey × Interface

/-- An interface that is asked for: by which federate, at which position among its interfaces, and
what is declared of it. -/
structure Slot where
  /-- The federate. -/
  key : FederateKey
  /-- The position. -/
  position : Nat
  /-- The declaration. -/
  decl : InterfaceDecl

/-- The name of an interface that is asked for. -/
def Slot.name (slot : Slot) : String := slot.decl.nameAt slot.position

/-- The device that a binding has. -/
def Binding.device? : Binding → Option Nat
  | uart port => some port.device
  | _ => none

/-- The address of a federate in a bank for which an address is declared: the members count from
one, and each moves the last component by its own distance from the first. -/
def Address.ofMember? (bank : Option Nat) (a : Address) : Option Address :=
  match bank with
  | none => some a
  | some index => a.shift? ((index : Int) - 1)

/-- Which device an interface gets after others were given theirs. -/
inductive DeviceLaw (given : List Nat) :
    (asked : Option Nat) → (outcome : Except InterfaceFault Nat) → Prop where
  /-- A device that is asked for is given, if it was not given before. -/
  | asked {d : Nat} (inRange : d ≤ 255) (free : d ∉ given) : DeviceLaw given (some d) (.ok d)
  /-- There are no devices above 255. -/
  | outOfRange {d : Nat} (beyond : 255 < d) : DeviceLaw given (some d) (.error (.deviceOutOfRange d))
  /-- A device that was given before is refused. -/
  | inUse {d : Nat} (inRange : d ≤ 255) (taken : d ∈ given) :
      DeviceLaw given (some d) (.error (.deviceInUse d))
  /-- Where no device is asked for, the least one is given that was not given before. -/
  | least {d : Nat} (least : IsLeast {k | k ≤ 255 ∧ k ∉ given} d) : DeviceLaw given none (.ok d)
  /-- Where no device is asked for and all were given before, there is none left. -/
  | exhausted (all : ∀ k, k ≤ 255 → k ∈ given) : DeviceLaw given none (.error .noDeviceLeft)

/-- Which address an interface gets after others were given theirs. -/
inductive AddressLaw (bank : Option Nat) (given : List Address) :
    (asked : Option String) → (outcome : Except InterfaceFault Address) → Prop where
  /-- Where no address is asked for, that of the own host is given. -/
  | unasked : AddressLaw bank given none (.ok .loopback)
  /-- A literal that is no address is refused. -/
  | malformed {literal : String} (unread : Address.read? literal = none) :
      AddressLaw bank given (some literal) (.error (.malformedAddress literal))
  /-- An address that leaves its limits in a bank is refused. -/
  | overflow {literal : String} {a : Address} {index : Nat} (read : Address.read? literal = some a)
      (member : bank = some index) (beyond : a.ofMember? bank = none) :
      AddressLaw bank given (some literal) (.error (.addressOverflow a ((index : Int) - 1)))
  /-- An address that was given before is refused, unless it is shared. -/
  | inUse {literal : String} {a b : Address} (read : Address.read? literal = some a)
      (moved : a.ofMember? bank = some b) (own : b.isLoopback = false) (taken : b ∈ given) :
      AddressLaw bank given (some literal) (.error (.duplicateAddress b))
  /-- Any other address is given as it is asked for. -/
  | asked {literal : String} {a b : Address} (read : Address.read? literal = some a)
      (moved : a.ofMember? bank = some b) (free : b.isLoopback = true ∨ b ∉ given) :
      AddressLaw bank given (some literal) (.ok b)

/-- What an interface of a federate is bound to after others were bound. -/
inductive BindingLaw (bank : Option Nat) (earlier : List Binding) :
    (asked : Carrier) → (outcome : Except InterfaceFault Binding) → Prop where
  /-- For TCP, to an address. -/
  | tcp {asked : Option String} {outcome : Except InterfaceFault Address}
      (law : AddressLaw bank (earlier.filterMap (·.address?)) asked outcome) :
      BindingLaw bank earlier (.tcp asked) (outcome.map .tcp)
  /-- For CoAP, to an address. -/
  | coap {asked : Option String} {outcome : Except InterfaceFault Address}
      (law : AddressLaw bank (earlier.filterMap (·.address?)) asked outcome) :
      BindingLaw bank earlier (.coap asked) (outcome.map .coap)
  /-- For a serial line, to a device, with the settings that are declared. -/
  | uart {asked : Option Nat} {line : UartLine} {outcome : Except InterfaceFault Nat}
      (law : DeviceLaw (earlier.filterMap (·.device?)) asked outcome) :
      BindingLaw bank earlier (.uart asked line) (outcome.map fun d => .uart ⟨d, line⟩)
  /-- A custom channel is taken as it is declared. -/
  | custom {header args : String} {symbol : Option String} :
      BindingLaw bank earlier (.custom header symbol args)
        (.ok (.custom ⟨header, symbol.getD "CustomChannel_ctor", args⟩))

/-- What becomes of an interface that is asked for after others were built. -/
inductive InterfaceLaw (earlier : List Post) (slot : Slot) :
    (outcome : Except InterfaceFault Interface) → Prop where
  /-- A name that an earlier interface of the federate has is refused. -/
  | repeated (known : ∃ x ∈ earlier, x.1 = slot.key ∧ x.2.name = slot.name) :
      InterfaceLaw earlier slot (.error (.declaredTwice slot.name))
  /-- An interface with a new name is bound, and has no endpoints yet. -/
  | named {outcome : Except InterfaceFault Binding}
      (new : ¬ ∃ x ∈ earlier, x.1 = slot.key ∧ x.2.name = slot.name)
      (law : BindingLaw slot.key.bankIndex (earlier.map (·.2.binding)) slot.decl.carrier outcome) :
      InterfaceLaw earlier slot (outcome.map fun binding => ⟨slot.name, binding, []⟩)

/-! ## The law leaves no choice -/

/-- One device is given, or one fault. -/
theorem DeviceLaw.deterministic {asked : Option Nat} {outcome outcome' : Except InterfaceFault Nat}
    (h : DeviceLaw given asked outcome) (h' : DeviceLaw given asked outcome') :
    outcome = outcome' := by
  cases h with
  | asked inRange free =>
      cases h' with
      | asked => rfl
      | outOfRange beyond => omega
      | inUse _ taken => exact absurd taken free
  | outOfRange beyond =>
      cases h' with
      | asked inRange => omega
      | outOfRange => rfl
      | inUse inRange => omega
  | inUse inRange taken =>
      cases h' with
      | asked _ free => exact absurd taken free
      | outOfRange beyond => omega
      | inUse => rfl
  | least hd =>
      cases h' with
      | least hd' => rw [hd.unique hd']
      | exhausted all => exact absurd (all _ hd.1.1) hd.1.2
  | exhausted all =>
      cases h' with
      | least hd => exact absurd (all _ hd.1.1) hd.1.2
      | exhausted => rfl

/-- One address is given, or one fault. -/
theorem AddressLaw.deterministic {asked : Option String}
    {outcome outcome' : Except InterfaceFault Address} (h : AddressLaw bank addresses asked outcome)
    (h' : AddressLaw bank addresses asked outcome') : outcome = outcome' := by
  -- two different cases disagree on what is read, where it is moved to, or whether that was given
  cases h <;> cases h' <;> simp_all

/-- One binding is given, or one fault. -/
theorem BindingLaw.deterministic {asked : Carrier} {outcome outcome' : Except InterfaceFault Binding}
    (h : BindingLaw bank bs asked outcome) (h' : BindingLaw bank bs asked outcome') :
    outcome = outcome' := by
  cases h with
  | tcp law =>
      cases h' with
      | tcp law' => rw [law.deterministic law']
  | coap law =>
      cases h' with
      | coap law' => rw [law.deterministic law']
  | uart law =>
      cases h' with
      | uart law' => rw [law.deterministic law']
  | custom =>
      cases h' with
      | custom => rfl

/-- **The law leaves no choice.** One interface is built, or one fault is given. -/
theorem InterfaceLaw.deterministic {earlier : List Post} {slot : Slot}
    {outcome outcome' : Except InterfaceFault Interface} (h : InterfaceLaw earlier slot outcome)
    (h' : InterfaceLaw earlier slot outcome') : outcome = outcome' := by
  cases h with
  | repeated known =>
      cases h' with
      | repeated => rfl
      | named new => exact absurd known new
  | named new law =>
      cases h' with
      | repeated known => exact absurd known new
      | named _ law' => rw [law.deterministic law']

/-! ## The place in a bank -/

/-- The shift of a member is the signed word for one less than its index. -/
theorem bankShift_eq_bmod (index : Nat) : bankShift index = ((index : Int) - 1).bmod (2 ^ 64) := by
  rw [bankShift, Int64.toInt_sub, Int64.toInt_ofNat']
  have one : Int64.toInt 1 = 1 := rfl
  have size : Int64.size = 2 ^ 64 := rfl
  rw [one, size, Int.bmod_sub_bmod]

/-- The signed word for a number in its range is the number. -/
theorem bmod_word {x : Int} (low : -2 ^ 63 ≤ x) (high : x < 2 ^ 63) : x.bmod (2 ^ 64) = x := by
  have power : ((2 ^ 64 : Nat) : Int) = 2 ^ 64 := rfl
  refine Int.bmod_eq_of_le ?_ ?_
  · rw [power]
    omega
  · rw [power]
    omega

/-- The shift is one less than the index, as long as the index is a signed word. -/
theorem bankShift_eq (h : index ≤ 2 ^ 63) : bankShift index = (index : Int) - 1 := by
  rw [bankShift_eq_bmod]
  exact bmod_word (by omega) (by omega)

/-- The last component that a shift leads to is one of 16 bits. -/
theorem lastLimit_le (family : AddressFamily) : Address.lastLimit family ≤ 65535 := by
  cases family <;> decide

/-- A shift by 65536 or more leads out of the limits of every address. -/
theorem ofMember?_eq_none (h : 65536 < index) (a : Address) : a.ofMember? (some index) = none := by
  have limit := lastLimit_le a.family
  have beyond : ¬ (0 ≤ (a.last : Int) + ((index : Int) - 1) ∧
      (a.last : Int) + ((index : Int) - 1) ≤ (Address.lastLimit a.family : Nat)) := by
    omega
  exact if_neg beyond

/-- An address that is given where one is asked for was moved to its place in the bank. -/
theorem AddressLaw.exists_ofMember? {asked : Option String}
    (law : AddressLaw bank addresses asked (.ok b)) (declared : asked ≠ none) :
    ∃ a : Address, a.ofMember? bank = some b := by
  cases law with
  | unasked => exact absurd rfl declared
  | asked _ moved => exact ⟨_, moved⟩

/-! ## Claims obey the law -/

/-- In an allocation exactly those addresses and devices are claimed that bindings own. -/
structure Records (s : Allocation) (bs : List Binding) : Prop where
  /-- Of the addresses that are not shared, those are claimed that were given. -/
  address_iff : ∀ a, a.isLoopback = false →
    (s.hasAddress a = true ↔ a ∈ bs.filterMap (·.address?))
  /-- Of the devices, those are claimed that were given. -/
  device_iff : ∀ d, s.isDeviceUsed d = true ↔ d ∈ bs.filterMap (·.device?)

/-- Of the addresses, a claim takes the one that is claimed, if that is not shared. -/
theorem resource?_eq_address_iff {a c : Address} (own : a.isLoopback = false) :
    c.resource? = some (.address a) ↔ some c = some a := by
  unfold Address.resource?
  rw [Option.some.injEq]
  constructor
  · intro h
    obtain ⟨-, h⟩ := Option.ite_none_left_eq_some.mp h
    exact Resource.address.inj (Option.some.inj h)
  · rintro rfl
    simp [own]

/-- An allocation from which nothing was claimed but what bindings own records them. -/
theorem records_of_grants (grants : Allocation.Grants {} (bs.filterMap (·.resource?)) s) :
    Records s bs := by
  constructor
  · intro a own
    have holds := grants.holds_iff (.address a)
    have fresh : ({} : Allocation).holds (.address a) = false := rfl
    rw [fresh] at holds
    refine holds.trans ?_
    simp only [Bool.false_eq_true, or_false, List.mem_filterMap]
    refine exists_congr fun b => and_congr_right fun _ => ?_
    cases b with
    | tcp c => exact resource?_eq_address_iff own
    | coap c => exact resource?_eq_address_iff own
    | uart port => simp [Binding.resource?, Binding.address?]
    | custom c => simp [Binding.resource?, Binding.address?]
  · intro d
    have holds := grants.holds_iff (.device d)
    have fresh : ({} : Allocation).holds (.device d) = false := Pool.isUsed_fresh d
    rw [fresh] at holds
    refine holds.trans ?_
    simp only [Bool.false_eq_true, or_false, List.mem_filterMap]
    refine exists_congr fun b => and_congr_right fun _ => ?_
    cases b with
    | tcp c => simp [Binding.resource?, Binding.device?, Address.resource?]
    | coap c => simp [Binding.resource?, Binding.device?, Address.resource?]
    | uart port => simp [Binding.resource?, Binding.device?]
    | custom c => simp [Binding.resource?, Binding.device?]

/-- Claiming a device obeys the law. -/
theorem deviceLaw_claim (used : ∀ d, s.isDeviceUsed d = true ↔ d ∈ given) (asked : Option Nat) :
    DeviceLaw given asked ((claimDeclaredDevice asked s).map (·.1)) := by
  cases asked with
  | none =>
      unfold claimDeclaredDevice Allocation.takeDevice
      dsimp only
      unfold Allocation.isDeviceUsed at used
      cases taken : s.devices.take? with
      | none =>
          refine DeviceLaw.exhausted fun k hk => ?_
          exact (used k).mp (Pool.take?_eq_none_iff.mp taken k (Nat.zero_le k) hk)
      | some x =>
          have least := (Pool.take?_eq_some taken).1
          simp only [← Bool.not_eq_true, used, Nat.zero_le, true_and] at least
          exact DeviceLaw.least least
  | some d =>
      unfold claimDeclaredDevice
      dsimp only
      rcases s.reserveDevice_cases d with ⟨beyond, refused⟩ | ⟨inRange, taken, refused⟩ |
        ⟨inRange, free, t, ok⟩
      · rw [refused]
        exact DeviceLaw.outOfRange beyond
      · rw [refused]
        exact DeviceLaw.inUse (Nat.le_of_not_lt inRange) ((used d).mp taken)
      · rw [ok]
        exact DeviceLaw.asked (Nat.le_of_not_lt inRange) (mt (used d).mpr free)

/-- Where the address that a member declares is shifted, what it is shifted to is claimed. -/
theorem claimDeclaredAddress_of_shift?_eq_some {literal : String}
    (read : Address.read? literal = some a) (shifted : a.shift? (bankShift index) = some b) :
    claimDeclaredAddress (some index) (some literal) s = (s.claimAddress b).map (b, ·) := by
  simp only [claimDeclaredAddress, memberAddress, Address.read, read, Address.shift, shifted, bind,
    Except.bind]

/-- Where it cannot be shifted, it is refused. -/
theorem claimDeclaredAddress_of_shift?_eq_none {literal : String}
    (read : Address.read? literal = some a) (unshifted : a.shift? (bankShift index) = none) :
    claimDeclaredAddress (some index) (some literal) s =
      .error (.addressOverflow a (bankShift index)) := by
  simp only [claimDeclaredAddress, memberAddress, Address.read, read, Address.shift, unshifted, bind,
    Except.bind]

/-- What a declared address is moved to is claimed. -/
theorem claimDeclaredAddress_eq {literal : String} (read : Address.read? literal = some a)
    (moved : a.ofMember? bank = some b) (small : ∀ index, bank = some index → index ≤ 2 ^ 63) :
    (claimDeclaredAddress bank (some literal) s).map (·.1) = (s.claimAddress b).map fun _ => b := by
  cases bank with
  | none =>
      cases moved
      simp only [claimDeclaredAddress, memberAddress, Address.read, read, bind, Except.bind]
      cases s.claimAddress a <;> rfl
  | some index =>
      have shifted : a.shift? (bankShift index) = some b := by
        rw [bankShift_eq (small index rfl)]
        exact moved
      rw [claimDeclaredAddress_of_shift?_eq_some read shifted]
      cases s.claimAddress b <;> rfl

/-- A declared address that cannot be moved is refused. -/
theorem claimDeclaredAddress_overflow {literal : String} (read : Address.read? literal = some a)
    (beyond : a.ofMember? (some index) = none) (small : index ≤ 2 ^ 63) :
    claimDeclaredAddress (some index) (some literal) s =
      .error (.addressOverflow a ((index : Int) - 1)) := by
  have unshifted : a.shift? (bankShift index) = none := by
    rw [bankShift_eq small]
    exact beyond
  rw [claimDeclaredAddress_of_shift?_eq_none read unshifted, bankShift_eq small]

/-- Claiming an address obeys the law, unless an address is declared and the index is no signed
word. -/
theorem addressLaw_claim
    (held : ∀ a, a.isLoopback = false → (s.hasAddress a = true ↔ a ∈ addresses))
    (asked : Option String) (small : asked ≠ none → ∀ index, bank = some index → index ≤ 2 ^ 63) :
    AddressLaw bank addresses asked ((claimDeclaredAddress bank asked s).map (·.1)) := by
  cases asked with
  | none => exact AddressLaw.unasked
  | some literal =>
      have small := small (Option.some_ne_none literal)
      cases read : Address.read? literal with
      | none =>
          have refused : claimDeclaredAddress bank (some literal) s =
              .error (.malformedAddress literal) := by
            simp only [claimDeclaredAddress, memberAddress, Address.read, read]
            rfl
          rw [refused]
          exact AddressLaw.malformed read
      | some a =>
          cases moved : a.ofMember? bank with
          | none =>
              cases bank with
              | none => cases moved
              | some index =>
                  rw [claimDeclaredAddress_overflow read moved (small index rfl)]
                  exact AddressLaw.overflow read rfl moved
          | some b =>
              rw [claimDeclaredAddress_eq read moved small]
              rcases s.claimAddress_cases b with ⟨own, taken, refused⟩ | ⟨free, t, ok⟩
              · rw [refused]
                exact AddressLaw.inUse read moved own ((held b own).mp taken)
              · rw [ok]
                refine AddressLaw.asked read moved ?_
                by_cases shared : b.isLoopback = true
                · exact Or.inl shared
                · have own := Bool.eq_false_iff.mpr shared
                  exact Or.inr fun known => free ⟨own, (held b own).mpr known⟩

/-- Changing the result of a claim does not touch the allocation after it. -/
theorem map_fst_map {ε α β σ : Type} (claim : Except ε (α × σ)) (f : α → β) :
    (claim.map fun r => (f r.1, r.2)).map (·.1) = (claim.map (·.1)).map f := by
  cases claim <;> rfl

/-- **Claims obey the law.** What a declared interface is bound to, in an allocation that records
what others are bound to, is what the law says. -/
theorem bindingLaw_claim (records : Records s bs) (c : Carrier)
    (small : c.address? ≠ none → ∀ index, bank = some index → index ≤ 2 ^ 63) :
    BindingLaw bank bs c ((c.claim bank s).map (·.1)) := by
  cases c with
  | tcp asked =>
      have same : ((Carrier.tcp asked).claim bank s).map (·.1) =
          ((claimDeclaredAddress bank asked s).map (·.1)).map .tcp := map_fst_map _ _
      rw [same]
      exact BindingLaw.tcp (addressLaw_claim records.address_iff asked small)
  | coap asked =>
      have same : ((Carrier.coap asked).claim bank s).map (·.1) =
          ((claimDeclaredAddress bank asked s).map (·.1)).map .coap := map_fst_map _ _
      rw [same]
      exact BindingLaw.coap (addressLaw_claim records.address_iff asked small)
  | uart asked line =>
      have same : ((Carrier.uart asked line).claim bank s).map (·.1) =
          ((claimDeclaredDevice asked s).map (·.1)).map fun d => .uart ⟨d, line⟩ :=
        map_fst_map (claimDeclaredDevice asked s) fun d => Binding.uart ⟨d, line⟩
      rw [same]
      exact BindingLaw.uart (deviceLaw_claim records.device_iff asked)
  | custom header symbol args => exact BindingLaw.custom

end ReactorNet
