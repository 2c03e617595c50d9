import ReactorNet.Proofs.Describing

/-!
# `ReactorNet.Proofs.NormalForm` · what a normalised description looks like

The normal form of a description, as predicates on JSON values in which no program occurs: every
record has exactly its fields, in the order of declaration, and what may be absent is null.
`isProgram` says that these values are exactly what is written of the programs that can be
described; for each kind of record there is the same theorem, and each is put together from those on
its fields.
-/

namespace ReactorNet.Description

open ReactorNet.Schema

variable {α : Type} {P : Json → Prop} {D : α → Prop} {write : α → Json} {v : Json}

/-- Whether a predicate holds of exactly what is written of the values with some property. -/
def Writes (P : Json → Prop) (D : α → Prop) (write : α → Json) : Prop :=
  ∀ v, P v ↔ ∃ a, D a ∧ v = write a

/-- What is written of a value with the property. -/
theorem Writes.holds (h : Writes P D write) {a : α} (property : D a) : P (write a) :=
  (h _).mpr ⟨a, property, rfl⟩

/-- What is written of some value with the property. -/
theorem Writes.exists_eq (h : Writes P D write) (holds : P v) : ∃ a, D a ∧ v = write a :=
  (h v).mp holds

/-! ## Values -/

/-- A text. -/
def IsText (v : Json) : Prop := ∃ s, v = .str s

/-- A truth value. -/
def IsFlag (v : Json) : Prop := ∃ b, v = .bool b

/-- A word of the given number of bits. -/
def IsWord (bits : Nat) (v : Json) : Prop := ∃ n, n < 2 ^ bits ∧ v = .nat n

/-- A signed word of the given number of bits. -/
def IsSigned (bits : Nat) (v : Json) : Prop := ∃ x, Format.IsSigned bits x ∧ v = .int x

/-- A double; a whole number is none. -/
def IsDouble (v : Json) : Prop := ∃ x, v = .float x

/-- One of the given texts or numbers. -/
def IsOneOf (write : α → Json) (choices : List α) (v : Json) : Prop := ∃ a ∈ choices, v = write a

/-- The text form of a reference: a text that is read as a reference with this very text. -/
def IsReference (v : Json) : Prop := ∃ s r, PortRef.read? s = .ok r ∧ r.text = s ∧ v = .str s

/-- Null, or a value of the given kind. -/
def IsNullable (P : Json → Prop) (v : Json) : Prop := v = .null ∨ P v

/-- An array of values of the given kind. -/
def IsArray (P : Json → Prop) (v : Json) : Prop := ∃ items, (∀ x ∈ items, P x) ∧ v = .arr items

/-- Whether members have exactly the given names, in this order, and values of the kinds that go
with them. -/
def HasFields : List (String × (Json → Prop)) → List (String × Json) → Prop
  | [], ms => ms = []
  | (name, P) :: fields, ms => ∃ v rest, P v ∧ ms = (name, v) :: rest ∧ HasFields fields rest

/-- An object with exactly the given fields. -/
def IsRecord (fields : List (String × (Json → Prop))) (v : Json) : Prop :=
  ∃ ms, v = .obj ms ∧ HasFields fields ms

/-- Texts are written of texts. -/
theorem isText : Writes IsText (fun _ => True) Json.str :=
  fun _ => by simp [IsText]

/-- Words are written of the numbers that fit. -/
theorem isWord (bits : Nat) : Writes (IsWord bits) (· < 2 ^ bits) .nat := fun _ => .rfl

/-- Signed words are written of the whole numbers that fit. -/
theorem isSigned (bits : Nat) : Writes (IsSigned bits) (Format.IsSigned bits) .int := fun _ => .rfl

/-- References are written of those to names that are identifiers. -/
theorem isReference : Writes IsReference PortRef.Named PortRef.toJson := by
  intro v
  constructor
  · rintro ⟨_, r, read, rfl, rfl⟩
    exact ⟨r, named_of_read? read, rfl⟩
  · rintro ⟨r, named, rfl⟩
    exact ⟨r.text, r, named.reads, rfl, rfl⟩

/-- Choices are written of the values of a type that are among them. -/
theorem isOneOf {β : Type} {write : β → Json} {choices : List β} {choice : α → β}
    (every : ∀ a, choice a ∈ choices) (only : ∀ b ∈ choices, ∃ a, b = choice a) :
    Writes (IsOneOf write choices) (fun _ => True) (fun a => write (choice a)) := by
  intro v
  constructor
  · rintro ⟨b, hb, rfl⟩
    obtain ⟨a, rfl⟩ := only b hb
    exact ⟨a, trivial, rfl⟩
  · rintro ⟨a, -, rfl⟩
    exact ⟨choice a, every a, rfl⟩

/-- What may be null is written of optional values. -/
theorem Writes.nullable (h : Writes P D write) :
    Writes (IsNullable P) (fun o : Option α => ∀ a, o = some a → D a) (.ofOption write) := by
  intro v
  constructor
  · rintro (rfl | holds)
    · exact ⟨none, nofun, rfl⟩
    · obtain ⟨a, property, rfl⟩ := h.exists_eq holds
      exact ⟨some a, fun _ same => Option.some.inj same ▸ property, rfl⟩
  · rintro ⟨_ | a, property, rfl⟩
    · exact .inl rfl
    · exact .inr (h.holds (property a rfl))

/-- Arrays are written of lists. -/
theorem Writes.array (h : Writes P D write) :
    Writes (IsArray P) (fun as : List α => ∀ a ∈ as, D a) (.ofList write) := by
  intro v
  constructor
  · rintro ⟨items, all, rfl⟩
    induction items with
    | nil => exact ⟨[], nofun, rfl⟩
    | cons x items ih =>
        obtain ⟨first, rest⟩ := List.forall_mem_cons.mp all
        obtain ⟨a, property, rfl⟩ := h.exists_eq first
        obtain ⟨as, properties, same⟩ := ih rest
        refine ⟨a :: as, List.forall_mem_cons.mpr ⟨property, properties⟩, ?_⟩
        rw [Json.arr.inj same]
        rfl
  · rintro ⟨as, all, rfl⟩
    refine ⟨as.map write, ?_, rfl⟩
    intro x hx
    obtain ⟨a, ha, rfl⟩ := List.mem_map.mp hx
    exact h.holds (all a ha)

/-! ## Records -/

/-- A port. -/
def IsPort : Json → Prop := IsRecord [("name", IsText), ("width", IsWord 64)]

/-- The settings of a link. -/
def IsLink : Json → Prop :=
  IsRecord [("left", IsNullable IsText), ("right", IsNullable IsText),
    ("server_side", IsOneOf .str ["left", "right"]), ("server_port", IsNullable (IsWord 16)),
    ("encryption", IsOneOf .str ["no_encryption"])]

/-- A clock synchronization. -/
def IsClock : Json → Prop :=
  IsRecord [("disabled", IsFlag), ("grandmaster", IsFlag), ("period_ns", IsSigned 64),
    ("max_adj", IsSigned 32), ("kp", IsDouble), ("ki", IsDouble)]

/-- The fields of an interface of the given protocol besides its protocol and its name. -/
def carrierFields : Protocol → List (String × (Json → Prop))
  | .tcp => [("address", IsNullable IsText)]
  | .uart =>
    [("device", IsNullable (IsWord 32)), ("baud_rate", IsWord 32),
      ("data_bits", IsOneOf .nat [5, 6, 7, 8]),
      ("parity", IsOneOf .str ["none", "even", "odd", "mark", "space"]),
      ("stop_bits", IsOneOf .nat [1, 2]), ("asynchronous", IsFlag)]
  | .coap => [("address", IsNullable IsText)]
  | .custom => [("include", IsText), ("constructor", IsNullable IsText), ("args", IsText)]

/-- An interface, tagged with its protocol. -/
def IsInterface (v : Json) : Prop :=
  ∃ q : Protocol, IsRecord (("protocol", (· = .str q.tag)) :: ("name", IsNullable IsText) ::
    carrierFields q) v

/-- An instance. -/
def IsInstance : Json → Prop :=
  IsRecord [("name", IsText), ("bank_width", IsNullable (IsWord 64)), ("ports", IsArray IsPort),
    ("interfaces", IsArray IsInterface), ("clock_sync", IsNullable IsClock),
    ("joining_policy", IsOneOf .str ["immediately", "timer_aligned"])]

/-- A connection statement. -/
def IsStatement : Json → Prop :=
  IsRecord [("left", IsArray IsReference), ("right", IsArray IsReference),
    ("delay_ns", IsNullable (IsWord 64)), ("physical", IsFlag), ("iterated", IsFlag),
    ("buffer_size", IsNullable (IsWord 64)), ("link", IsNullable IsLink)]

/-- A program. -/
def IsProgram : Json → Prop :=
  IsRecord [("name", IsText), ("federated", IsFlag), ("ports", IsArray IsPort),
    ("instances", IsArray IsInstance), ("connections", IsArray IsStatement)]

/-- Ports in normal form are what is written of ports. -/
theorem isPort : Writes IsPort Port.Describable Port.toJson := by
  intro v
  constructor
  · rintro ⟨_, rfl, _, _, ⟨name, rfl⟩, rfl, _, _, ⟨width, small, rfl⟩, rfl, rfl⟩
    exact ⟨⟨name, width⟩, ⟨small⟩, rfl⟩
  · rintro ⟨q, h, rfl⟩
    exact ⟨_, rfl, _, _, isText.holds trivial, rfl, _, _, (isWord 64).holds h.width, rfl, rfl⟩

/-- Sides are written as their names. -/
theorem isSide :
    Writes (IsOneOf .str ["left", "right"]) (fun _ => True) (fun s : Side => .str s.name) :=
  isOneOf (by intro s; cases s <;> decide)
    (by simpa using ⟨⟨.left, rfl⟩, ⟨.right, rfl⟩⟩)

/-- Encryptions are written as their names. -/
theorem isEncryption :
    Writes (IsOneOf .str ["no_encryption"]) (fun _ => True) (fun e : Encryption => .str e.name) :=
  isOneOf (by intro e; cases e; decide) (by simpa using ⟨.passThrough, rfl⟩)

/-- Links in normal form are what is written of links. -/
theorem isLink : Writes IsLink Link.Describable Link.toJson := by
  intro v
  constructor
  · rintro ⟨_, rfl, _, _, isLeft, rfl, _, _, isRight, rfl, _, _, isServer, rfl, _, _, hasPort, rfl,
      _, _, encrypted, rfl, rfl⟩
    obtain ⟨left, -, rfl⟩ := isText.nullable.exists_eq isLeft
    obtain ⟨right, -, rfl⟩ := isText.nullable.exists_eq isRight
    obtain ⟨side, -, rfl⟩ := isSide.exists_eq isServer
    obtain ⟨port, small, rfl⟩ := (isWord 16).nullable.exists_eq hasPort
    obtain ⟨encryption, -, rfl⟩ := isEncryption.exists_eq encrypted
    exact ⟨⟨left, right, side, port, encryption⟩, ⟨small⟩, rfl⟩
  · rintro ⟨l, h, rfl⟩
    exact ⟨_, rfl, _, _, isText.nullable.holds (a := l.left) (fun _ _ => trivial), rfl,
      _, _, isText.nullable.holds (a := l.right) (fun _ _ => trivial), rfl,
      _, _, isSide.holds trivial, rfl, _, _, (isWord 16).nullable.holds h.serverPort, rfl,
      _, _, isEncryption.holds trivial, rfl, rfl⟩

/-- Clock synchronizations in normal form are what is written of clock synchronizations. -/
theorem isClock : Writes IsClock ClockSync.Describable ClockSync.toJson := by
  intro v
  constructor
  · rintro ⟨_, rfl, _, _, ⟨disabled, rfl⟩, rfl, _, _, ⟨grandmaster, rfl⟩, rfl,
      _, _, ⟨period, periodFits, rfl⟩, rfl, _, _, ⟨adjust, adjustFits, rfl⟩, rfl,
      _, _, ⟨kp, rfl⟩, rfl, _, _, ⟨ki, rfl⟩, rfl, rfl⟩
    exact ⟨⟨disabled, grandmaster, period, adjust, kp, ki⟩, ⟨periodFits, adjustFits⟩, rfl⟩
  · rintro ⟨c, h, rfl⟩
    exact ⟨_, rfl, _, _, ⟨_, rfl⟩, rfl, _, _, ⟨_, rfl⟩, rfl,
      _, _, (isSigned 64).holds h.periodNs, rfl, _, _, (isSigned 32).holds h.maxAdjust, rfl,
      _, _, ⟨_, rfl⟩, rfl, _, _, ⟨_, rfl⟩, rfl, rfl⟩

/-- Numbers of data bits are written as such. -/
theorem isDataBits :
    Writes (IsOneOf .nat [5, 6, 7, 8]) (fun _ => True) (fun b : DataBits => .nat b.count) :=
  isOneOf (by intro b; cases b <;> decide)
    (by simpa using ⟨⟨.five, rfl⟩, ⟨.six, rfl⟩, ⟨.seven, rfl⟩, ⟨.eight, rfl⟩⟩)

/-- Numbers of stop bits are written as such. -/
theorem isStopBits : Writes (IsOneOf .nat [1, 2]) (fun _ => True) (fun b : StopBits => .nat b.count) :=
  isOneOf (by intro b; cases b <;> decide) (by simpa using ⟨⟨.one, rfl⟩, ⟨.two, rfl⟩⟩)

/-- Parities are written as their names. -/
theorem isParity : Writes (IsOneOf .str ["none", "even", "odd", "mark", "space"]) (fun _ => True)
    (fun p : Parity => .str p.name) :=
  isOneOf (by intro p; cases p <;> decide)
    (by simpa using
      ⟨⟨.none, rfl⟩, ⟨.even, rfl⟩, ⟨.odd, rfl⟩, ⟨.mark, rfl⟩, ⟨.space, rfl⟩⟩)

/-- Transfer modes are written as a flag. -/
theorem isTransferMode :
    Writes IsFlag (fun _ => True) (fun m : TransferMode => .bool (m == .asynchronous)) := by
  intro v
  constructor
  · rintro ⟨_ | _, rfl⟩
    · exact ⟨.polled, trivial, rfl⟩
    · exact ⟨.asynchronous, trivial, rfl⟩
  · rintro ⟨m, -, rfl⟩
    exact ⟨_, rfl⟩

/-- Interfaces in normal form are what is written of interfaces. -/
theorem isInterface : Writes IsInterface InterfaceDecl.Describable InterfaceDecl.toJson := by
  intro v
  constructor
  · rintro ⟨q, _, rfl, _, _, rfl, rfl, _, _, named, rfl, content⟩
    obtain ⟨name, -, rfl⟩ := isText.nullable.exists_eq named
    cases q with
    | tcp =>
        obtain ⟨_, _, addressed, rfl, rfl⟩ := content
        obtain ⟨address, -, rfl⟩ := isText.nullable.exists_eq addressed
        exact ⟨⟨name, .tcp address⟩, ⟨nofun, nofun⟩, rfl⟩
    | uart =>
        obtain ⟨_, _, hasDevice, rfl, _, _, ⟨baudRate, baudFits, rfl⟩, rfl, _, _, hasBits, rfl,
          _, _, hasParity, rfl, _, _, hasStop, rfl, _, _, hasMode, rfl, rfl⟩ := content
        obtain ⟨device, deviceFits, rfl⟩ := (isWord 32).nullable.exists_eq hasDevice
        obtain ⟨dataBits, -, rfl⟩ := isDataBits.exists_eq hasBits
        obtain ⟨parity, -, rfl⟩ := isParity.exists_eq hasParity
        obtain ⟨stopBits, -, rfl⟩ := isStopBits.exists_eq hasStop
        obtain ⟨mode, -, rfl⟩ := isTransferMode.exists_eq hasMode
        refine ⟨⟨name, .uart device ⟨baudRate, dataBits, parity, stopBits, mode⟩⟩,
          ⟨?_, ?_⟩, rfl⟩
        · rintro n _ ⟨⟩
          exact deviceFits n rfl
        · rintro _ _ ⟨⟩
          exact baudFits
    | coap =>
        obtain ⟨_, _, addressed, rfl, rfl⟩ := content
        obtain ⟨address, -, rfl⟩ := isText.nullable.exists_eq addressed
        exact ⟨⟨name, .coap address⟩, ⟨nofun, nofun⟩, rfl⟩
    | custom =>
        obtain ⟨_, _, ⟨header, rfl⟩, rfl, _, _, hasSymbol, rfl, _, _, ⟨args, rfl⟩, rfl, rfl⟩ :=
          content
        obtain ⟨symbol, -, rfl⟩ := isText.nullable.exists_eq hasSymbol
        exact ⟨⟨name, .custom header symbol args⟩, ⟨nofun, nofun⟩, rfl⟩
  · rintro ⟨⟨name, carrier⟩, h, rfl⟩
    have named : IsNullable IsText (optionalText name) := isText.nullable.holds fun _ _ => trivial
    -- The fields up to the name are the same for all protocols.
    refine ⟨carrier.protocol, _, rfl, _, _, rfl, rfl, _, _, named, rfl, ?_⟩
    cases carrier with
    | tcp address => exact ⟨_, _, isText.nullable.holds fun _ _ => trivial, rfl, rfl⟩
    | uart device line =>
        have deviceFits : ∀ n, device = some n → n < 2 ^ 32 := by
          rintro n rfl
          exact h.device n line rfl
        exact ⟨_, _, (isWord 32).nullable.holds deviceFits, rfl,
          _, _, (isWord 32).holds (h.baudRate device line rfl), rfl,
          _, _, isDataBits.holds trivial, rfl, _, _, isParity.holds trivial, rfl,
          _, _, isStopBits.holds trivial, rfl, _, _, isTransferMode.holds trivial, rfl, rfl⟩
    | coap address => exact ⟨_, _, isText.nullable.holds fun _ _ => trivial, rfl, rfl⟩
    | custom header symbol args =>
        exact ⟨_, _, ⟨_, rfl⟩, rfl, _, _, isText.nullable.holds fun _ _ => trivial, rfl,
          _, _, ⟨_, rfl⟩, rfl, rfl⟩

/-- Joining policies are written as their names. -/
theorem isJoiningPolicy : Writes (IsOneOf .str ["immediately", "timer_aligned"]) (fun _ => True)
    (fun p : JoiningPolicy => .str p.name) :=
  isOneOf (by intro p; cases p <;> decide)
    (by simpa using ⟨⟨.immediately, rfl⟩, ⟨.timerAligned, rfl⟩⟩)

/-- Instances in normal form are what is written of instances. -/
theorem isInstance : Writes IsInstance Instance.Describable Instance.toJson := by
  intro v
  constructor
  · rintro ⟨_, rfl, _, _, ⟨name, rfl⟩, rfl, _, _, hasWidth, rfl, _, _, hasPorts, rfl,
      _, _, hasInterfaces, rfl, _, _, hasClock, rfl, _, _, hasPolicy, rfl, rfl⟩
    obtain ⟨bankWidth, widthFits, rfl⟩ := (isWord 64).nullable.exists_eq hasWidth
    obtain ⟨ports, portsFit, rfl⟩ := isPort.array.exists_eq hasPorts
    obtain ⟨interfaces, interfacesFit, rfl⟩ := isInterface.array.exists_eq hasInterfaces
    obtain ⟨clockSync, clockFits, rfl⟩ := isClock.nullable.exists_eq hasClock
    obtain ⟨policy, -, rfl⟩ := isJoiningPolicy.exists_eq hasPolicy
    exact ⟨⟨name, bankWidth, ports, interfaces, clockSync, policy⟩,
      ⟨widthFits, portsFit, interfacesFit, clockFits⟩, rfl⟩
  · rintro ⟨i, h, rfl⟩
    exact ⟨_, rfl, _, _, ⟨_, rfl⟩, rfl, _, _, (isWord 64).nullable.holds h.bankWidth, rfl,
      _, _, isPort.array.holds h.ports, rfl, _, _, isInterface.array.holds h.interfaces, rfl,
      _, _, isClock.nullable.holds h.clockSync, rfl, _, _, isJoiningPolicy.holds trivial, rfl, rfl⟩

/-- Statements in normal form are what is written of statements. -/
theorem isStatement : Writes IsStatement Statement.Describable Statement.toJson := by
  intro v
  constructor
  · rintro ⟨_, rfl, _, _, hasLeft, rfl, _, _, hasRight, rfl, _, _, hasDelay, rfl,
      _, _, ⟨physical, rfl⟩, rfl, _, _, ⟨iterated, rfl⟩, rfl, _, _, hasSize, rfl,
      _, _, hasLink, rfl, rfl⟩
    obtain ⟨left, leftNamed, rfl⟩ := isReference.array.exists_eq hasLeft
    obtain ⟨right, rightNamed, rfl⟩ := isReference.array.exists_eq hasRight
    obtain ⟨delay, delayFits, rfl⟩ := (isWord 64).nullable.exists_eq hasDelay
    obtain ⟨size, sizeFits, rfl⟩ := (isWord 64).nullable.exists_eq hasSize
    obtain ⟨link, linkFits, rfl⟩ := isLink.nullable.exists_eq hasLink
    exact ⟨⟨left, right, delay, physical, iterated, size, link⟩,
      ⟨leftNamed, rightNamed, delayFits, sizeFits, linkFits⟩, rfl⟩
  · rintro ⟨s, h, rfl⟩
    exact ⟨_, rfl, _, _, isReference.array.holds h.left, rfl,
      _, _, isReference.array.holds h.right, rfl,
      _, _, (isWord 64).nullable.holds h.delayNs, rfl, _, _, ⟨_, rfl⟩, rfl, _, _, ⟨_, rfl⟩, rfl,
      _, _, (isWord 64).nullable.holds h.bufferSize, rfl,
      _, _, isLink.nullable.holds h.link, rfl, rfl⟩

/-- Programs in normal form are what is written of programs. -/
theorem isProgram : Writes IsProgram Program.Describable Program.toJson := by
  intro v
  constructor
  · rintro ⟨_, rfl, _, _, ⟨name, rfl⟩, rfl, _, _, ⟨federated, rfl⟩, rfl, _, _, hasPorts, rfl,
      _, _, hasInstances, rfl, _, _, hasStatements, rfl, rfl⟩
    obtain ⟨ports, portsFit, rfl⟩ := isPort.array.exists_eq hasPorts
    obtain ⟨instances, instancesFit, rfl⟩ := isInstance.array.exists_eq hasInstances
    obtain ⟨statements, statementsFit, rfl⟩ := isStatement.array.exists_eq hasStatements
    exact ⟨⟨name, federated, ports, instances, statements⟩,
      ⟨portsFit, instancesFit, statementsFit⟩, rfl⟩
  · rintro ⟨p, h, rfl⟩
    exact ⟨_, rfl, _, _, ⟨_, rfl⟩, rfl, _, _, ⟨_, rfl⟩, rfl,
      _, _, isPort.array.holds h.ports, rfl, _, _, isInstance.array.holds h.instances, rfl,
      _, _, isStatement.array.holds h.statements, rfl, rfl⟩

end ReactorNet.Description
