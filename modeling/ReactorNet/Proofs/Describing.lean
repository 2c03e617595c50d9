import ReactorNet.Program.Encoding
import ReactorNet.Proofs.PortReading
import ReactorNet.Proofs.Rereading

/-!
# `ReactorNet.Proofs.Describing` · what a description can say

There are two facts about each record of the schema:

* `describable_of_decode`: what is read from any format is `Describable`, that is, every number in it
  fits the width of its field, and every reference is to names that are identifiers;
* `readsBack`: what is describable is read back from what is written of it, from every format that
  reads JSON values as what they are.

The reader of a record is opened once, in its `decode_eq_ok_iff`, which lists the fields with their
defaults; both facts then go through this list. When a field is added to a record, this list and the
two lines about the field are what changes. What stands besides the tag of an interface is read by
the format of such content, whatever the format of the description is.
-/

namespace ReactorNet

open ReactorNet.Schema

variable {σ : Type} {f : Format σ} {v : σ}

/-! ## What can be described -/

/-- Whether the number of channels of a port can be written. -/
structure Port.Describable (q : Port) : Prop where
  /-- It is a word of 64 bits. -/
  width : q.width < 2 ^ 64

/-- Whether the numbers in a declared interface can be written. -/
structure InterfaceDecl.Describable (d : InterfaceDecl) : Prop where
  /-- A device is a word of 32 bits. -/
  device : ∀ n line, d.carrier = .uart (some n) line → n < 2 ^ 32
  /-- So are the symbols per second. -/
  baudRate : ∀ device line, d.carrier = .uart device line → line.baudRate < 2 ^ 32

/-- Whether the numbers in the settings of a link can be written. -/
structure Link.Describable (l : Link) : Prop where
  /-- A port is a word of 16 bits. -/
  serverPort : ∀ n, l.serverPort = some n → n < 2 ^ 16

/-- Whether the numbers in a clock synchronization can be written. -/
structure ClockSync.Describable (c : ClockSync) : Prop where
  /-- The period is a signed word of 64 bits. -/
  periodNs : Format.IsSigned 64 c.periodNs
  /-- The greatest adjustment is a signed word of 32 bits. -/
  maxAdjust : Format.IsSigned 32 c.maxAdjust

/-- Whether an instance can be written. -/
structure Instance.Describable (i : Instance) : Prop where
  /-- The number of members is a word of 64 bits. -/
  bankWidth : ∀ n, i.bankWidth = some n → n < 2 ^ 64
  /-- The ports can be written. -/
  ports : ∀ q ∈ i.ports, q.Describable
  /-- So can the interfaces. -/
  interfaces : ∀ d ∈ i.interfaces, d.Describable
  /-- So can the clock synchronization. -/
  clockSync : ∀ c, i.clockSync = some c → c.Describable

/-- Whether a connection statement can be written. -/
structure Statement.Describable (s : Statement) : Prop where
  /-- The references on the left are to names that are identifiers. -/
  left : ∀ r ∈ s.left, r.Named
  /-- So are those on the right. -/
  right : ∀ r ∈ s.right, r.Named
  /-- The delay is a word of 64 bits. -/
  delayNs : ∀ n, s.delayNs = some n → n < 2 ^ 64
  /-- So is the number of pending events. -/
  bufferSize : ∀ n, s.bufferSize = some n → n < 2 ^ 64
  /-- The link can be written. -/
  link : ∀ l, s.link = some l → l.Describable

/-- Whether a program can be written. -/
structure Program.Describable (p : Program) : Prop where
  /-- Its ports can be written. -/
  ports : ∀ q ∈ p.ports, q.Describable
  /-- So can its instances. -/
  instances : ∀ i ∈ p.instances, i.Describable
  /-- So can its statements. -/
  statements : ∀ s ∈ p.statements, s.Describable

/-! ## Ports -/

/-- The fields of a port. -/
theorem Port.decode_eq_ok_iff {q : Port} : Port.decode f v = .ok q ↔
    ∃ fs, f.record? v = some fs ∧ fs.Has 0 "name" none f.text q.name ∧
      fs.Has 1 "width" (some 1) (f.word 64) q.width ∧ fs.Closed 2 := by
  unfold Port.decode
  simp only [record_eq_ok_iff, Parsed.exists_seq_iff, Parsed.exists_map_iff]
  constructor
  · rintro ⟨fs, hfs, ⟨name, hname, width, hwidth, rfl⟩, closed⟩
    exact ⟨fs, hfs, hname, hwidth, closed⟩
  · rintro ⟨fs, hfs, hname, hwidth, closed⟩
    exact ⟨fs, hfs, ⟨_, hname, _, hwidth, rfl⟩, closed⟩

/-- What a description says of a port can be written. -/
theorem Port.describable_of_decode {q : Port} (h : Port.decode f v = .ok q) : q.Describable := by
  obtain ⟨fs, -, -, width, -⟩ := Port.decode_eq_ok_iff.mp h
  exact ⟨width.defaulted (by decide) fun w n => Format.lt_of_word⟩

/-- A port is read back from what is written of it. -/
theorem Port.readsBack {f : Format Datum} (faithful : f.Faithful) {q : Port} (h : q.Describable) :
    ReadsBack (Port.decode f) q.toJson q :=
  .of_members fun os members => Port.decode_eq_ok_iff.mpr ⟨_, faithful.record os,
    (faithful.reads_text q.name).has members rfl,
    (faithful.reads_word h.width).has members rfl,
    Fields.closed_ofMembers _ 2⟩

/-! ## Links and clocks -/

/-- Sides are read back from their names. -/
theorem Side.readsBack {f : Format Datum} (faithful : f.Faithful) (s : Side) :
    ReadsBack (Side.decode f) (.str s.name) s :=
  faithful.reads_variant (by cases s <;> rfl)

/-- Encryptions are read back from their names. -/
theorem Encryption.readsBack {f : Format Datum} (faithful : f.Faithful) (e : Encryption) :
    ReadsBack (Encryption.decode f) (.str e.name) e :=
  faithful.reads_variant (by cases e; rfl)

/-- The fields of a link. -/
theorem Link.decode_eq_ok_iff {l : Link} : Link.decode f v = .ok l ↔
    ∃ fs, f.record? v = some fs ∧ fs.Has 0 "left" (some none) (f.optional f.text) l.left ∧
      fs.Has 1 "right" (some none) (f.optional f.text) l.right ∧
      fs.Has 2 "server_side" (some .left) (Side.decode f) l.serverSide ∧
      fs.Has 3 "server_port" (some none) (f.optional (f.word 16)) l.serverPort ∧
      fs.Has 4 "encryption" (some .passThrough) (Encryption.decode f) l.encryption ∧
      fs.Closed 5 := by
  unfold Link.decode
  simp only [record_eq_ok_iff, Parsed.exists_seq_iff, Parsed.exists_map_iff]
  constructor
  · rintro ⟨fs, hfs, ⟨_, left, _, right, _, side, _, port, _, encryption, rfl⟩, closed⟩
    exact ⟨fs, hfs, left, right, side, port, encryption, closed⟩
  · rintro ⟨fs, hfs, left, right, side, port, encryption, closed⟩
    exact ⟨fs, hfs, ⟨_, left, _, right, _, side, _, port, _, encryption, rfl⟩, closed⟩

/-- What a description says of a link can be written. -/
theorem Link.describable_of_decode {l : Link} (h : Link.decode f v = .ok l) : l.Describable := by
  obtain ⟨fs, -, -, -, -, port, -⟩ := Link.decode_eq_ok_iff.mp h
  exact ⟨port.part fun w n => Format.lt_of_word⟩

/-- An optional text is read back. -/
theorem readsBack_optionalText {f : Format Datum} (faithful : f.Faithful) (s : Option String) :
    ReadsBack (f.optional f.text) (optionalText s) s :=
  faithful.reads_optional fun s _ => ⟨rfl, faithful.reads_text s⟩

/-- An optional word is read back. -/
theorem readsBack_optionalNat {f : Format Datum} (faithful : f.Faithful) {bits : Nat} {o : Option Nat}
    (small : ∀ n, o = some n → n < 2 ^ bits) :
    ReadsBack (f.optional (f.word bits)) (optionalNat o) o :=
  faithful.reads_optional fun n hn => ⟨rfl, faithful.reads_word (small n hn)⟩

/-- A link is read back from what is written of it. -/
theorem Link.readsBack {f : Format Datum} (faithful : f.Faithful) {l : Link} (h : l.Describable) :
    ReadsBack (Link.decode f) l.toJson l :=
  .of_members fun os members => Link.decode_eq_ok_iff.mpr ⟨_, faithful.record os,
    (readsBack_optionalText faithful l.left).has members rfl,
    (readsBack_optionalText faithful l.right).has members rfl,
    (Side.readsBack faithful l.serverSide).has members rfl,
    (readsBack_optionalNat faithful h.serverPort).has members rfl,
    (Encryption.readsBack faithful l.encryption).has members rfl,
    Fields.closed_ofMembers _ 5⟩

/-- The fields of a clock synchronization. -/
theorem ClockSync.decode_eq_ok_iff {c : ClockSync} : ClockSync.decode f v = .ok c ↔
    ∃ fs, f.record? v = some fs ∧ fs.Has 0 "disabled" (some false) f.bool c.disabled ∧
      fs.Has 1 "grandmaster" (some false) f.bool c.grandmaster ∧
      fs.Has 2 "period_ns" (some 1000000000) (f.signed 64) c.periodNs ∧
      fs.Has 3 "max_adj" (some 200000000) (f.signed 32) c.maxAdjust ∧
      fs.Has 4 "kp" (some 0.7) f.float c.kp ∧ fs.Has 5 "ki" (some 0.3) f.float c.ki ∧
      fs.Closed 6 := by
  unfold ClockSync.decode
  simp only [record_eq_ok_iff, Parsed.exists_seq_iff, Parsed.exists_map_iff]
  constructor
  · rintro ⟨fs, hfs, ⟨_, disabled, _, grandmaster, _, period, _, adjust, _, kp, _, ki, rfl⟩,
      closed⟩
    exact ⟨fs, hfs, disabled, grandmaster, period, adjust, kp, ki, closed⟩
  · rintro ⟨fs, hfs, disabled, grandmaster, period, adjust, kp, ki, closed⟩
    exact ⟨fs, hfs, ⟨_, disabled, _, grandmaster, _, period, _, adjust, _, kp, _, ki, rfl⟩, closed⟩

/-- What a description says of a clock synchronization can be written. -/
theorem ClockSync.describable_of_decode {c : ClockSync} (h : ClockSync.decode f v = .ok c) :
    c.Describable := by
  obtain ⟨fs, -, -, -, period, adjust, -⟩ := ClockSync.decode_eq_ok_iff.mp h
  constructor
  · exact period.defaulted ⟨by decide, by decide⟩ fun w x => Format.isSigned_of_signed
  · exact adjust.defaulted ⟨by decide, by decide⟩ fun w x => Format.isSigned_of_signed

/-- A clock synchronization is read back from what is written of it. -/
theorem ClockSync.readsBack {f : Format Datum} (faithful : f.Faithful) {c : ClockSync}
    (h : c.Describable) : ReadsBack (ClockSync.decode f) c.toJson c :=
  .of_members fun os members => ClockSync.decode_eq_ok_iff.mpr ⟨_, faithful.record os,
    (faithful.reads_bool c.disabled).has members rfl,
    (faithful.reads_bool c.grandmaster).has members rfl,
    (faithful.reads_signed h.periodNs).has members rfl,
    (faithful.reads_signed h.maxAdjust).has members rfl,
    (faithful.reads_float c.kp).has members rfl,
    (faithful.reads_float c.ki).has members rfl,
    Fields.closed_ofMembers _ 6⟩

/-! ## Interfaces -/

/-- Numbers of data bits are read back. -/
theorem DataBits.readsBack {f : Format Datum} (faithful : f.Faithful) (b : DataBits) :
    ReadsBack (DataBits.decode f) (.nat b.count) b := by
  intro w alike
  have small : b.count < 2 ^ 8 := by cases b <;> decide
  refine bind_eq_ok_iff.mpr ⟨b.count, faithful.reads_word small w alike, ?_⟩
  rw [DataBits.ofCount?_count]

/-- Numbers of stop bits are read back. -/
theorem StopBits.readsBack {f : Format Datum} (faithful : f.Faithful) (b : StopBits) :
    ReadsBack (StopBits.decode f) (.nat b.count) b := by
  intro w alike
  have small : b.count < 2 ^ 8 := by cases b <;> decide
  refine bind_eq_ok_iff.mpr ⟨b.count, faithful.reads_word small w alike, ?_⟩
  rw [StopBits.ofCount?_count]

/-- Parities are read back from their names. -/
theorem Parity.readsBack {f : Format Datum} (faithful : f.Faithful) (p : Parity) :
    ReadsBack (Parity.decode f) (.str p.name) p :=
  faithful.reads_variant (by cases p <;> rfl)

/-- Transfer modes are read back from the flag for them. -/
theorem TransferMode.readsBack {f : Format Datum} (faithful : f.Faithful) (m : TransferMode) :
    ReadsBack (TransferMode.decode f) (.bool (m == .asynchronous)) m := by
  intro w alike
  unfold TransferMode.decode
  rw [faithful.reads_bool _ w alike]
  cases m <;> rfl

/-- Whether the fields besides the name are read as what an interface is. -/
def Carrier.GivenBy (f : Format σ) (fs : Fields σ) : Carrier → Prop
  | .tcp address => fs.Has 1 "address" (some none) (f.optional f.text) address
  | .coap address => fs.Has 1 "address" (some none) (f.optional f.text) address
  | .uart device line =>
    fs.Has 1 "device" (some none) (f.optional (f.word 32)) device ∧
      fs.Has 2 "baud_rate" (some 115200) (f.word 32) line.baudRate ∧
      fs.Has 3 "data_bits" (some .eight) (DataBits.decode f) line.dataBits ∧
      fs.Has 4 "parity" (some .none) (Parity.decode f) line.parity ∧
      fs.Has 5 "stop_bits" (some .one) (StopBits.decode f) line.stopBits ∧
      fs.Has 6 "asynchronous" (some .polled) (TransferMode.decode f) line.mode
  | .custom header symbol args =>
    fs.Has 1 "include" none f.text header ∧
      fs.Has 2 "constructor" (some none) (f.optional f.text) symbol ∧
      fs.Has 3 "args" (some "") f.text args

/-- The number of fields of an interface besides its protocol. -/
def Protocol.fieldCount : Protocol → Nat
  | .tcp => 2
  | .uart => 7
  | .coap => 2
  | .custom => 4

/-- The fields of an interface. -/
theorem InterfaceDecl.decodeContent_eq_ok_iff {q : Protocol} {d : InterfaceDecl} :
    InterfaceDecl.decodeContent q f v = .ok d ↔ d.carrier.protocol = q ∧
      ∃ fs, f.record? v = some fs ∧ fs.Has 0 "name" (some none) (f.optional f.text) d.name ∧
        d.carrier.GivenBy f fs ∧ fs.Closed q.fieldCount := by
  unfold InterfaceDecl.decodeContent
  -- Backwards, of the four kinds of carriers only the one that speaks the protocol is left.
  cases q with
  | tcp | coap =>
      simp only [record_eq_ok_iff, Parsed.exists_seq_iff, Parsed.exists_map_iff]
      constructor
      · rintro ⟨fs, hfs, ⟨_, name, _, address, rfl⟩, closed⟩
        exact ⟨rfl, fs, hfs, name, address, closed⟩
      · obtain ⟨_, _ | _ | _ | _⟩ := d <;> rintro ⟨⟨⟩, fs, hfs, name, address, closed⟩
        exact ⟨fs, hfs, ⟨_, name, _, address, rfl⟩, closed⟩
  | uart =>
      simp only [record_eq_ok_iff, Parsed.exists_seq_iff, Parsed.exists_map_iff]
      constructor
      · rintro ⟨fs, hfs, ⟨_, name, _, device, _, baud, _, bits, _, parity, _, stop, _, mode, rfl⟩,
          closed⟩
        exact ⟨rfl, fs, hfs, name, ⟨device, baud, bits, parity, stop, mode⟩, closed⟩
      · obtain ⟨_, _ | _ | _ | _⟩ := d <;> rintro ⟨⟨⟩, fs, hfs, name, rest, closed⟩
        obtain ⟨device, baud, bits, parity, stop, mode⟩ := rest
        exact ⟨fs, hfs, ⟨_, name, _, device, _, baud, _, bits, _, parity, _, stop, _, mode, rfl⟩,
          closed⟩
  | custom =>
      simp only [record_eq_ok_iff, Parsed.exists_seq_iff, Parsed.exists_map_iff]
      constructor
      · rintro ⟨fs, hfs, ⟨_, name, _, header, _, symbol, _, args, rfl⟩, closed⟩
        exact ⟨rfl, fs, hfs, name, ⟨header, symbol, args⟩, closed⟩
      · obtain ⟨_, _ | _ | _ | _⟩ := d <;> rintro ⟨⟨⟩, fs, hfs, name, rest, closed⟩
        obtain ⟨header, symbol, args⟩ := rest
        exact ⟨fs, hfs, ⟨_, name, _, header, _, symbol, _, args, rfl⟩, closed⟩

/-- What a description says of an interface is read from what stands besides its protocol. -/
theorem InterfaceDecl.decode_eq_ok_iff {d : InterfaceDecl} :
    InterfaceDecl.decode f v = .ok d ↔ ∃ tag content q, f.tagged? "protocol" v = some (tag, content) ∧
      Protocol.ofTag? tag = some q ∧ InterfaceDecl.decodeContent q .content content = .ok d := by
  unfold InterfaceDecl.decode
  constructor
  · intro h
    split at h
    · cases h
    · rename_i tag content tagged
      split at h
      · rename_i q known
        exact ⟨tag, content, q, tagged, known, h⟩
      · cases h
  · rintro ⟨tag, content, q, tagged, known, h⟩
    rw [tagged]
    dsimp only
    rw [known]
    exact h

/-- What a description says of an interface can be written. -/
theorem InterfaceDecl.describable_of_decode {d : InterfaceDecl}
    (h : InterfaceDecl.decode f v = .ok d) : d.Describable := by
  obtain ⟨tag, content, q, -, -, h⟩ := decode_eq_ok_iff.mp h
  obtain ⟨-, fs, -, -, given, -⟩ := decodeContent_eq_ok_iff.mp h
  constructor
  · intro n line same
    rw [same] at given
    exact given.1.part (fun w n => Format.lt_of_word) n rfl
  · intro device line same
    rw [same] at given
    exact given.2.1.defaulted (by decide) fun w n => Format.lt_of_word

/-- Nothing else that is written of an interface is called its protocol. -/
theorem InterfaceDecl.ne_protocol_of_mem_members (d : InterfaceDecl) :
    ∀ m ∈ d.members, m.1 ≠ "protocol" := by
  obtain ⟨_, _ | _ | _ | _⟩ := d <;> simp [members]

/-- What is alike to what is written of an interface has a field for its name. -/
theorem InterfaceDecl.has_name {f : Format Datum} (faithful : f.Faithful) {d : InterfaceDecl}
    {os : List (String × Json)} (alike : Json.AlikeMembers d.members os) :
    (Fields.ofMembers os).Has 0 "name" (some none) (f.optional f.text) d.name := by
  refine (readsBack_optionalText faithful d.name).has alike ?_
  obtain ⟨name, _ | _ | _ | _⟩ := d <;> rfl

/-- It has fields for everything else the interface is. -/
theorem InterfaceDecl.givenBy_of_alike {f : Format Datum} (faithful : f.Faithful) {d : InterfaceDecl}
    (h : d.Describable) {os : List (String × Json)} (alike : Json.AlikeMembers d.members os) :
    d.carrier.GivenBy f (.ofMembers os) := by
  obtain ⟨name, address | ⟨device, line⟩ | address | ⟨header, symbol, args⟩⟩ := d
  · exact (readsBack_optionalText faithful address).has alike rfl
  · have device_small : ∀ n, device = some n → n < 2 ^ 32 := by
      rintro n rfl
      exact h.device n line rfl
    exact ⟨(readsBack_optionalNat faithful device_small).has alike rfl,
      (faithful.reads_word (h.baudRate device line rfl)).has alike rfl,
      (DataBits.readsBack faithful line.dataBits).has alike rfl,
      (Parity.readsBack faithful line.parity).has alike rfl,
      (StopBits.readsBack faithful line.stopBits).has alike rfl,
      (TransferMode.readsBack faithful line.mode).has alike rfl⟩
  · exact (readsBack_optionalText faithful address).has alike rfl
  · exact ⟨(faithful.reads_text header).has alike rfl,
      (readsBack_optionalText faithful symbol).has alike rfl,
      (faithful.reads_text args).has alike rfl⟩

/-- An interface is read back from what is written of it. -/
theorem InterfaceDecl.readsBack {f : Format Datum} (faithful : f.Faithful) {d : InterfaceDecl}
    (h : d.Describable) : ReadsBack (InterfaceDecl.decode f) d.toJson d := by
  refine .of_members fun os alike => ?_
  -- The content is read by a format of its own, so that this one must be faithful too.
  obtain ⟨rest, tagged, content⟩ := tagged?_of_alike alike d.ne_protocol_of_mem_members
  have given := decodeContent_eq_ok_iff.mpr ⟨rfl, _, Format.faithful_content.record rest,
    has_name Format.faithful_content content, givenBy_of_alike Format.faithful_content h content,
    Fields.closed_ofMembers _ _⟩
  rw [← faithful.tagged] at tagged
  exact decode_eq_ok_iff.mpr ⟨_, _, _, tagged, Protocol.ofTag?_tag _, given⟩

/-! ## Instances -/

/-- Joining policies are read back from their names. -/
theorem JoiningPolicy.readsBack {f : Format Datum} (faithful : f.Faithful) (p : JoiningPolicy) :
    ReadsBack (JoiningPolicy.decode f) (.str p.name) p :=
  faithful.reads_variant (by cases p <;> rfl)

/-- The fields of an instance. -/
theorem Instance.decode_eq_ok_iff {i : Instance} : Instance.decode f v = .ok i ↔
    ∃ fs, f.record? v = some fs ∧ fs.Has 0 "name" none f.text i.name ∧
      fs.Has 1 "bank_width" (some none) (f.optional (f.word 64)) i.bankWidth ∧
      fs.Has 2 "ports" (some []) (f.list (Port.decode f)) i.ports ∧
      fs.Has 3 "interfaces" (some []) (f.list (InterfaceDecl.decode f)) i.interfaces ∧
      fs.Has 4 "clock_sync" (some none) (f.optional (ClockSync.decode f)) i.clockSync ∧
      fs.Has 5 "joining_policy" (some .immediately) (JoiningPolicy.decode f) i.joiningPolicy ∧
      fs.Closed 6 := by
  unfold Instance.decode
  simp only [record_eq_ok_iff, Parsed.exists_seq_iff, Parsed.exists_map_iff]
  constructor
  · rintro ⟨fs, hfs, ⟨_, name, _, width, _, ports, _, interfaces, _, clock, _, policy, rfl⟩,
      closed⟩
    exact ⟨fs, hfs, name, width, ports, interfaces, clock, policy, closed⟩
  · rintro ⟨fs, hfs, name, width, ports, interfaces, clock, policy, closed⟩
    exact ⟨fs, hfs, ⟨_, name, _, width, _, ports, _, interfaces, _, clock, _, policy, rfl⟩, closed⟩

/-- What a description says of an instance can be written. -/
theorem Instance.describable_of_decode {i : Instance} (h : Instance.decode f v = .ok i) :
    i.Describable := by
  obtain ⟨fs, -, -, width, ports, interfaces, clock, -⟩ := Instance.decode_eq_ok_iff.mp h
  exact {
    bankWidth := width.part fun w n => Format.lt_of_word
    ports := ports.items fun w q => Port.describable_of_decode
    interfaces := interfaces.items fun w d => InterfaceDecl.describable_of_decode
    clockSync := clock.part fun w c => ClockSync.describable_of_decode }

/-- An instance is read back from what is written of it. -/
theorem Instance.readsBack {f : Format Datum} (faithful : f.Faithful) {i : Instance}
    (h : i.Describable) : ReadsBack (Instance.decode f) i.toJson i :=
  .of_members fun os members => Instance.decode_eq_ok_iff.mpr ⟨_, faithful.record os,
    (faithful.reads_text i.name).has members rfl,
    (readsBack_optionalNat faithful h.bankWidth).has members rfl,
    (faithful.reads_list fun q hq => Port.readsBack faithful (h.ports q hq)).has members rfl,
    (faithful.reads_list fun d hd =>
      InterfaceDecl.readsBack faithful (h.interfaces d hd)).has members rfl,
    (faithful.reads_optional fun c hc =>
      ⟨rfl, ClockSync.readsBack faithful (h.clockSync c hc)⟩).has members rfl,
    (JoiningPolicy.readsBack faithful i.joiningPolicy).has members rfl,
    Fields.closed_ofMembers _ 6⟩

/-! ## Statements -/

/-- A reference that is read is to names that are identifiers. -/
theorem PortRef.named_of_decode {r : PortRef} (h : PortRef.decode f v = .ok r) : r.Named := by
  obtain ⟨s, read⟩ := Format.exists_of_converted h
  exact named_of_read? read

/-- A reference is read back from its text form. -/
theorem PortRef.readsBack {f : Format Datum} (faithful : f.Faithful) {r : PortRef} (h : r.Named) :
    ReadsBack (PortRef.decode f) r.toJson r :=
  faithful.reads_converted h.reads

/-- The fields of a connection statement. -/
theorem Statement.decode_eq_ok_iff {s : Statement} : Statement.decode f v = .ok s ↔
    ∃ fs, f.record? v = some fs ∧ fs.Has 0 "left" none (f.list (PortRef.decode f)) s.left ∧
      fs.Has 1 "right" none (f.list (PortRef.decode f)) s.right ∧
      fs.Has 2 "delay_ns" (some none) (f.optional (f.word 64)) s.delayNs ∧
      fs.Has 3 "physical" (some false) f.bool s.physical ∧
      fs.Has 4 "iterated" (some false) f.bool s.iterated ∧
      fs.Has 5 "buffer_size" (some none) (f.optional (f.word 64)) s.bufferSize ∧
      fs.Has 6 "link" (some none) (f.optional (Link.decode f)) s.link ∧ fs.Closed 7 := by
  unfold Statement.decode
  simp only [record_eq_ok_iff, Parsed.exists_seq_iff, Parsed.exists_map_iff]
  constructor
  · rintro ⟨fs, hfs, ⟨_, left, _, right, _, delay, _, physical, _, iterated, _, size, _, link, rfl⟩,
      closed⟩
    exact ⟨fs, hfs, left, right, delay, physical, iterated, size, link, closed⟩
  · rintro ⟨fs, hfs, left, right, delay, physical, iterated, size, link, closed⟩
    exact ⟨fs, hfs, ⟨_, left, _, right, _, delay, _, physical, _, iterated, _, size, _, link, rfl⟩,
      closed⟩

/-- What a description says of a statement can be written. -/
theorem Statement.describable_of_decode {s : Statement} (h : Statement.decode f v = .ok s) :
    s.Describable := by
  obtain ⟨fs, -, left, right, delay, -, -, size, link, -⟩ := Statement.decode_eq_ok_iff.mp h
  have named : ∀ w (rs : List PortRef), f.list (PortRef.decode f) w = .ok rs → ∀ r ∈ rs, r.Named :=
    fun w rs given => Format.list_forall given fun u r => PortRef.named_of_decode
  exact {
    left := left.required named
    right := right.required named
    delayNs := delay.part fun w n => Format.lt_of_word
    bufferSize := size.part fun w n => Format.lt_of_word
    link := link.part fun w l => Link.describable_of_decode }

/-- A statement is read back from what is written of it. -/
theorem Statement.readsBack {f : Format Datum} (faithful : f.Faithful) {s : Statement}
    (h : s.Describable) : ReadsBack (Statement.decode f) s.toJson s :=
  .of_members fun os members => Statement.decode_eq_ok_iff.mpr ⟨_, faithful.record os,
    (faithful.reads_list fun r hr => PortRef.readsBack faithful (h.left r hr)).has members rfl,
    (faithful.reads_list fun r hr => PortRef.readsBack faithful (h.right r hr)).has members rfl,
    (readsBack_optionalNat faithful h.delayNs).has members rfl,
    (faithful.reads_bool s.physical).has members rfl,
    (faithful.reads_bool s.iterated).has members rfl,
    (readsBack_optionalNat faithful h.bufferSize).has members rfl,
    (faithful.reads_optional fun l hl =>
      ⟨rfl, Link.readsBack faithful (h.link l hl)⟩).has members rfl,
    Fields.closed_ofMembers _ 7⟩

/-! ## Programs -/

/-- The fields of a program. -/
theorem Program.decode_eq_ok_iff {p : Program} : Program.decode f v = .ok p ↔
    ∃ fs, f.record? v = some fs ∧ fs.Has 0 "name" none f.text p.name ∧
      fs.Has 1 "federated" (some false) f.bool p.federated ∧
      fs.Has 2 "ports" (some []) (f.list (Port.decode f)) p.ports ∧
      fs.Has 3 "instances" (some []) (f.list (Instance.decode f)) p.instances ∧
      fs.Has 4 "connections" (some []) (f.list (Statement.decode f)) p.statements ∧ fs.Closed 5 := by
  unfold Program.decode
  simp only [record_eq_ok_iff, Parsed.exists_seq_iff, Parsed.exists_map_iff]
  constructor
  · rintro ⟨fs, hfs, ⟨_, name, _, federated, _, ports, _, instances, _, statements, rfl⟩, closed⟩
    exact ⟨fs, hfs, name, federated, ports, instances, statements, closed⟩
  · rintro ⟨fs, hfs, name, federated, ports, instances, statements, closed⟩
    exact ⟨fs, hfs, ⟨_, name, _, federated, _, ports, _, instances, _, statements, rfl⟩, closed⟩

/-- What a description says of a program can be written. -/
theorem Program.describable_of_decode {p : Program} (h : Program.decode f v = .ok p) :
    p.Describable := by
  obtain ⟨fs, -, -, -, ports, instances, statements, -⟩ := Program.decode_eq_ok_iff.mp h
  exact {
    ports := ports.items fun w q => Port.describable_of_decode
    instances := instances.items fun w i => Instance.describable_of_decode
    statements := statements.items fun w s => Statement.describable_of_decode }

/-- A program is read back from its normalised form. -/
theorem Program.readsBack {f : Format Datum} (faithful : f.Faithful) {p : Program}
    (h : p.Describable) : ReadsBack (Program.decode f) p.toJson p :=
  .of_members fun os members => Program.decode_eq_ok_iff.mpr ⟨_, faithful.record os,
    (faithful.reads_text p.name).has members rfl,
    (faithful.reads_bool p.federated).has members rfl,
    (faithful.reads_list fun q hq => Port.readsBack faithful (h.ports q hq)).has members rfl,
    (faithful.reads_list fun i hi =>
      Instance.readsBack faithful (h.instances i hi)).has members rfl,
    (faithful.reads_list fun s hs =>
      Statement.readsBack faithful (h.statements s hs)).has members rfl,
    Fields.closed_ofMembers _ 5⟩

end ReactorNet
