import ReactorNet.Program.Basic
import ReactorNet.Port.Reading
import ReactorNet.Schema.Settled

/-!
# `ReactorNet.Program.Decoding` · reading the schema of a program

The schema: for every record its fields in the order of declaration, and for every field its type,
its name and its default. It is stated once, for all formats; numbers must fit the width that their
field has, and conversions that can be refused say why.

A decoded program need not be valid: `Program.validate` is a step of its own.
-/

namespace ReactorNet

open ReactorNet.Schema

variable {σ : Type}

/-- The outcome of reading a part of the schema. -/
abbrev Decoded (α : Type) := Except (Misfit Rejection) α

/-- Read a reference to a port. -/
def PortRef.decode (f : Format σ) (v : σ) : Decoded PortRef := f.converted PortRef.read? v

/-- Read a declared port. -/
def Port.decode (f : Format σ) (v : σ) : Decoded Port := do
  let fs ← f.record v
  let name := fs.field 0 "name" none f.text
  let width := fs.field 1 "width" (some 1) (f.word 64)
  (Port.mk <$> name <*> width <* fs.close 2).result

/-- Read a number of data bits. -/
def DataBits.decode (f : Format σ) (v : σ) : Decoded DataBits := do
  let n ← f.word 8 v
  match DataBits.ofCount? n with
  | some bits => .ok bits
  | none => .error (.refused (.dataBits n))

/-- Read a number of stop bits. -/
def StopBits.decode (f : Format σ) (v : σ) : Decoded StopBits := do
  let n ← f.word 8 v
  match StopBits.ofCount? n with
  | some bits => .ok bits
  | none => .error (.refused (.stopBits n))

/-- Read a parity. -/
def Parity.decode (f : Format σ) (v : σ) : Decoded Parity :=
  f.variant ([.none, .even, .odd, .mark, .space].map fun (p : Parity) => (p.name, p)) v

/-- Read a flag that selects the transfer mode. -/
def TransferMode.decode (f : Format σ) (v : σ) : Decoded TransferMode := do
  return if ← f.bool v then .asynchronous else .polled

/-- Read what a declared interface of the given protocol says besides the protocol. -/
def InterfaceDecl.decodeContent (p : Protocol) (f : Format σ) (v : σ) : Decoded InterfaceDecl := do
  let fs ← f.record v
  let name := fs.field 0 "name" (some none) (f.optional f.text)
  let address := fs.field 1 "address" (some none) (f.optional f.text)
  match p with
  | .tcp => ((⟨·, .tcp ·⟩) <$> name <*> address <* fs.close 2).result
  | .coap => ((⟨·, .coap ·⟩) <$> name <*> address <* fs.close 2).result
  | .uart =>
    let device := fs.field 1 "device" (some none) (f.optional (f.word 32))
    let line : UartLine := {}
    let line := UartLine.mk
      <$> fs.field 2 "baud_rate" (some line.baudRate) (f.word 32)
      <*> fs.field 3 "data_bits" (some line.dataBits) (DataBits.decode f)
      <*> fs.field 4 "parity" (some line.parity) (Parity.decode f)
      <*> fs.field 5 "stop_bits" (some line.stopBits) (StopBits.decode f)
      <*> fs.field 6 "asynchronous" (some line.mode) (TransferMode.decode f)
    ((fun name device line => ⟨name, .uart device line⟩) <$> name <*> device <*> line
      <* fs.close 7).result
  | .custom =>
    let header := fs.field 1 "include" none f.text
    let symbol := fs.field 2 "constructor" (some none) (f.optional f.text)
    let args := fs.field 3 "args" (some "") f.text
    ((fun name header symbol args => ⟨name, .custom header symbol args⟩) <$> name <*> header
      <*> symbol <*> args <* fs.close 4).result

/-- Read a declared interface. Its protocol is the tag that decides what else it says. -/
def InterfaceDecl.decode (f : Format σ) (v : σ) : Decoded InterfaceDecl :=
  match f.tagged? "protocol" v with
  | none => .error .shape
  | some (tag, content) =>
    match Protocol.ofTag? tag with
    | some p => InterfaceDecl.decodeContent p .content content
    | none => .error .shape

/-- Read a side. -/
def Side.decode (f : Format σ) (v : σ) : Decoded Side :=
  f.variant ([.left, .right].map fun (s : Side) => (s.name, s)) v

/-- Read an encryption. -/
def Encryption.decode (f : Format σ) (v : σ) : Decoded Encryption :=
  f.variant ([.passThrough].map fun (e : Encryption) => (e.name, e)) v

/-- Read the settings of a link. -/
def Link.decode (f : Format σ) (v : σ) : Decoded Link := do
  let fs ← f.record v
  let link : Link := {}
  (Link.mk
    <$> fs.field 0 "left" (some link.left) (f.optional f.text)
    <*> fs.field 1 "right" (some link.right) (f.optional f.text)
    <*> fs.field 2 "server_side" (some link.serverSide) (Side.decode f)
    <*> fs.field 3 "server_port" (some link.serverPort) (f.optional (f.word 16))
    <*> fs.field 4 "encryption" (some link.encryption) (Encryption.decode f)
    <* fs.close 5).result

/-- Read the clock synchronization of an instance. -/
def ClockSync.decode (f : Format σ) (v : σ) : Decoded ClockSync := do
  let fs ← f.record v
  let clock : ClockSync := {}
  (ClockSync.mk
    <$> fs.field 0 "disabled" (some clock.disabled) f.bool
    <*> fs.field 1 "grandmaster" (some clock.grandmaster) f.bool
    <*> fs.field 2 "period_ns" (some clock.periodNs) (f.signed 64)
    <*> fs.field 3 "max_adj" (some clock.maxAdjust) (f.signed 32)
    <*> fs.field 4 "kp" (some clock.kp) f.float
    <*> fs.field 5 "ki" (some clock.ki) f.float
    <* fs.close 6).result

/-- Read a joining policy. -/
def JoiningPolicy.decode (f : Format σ) (v : σ) : Decoded JoiningPolicy :=
  f.variant ([.immediately, .timerAligned].map fun (p : JoiningPolicy) => (p.name, p)) v

/-- Read an instance. -/
def Instance.decode (f : Format σ) (v : σ) : Decoded Instance := do
  let fs ← f.record v
  (Instance.mk
    <$> fs.field 0 "name" none f.text
    <*> fs.field 1 "bank_width" (some none) (f.optional (f.word 64))
    <*> fs.field 2 "ports" (some []) (f.list (Port.decode f))
    <*> fs.field 3 "interfaces" (some []) (f.list (InterfaceDecl.decode f))
    <*> fs.field 4 "clock_sync" (some none) (f.optional (ClockSync.decode f))
    <*> fs.field 5 "joining_policy" (some .immediately) (JoiningPolicy.decode f)
    <* fs.close 6).result

/-- Read a connection statement. -/
def Statement.decode (f : Format σ) (v : σ) : Decoded Statement := do
  let fs ← f.record v
  (Statement.mk
    <$> fs.field 0 "left" none (f.list (PortRef.decode f))
    <*> fs.field 1 "right" none (f.list (PortRef.decode f))
    <*> fs.field 2 "delay_ns" (some none) (f.optional (f.word 64))
    <*> fs.field 3 "physical" (some false) f.bool
    <*> fs.field 4 "iterated" (some false) f.bool
    <*> fs.field 5 "buffer_size" (some none) (f.optional (f.word 64))
    <*> fs.field 6 "link" (some none) (f.optional (Link.decode f))
    <* fs.close 7).result

/-- Read a program. -/
def Program.decode (f : Format σ) (v : σ) : Decoded Program := do
  let fs ← f.record v
  (Program.mk
    <$> fs.field 0 "name" none f.text
    <*> fs.field 1 "federated" (some false) f.bool
    <*> fs.field 2 "ports" (some []) (f.list (Port.decode f))
    <*> fs.field 3 "instances" (some []) (f.list (Instance.decode f))
    <*> fs.field 4 "connections" (some []) (f.list (Statement.decode f))
    <* fs.close 5).result

end ReactorNet
