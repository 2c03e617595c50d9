import ReactorNet.Json.Value
import ReactorNet.Program.Basic

/-!
# `ReactorNet.Program.Encoding` · the normalised form of a program

Every part of a program as a JSON value in which every field is written out: defaults are filled in,
absent parts are `null`, references are in their text form, and an interface is tagged with its
protocol. Fields stand in the order of their declaration.
-/

namespace ReactorNet

/-- An optional text as JSON. -/
def optionalText (s : Option String) : Json := .ofOption .str s

/-- An optional number as JSON. -/
def optionalNat (n : Option Nat) : Json := .ofOption .nat n

/-- A reference as JSON. -/
def PortRef.toJson (r : PortRef) : Json := .str r.text

/-- A port as JSON. -/
def Port.toJson (p : Port) : Json := .obj [("name", .str p.name), ("width", .nat p.width)]

/-- What is written of an interface besides its protocol. -/
def InterfaceDecl.members (d : InterfaceDecl) : List (String × Json) :=
  ("name", optionalText d.name) ::
    match d.carrier with
    | .tcp address => [("address", optionalText address)]
    | .coap address => [("address", optionalText address)]
    | .uart device line =>
      [("device", optionalNat device), ("baud_rate", .nat line.baudRate),
        ("data_bits", .nat line.dataBits.count), ("parity", .str line.parity.name),
        ("stop_bits", .nat line.stopBits.count),
        ("asynchronous", .bool (line.mode == .asynchronous))]
    | .custom header symbol args =>
      [("include", .str header), ("constructor", optionalText symbol), ("args", .str args)]

/-- A declared interface as JSON. -/
def InterfaceDecl.toJson (d : InterfaceDecl) : Json :=
  .obj (("protocol", .str d.carrier.protocol.tag) :: d.members)

/-- The settings of a link as JSON. -/
def Link.toJson (l : Link) : Json :=
  .obj [("left", optionalText l.left), ("right", optionalText l.right),
    ("server_side", .str l.serverSide.name), ("server_port", optionalNat l.serverPort),
    ("encryption", .str l.encryption.name)]

/-- The clock synchronization as JSON. -/
def ClockSync.toJson (c : ClockSync) : Json :=
  .obj [("disabled", .bool c.disabled), ("grandmaster", .bool c.grandmaster),
    ("period_ns", .int c.periodNs), ("max_adj", .int c.maxAdjust), ("kp", .float c.kp),
    ("ki", .float c.ki)]

/-- An instance as JSON. -/
def Instance.toJson (i : Instance) : Json :=
  .obj [("name", .str i.name), ("bank_width", optionalNat i.bankWidth),
    ("ports", .ofList Port.toJson i.ports), ("interfaces", .ofList InterfaceDecl.toJson i.interfaces),
    ("clock_sync", .ofOption ClockSync.toJson i.clockSync),
    ("joining_policy", .str i.joiningPolicy.name)]

/-- A connection statement as JSON. -/
def Statement.toJson (s : Statement) : Json :=
  .obj [("left", .ofList PortRef.toJson s.left), ("right", .ofList PortRef.toJson s.right),
    ("delay_ns", optionalNat s.delayNs), ("physical", .bool s.physical),
    ("iterated", .bool s.iterated), ("buffer_size", optionalNat s.bufferSize),
    ("link", .ofOption Link.toJson s.link)]

/-- A program as JSON. -/
def Program.toJson (p : Program) : Json :=
  .obj [("name", .str p.name), ("federated", .bool p.federated),
    ("ports", .ofList Port.toJson p.ports), ("instances", .ofList Instance.toJson p.instances),
    ("connections", .ofList Statement.toJson p.statements)]

end ReactorNet
