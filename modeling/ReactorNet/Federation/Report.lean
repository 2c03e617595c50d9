import ReactorNet.Federation.Basic
import ReactorNet.Json.Value
import ReactorNet.Program.Encoding

/-!
# `ReactorNet.Federation.Report` · what is reported about a topology

Interfaces, channels, bundles and the whole topology as JSON values, whose members stand in the
order in which a report lists them. A value of several shapes is tagged: interfaces and endpoints by
`protocol`, channels by `type`, descriptors by `channel`.
-/

namespace ReactorNet

/-- An address as JSON. -/
def Address.toJson (a : Address) : Json := .str a.text

/-- A serial device as the members of a JSON object. -/
def SerialPort.members (p : SerialPort) : List (String × Json) :=
  [("device", .nat p.device), ("baud_rate", .nat p.line.baudRate),
    ("data_bits", .nat p.line.dataBits.count), ("parity", .str p.line.parity.name),
    ("stop_bits", .nat p.line.stopBits.count), ("mode", .str p.line.mode.name)]

/-- A custom channel as the members of a JSON object. -/
def CustomChannel.members (c : CustomChannel) : List (String × Json) :=
  [("include", .str c.header), ("constructor", .str c.symbol), ("args", .str c.args)]

/-- The two ends of a TCP channel, or the only end of another, as the members of a JSON object. -/
def Endpoint.members : Endpoint → List (String × Json)
  | tcp a port => [("address", a.toJson), ("port", optionalNat port)]
  | uart p => p.members
  | coap a => [("address", a.toJson)]
  | custom c => c.members

/-- An endpoint as JSON. -/
def Endpoint.toJson (e : Endpoint) : Json := .obj (("protocol", .str e.protocol.tag) :: e.members)

/-- What an interface is bound to, as JSON. -/
def Binding.toJson (b : Binding) : Json :=
  .obj (("protocol", .str b.protocol.tag) ::
    match b with
    | .tcp a => [("address", a.toJson)]
    | .coap a => [("address", a.toJson)]
    | .uart p => p.members
    | .custom c => c.members)

/-- An interface as JSON. -/
def Interface.toJson (i : Interface) : Json :=
  .obj [("name", .str i.name), ("kind", i.binding.toJson),
    ("endpoints", .ofList Endpoint.toJson i.endpoints)]

/-- The interfaces of a federate as JSON. -/
def Interfaces.toJson (is : Interfaces) : Json := .ofList Interface.toJson is.toList

/-- A channel as JSON. -/
def Channel.toJson (c : Channel) : Json :=
  .obj (("type", .str c.protocol.tag) :: ("source", .obj (c.endpoint .left).members) ::
    ("destination", .obj (c.endpoint .right).members) ::
    match c with
    | .tcp _ _ server port =>
      [("server_is_source", .bool (server == .left)), ("server_port", .nat port)]
    | _ => [])

/-- A channel that was laid, as JSON. -/
def LaidChannel.toJson (l : LaidChannel) : Json :=
  .obj [("channel", l.channel.toJson), ("encryption", .str l.encryption.name),
    ("source_interface", .str l.sourceInterface),
    ("destination_interface", .str l.destinationInterface)]

/-- A bundle as JSON. -/
def Bundle.toJson (b : Bundle) : Json :=
  .obj [("source_federate", .nat b.source), ("destination_federate", .nat b.destination),
    ("grouped_connections", .ofList .nat b.groups), ("channel", b.laid.toJson)]

/-- What a side constructs, as JSON. -/
def Descriptor.toJson (d : Descriptor) : Json :=
  .obj (("channel", .str d.protocol.tag) ::
    match d with
    | .tcp host port isServer =>
      [("host", host.toJson), ("port", .nat port), ("family", .str host.family.symbol),
        ("is_server", .bool isServer)]
    | .uart p => p.members
    | .coap remote => [("remote_host", remote.toJson), ("family", .str remote.family.symbol)]
    | .custom c => c.members)

namespace Federation

/-- The report about a federate. -/
def federateReport (f : Federation) (index : Nat) (g : Federate) : Json :=
  let bundles := (f.bundlesOf index).length
  .obj [("name", .str g.name), ("interfaces", g.interfaces.toJson),
    ("compile_defs", .ofList .str g.interfaces.compileFlags), ("num_bundles", .nat bundles),
    ("num_neighbors", .nat (f.neighbors index).length), ("clock_sync", g.clockSync.toJson),
    ("num_system_events", .nat (ClockSync.systemEvents bundles)),
    ("local_connections", .ofList (fun g => .str g.name) (f.localGroups index))]

/-- The report about a bundle. -/
def bundleReport (f : Federation) (b : Bundle) : Json :=
  let source := b.laid.channel.descriptor .left
  let destination := b.laid.channel.descriptor .right
  .obj [("source", .str (f.federateName b.source)),
    ("destination", .str (f.federateName b.destination)),
    ("connections", .ofList (fun g => .str g.name) (f.groupsOf b)),
    ("channel_type", .str b.laid.channel.protocol.tag),
    ("source_interface", .str b.laid.sourceInterface),
    ("destination_interface", .str b.laid.destinationInterface),
    ("encryption", .str b.laid.encryption.name),
    ("encryption_call", .str b.laid.encryption.symbol),
    ("source_call", .str source.call), ("destination_call", .str destination.call),
    ("source_init", source.toJson), ("destination_init", destination.toJson)]

/-- The report about a group. -/
def groupReport (g : Group) : Json :=
  .obj [("name", .str g.name), ("source_port", .str g.key.sourcePort.text),
    ("num_destinations", .nat g.pairs.length), ("num_downstreams", .nat g.maxDownstreams),
    ("is_logical", .bool g.isLogical), ("is_physical", .bool g.key.physical),
    ("delay_ns", optionalNat g.key.delayNs), ("max_pending_events", .nat g.maxPending),
    ("federated", .bool g.isFederated)]

/-- The report about a topology. -/
def report (f : Federation) : Json :=
  .obj [("program", .str f.name), ("federated", .bool f.isFederated),
    ("federates", .arr (f.federates.zipIdx.map fun (g, i) => f.federateReport i g)),
    ("bundles", .ofList f.bundleReport f.bundles), ("connections", .ofList groupReport f.groups)]

end Federation

end ReactorNet
