import ReactorNet.Interface.Basic
import ReactorNet.Link

/-!
# `ReactorNet.Channel.Basic` · network channels and what their sides construct

A channel joins two interfaces of one protocol. `Channel.endpoint` gives what each side mints on its
interface, `Channel.descriptor` what each side constructs when it starts, and `Descriptor.call` the
constructor call in which that is written.

**Sides.** Both sides of a TCP channel name the host and port of the side that listens. In a CoAP
channel each side names the other. In the remaining channels each side names itself.
-/

namespace ReactorNet

/-- A network channel from a source to a destination. -/
inductive Channel where
  /-- A TCP channel: which side listens, and on which port. -/
  | tcp (source destination : Address) (server : Side) (port : Nat)
  /-- A serial line. -/
  | uart (source destination : SerialPort)
  /-- A CoAP channel. -/
  | coap (source destination : Address)
  /-- A custom channel. -/
  | custom (source destination : CustomChannel)
deriving DecidableEq, Repr

/-- What one side of a channel constructs. -/
inductive Descriptor where
  /-- A TCP channel that listens on, or connects to, the given host and port. -/
  | tcp (host : Address) (port : Nat) (isServer : Bool)
  /-- A serial line. -/
  | uart (port : SerialPort)
  /-- A CoAP channel to the given host. -/
  | coap (remote : Address)
  /-- A custom channel. -/
  | custom (channel : CustomChannel)
deriving DecidableEq, Repr

/-- One of two values, by the side it belongs to. -/
def Side.choose {α : Type} (side : Side) (left right : α) : α :=
  match side with
  | .left => left
  | .right => right

/-- The other side. -/
def Side.opposite : Side → Side
  | .left => .right
  | .right => .left

namespace Channel

/-- The protocol of a channel. -/
def protocol : Channel → Protocol
  | tcp .. => .tcp
  | uart .. => .uart
  | coap .. => .coap
  | custom .. => .custom

/-- Whether the source listens. Only TCP channels have a side that does. -/
def sourceListens : Channel → Bool
  | tcp _ _ server _ => server == .left
  | _ => false

/-- What a channel mints on the interface of a side. -/
def endpoint (side : Side) : Channel → Endpoint
  | tcp s d server port => .tcp (side.choose s d) (if side == server then some port else none)
  | uart s d => .uart (side.choose s d)
  | coap s d => .coap (side.choose s d)
  | custom s d => .custom (side.choose s d)

/-- What a side of a channel constructs. -/
def descriptor (side : Side) : Channel → Descriptor
  | tcp s d server port => .tcp (server.choose s d) port (side == server)
  | uart s d => .uart (side.choose s d)
  | coap s d => .coap (side.opposite.choose s d)
  | custom s d => .custom (side.choose s d)

end Channel

namespace Descriptor

/-- The protocol of the channel that is constructed. -/
def protocol : Descriptor → Protocol
  | tcp .. => .tcp
  | uart _ => .uart
  | coap _ => .coap
  | custom _ => .custom

/-- The constructor symbol. -/
def symbol : Descriptor → String
  | tcp .. => "TcpIpChannel_ctor"
  | uart p =>
    match p.line.mode with
    | .polled => "UARTPollChannel_ctor"
    | .asynchronous => "UARTAsyncChannel_ctor"
  | coap _ => "CoapUdpIpChannel_ctor"
  | custom c => c.symbol

/-- The header that is needed besides those of the runtime. -/
def header? : Descriptor → Option String
  | custom c => some c.header
  | _ => none

/-- The text of a truth value. -/
def truthText (b : Bool) : String := if b then "true" else "false"

/-- A text in quotation marks. -/
def quoted (s : String) : String := "\"" ++ s ++ "\""

/-- The arguments of the constructor. -/
def args : Descriptor → String
  | tcp host port isServer =>
    ", ".intercalate [quoted host.text, toString port, host.family.symbol, truthText isServer]
  | uart p =>
    ", ".intercalate [toString p.device, toString p.line.baudRate,
      "UART_DATA_BITS_" ++ toString p.line.dataBits.count, p.line.parity.symbol,
      "UART_STOP_BITS_" ++ toString p.line.stopBits.count]
  | coap remote => ", ".intercalate [quoted remote.text, remote.family.symbol]
  | custom c => c.args

/-- The constructor call. -/
def call (d : Descriptor) : String := d.symbol ++ "(" ++ d.args ++ ")"

end Descriptor

end ReactorNet
