/-!
# `ReactorNet.Protocol` · the protocols that interfaces and channels speak

The closed set of protocols, the tag that a description names each of them by, the title that
messages use, and the flag that makes the runtime build the channel implementation.
-/

namespace ReactorNet

/-- What an interface speaks. The two ends of a channel speak the same protocol. -/
inductive Protocol where
  /-- TCP over IP: one side listens on a port. -/
  | tcp
  /-- A serial line. -/
  | uart
  /-- CoAP over UDP: both sides are peers. -/
  | coap
  /-- A channel implementation that the program brings along. -/
  | custom
deriving DecidableEq, Repr

namespace Protocol

/-- The tag in descriptions and reports. -/
def tag : Protocol → String
  | tcp => "tcp_ip"
  | uart => "uart"
  | coap => "coap_udp_ip"
  | custom => "custom"

/-- The title in messages. -/
def title : Protocol → String
  | tcp => "TCP/IP"
  | uart => "UART"
  | coap => "CoAP/UDP/IP"
  | custom => "custom"

/-- The build flag that selects the channel implementation. -/
def compileFlag : Protocol → String
  | tcp => "NETWORK_CHANNEL_TCP"
  | uart => "NETWORK_CHANNEL_UART"
  | coap => "NETWORK_CHANNEL_COAP"
  | custom => "NETWORK_CHANNEL_CUSTOM"

/-- All protocols. -/
def all : List Protocol := [tcp, uart, coap, custom]

/-- The protocol that a tag names. -/
def ofTag? (tag : String) : Option Protocol := all.find? fun p => p.tag == tag

/-- A tag names the protocol it belongs to. -/
theorem ofTag?_tag (p : Protocol) : ofTag? p.tag = some p := by
  cases p <;> decide

end Protocol

end ReactorNet
