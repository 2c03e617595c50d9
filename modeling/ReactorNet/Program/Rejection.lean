import ReactorNet.Port.Reference

/-!
# `ReactorNet.Program.Rejection` · why a description is rejected

The causes for which a value that fits the schema is still refused: names that are no identifiers,
duplicates, empty banks and ports, dangling references, and settings that a serial line or a server
cannot have. Each has a message and the field it is about.
-/

namespace ReactorNet

/-- Where a name stands that has to be an identifier. -/
inductive NamePlace where
  /-- In a reference to a port. -/
  | portReference
  /-- At a port of the program itself. -/
  | programPort
  /-- At an instance. -/
  | ofInstance
  /-- At a port of an instance. -/
  | instancePort
  /-- At an interface. -/
  | ofInterface
deriving DecidableEq, Repr

/-- The field that a name stands in. -/
def NamePlace.field : NamePlace → String
  | portReference => "port reference"
  | programPort => "ports"
  | ofInstance => "instances.name"
  | instancePort => "instances.ports"
  | ofInterface => "instances.interfaces.name"

/-- Why a description is rejected. -/
inductive Rejection where
  /-- A name is no identifier. -/
  | notIdentifier (name : String) (place : NamePlace)
  /-- Two ports of one owner have the same name. -/
  | duplicatePort (name : String) (place : NamePlace)
  /-- A port has no channels. -/
  | emptyPort (name : String) (place : NamePlace)
  /-- Two instances have the same name. -/
  | duplicateInstance (name : String)
  /-- A bank has no members. -/
  | emptyBank (name : String)
  /-- Two interfaces of one instance are given the same name. -/
  | duplicateInterface (name owner : String)
  /-- A side of a connection statement has no ports. -/
  | emptySide (statement : Nat)
  /-- A connection statement refers to a port that is not declared. -/
  | unknownPort (statement : Nat) (ref : PortRef)
  /-- A connection statement asks for port 0. -/
  | serverPortZero (statement : Nat)
  /-- A serial line has no frames with so many data bits. -/
  | dataBits (count : Nat)
  /-- A serial line has no frames with so many stop bits. -/
  | stopBits (count : Nat)
deriving DecidableEq, Repr

namespace Rejection

/-- What the rejection says. -/
def reason : Rejection → String
  | notIdentifier name _ => "`" ++ name ++ "` is not a valid identifier"
  | duplicatePort name _ => "Duplicate port `" ++ name ++ "`"
  | emptyPort name _ => "Port `" ++ name ++ "` must have a width of at least 1"
  | duplicateInstance name => "Duplicate instance name `" ++ name ++ "`"
  | emptyBank name => "Bank `" ++ name ++ "` must have a width of at least 1"
  | duplicateInterface name owner => "Duplicate interface `" ++ name ++ "` on `" ++ owner ++ "`"
  | emptySide i => "Connection " ++ toString i ++ " must have ports on both sides"
  | unknownPort i ref =>
    "Connection " ++ toString i ++ " references unknown port `" ++ ref.text ++ "`"
  | serverPortZero i => "Connection " ++ toString i ++ " requests server port 0"
  | dataBits n => "UART data bits must be between 5 and 8, got " ++ toString n
  | stopBits n => "UART stop bits must be 1 or 2, got " ++ toString n

/-- The field that the rejection is about. -/
def field : Rejection → String
  | notIdentifier _ place => place.field
  | duplicatePort _ place => place.field
  | emptyPort _ place => place.field
  | duplicateInstance _ => NamePlace.ofInstance.field
  | emptyBank _ => "instances.bank_width"
  | duplicateInterface .. => NamePlace.ofInterface.field
  | emptySide _ => "connections"
  | unknownPort .. => "connections"
  | serverPortZero _ => "connections.link.server_port"
  | dataBits _ => "data_bits"
  | stopBits _ => "stop_bits"

/-- The message of the rejection. -/
def message (r : Rejection) : String := "Invalid configuration: " ++ r.reason

end Rejection

end ReactorNet
