/-!
# `ReactorNet.Uart` · the settings of a serial line

The settings that both ends of a serial line agree on, with the defaults of a declaration that does
not mention them: 115200 baud, eight data bits, no parity, one stop bit, polled transfers.
-/

namespace ReactorNet

/-- The data bits of a frame. -/
inductive DataBits where
  /-- Five. -/
  | five
  /-- Six. -/
  | six
  /-- Seven. -/
  | seven
  /-- Eight. -/
  | eight
deriving DecidableEq, Repr

/-- The number of data bits. -/
def DataBits.count : DataBits → Nat
  | five => 5
  | six => 6
  | seven => 7
  | eight => 8

/-- The setting for a number of data bits. -/
def DataBits.ofCount? : Nat → Option DataBits
  | 5 => some five
  | 6 => some six
  | 7 => some seven
  | 8 => some eight
  | _ => none

/-- The stop bits of a frame. -/
inductive StopBits where
  /-- One. -/
  | one
  /-- Two. -/
  | two
deriving DecidableEq, Repr

/-- The number of stop bits. -/
def StopBits.count : StopBits → Nat
  | one => 1
  | two => 2

/-- The setting for a number of stop bits. -/
def StopBits.ofCount? : Nat → Option StopBits
  | 1 => some one
  | 2 => some two
  | _ => none

/-- The parity bit of a frame. -/
inductive Parity where
  /-- No parity bit. -/
  | none
  /-- The number of ones is even. -/
  | even
  /-- The number of ones is odd. -/
  | odd
  /-- The bit is one. -/
  | mark
  /-- The bit is zero. -/
  | space
deriving DecidableEq, Repr

/-- The name in descriptions and reports. -/
def Parity.name : Parity → String
  | none => "none"
  | even => "even"
  | odd => "odd"
  | mark => "mark"
  | space => "space"

/-- The symbol that a channel constructor takes for the parity. -/
def Parity.symbol : Parity → String
  | none => "UART_PARITY_NONE"
  | even => "UART_PARITY_EVEN"
  | odd => "UART_PARITY_ODD"
  | mark => "UART_PARITY_MARK"
  | space => "UART_PARITY_SPACE"

/-- How bytes are moved. -/
inductive TransferMode where
  /-- The processor polls the line. -/
  | polled
  /-- The line interrupts the processor. -/
  | asynchronous
deriving DecidableEq, Repr

/-- The name in reports. -/
def TransferMode.name : TransferMode → String
  | polled => "polled"
  | asynchronous => "asynchronous"

/-- The settings of a serial line. -/
structure UartLine where
  /-- Symbols per second. -/
  baudRate : Nat := 115200
  /-- Data bits of a frame. -/
  dataBits : DataBits := .eight
  /-- Parity bit of a frame. -/
  parity : Parity := .none
  /-- Stop bits of a frame. -/
  stopBits : StopBits := .one
  /-- How bytes are moved. -/
  mode : TransferMode := .polled
deriving DecidableEq, Repr

/-- A number of data bits names the setting that has it. -/
theorem DataBits.ofCount?_count (b : DataBits) : ofCount? b.count = some b := by
  cases b <;> rfl

/-- A number of stop bits names the setting that has it. -/
theorem StopBits.ofCount?_count (b : StopBits) : ofCount? b.count = some b := by
  cases b <;> rfl

end ReactorNet
