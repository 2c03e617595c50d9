/-!
# `ReactorNet.Link` · what a connection statement says about its network channel

The settings of a link: the interfaces at its two ends, the side that listens and the port it
listens on, and the encryption on top. A statement without a link is a statement with all defaults.
-/

namespace ReactorNet

/-- A side of a connection. -/
inductive Side where
  /-- The side of the sources. -/
  | left
  /-- The side of the destinations. -/
  | right
deriving DecidableEq, Repr

/-- The name in descriptions. -/
def Side.name : Side → String
  | left => "left"
  | right => "right"

/-- An encryption on top of a channel. -/
inductive Encryption where
  /-- The data pass unchanged. -/
  | passThrough
deriving DecidableEq, Repr

/-- The name in descriptions and reports. -/
def Encryption.name : Encryption → String
  | passThrough => "no_encryption"

/-- The constructor that both sides wrap their channel with. -/
def Encryption.symbol : Encryption → String
  | passThrough => "NoEncryptionLayer_ctor"

/-- The settings of a link. -/
structure Link where
  /-- The interface of the source; its default one if not given. -/
  left : Option String := none
  /-- The interface of the destination; its default one if not given. -/
  right : Option String := none
  /-- The side that listens. -/
  serverSide : Side := .left
  /-- The port that it listens on; a free one if not given. -/
  serverPort : Option Nat := none
  /-- The encryption. -/
  encryption : Encryption := .passThrough
deriving DecidableEq, Repr

end ReactorNet
