import ReactorNet.Address.Basic
import ReactorNet.Address.Text
import ReactorNet.Allocation.Basic
import ReactorNet.Allocation.Pool
import ReactorNet.Allocation.Session
import ReactorNet.Channel.Basic
import ReactorNet.Channel.Session
import ReactorNet.Channel.Synthesis
import ReactorNet.ClockSync
import ReactorNet.Command.Arguments
import ReactorNet.Command.Directory
import ReactorNet.Command.Run
import ReactorNet.Connection.Group
import ReactorNet.Connection.Pairs
import ReactorNet.Connection.Runs
import ReactorNet.Decimal.Layout
import ReactorNet.Decimal.Literal
import ReactorNet.Decimal.Shortest
import ReactorNet.Federate.Basic
import ReactorNet.Federate.Key
import ReactorNet.Federation.Basic
import ReactorNet.Federation.Bundle
import ReactorNet.Federation.Fault
import ReactorNet.Federation.Report
import ReactorNet.Interface.Basic
import ReactorNet.Interface.Declaration
import ReactorNet.Interface.Fault
import ReactorNet.Interface.Session
import ReactorNet.Interface.Table
import ReactorNet.Json.Printer
import ReactorNet.Json.Reader
import ReactorNet.Json.Value
import ReactorNet.Link
import ReactorNet.Main
import ReactorNet.Port.Expansion
import ReactorNet.Port.Queue
import ReactorNet.Port.Reading
import ReactorNet.Port.Reference
import ReactorNet.Port.Session
import ReactorNet.Program.Basic
import ReactorNet.Program.Decoding
import ReactorNet.Program.Encoding
import ReactorNet.Program.Loading
import ReactorNet.Program.Rejection
import ReactorNet.Program.Validation
import ReactorNet.Proofs.Acceptance
import ReactorNet.Proofs.AddressReading
import ReactorNet.Proofs.Allocation
import ReactorNet.Proofs.BankAddress
import ReactorNet.Proofs.Building
import ReactorNet.Proofs.Bundling
import ReactorNet.Proofs.ChannelLaw
import ReactorNet.Proofs.CompileFlags
import ReactorNet.Proofs.CountingOrder
import ReactorNet.Proofs.Describing
import ReactorNet.Proofs.Descriptors
import ReactorNet.Proofs.Digits
import ReactorNet.Proofs.Endpoints
import ReactorNet.Proofs.Ends
import ReactorNet.Proofs.Enlistment
import ReactorNet.Proofs.EnlistmentLaw
import ReactorNet.Proofs.Exclusivity
import ReactorNet.Proofs.Extension
import ReactorNet.Proofs.FanOut
import ReactorNet.Proofs.Faults
import ReactorNet.Proofs.FirstLink
import ReactorNet.Proofs.Gathering
import ReactorNet.Proofs.Grandmaster
import ReactorNet.Proofs.Grouping
import ReactorNet.Proofs.HandingOut
import ReactorNet.Proofs.InterfaceLaw
import ReactorNet.Proofs.InterfaceNames
import ReactorNet.Proofs.Interfaces
import ReactorNet.Proofs.Ledger
import ReactorNet.Proofs.LinkInfluence
import ReactorNet.Proofs.MemberOrder
import ReactorNet.Proofs.Naming
import ReactorNet.Proofs.NormalForm
import ReactorNet.Proofs.Normalising
import ReactorNet.Proofs.Ownership
import ReactorNet.Proofs.Partition
import ReactorNet.Proofs.Pieces
import ReactorNet.Proofs.PortByPort
import ReactorNet.Proofs.PortReading
import ReactorNet.Proofs.Refusal
import ReactorNet.Proofs.Renumbering
import ReactorNet.Proofs.Reordering
import ReactorNet.Proofs.Replaying
import ReactorNet.Proofs.Reporting
import ReactorNet.Proofs.Rereading
import ReactorNet.Proofs.Runs
import ReactorNet.Proofs.ServerPort
import ReactorNet.Proofs.Spelling
import ReactorNet.Proofs.Splitting
import ReactorNet.Proofs.Validation
import ReactorNet.Proofs.Views
import ReactorNet.Proofs.WellFormedness
import ReactorNet.Protocol
import ReactorNet.Schema.Datum
import ReactorNet.Schema.Fields
import ReactorNet.Schema.Format
import ReactorNet.Schema.Settled
import ReactorNet.Text.Blank
import ReactorNet.Text.Identifier
import ReactorNet.Text.Numeral
import ReactorNet.Toml.Document
import ReactorNet.Toml.Scalar
import ReactorNet.Toml.Table
import ReactorNet.Uart
import ReactorNet.Yaml.Cursor
import ReactorNet.Yaml.Document
import ReactorNet.Yaml.Node
import ReactorNet.Yaml.Printer
import ReactorNet.Yaml.Resolution
import ReactorNet.Yaml.ScalarText
import ReactorNet.Yaml.Source
import ReactorNet.Yaml.Token
