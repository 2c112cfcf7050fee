import SimPhonebook.CommandLine.Basic
import SimPhonebook.CommandLine.Flag
import SimPhonebook.CommandLine.Help
import SimPhonebook.CommandLine.UsageError
import SimPhonebook.Device.Basic
import SimPhonebook.Device.Call
import SimPhonebook.Device.Channel
import SimPhonebook.Device.Holds
import SimPhonebook.Device.Modem
import SimPhonebook.Device.Promise
import SimPhonebook.Duration
import SimPhonebook.Files.Path
import SimPhonebook.Files.Tree
import SimPhonebook.HexDump
import SimPhonebook.InfoBuffer.Builder
import SimPhonebook.InfoBuffer.Reader
import SimPhonebook.Journal
import SimPhonebook.Log
import SimPhonebook.Main
import SimPhonebook.Message.Basic
import SimPhonebook.Message.Codec
import SimPhonebook.Message.Fragment
import SimPhonebook.Message.Reassembly
import SimPhonebook.Message.Service
import SimPhonebook.Message.Status
import SimPhonebook.Message.Type
import SimPhonebook.Octets
import SimPhonebook.Phonebook.Action
import SimPhonebook.Phonebook.Entry
import SimPhonebook.Phonebook.EntryInput
import SimPhonebook.Phonebook.Operation
import SimPhonebook.Phonebook.Report
import SimPhonebook.Phonebook.Request
import SimPhonebook.Phonebook.Response
import SimPhonebook.Phonebook.Runner
import SimPhonebook.Phonebook.Selector
import SimPhonebook.Phonebook.Session
import SimPhonebook.Proofs.AcceptedOctets
import SimPhonebook.Proofs.BufferLayout
import SimPhonebook.Proofs.BufferPlaces
import SimPhonebook.Proofs.ChannelUse
import SimPhonebook.Proofs.Coherence
import SimPhonebook.Proofs.Completion
import SimPhonebook.Proofs.DeviceSteps
import SimPhonebook.Proofs.DumpedOctets
import SimPhonebook.Proofs.EntryAnswers
import SimPhonebook.Proofs.EntryBounds
import SimPhonebook.Proofs.EntryReach
import SimPhonebook.Proofs.ErrorLines
import SimPhonebook.Proofs.FragmentHistory
import SimPhonebook.Proofs.FragmentShape
import SimPhonebook.Proofs.Fragmentation
import SimPhonebook.Proofs.Framing
import SimPhonebook.Proofs.HoldAccounting
import SimPhonebook.Proofs.LeadingInteger
import SimPhonebook.Proofs.Numerals
import SimPhonebook.Proofs.ReaderIsolation
import SimPhonebook.Proofs.Reassembly
import SimPhonebook.Proofs.Repair
import SimPhonebook.Proofs.ReportedEntries
import SimPhonebook.Proofs.RequestTable
import SimPhonebook.Proofs.RunOutcome
import SimPhonebook.Proofs.Selection
import SimPhonebook.Proofs.ServedAction
import SimPhonebook.Proofs.Settling
import SimPhonebook.Proofs.Shutdown
import SimPhonebook.Proofs.StreamEnding
import SimPhonebook.Proofs.TransactionIds
import SimPhonebook.Proofs.Transcoding
import SimPhonebook.Proofs.TransportUses
import SimPhonebook.Proofs.Utf16Text
import SimPhonebook.Proofs.Utf8Text
import SimPhonebook.Proofs.WholeRun
import SimPhonebook.Proofs.WireFidelity
import SimPhonebook.Proofs.WireFormat
import SimPhonebook.Proofs.Words
import SimPhonebook.Run
import SimPhonebook.Settings.Basic
import SimPhonebook.Settings.Decode
import SimPhonebook.Settings.Load
import SimPhonebook.Spinner
import SimPhonebook.Stream
import SimPhonebook.Style
import SimPhonebook.Terminal
import SimPhonebook.Text.Basic
import SimPhonebook.Text.Columns
import SimPhonebook.Text.EditDistance
import SimPhonebook.Text.Grapheme
import SimPhonebook.Text.Integer
import SimPhonebook.Text.Lowercase
import SimPhonebook.Text.Numeral
import SimPhonebook.Text.Printable
import SimPhonebook.Text.Quoted
import SimPhonebook.Text.Ranges
import SimPhonebook.Text.Utf16
import SimPhonebook.Text.Utf8
import SimPhonebook.Text.Wrap
import SimPhonebook.TransactionTable
import SimPhonebook.Yaml.Cursor
import SimPhonebook.Yaml.Node
import SimPhonebook.Yaml.Scalar
import SimPhonebook.Yaml.Source
import SimPhonebook.Yaml.Tag
import SimPhonebook.Yaml.Token
