import ByteChannel.Allocator
import ByteChannel.Bytes
import ByteChannel.Channel.Basic
import ByteChannel.Channel.Construction
import ByteChannel.Channel.Drain
import ByteChannel.Channel.Guard
import ByteChannel.Channel.Operation
import ByteChannel.Channel.Transfer
import ByteChannel.Config
import ByteChannel.Config.Reader
import ByteChannel.Copier
import ByteChannel.Copier.Stock
import ByteChannel.Decimal.Binary64
import ByteChannel.Decimal.Shortest
import ByteChannel.Fault
import ByteChannel.Notice
import ByteChannel.Proofs.Atomicity
import ByteChannel.Proofs.BatchViews
import ByteChannel.Proofs.Checked
import ByteChannel.Proofs.Closing
import ByteChannel.Proofs.ConfigLines
import ByteChannel.Proofs.Conservation
import ByteChannel.Proofs.Constructions
import ByteChannel.Proofs.CopyCalls
import ByteChannel.Proofs.Copying
import ByteChannel.Proofs.DrainOutcome
import ByteChannel.Proofs.Exits
import ByteChannel.Proofs.Fifo
import ByteChannel.Proofs.Inspection
import ByteChannel.Proofs.Ledger
import ByteChannel.Proofs.LineEvents
import ByteChannel.Proofs.LineScan
import ByteChannel.Proofs.Occupancy
import ByteChannel.Proofs.OneByOne
import ByteChannel.Proofs.Parking
import ByteChannel.Proofs.PlainText
import ByteChannel.Proofs.Programs
import ByteChannel.Proofs.Reachable
import ByteChannel.Proofs.Records
import ByteChannel.Proofs.References
import ByteChannel.Proofs.Registry
import ByteChannel.Proofs.ReportText
import ByteChannel.Proofs.Residue
import ByteChannel.Proofs.Ring
import ByteChannel.Proofs.Separation
import ByteChannel.Proofs.Slots
import ByteChannel.Proofs.Turns
import ByteChannel.Proofs.Windows
import ByteChannel.Proofs.Withdrawal
import ByteChannel.Report
import ByteChannel.Session.Basic
import ByteChannel.Session.Command
import ByteChannel.Task.Arena
import ByteChannel.Task.WaitQueue
import ByteChannel.Text
import ByteChannel.Yaml.Document
import ByteChannel.Yaml.Event
import ByteChannel.Yaml.Found
import ByteChannel.Yaml.Lexeme.Basic
import ByteChannel.Yaml.Lexeme.Block
import ByteChannel.Yaml.Lexeme.Plain
import ByteChannel.Yaml.Lexeme.Property
import ByteChannel.Yaml.Lexeme.Quoted
import ByteChannel.Yaml.Portion
import ByteChannel.Yaml.Position
import ByteChannel.Yaml.Record
import ByteChannel.Yaml.Scanner
import ByteChannel.Yaml.Token
import ByteChannel.Proofs.Records
