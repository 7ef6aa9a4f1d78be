import LanguageWorker.Binary64
import LanguageWorker.Binary64.Shortest
import LanguageWorker.CommandLine
import LanguageWorker.CommandLine.Arguments
import LanguageWorker.Decode.Decoder
import LanguageWorker.Decode.Error
import LanguageWorker.Decode.Record
import LanguageWorker.Documents.Directory
import LanguageWorker.Documents.Store
import LanguageWorker.Files.FileSystem
import LanguageWorker.Files.Path
import LanguageWorker.Files.Tree
import LanguageWorker.Host
import LanguageWorker.Json
import LanguageWorker.Json.Numeral
import LanguageWorker.Json.Printer
import LanguageWorker.Json.Reader
import LanguageWorker.Libraries.LibRegistry
import LanguageWorker.Main
import LanguageWorker.OrderedMap
import LanguageWorker.Payload
import LanguageWorker.Payload.CompilerOptions
import LanguageWorker.Payload.ExtraLibs
import LanguageWorker.Payload.File
import LanguageWorker.Script.DefaultLib
import LanguageWorker.Script.Kind
import LanguageWorker.Script.Snapshot
import LanguageWorker.Script.Target
import LanguageWorker.Service.Diagnostic
import LanguageWorker.Service.Edit
import LanguageWorker.Service.LanguageService
import LanguageWorker.Service.MarkerEngine
import LanguageWorker.Session
import LanguageWorker.Text.Bytes
import LanguageWorker.Text.Classes
import LanguageWorker.Text.Numeral
import LanguageWorker.Text.Percent
import LanguageWorker.Text.Quoted
import LanguageWorker.Text.Search
import LanguageWorker.Toml
import LanguageWorker.Toml.Document
import LanguageWorker.Toml.Entries
import LanguageWorker.Toml.Moment
import LanguageWorker.Toml.Scalar
import LanguageWorker.Worker
import LanguageWorker.Worker.Dispatch
import LanguageWorker.Worker.Factory
import LanguageWorker.Worker.Method
import LanguageWorker.Worker.Parameters
import LanguageWorker.Worker.Request
import LanguageWorker.Proofs.Checked.Arithmetic
import LanguageWorker.Proofs.Checked.Host
import LanguageWorker.Proofs.Checked.Session
import LanguageWorker.Proofs.Checked.Worker
import LanguageWorker.Proofs.CommandLine.DefaultLib
import LanguageWorker.Proofs.CommandLine.Documents
import LanguageWorker.Proofs.Decode.Forms
import LanguageWorker.Proofs.Decode.Items
import LanguageWorker.Proofs.Decode.Loads
import LanguageWorker.Proofs.Decode.OrderedMembers
import LanguageWorker.Proofs.Decode.Positional
import LanguageWorker.Proofs.Decode.Record
import LanguageWorker.Proofs.Documents.Exchange
import LanguageWorker.Proofs.Documents.Handles
import LanguageWorker.Proofs.Documents.History
import LanguageWorker.Proofs.Documents.Operations
import LanguageWorker.Proofs.Documents.Removal
import LanguageWorker.Proofs.Documents.Run
import LanguageWorker.Proofs.Documents.Update
import LanguageWorker.Proofs.Files.Leads
import LanguageWorker.Proofs.Files.Path
import LanguageWorker.Proofs.Files.Walk
import LanguageWorker.Proofs.Host.DefaultLib
import LanguageWorker.Proofs.Host.Footprint
import LanguageWorker.Proofs.Host.Lifetime
import LanguageWorker.Proofs.Host.Replacement
import LanguageWorker.Proofs.Host.Sources
import LanguageWorker.Proofs.Json.Members
import LanguageWorker.Proofs.Json.Sorted
import LanguageWorker.Proofs.Libraries.Folder
import LanguageWorker.Proofs.MarkerEngine.Formatting
import LanguageWorker.Proofs.MarkerEngine.Inspection
import LanguageWorker.Proofs.MarkerEngine.Word
import LanguageWorker.Proofs.Payload.CompilerOptions
import LanguageWorker.Proofs.Payload.ExtraLibs
import LanguageWorker.Proofs.Payload.Finding
import LanguageWorker.Proofs.Payload.Loaded
import LanguageWorker.Proofs.Payload.NormalForm
import LanguageWorker.Proofs.Payload.WithTarget
import LanguageWorker.Proofs.Script.Kind
import LanguageWorker.Proofs.Script.Snapshot
import LanguageWorker.Proofs.Script.Target
import LanguageWorker.Proofs.Script.TargetNames
import LanguageWorker.Proofs.Script.YearNames
import LanguageWorker.Proofs.Service.Description
import LanguageWorker.Proofs.Service.Diagnostic
import LanguageWorker.Proofs.Service.RoundTrip
import LanguageWorker.Proofs.Service.Sanitize
import LanguageWorker.Proofs.Session.Exchange
import LanguageWorker.Proofs.Session.FixedList
import LanguageWorker.Proofs.Session.Listing
import LanguageWorker.Proofs.Session.ReadBack
import LanguageWorker.Proofs.Session.Removal
import LanguageWorker.Proofs.Session.Run
import LanguageWorker.Proofs.Text.Blank
import LanguageWorker.Proofs.Text.ByteOrder
import LanguageWorker.Proofs.Text.Bytes
import LanguageWorker.Proofs.Text.Numeral
import LanguageWorker.Proofs.Text.Search
import LanguageWorker.Proofs.Text.Word
import LanguageWorker.Proofs.Worker.Creation
import LanguageWorker.Proofs.Worker.Failure
import LanguageWorker.Proofs.Worker.Outcome
import LanguageWorker.Proofs.Worker.Parameters
import LanguageWorker.Proofs.Worker.ReadBack
import LanguageWorker.Proofs.Worker.Surface
