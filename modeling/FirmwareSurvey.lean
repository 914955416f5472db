import FirmwareSurvey.Analysis.Context
import FirmwareSurvey.Analysis.Session
import FirmwareSurvey.Analysis.Survey
import FirmwareSurvey.Analysis.Topic
import FirmwareSurvey.Binwalk.Survey
import FirmwareSurvey.Boot.Survey
import FirmwareSurvey.Cache.Basic
import FirmwareSurvey.Command.Arguments
import FirmwareSurvey.Command.Own
import FirmwareSurvey.Command.Run
import FirmwareSurvey.Config.Basic
import FirmwareSurvey.Config.Options
import FirmwareSurvey.Decimal.Binary64
import FirmwareSurvey.Decimal.Places
import FirmwareSurvey.Decimal.Shortest
import FirmwareSurvey.DeviceTree.Description
import FirmwareSurvey.DeviceTree.Fit
import FirmwareSurvey.DeviceTree.Line
import FirmwareSurvey.DeviceTree.Lookup
import FirmwareSurvey.DeviceTree.Node
import FirmwareSurvey.DeviceTree.Survey
import FirmwareSurvey.Digest.Basic
import FirmwareSurvey.Extraction.Payload
import FirmwareSurvey.Extraction.Tree
import FirmwareSurvey.Extraction.Unpack
import FirmwareSurvey.Firmware.Resolve
import FirmwareSurvey.Gzip.Basic
import FirmwareSurvey.Gzip.Inflate
import FirmwareSurvey.Gzip.Older
import FirmwareSurvey.Gzip.Salvage
import FirmwareSurvey.Host.Basic
import FirmwareSurvey.Json.Basic
import FirmwareSurvey.Json.Printer
import FirmwareSurvey.Json.Reader
import FirmwareSurvey.Layout
import FirmwareSurvey.Main
import FirmwareSurvey.Members
import FirmwareSurvey.Offsets.Script
import FirmwareSurvey.Offsets.Table
import FirmwareSurvey.Partition
import FirmwareSurvey.Pattern.Basic
import FirmwareSurvey.Pattern.Reader
import FirmwareSurvey.Programs.Lines
import FirmwareSurvey.Programs.Standard
import FirmwareSurvey.Programs.Utility
import FirmwareSurvey.Proofs.Analysis.Needs
import FirmwareSurvey.Proofs.Binwalk.Agreement
import FirmwareSurvey.Proofs.Binwalk.Landmarks
import FirmwareSurvey.Proofs.Binwalk.Table
import FirmwareSurvey.Proofs.Boot.Delay
import FirmwareSurvey.Proofs.Cache.Apart
import FirmwareSurvey.Proofs.Cache.Call
import FirmwareSurvey.Proofs.Cache.Damaged
import FirmwareSurvey.Proofs.Cache.Failure
import FirmwareSurvey.Proofs.Cache.Fresh
import FirmwareSurvey.Proofs.Cache.History
import FirmwareSurvey.Proofs.Cache.Kept
import FirmwareSurvey.Proofs.Cache.Manifest
import FirmwareSurvey.Proofs.Cache.Places
import FirmwareSurvey.Proofs.Cache.Reload
import FirmwareSurvey.Proofs.Command.Arguments
import FirmwareSurvey.Proofs.Command.Hyphens
import FirmwareSurvey.Proofs.Command.Outdated
import FirmwareSurvey.Proofs.Command.Own
import FirmwareSurvey.Proofs.Command.Stored
import FirmwareSurvey.Proofs.Decimal.Nearest
import FirmwareSurvey.Proofs.Decimal.Shortest
import FirmwareSurvey.Proofs.DeviceTree.Labels
import FirmwareSurvey.Proofs.DeviceTree.Memory
import FirmwareSurvey.Proofs.DeviceTree.Model
import FirmwareSurvey.Proofs.DeviceTree.Naming
import FirmwareSurvey.Proofs.DeviceTree.Nesting
import FirmwareSurvey.Proofs.DeviceTree.Open
import FirmwareSurvey.Proofs.DeviceTree.Tree
import FirmwareSurvey.Proofs.Firmware.Download
import FirmwareSurvey.Proofs.Host.Exec
import FirmwareSurvey.Proofs.Members
import FirmwareSurvey.Proofs.Offsets.Appended
import FirmwareSurvey.Proofs.Offsets.ImageName
import FirmwareSurvey.Proofs.Offsets.Script
import FirmwareSurvey.Proofs.Partition.Extent
import FirmwareSurvey.Proofs.Report.Comments
import FirmwareSurvey.Proofs.Report.Document
import FirmwareSurvey.Proofs.Report.Order
import FirmwareSurvey.Proofs.Report.Sidecars
import FirmwareSurvey.Proofs.Results.Accounts
import FirmwareSurvey.Proofs.Results.Footnotes
import FirmwareSurvey.Proofs.Results.Tracked
import FirmwareSurvey.Proofs.Rootfs.Account
import FirmwareSurvey.Proofs.Rootfs.Module
import FirmwareSurvey.Proofs.Rootfs.Port
import FirmwareSurvey.Proofs.Rootfs.Vendor
import FirmwareSurvey.Proofs.SecureBoot.Accounting
import FirmwareSurvey.Proofs.SecureBoot.Ladder
import FirmwareSurvey.Proofs.Storage.Child
import FirmwareSurvey.Proofs.Storage.Elsewhere
import FirmwareSurvey.Proofs.Storage.Nodes
import FirmwareSurvey.Proofs.Storage.Opened
import FirmwareSurvey.Proofs.Storage.Vacant
import FirmwareSurvey.Proofs.Storage.Written
import FirmwareSurvey.Proofs.Template.Citations
import FirmwareSurvey.Proofs.Template.Supplied
import FirmwareSurvey.Proofs.Text.Numeral
import FirmwareSurvey.Proofs.Text.Runs
import FirmwareSurvey.Proofs.Toml.Arranged
import FirmwareSurvey.Proofs.Toml.Distinct
import FirmwareSurvey.Proofs.Toml.Draft
import FirmwareSurvey.Proofs.Toml.Glue
import FirmwareSurvey.Proofs.Toml.Inline
import FirmwareSurvey.Proofs.Toml.Json
import FirmwareSurvey.Proofs.Toml.Lines
import FirmwareSurvey.Proofs.Toml.Number
import FirmwareSurvey.Proofs.Toml.Quoted
import FirmwareSurvey.Proofs.Toml.RoundTrip
import FirmwareSurvey.Report.Basic
import FirmwareSurvey.Report.Document
import FirmwareSurvey.ResultScript.Ability
import FirmwareSurvey.ResultScript.Combining
import FirmwareSurvey.ResultScript.Comparison
import FirmwareSurvey.ResultScript.Encoding
import FirmwareSurvey.ResultScript.Evaluate
import FirmwareSurvey.ResultScript.File
import FirmwareSurvey.ResultScript.Flaw
import FirmwareSurvey.ResultScript.Format
import FirmwareSurvey.ResultScript.Function
import FirmwareSurvey.ResultScript.JsonText
import FirmwareSurvey.ResultScript.Known
import FirmwareSurvey.ResultScript.Mathematics
import FirmwareSurvey.ResultScript.Member
import FirmwareSurvey.ResultScript.Module
import FirmwareSurvey.ResultScript.Naming
import FirmwareSurvey.ResultScript.Operation
import FirmwareSurvey.ResultScript.Packing
import FirmwareSurvey.ResultScript.Print
import FirmwareSurvey.ResultScript.Reader
import FirmwareSurvey.ResultScript.Row
import FirmwareSurvey.ResultScript.Run
import FirmwareSurvey.ResultScript.Search
import FirmwareSurvey.ResultScript.SearchReader
import FirmwareSurvey.ResultScript.State
import FirmwareSurvey.ResultScript.Syntax
import FirmwareSurvey.ResultScript.System
import FirmwareSurvey.ResultScript.Text
import FirmwareSurvey.ResultScript.Token
import FirmwareSurvey.Results.Footnotes
import FirmwareSurvey.Results.Tracked
import FirmwareSurvey.Rootfs.Account
import FirmwareSurvey.Rootfs.Component
import FirmwareSurvey.Rootfs.Inventory
import FirmwareSurvey.Rootfs.Module
import FirmwareSurvey.Rootfs.Network
import FirmwareSurvey.Rootfs.Port
import FirmwareSurvey.Rootfs.Release
import FirmwareSurvey.Rootfs.Vendor
import FirmwareSurvey.SecureBoot.Survey
import FirmwareSurvey.SecureBoot.Verdict
import FirmwareSurvey.Shell.Builtin
import FirmwareSurvey.Shell.Calculation
import FirmwareSurvey.Shell.Condition
import FirmwareSurvey.Shell.Cursor
import FirmwareSurvey.Shell.Expand
import FirmwareSurvey.Shell.Number
import FirmwareSurvey.Shell.Print
import FirmwareSurvey.Shell.Reader
import FirmwareSurvey.Shell.Run
import FirmwareSurvey.Shell.State
import FirmwareSurvey.Shell.Syntax
import FirmwareSurvey.Storage.Basic
import FirmwareSurvey.Storage.Find
import FirmwareSurvey.Storage.Path
import FirmwareSurvey.Template.Expression
import FirmwareSurvey.Template.Filter
import FirmwareSurvey.Template.Operators
import FirmwareSurvey.Template.Parser
import FirmwareSurvey.Template.References
import FirmwareSurvey.Template.Render
import FirmwareSurvey.Template.Token
import FirmwareSurvey.Template.Value
import FirmwareSurvey.Text.Case
import FirmwareSurvey.Text.Lines
import FirmwareSurvey.Text.Numeral
import FirmwareSurvey.Text.Octets
import FirmwareSurvey.Text.Quoted
import FirmwareSurvey.Text.Search
import FirmwareSurvey.Text.Word
import FirmwareSurvey.Toml.Basic
import FirmwareSurvey.Toml.Number
import FirmwareSurvey.Toml.Printer
import FirmwareSurvey.Toml.Reader
import FirmwareSurvey.Uboot.Survey
