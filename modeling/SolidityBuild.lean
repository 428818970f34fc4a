import SolidityBuild.Artifact
import SolidityBuild.Binary64
import SolidityBuild.Compiler.Engine
import SolidityBuild.Compiler.MissingSource
import SolidityBuild.Compiler.Output
import SolidityBuild.Compiler.Reporter
import SolidityBuild.Compiler.Request
import SolidityBuild.Compiler.Version
import SolidityBuild.Direct
import SolidityBuild.Failure
import SolidityBuild.FileSystem.Access
import SolidityBuild.FileSystem.Basic
import SolidityBuild.FileSystem.Name
import SolidityBuild.FileSystem.Walk
import SolidityBuild.ImportLookup
import SolidityBuild.Json.Basic
import SolidityBuild.Json.Display
import SolidityBuild.Json.Equality
import SolidityBuild.Json.Printer
import SolidityBuild.Json.ReadError
import SolidityBuild.Json.Reader
import SolidityBuild.Json5.Reader
import SolidityBuild.Json5.Tree
import SolidityBuild.Log
import SolidityBuild.Main
import SolidityBuild.Options.Arguments
import SolidityBuild.Options.CommandLine
import SolidityBuild.Options.ConfFile
import SolidityBuild.Options.Context
import SolidityBuild.Options.Name
import SolidityBuild.Options.Settings
import SolidityBuild.Options.Usage
import SolidityBuild.Options.Validation
import SolidityBuild.Path
import SolidityBuild.Run
import SolidityBuild.Smt.Queries
import SolidityBuild.Smt.Solver
import SolidityBuild.SourceKey
import SolidityBuild.StandardJson
import SolidityBuild.SystemError
import SolidityBuild.Terminal.EmojiTable
import SolidityBuild.Terminal.Notice
import SolidityBuild.Terminal.Shortcode
import SolidityBuild.Terminal.Width
import SolidityBuild.Text.Blank
import SolidityBuild.Text.Cased
import SolidityBuild.Text.Digit
import SolidityBuild.Text.Letter
import SolidityBuild.Text.Lines
import SolidityBuild.Text.Lower
import SolidityBuild.Text.Printable
import SolidityBuild.Text.Quoted
import SolidityBuild.Text.Search
import SolidityBuild.Text.Utf8
import SolidityBuild.World
import SolidityBuild.Proofs.Action.Logged
import SolidityBuild.Proofs.Action.Orderly
import SolidityBuild.Proofs.Action.Within
import SolidityBuild.Proofs.Artifact.Accounted
import SolidityBuild.Proofs.Artifact.Attempts
import SolidityBuild.Proofs.Artifact.Confined
import SolidityBuild.Proofs.Artifact.Mirrored
import SolidityBuild.Proofs.Artifact.Outcome
import SolidityBuild.Proofs.Binary64.Decimal
import SolidityBuild.Proofs.Binary64.Rounding
import SolidityBuild.Proofs.Compiler.Closure
import SolidityBuild.Proofs.Compiler.ClosureRun
import SolidityBuild.Proofs.Compiler.Contract
import SolidityBuild.Proofs.Compiler.ContractRun
import SolidityBuild.Proofs.Compiler.Events
import SolidityBuild.Proofs.Compiler.Growth
import SolidityBuild.Proofs.Compiler.HandedBack
import SolidityBuild.Proofs.Compiler.Honest
import SolidityBuild.Proofs.Compiler.Inquiry
import SolidityBuild.Proofs.Compiler.Lookups
import SolidityBuild.Proofs.Compiler.Orderly
import SolidityBuild.Proofs.Compiler.Remembered
import SolidityBuild.Proofs.Compiler.Report
import SolidityBuild.Proofs.Compiler.Reporting
import SolidityBuild.Proofs.Compiler.Resubmission
import SolidityBuild.Proofs.Compiler.Rounds
import SolidityBuild.Proofs.Compiler.RunBound
import SolidityBuild.Proofs.Compiler.Session
import SolidityBuild.Proofs.Compiler.Submission
import SolidityBuild.Proofs.Compiler.VersionReaders
import SolidityBuild.Proofs.Direct.Answer
import SolidityBuild.Proofs.Direct.Status
import SolidityBuild.Proofs.FileSystem.Contents
import SolidityBuild.Proofs.FileSystem.Lookup
import SolidityBuild.Proofs.FileSystem.Making
import SolidityBuild.Proofs.FileSystem.Name
import SolidityBuild.Proofs.FileSystem.Opening
import SolidityBuild.Proofs.FileSystem.Overwriting
import SolidityBuild.Proofs.FileSystem.Parents
import SolidityBuild.Proofs.FileSystem.Tree
import SolidityBuild.Proofs.FileSystem.Walk
import SolidityBuild.Proofs.ImportLookup.Precedence
import SolidityBuild.Proofs.ImportLookup.Resolve
import SolidityBuild.Proofs.Json.Layouts
import SolidityBuild.Proofs.Json.Limits
import SolidityBuild.Proofs.Json.Number
import SolidityBuild.Proofs.Json.Quoted
import SolidityBuild.Proofs.Json.RoundTrip
import SolidityBuild.Proofs.Json.Whole
import SolidityBuild.Proofs.Log.Settings
import SolidityBuild.Proofs.MissingSource.Explained
import SolidityBuild.Proofs.MissingSource.Names
import SolidityBuild.Proofs.MissingSource.Retold
import SolidityBuild.Proofs.Options.Endings
import SolidityBuild.Proofs.Options.Foreseen
import SolidityBuild.Proofs.Options.Interchange
import SolidityBuild.Proofs.Options.Merging
import SolidityBuild.Proofs.Options.Order
import SolidityBuild.Proofs.Options.Phrases
import SolidityBuild.Proofs.Options.Reading
import SolidityBuild.Proofs.Options.Spoken
import SolidityBuild.Proofs.Options.Supplied
import SolidityBuild.Proofs.Options.Validated
import SolidityBuild.Proofs.Path.Normal
import SolidityBuild.Proofs.Path.Projection
import SolidityBuild.Proofs.Path.Relative
import SolidityBuild.Proofs.Path.Tidy
import SolidityBuild.Proofs.Request.Carried
import SolidityBuild.Proofs.Request.Sources
import SolidityBuild.Proofs.Run.Answered
import SolidityBuild.Proofs.Run.InputError
import SolidityBuild.Proofs.Run.Interrupted
import SolidityBuild.Proofs.Run.Options
import SolidityBuild.Proofs.Run.Restored
import SolidityBuild.Proofs.Run.Sparing
import SolidityBuild.Proofs.Run.Unseen
import SolidityBuild.Proofs.Smt.Accepted
import SolidityBuild.Proofs.Smt.AllOrNothing
import SolidityBuild.Proofs.Smt.InPlace
import SolidityBuild.Proofs.Smt.Solving
import SolidityBuild.Proofs.SourceKey.Collision
import SolidityBuild.Proofs.SourceKey.Exact
import SolidityBuild.Proofs.SourceKey.Lookup
import SolidityBuild.Proofs.StandardJson.Answering
import SolidityBuild.Proofs.StandardJson.Cases
import SolidityBuild.Proofs.StandardJson.Exchange
import SolidityBuild.Proofs.StandardJson.Layout
import SolidityBuild.Proofs.StandardJson.Leftover
import SolidityBuild.Proofs.StandardJson.Steps
import SolidityBuild.Proofs.StandardJson.Warnings
