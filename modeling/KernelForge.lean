import KernelForge.Bytes
import KernelForge.Command
import KernelForge.CommandLine
import KernelForge.CommandLine.Arguments
import KernelForge.Compiler
import KernelForge.Compiler.Scripted
import KernelForge.Configuration
import KernelForge.Configuration.Document
import KernelForge.Digest.Sha256
import KernelForge.Echo.Escaped
import KernelForge.Echo.Writer
import KernelForge.Failure
import KernelForge.Fields
import KernelForge.FileTree
import KernelForge.Job
import KernelForge.Job.Doctor
import KernelForge.Job.Platforms
import KernelForge.Job.Summary
import KernelForge.Job.Translate
import KernelForge.Json.Printer
import KernelForge.Json.Value
import KernelForge.Library
import KernelForge.Library.Loader
import KernelForge.Log
import KernelForge.Log.Filter
import KernelForge.Log.Line
import KernelForge.Main
import KernelForge.Options
import KernelForge.Outputs
import KernelForge.Path
import KernelForge.Pattern
import KernelForge.Pattern.Bracket
import KernelForge.Pattern.CharacterSet
import KernelForge.Pattern.Condition
import KernelForge.Pattern.Cursor
import KernelForge.Pattern.Escape
import KernelForge.Pattern.Expression
import KernelForge.Pattern.Fault
import KernelForge.Pattern.Matcher
import KernelForge.Pattern.Meaning
import KernelForge.Pattern.Reader
import KernelForge.Pattern.Span
import KernelForge.Pattern.Term
import KernelForge.Platform
import KernelForge.Platform.Listing
import KernelForge.Program
import KernelForge.Proofs.ComposedCommand
import KernelForge.Proofs.CompilationStages
import KernelForge.Proofs.CompilerInput
import KernelForge.Proofs.OptionTexts
import KernelForge.Proofs.OutputReading
import KernelForge.Proofs.OutputRelease
import KernelForge.Proofs.RequestRecovery
import KernelForge.Proofs.RunStages
import KernelForge.Proofs.SessionCalls
import KernelForge.Session
import KernelForge.Text.CharacterClass
import KernelForge.Text.ControlSequence
import KernelForge.Text.Letter
import KernelForge.Text.Quoted
import KernelForge.Text.Utf8
import KernelForge.Toml.Document
import KernelForge.Toml.Moment
import KernelForge.Toml.Number
import KernelForge.Toml.Printer
import KernelForge.Toml.Table
import KernelForge.Toml.Text
import KernelForge.Toml.Value
import KernelForge.Proofs.RunOutcome
import KernelForge.Proofs.FileWriting
import KernelForge.Proofs.TranslationFiles
import KernelForge.Proofs.ArgumentMoves
import KernelForge.Proofs.SettledOptions
import KernelForge.Proofs.TerminatedText
import KernelForge.Proofs.Utf8Reading
import KernelForge.Proofs.AddedFlag
import KernelForge.Proofs.DryRun
import KernelForge.Proofs.PathsAfterWriting
import KernelForge.Proofs.PrintedFacts
import KernelForge.Proofs.SummaryOnDisk
import KernelForge.Proofs.EscapedLines
import KernelForge.Proofs.LayeredSettings
import KernelForge.Proofs.DoctorReport
import KernelForge.Proofs.VerboseFlag
import KernelForge.Proofs.DebugMode
import KernelForge.Proofs.LimitedWriting
import KernelForge.Proofs.OptionWords
import KernelForge.Proofs.OutputKinds
import KernelForge.Proofs.RunRecords
import KernelForge.Proofs.PathParts
import KernelForge.Proofs.DefaultOutputs
import KernelForge.Proofs.ArgumentOrder
import KernelForge.Proofs.ArgumentRecovery
import KernelForge.Proofs.JsonReading
import KernelForge.Proofs.JsonRoundTrip
import KernelForge.Proofs.TolerantReading
import KernelForge.Proofs.SummaryReadBack
import KernelForge.Proofs.TomlSpellings
import KernelForge.Proofs.TomlLines
import KernelForge.Proofs.SettingsInToml
