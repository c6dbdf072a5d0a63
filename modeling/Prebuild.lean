import Prebuild.Text.Blank
import Prebuild.Text.Word
import Prebuild.Text.UpperCase
import Prebuild.Text.Quoted
import Prebuild.Path
import Prebuild.MacroCall
import Prebuild.Settings
import Prebuild.Decimal.Shortest
import Prebuild.Toml.Document
import Prebuild.Configuration
import Prebuild.Transcript
import Prebuild.Source
import Prebuild.Generator
import Prebuild.Disk.Source
import Prebuild.Run
import Prebuild.CommandLine
import Prebuild.Snapshot
import Prebuild.Console
import Prebuild.Main
import Prebuild.Proofs.MacroGrammar
import Prebuild.Proofs.Reading
import Prebuild.Proofs.RegisterTable
import Prebuild.Proofs.Parent
import Prebuild.Proofs.Disk.View
import Prebuild.Proofs.Disk.Directories
import Prebuild.Proofs.Disk.Route
import Prebuild.Proofs.Disk.Growth
import Prebuild.Proofs.Disk.Listing
import Prebuild.Proofs.Disk.SameTree
import Prebuild.Proofs.Disk.Enumeration
import Prebuild.Proofs.Outcome
import Prebuild.Proofs.Agreement
import Prebuild.Proofs.Text.Lines
import Prebuild.Proofs.Text.UpperCase
import Prebuild.Proofs.Text.Bytes
import Prebuild.Proofs.Conditional
import Prebuild.Proofs.FileName
import Prebuild.Proofs.ShellFile
import Prebuild.Proofs.NetworkGuard
import Prebuild.Proofs.Strictness
import Prebuild.Proofs.Run.Course
import Prebuild.Proofs.Run.Steady
import Prebuild.Proofs.Run.Comparison
import Prebuild.Proofs.Run.Writing
import Prebuild.Proofs.Run.Halted
import Prebuild.Proofs.Run.CheckMode
import Prebuild.Proofs.Run.FixedPoint
import Prebuild.Proofs.BoardPaths
import Prebuild.Proofs.FirstWarning
import Prebuild.Proofs.RegisterPositions
import Prebuild.Proofs.RegisterConstants
import Prebuild.Proofs.Disk.Effect
import Prebuild.Proofs.Disk.Inputs
import Prebuild.Proofs.Disk.Replacement
import Prebuild.Proofs.Disk.ReadBack
import Prebuild.Proofs.Disk.Failures
import Prebuild.Proofs.DefaultLayout
import Prebuild.Proofs.Delivery
import Prebuild.Proofs.Run.Order
import Prebuild.Proofs.ShellReadBack
import Prebuild.Proofs.LiveRules
import Prebuild.Proofs.Pieces
import Prebuild.Proofs.Applications
import Prebuild.Proofs.LineEndings
import Prebuild.Proofs.MissingInput
import Prebuild.Proofs.Toml.DistinctKeys
import Prebuild.Proofs.Toml.KeyOrder
import Prebuild.Proofs.Configuration.Schema
import Prebuild.Proofs.Configuration.Values
import Prebuild.Proofs.Configuration.Sections
import Prebuild.Proofs.Configuration.Overlay
