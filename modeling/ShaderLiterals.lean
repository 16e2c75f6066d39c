import ShaderLiterals.Text.Quoted
import ShaderLiterals.Literal.Extraction
import ShaderLiterals.Machine
import ShaderLiterals.Check.Run
import ShaderLiterals.Check.Listing
import ShaderLiterals.Check.External
import ShaderLiterals.Check.NumberedFiles
import ShaderLiterals.Programs.Installed
import ShaderLiterals.Cli
import ShaderLiterals.Main
import ShaderLiterals.Proofs.Iteration
import ShaderLiterals.Proofs.Text.Digits
import ShaderLiterals.Proofs.Text.Lines
import ShaderLiterals.Proofs.Text.Utf8
import ShaderLiterals.Proofs.Text.EncodedLines
import ShaderLiterals.Proofs.Escape.Token
import ShaderLiterals.Proofs.Escape.Writing
import ShaderLiterals.Proofs.Escape.Fault
import ShaderLiterals.Proofs.Escape.Composition
import ShaderLiterals.Proofs.Escape.Size
import ShaderLiterals.Proofs.Escape.Tally
import ShaderLiterals.Proofs.Literal.Continuation
import ShaderLiterals.Proofs.Literal.Name
import ShaderLiterals.Proofs.Literal.Pattern
import ShaderLiterals.Proofs.Literal.Division
import ShaderLiterals.Proofs.Literal.Written
import ShaderLiterals.Proofs.Literal.Schedule
import ShaderLiterals.Proofs.Literal.Invariant
import ShaderLiterals.Proofs.Literal.Laziness
import ShaderLiterals.Proofs.Literal.Concatenation
import ShaderLiterals.Proofs.Literal.Replacement
import ShaderLiterals.Proofs.Check.Extracted
import ShaderLiterals.Proofs.Check.Course
import ShaderLiterals.Proofs.Check.Survey
import ShaderLiterals.Proofs.Check.Located
import ShaderLiterals.Proofs.Check.BrokenSink
import ShaderLiterals.Proofs.Check.Content
import ShaderLiterals.Proofs.Check.Composition
import ShaderLiterals.Proofs.Check.Passing
import ShaderLiterals.Proofs.Check.TemporaryFile
import ShaderLiterals.Proofs.Check.NumberedFiles
import ShaderLiterals.Proofs.Check.Turns
import ShaderLiterals.Proofs.Check.Spawn
import ShaderLiterals.Proofs.Files.Walk
import ShaderLiterals.Proofs.Text.ByteOrder
import ShaderLiterals.Proofs.Files.Expansion
import ShaderLiterals.Proofs.Files.Joining
import ShaderLiterals.Proofs.Files.Directory
import ShaderLiterals.Proofs.Files.Change
import ShaderLiterals.Proofs.Check.Expanded
import ShaderLiterals.Proofs.CommandLine.Grammar
import ShaderLiterals.Proofs.CommandLine.Reading
import ShaderLiterals.Proofs.CommandLine.Environment
import ShaderLiterals.Proofs.Cli
import ShaderLiterals.Proofs.Programs.Starting
import ShaderLiterals.Proofs.Programs.Keeping
import ShaderLiterals.Proofs.Programs.Installed
