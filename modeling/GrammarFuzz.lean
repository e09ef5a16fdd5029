import GrammarFuzz.Campaign.Basic
import GrammarFuzz.Campaign.Run
import GrammarFuzz.Campaign.Shrink
import GrammarFuzz.CommandLine.Arguments
import GrammarFuzz.CommandLine.Program
import GrammarFuzz.CommandLine.Switch
import GrammarFuzz.Config
import GrammarFuzz.Decimal.Binary64
import GrammarFuzz.Decimal.Shortest
import GrammarFuzz.FileSystem.Basic
import GrammarFuzz.Finding
import GrammarFuzz.Generator.Basic
import GrammarFuzz.Generator.Depth
import GrammarFuzz.Generator.Expand
import GrammarFuzz.Generator.Table
import GrammarFuzz.Grammar.Basic
import GrammarFuzz.Grammar.Document
import GrammarFuzz.Grammar.Rule
import GrammarFuzz.Grammar.Shelf
import GrammarFuzz.Interpreter
import GrammarFuzz.Json.Basic
import GrammarFuzz.Json.Parser
import GrammarFuzz.Json.Printer
import GrammarFuzz.Log.Handlers
import GrammarFuzz.Log.Message
import GrammarFuzz.Log.Record
import GrammarFuzz.Main
import GrammarFuzz.Number
import GrammarFuzz.Oracle.Basic
import GrammarFuzz.Oracle.BuiltIn
import GrammarFuzz.Oracle.Language
import GrammarFuzz.Oracle.Verdict
import GrammarFuzz.Pattern.Alphabet
import GrammarFuzz.Pattern.Error
import GrammarFuzz.Pattern.Escape
import GrammarFuzz.Pattern.Matcher
import GrammarFuzz.Pattern.Parser
import GrammarFuzz.Pattern.Sampler
import GrammarFuzz.Pattern.Scanner
import GrammarFuzz.Pattern.Syntax
import GrammarFuzz.Platform
import GrammarFuzz.Proofs.Grammar.Arena
import GrammarFuzz.Proofs.Step
import GrammarFuzz.Random.Draw
import GrammarFuzz.Random.Poisson
import GrammarFuzz.Random.Source
import GrammarFuzz.Random.Twister
import GrammarFuzz.Shell.Glob
import GrammarFuzz.Shell.Grep
import GrammarFuzz.Shell.Lexer
import GrammarFuzz.Shell.Machine
import GrammarFuzz.Shell.Parser
import GrammarFuzz.Shell.Run
import GrammarFuzz.Shell.Syntax
import GrammarFuzz.Text.Blank
import GrammarFuzz.Text.CharacterName
import GrammarFuzz.Text.Encoding
import GrammarFuzz.Text.Letter
import GrammarFuzz.Text.Numeral
import GrammarFuzz.Text.Point
import GrammarFuzz.Text.PointRange
import GrammarFuzz.Text.Printable
import GrammarFuzz.Text.Quoted
import GrammarFuzz.Text.Utf8
import GrammarFuzz.Tree
import GrammarFuzz.Proofs.Grammar.Depth
import GrammarFuzz.Proofs.Exact
import GrammarFuzz.Proofs.Grammar.Derivation
import GrammarFuzz.Proofs.Random.Draw
import GrammarFuzz.Proofs.Generator.Steps
import GrammarFuzz.Proofs.Generator.Calls
import GrammarFuzz.Proofs.Generator.Depth
import GrammarFuzz.Proofs.Generator.Derivation
import GrammarFuzz.Proofs.Campaign.Oracles
import GrammarFuzz.Proofs.Tree.Cuts
import GrammarFuzz.Proofs.Campaign.Rounds
import GrammarFuzz.Proofs.Generator.Agreement
import GrammarFuzz.Proofs.Campaign.Findings
import GrammarFuzz.Proofs.Tree.Reduction
import GrammarFuzz.Proofs.Campaign.Programs
import GrammarFuzz.Proofs.Random.Reading
import GrammarFuzz.Proofs.Random.Range
import GrammarFuzz.Proofs.Pattern.Language
import GrammarFuzz.Proofs.Pattern.Sampling
import GrammarFuzz.Proofs.Pattern.Matching
import GrammarFuzz.Proofs.Pattern.Texts
import GrammarFuzz.Proofs.Generator.Coverage
import GrammarFuzz.Proofs.Grammar.Documents
import GrammarFuzz.Proofs.Random.Failures
import GrammarFuzz.Proofs.Generator.Failures
import GrammarFuzz.Proofs.Generator.Value
import GrammarFuzz.Proofs.Generator.Replay
import GrammarFuzz.Proofs.Campaign.Invariants
import GrammarFuzz.Proofs.CommandLine.Output
import GrammarFuzz.Proofs.Grammar.Postorder
import GrammarFuzz.Proofs.Grammar.Shelf
import GrammarFuzz.Proofs.Pattern.Failures
import GrammarFuzz.Proofs.Generator.Errors
import GrammarFuzz.Proofs.Campaign.Counts
import GrammarFuzz.Proofs.Tree.Removals
import GrammarFuzz.Proofs.Campaign.Bounds
import GrammarFuzz.Proofs.Generator.Levels
import GrammarFuzz.Proofs.Json.Strings
import GrammarFuzz.Proofs.Json.Written
import GrammarFuzz.Proofs.FileSystem
import GrammarFuzz.Proofs.Finding
import GrammarFuzz.Proofs.Campaign.Saved
import GrammarFuzz.Proofs.Grammar.Descent
import GrammarFuzz.Proofs.Generator.Bounded
import GrammarFuzz.Proofs.Generator.Entries
import GrammarFuzz.Proofs.Generator.Retry
import GrammarFuzz.Proofs.Generator.Weights
import GrammarFuzz.Proofs.Generator.Lockstep
import GrammarFuzz.Proofs.Random.Slices
import GrammarFuzz.Proofs.Generator.Slices
import GrammarFuzz.Proofs.Generator.Bracketing
import GrammarFuzz.Proofs.Random.Streams
import GrammarFuzz.Proofs.Campaign.Repetitions
import GrammarFuzz.Proofs.Console
import GrammarFuzz.Proofs.Utf8
import GrammarFuzz.Proofs.Grammar.Files
import GrammarFuzz.Proofs.Campaign.Verdicts
import GrammarFuzz.Proofs.Tree.Tokens
import GrammarFuzz.Proofs.Random.Chunks
