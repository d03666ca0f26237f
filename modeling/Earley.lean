import Earley.CommandLine.Run
import Earley.Main
import Earley.Proofs.Derivation
import Earley.Proofs.Nullable
import Earley.Proofs.Chart.Family
import Earley.Proofs.Chart.Items
import Earley.Proofs.Chart.Step
import Earley.Proofs.Chart.Exactness
import Earley.Proofs.Chart.LeastFixpoint
import Earley.Proofs.Recognition
import Earley.Proofs.Chart.LeftToRight
import Earley.Proofs.Chart.Actions
import Earley.Proofs.Chart.Course
import Earley.Proofs.Chart.Moments
import Earley.Proofs.Chart.Completion
import Earley.Proofs.Chart.Answers
import Earley.Proofs.Location
import Earley.Proofs.GrammarFile.Helpers
import Earley.Proofs.GrammarFile.Lowering
import Earley.Proofs.GrammarFile.Body
import Earley.Proofs.GrammarFile.Reading
import Earley.Proofs.GrammarFile.Acceptance
import Earley.Proofs.GrammarFile.Declarations
import Earley.Proofs.GrammarFile.Freshness
import Earley.Proofs.GrammarFile.Refusal
import Earley.Proofs.GrammarFile.Wording
import Earley.Proofs.GrammarFile.Order
import Earley.Proofs.GrammarFile.Places
import Earley.Proofs.GrammarFile.Layout
import Earley.Proofs.GrammarFile.Resolution
import Earley.Proofs.GrammarFile.Quoting
import Earley.Proofs.GrammarFile.Printing
import Earley.Proofs.GrammarFile.Start
import Earley.Proofs.GrammarFile.Tiling
import Earley.Proofs.GrammarFile.Stepping
import Earley.Proofs.GrammarFile.Indexing
import Earley.Proofs.GrammarFile.Identifiers
import Earley.Proofs.Chart.Printing
import Earley.Proofs.Lexer.Place
import Earley.Proofs.Lexer.Longest
import Earley.Proofs.Lexer.Lossless
import Earley.Proofs.Lexer.Tracking
import Earley.Proofs.Lexer.Literals
import Earley.Proofs.Lexer.Terminals
import Earley.Proofs.GrammarFile.Vocabulary
import Earley.Proofs.Text.Utf8
import Earley.Proofs.CommandLine.Loading
import Earley.Proofs.CommandLine.Judging
import Earley.Proofs.CommandLine.Endings
import Earley.Proofs.CommandLine.Results
