import Ucode.CaseFile.Words
import Ucode.Catalogue.Entries
import Ucode.Language.Loading
import Ucode.Parse.Run
import Ucode.Proofs.CaseFile.Blocks
import Ucode.Proofs.CaseFile.Words
import Ucode.Proofs.Catalogue.Kinds
import Ucode.Proofs.Code.Keywords
import Ucode.Proofs.Code.Lexemes
import Ucode.Proofs.Code.Machine
import Ucode.Proofs.Grammar.Declarations
import Ucode.Proofs.Grammar.Expressions
import Ucode.Proofs.Grammar.Paths
import Ucode.Proofs.Grammar.Survey
import Ucode.Proofs.Grammar.Takes
import Ucode.Proofs.Language.Requests
import Ucode.Proofs.Parse.Chain
import Ucode.Proofs.Parse.Course
import Ucode.Proofs.Parse.Markup
import Ucode.Proofs.Parse.Operators
import Ucode.Proofs.Parse.Pages
import Ucode.Proofs.Parse.Precedence
import Ucode.Proofs.Parse.Proper
import Ucode.Proofs.Parse.Reading
import Ucode.Proofs.Parse.Reductions
import Ucode.Proofs.Parse.Rooted
import Ucode.Proofs.Parse.Segments
import Ucode.Proofs.Parse.Slices
import Ucode.Proofs.Parse.Tokens
import Ucode.Proofs.Query.Definitions
import Ucode.Proofs.Query.Search
import Ucode.Proofs.Template.Archive
import Ucode.Proofs.Template.CharacterSets
import Ucode.Proofs.Template.Closing
import Ucode.Proofs.Template.Coherence
import Ucode.Proofs.Template.Comments
import Ucode.Proofs.Template.EndOfText
import Ucode.Proofs.Template.Expressions
import Ucode.Proofs.Template.Literals
import Ucode.Proofs.Template.Lossless
import Ucode.Proofs.Template.Memory
import Ucode.Proofs.Template.NestedCode
import Ucode.Proofs.Template.Nesting
import Ucode.Proofs.Template.Numerals
import Ucode.Proofs.Template.Openings
import Ucode.Proofs.Template.Progress
import Ucode.Proofs.Template.Registers
import Ucode.Proofs.Template.Surroundings
import Ucode.Proofs.Template.Tags
import Ucode.Proofs.Template.Unasked
import Ucode.Proofs.Tree.Balanced
import Ucode.Proofs.Tree.Grown
import Ucode.Proofs.Tree.Names
import Ucode.Proofs.Tree.Shows
import Ucode.Proofs.Tree.Tidy
import Ucode.Proofs.Tree.View
import Ucode.Proofs.Tree.Written
import Ucode.Query.Capture
import Ucode.Query.Highlights
import Ucode.Query.Locals
import Ucode.Template.Scan
import Ucode.Template.Snapshot
import Ucode.Text.Utf8
import Ucode.Tree.Expression
import Ucode.Tree.Outline
