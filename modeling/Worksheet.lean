import Worksheet.Main
import Worksheet.Proofs.Formula.Grammar
import Worksheet.Session
import Worksheet.Proofs.Formula.Acceptance
import Worksheet.Proofs.Formula.Lexing
import Worksheet.Proofs.Formula.Decomposition
import Worksheet.Proofs.Calculator.Trees
import Worksheet.Proofs.Session.Invisible
import Worksheet.Proofs.Formula.Pieces
import Worksheet.Proofs.Formula.RoundTrip
import Worksheet.Proofs.Number.Digits
import Worksheet.Proofs.Number.Double
import Worksheet.Proofs.Number.Exact
import Worksheet.Proofs.Formula.Refusal
import Worksheet.Proofs.Address.Letters
import Worksheet.Proofs.Address.Spelling
import Worksheet.Proofs.Address.Access
import Worksheet.Proofs.Formula.Parts
import Worksheet.Proofs.Formula.Reprint
import Worksheet.Proofs.Address.Grid
import Worksheet.Proofs.Formula.Faults
import Worksheet.Proofs.Evaluation.Mentions
import Worksheet.Proofs.Functions.Lookup
import Worksheet.Proofs.Evaluation.Enclosure
import Worksheet.Proofs.Session.Channels
import Worksheet.Proofs.Number.Counting
import Worksheet.Proofs.Evaluation.Aggregates
import Worksheet.Proofs.Address.LetterCase
import Worksheet.Proofs.Formula.LetterCase
import Worksheet.Proofs.Evaluation.LetterCase
import Worksheet.Proofs.Functions.Answers
import Worksheet.Proofs.Evaluation.Origins
import Worksheet.Proofs.Evaluation.Shape
import Worksheet.Proofs.Formula.Moving
import Worksheet.Proofs.Session.Agreement
import Worksheet.Proofs.Number.Places
import Worksheet.Proofs.Address.Visiting
import Worksheet.Proofs.Evaluation.Rectangles
import Worksheet.Proofs.Formula.Descent
import Worksheet.Proofs.Formula.Following
import Worksheet.Proofs.Formula.Halting
import Worksheet.Proofs.Document.Members
import Worksheet.Proofs.CommandLine.Cells
import Worksheet.Proofs.CommandLine.Evaluating
import Worksheet.Proofs.Number.Order
import Worksheet.Proofs.Evaluation.Comparisons
import Worksheet.Proofs.Evaluation.FirstError
import Worksheet.Proofs.Formula.CharacterFaults
import Worksheet.Proofs.Number.Differences
import Worksheet.Proofs.Number.Sums
import Worksheet.Proofs.Functions.Opposites
import Worksheet.Proofs.Functions.Registrations
import Worksheet.Proofs.Sheet.History
import Worksheet.Proofs.Number.Signs
import Worksheet.Proofs.CommandLine.Written
import Worksheet.Proofs.Functions.Duality
import Worksheet.Proofs.Number.WholePart
import Worksheet.Proofs.Functions.Partners
import Worksheet.Proofs.Functions.Cutting
import Worksheet.Proofs.Text.Words
import Worksheet.Proofs.Address.Alphabetical
