import Criteria.Main
import Criteria.Proofs.Edges
import Criteria.Proofs.LetterCase
import Criteria.Proofs.Spelling
import Criteria.Proofs.Operator
import Criteria.Proofs.Parsing
import Criteria.Proofs.Lookup
import Criteria.Proofs.RoundTrip
import Criteria.Proofs.Pattern.Lexical
import Criteria.Proofs.Pattern.Search
import Criteria.Proofs.Pattern.Bracketed
import Criteria.Proofs.Pattern.Reader
import Criteria.Proofs.Pattern.Run
import Criteria.Proofs.Pattern.CharSet
import Criteria.Proofs.Pattern.Language
import Criteria.Proofs.Pattern.Written
import Criteria.Proofs.Pattern.FullMatch
import Criteria.Proofs.Grammar
import Criteria.Proofs.Padding
import Criteria.Proofs.SplitPattern
import Criteria.Proofs.Respelling
import Criteria.Proofs.Catalog
import Criteria.Proofs.Values
import Criteria.Proofs.Binary64
import Criteria.Proofs.Numeral
import Criteria.Proofs.Entries
import Criteria.Proofs.Evaluation
import Criteria.Proofs.Placeholders
import Criteria.Proofs.Failure
import Criteria.Proofs.Range
import Criteria.Proofs.ScalarOrder
import Criteria.Proofs.ModeAgreement
import Criteria.Proofs.Dependence
import Criteria.Proofs.Diagnostics
import Criteria.Proofs.Arguments
import Criteria.Proofs.Json
import Criteria.Proofs.Report
import Criteria.Proofs.Question
import Criteria.Proofs.Session
import Criteria.Proofs.Substitution
import Criteria.Proofs.QuotedLists
import Criteria.Proofs.Folds
import Criteria.Proofs.Equality
import Criteria.Proofs.Negation
import Criteria.Proofs.Integers
import Criteria.Proofs.NumberForms
import Criteria.Proofs.NumberPatterns
import Criteria.Proofs.NumberReading
import Criteria.Proofs.Rounding
import Criteria.Proofs.Decorations
import Criteria.Proofs.Tokens
import Criteria.Proofs.Pattern.Alternatives
import Criteria.Proofs.PlainWords
