import TextChain.Validation
import TextChain.Session
import TextChain.Extras
import TextChain.Proofs.Lookup
import TextChain.Proofs.JsonValues
import TextChain.Proofs.JsonRoom
import TextChain.Proofs.Reading
import TextChain.Proofs.Replay
import TextChain.Proofs.Runs
import TextChain.Proofs.Segments
import TextChain.Proofs.Soundness
import TextChain.Proofs.Places
import TextChain.Moves
import TextChain.Proofs.Changes
import TextChain.Proofs.FailedMoves
import TextChain.Proofs.Negation
import TextChain.Proofs.Sharing
import TextChain.Proofs.Delivery
import TextChain.Proofs.Opposites
import TextChain.Proofs.Gaps
import TextChain.Proofs.FluentCalls
import TextChain.Proofs.Walks
import TextChain.Proofs.Stops
import TextChain.Proofs.Clearance
import TextChain.Proofs.Refusals
import TextChain.Proofs.Registrations
import TextChain.Proofs.Listings
import TextChain.Proofs.Breakdowns
import TextChain.Proofs.Logs
import TextChain.Proofs.Rereading
import TextChain.Proofs.KeyErrors
import TextChain.Proofs.Requirements
import TextChain.Proofs.Parameters
import TextChain.Proofs.Occurrences
import TextChain.Proofs.LiteralPatterns
import TextChain.Proofs.LoneSteps
import TextChain.Proofs.EscapePatterns
import TextChain.Proofs.Escapes
import TextChain.Proofs.Replacements
import TextChain.Proofs.Enclosures
import TextChain.Proofs.DigitTexts
import TextChain.Proofs.Hashes
import TextChain.Proofs.Padding
import TextChain.Proofs.Trimming
import TextChain.Proofs.NumeralPatterns
import TextChain.Proofs.Numerals
import TextChain.Proofs.NumberMargins
import TextChain.Proofs.LetterForms
import TextChain.Proofs.CaseForms
import TextChain.Proofs.PercentTexts
import TextChain.Proofs.CodeTexts
import TextChain.Proofs.LiteralSplits
import TextChain.Proofs.MatchingLoops
import TextChain.Proofs.PatternLanguages
import TextChain.Proofs.Passwords
import TextChain.Proofs.Addresses
import TextChain.Proofs.Base64Texts
import TextChain.Proofs.EmailAddresses
import TextChain.Proofs.Pieces
import TextChain.Proofs.Ranges
import TextChain.Proofs.CloseNames
import TextChain.Proofs.Anagrams
import TextChain.Proofs.CaseMappings
import TextChain.Proofs.Substitutions
import TextChain.Proofs.Sweeps
import TextChain.Proofs.UserFunctions
import TextChain.Proofs.SetPatterns
import TextChain.Proofs.Palindromes
import TextChain.Proofs.CaseStages
import TextChain.Proofs.CaseTests
import TextChain.Proofs.Words
import TextChain.Proofs.Descriptions
