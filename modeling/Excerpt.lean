import Excerpt.Entity
import Excerpt.LogSetup
import Excerpt.Proofs.Decoding
import Excerpt.Proofs.Lines
import Excerpt.Proofs.Feed
import Excerpt.Proofs.Outcome
import Excerpt.Proofs.Gathering
import Excerpt.Proofs.Comment
import Excerpt.Proofs.ByteExact
import Excerpt.Proofs.Evidence
import Excerpt.Proofs.Projection
import Excerpt.Proofs.BeyondEnd
import Excerpt.Proofs.InStep
import Excerpt.Proofs.Rows
import Excerpt.Proofs.Indentation
import Excerpt.Proofs.Blocks
import Excerpt.Proofs.Terminators
import Excerpt.Proofs.FaultAgreement
import Excerpt.Proofs.Handles
import Excerpt.Proofs.SelfClosing
import Excerpt.Proofs.JsonScalars
import Excerpt.Proofs.JsonText
import Excerpt.Proofs.Paths
import Excerpt.Proofs.SettingsRoundTrip
import Excerpt.Proofs.DisplayLines
import Excerpt.Proofs.FirstToken
import Excerpt.Proofs.CommentOnly
import Excerpt.Proofs.BlockEnd
import Excerpt.Proofs.Unwrapping
import Excerpt.Proofs.Resolving
import Excerpt.Proofs.Consultation
import Excerpt.Proofs.Braces
import Excerpt.Proofs.BalancedExpressions
import Excerpt.Proofs.BalancedStatements
import Excerpt.Proofs.SelfContained
import Excerpt.Proofs.CommentForm
import Excerpt.Proofs.FileSuffix
import Excerpt.Proofs.LanguageChoice
import Excerpt.Proofs.JsonSteps
import Excerpt.Proofs.JsonDepth
import Excerpt.Proofs.JsonLineEnds
import Excerpt.Proofs.SettingsRead
import Excerpt.Proofs.LoggerSetup
import Excerpt.Proofs.Positioning
import Excerpt.Proofs.Directories
import Excerpt.Proofs.SettingsSaved
import Excerpt.Proofs.Reports
