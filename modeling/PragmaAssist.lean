import PragmaAssist.Main
import PragmaAssist.Proofs.Header.InsertionPoint
import PragmaAssist.Proofs.Header.PragmaEnd
import PragmaAssist.Proofs.Header.LayoutFlags
import PragmaAssist.Proofs.Header.QuickFixEffect
import PragmaAssist.Proofs.Header.SharedLine
import PragmaAssist.Proofs.Header.Stacking
import PragmaAssist.Proofs.Header.BlockMargins
import PragmaAssist.Proofs.Server.FlagsCache
import PragmaAssist.Proofs.Server.UnopenedDocuments
import PragmaAssist.Proofs.Server.Reinitialization
import PragmaAssist.Proofs.Compiler.Loading
import PragmaAssist.Proofs.Header.Composition
import PragmaAssist.Proofs.Completion.OfferedNames
import PragmaAssist.Proofs.Server.CompletionRequests
import PragmaAssist.Proofs.Header.HeaderMentions
import PragmaAssist.Proofs.Header.InsertionSearch
import PragmaAssist.Proofs.Completion.Occurrences
import PragmaAssist.Proofs.Completion.Narrowing
import PragmaAssist.Proofs.Server.CursorWords
import PragmaAssist.Proofs.QuickFixes
import PragmaAssist.Proofs.Compiler.Answers
import PragmaAssist.Proofs.Compiler.Report
import PragmaAssist.Proofs.Server.CacheFrame
import PragmaAssist.Proofs.Server.HookRuns
import PragmaAssist.Proofs.Server.Aggregation
import PragmaAssist.Proofs.SettingsPrecedence
import PragmaAssist.Proofs.Completion.EarliestPlaces
import PragmaAssist.Proofs.Text.LineReading
