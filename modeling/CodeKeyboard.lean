import CodeKeyboard.Main
import CodeKeyboard.Session
import CodeKeyboard.Web.Api
import CodeKeyboard.Web.Launch
import CodeKeyboard.Proofs.TokenLossless
import CodeKeyboard.Proofs.PlaceholderSplice
import CodeKeyboard.Proofs.KeyboardRoundTrip
import CodeKeyboard.Proofs.BracketMatching
import CodeKeyboard.Proofs.CurrentLine
import CodeKeyboard.Proofs.IdiomIndentation
import CodeKeyboard.Proofs.LineStarters
import CodeKeyboard.Proofs.Restart
import CodeKeyboard.Proofs.StartUp
import CodeKeyboard.Proofs.PredictedButton
import CodeKeyboard.Proofs.TokenBrackets
import CodeKeyboard.Proofs.BlockHeaders
import CodeKeyboard.Proofs.PostedBodies
import CodeKeyboard.Proofs.OpenCallAffinity
import CodeKeyboard.Proofs.TokenCut
import CodeKeyboard.Proofs.PlaceholderSearch
import CodeKeyboard.Proofs.ClosingParenthesis
import CodeKeyboard.Proofs.KeptCode
import CodeKeyboard.Proofs.InsertedLines
import CodeKeyboard.Proofs.TypedSpace
import CodeKeyboard.Proofs.BestOfPool
import CodeKeyboard.Proofs.PlaceScore
import CodeKeyboard.Proofs.FollowerOrder
import CodeKeyboard.Proofs.LatestFirst
import CodeKeyboard.Proofs.DraftEditing
import CodeKeyboard.Proofs.RulePriority
import CodeKeyboard.Proofs.TerminatorGuards
import CodeKeyboard.Proofs.WholeNames
import CodeKeyboard.Proofs.PendingOperator
import CodeKeyboard.Proofs.TypingContext
import CodeKeyboard.Proofs.SuggestedButtons
import CodeKeyboard.Proofs.FileSuffix
import CodeKeyboard.Proofs.InnermostCall
import CodeKeyboard.Proofs.FillSuggestions
