import DiceWords.Chat.Session
import DiceWords.Main
import DiceWords.Proofs.Chat.Answers
import DiceWords.Proofs.Chat.Responder
import DiceWords.Proofs.Expression.Printing
import DiceWords.Proofs.Query.Composition
import DiceWords.Source.Feed
import DiceWords.Terminal.LineEditor
import DiceWords.Terminal.Session
import DiceWords.Proofs.Chat.Delivery
import DiceWords.Proofs.Terminal.Line
import DiceWords.Proofs.Terminal.Agreement
import DiceWords.Proofs.Terminal.Display
import DiceWords.Proofs.Terminal.Highlight
import DiceWords.Proofs.Term.Renumbering
import DiceWords.Proofs.Expression.Plain
import DiceWords.Proofs.Expression.Renumbering
import DiceWords.Proofs.Expression.Continuation
import DiceWords.Proofs.Chat.Resumption
import DiceWords.Proofs.Result.Total
import DiceWords.Proofs.Result.Recovery
import DiceWords.Proofs.Keep.Best
import DiceWords.Proofs.Keep.Draws
import DiceWords.Proofs.Text.Lines
import DiceWords.Proofs.Terminal.Interruption
import DiceWords.Proofs.Query.Repetition
import DiceWords.Proofs.Result.Exactness
import DiceWords.Proofs.Chat.Extremes
import DiceWords.Proofs.Terminal.PlainWords
import DiceWords.Proofs.Expression.Options
import DiceWords.Proofs.Query.Spelling
import DiceWords.Proofs.Expression.Safety
