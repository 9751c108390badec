import SentenceSpans.Input.WorkingDirectory
import SentenceSpans.Output.Reading
import SentenceSpans.Run.Expected
import SentenceSpans.Main
import SentenceSpans.Proofs.Offset.Covers
import SentenceSpans.Proofs.Sentence.Boundaries
import SentenceSpans.Proofs.Pieces
import SentenceSpans.Proofs.Sentence.Cuts
import SentenceSpans.Proofs.Sentence.Joining
import SentenceSpans.Proofs.Sentence.Abbreviations
import SentenceSpans.Proofs.Output.Writing
import SentenceSpans.Proofs.Run.Output
import SentenceSpans.Proofs.Sentence.Initials
import SentenceSpans.Proofs.Output.WholeLines
import SentenceSpans.Proofs.Run.Accounting
import SentenceSpans.Input.Source
import SentenceSpans.Proofs.Input.Delivery
import SentenceSpans.Proofs.Input.Sources
import SentenceSpans.Proofs.Command.Statistics
import SentenceSpans.Proofs.Sentence.Slices
import SentenceSpans.Proofs.Output.Calls
import SentenceSpans.Proofs.Text.Utf8
import SentenceSpans.Proofs.Input.Decoding
import SentenceSpans.Proofs.Input.Terminators
import SentenceSpans.Proofs.Output.Reading
import SentenceSpans.Proofs.Sentence.Normalization
import SentenceSpans.Proofs.Run.Agreement
import SentenceSpans.Proofs.Command.Access
import SentenceSpans.Proofs.Command.Causes
import SentenceSpans.Proofs.Command.Report
import SentenceSpans.Proofs.Command.Ways
import SentenceSpans.Proofs.Command.Ending
import SentenceSpans.Proofs.Input.CompleteLines
import SentenceSpans.Proofs.Run.Totals
import SentenceSpans.Proofs.Sentence.HeldTogether
import SentenceSpans.Proofs.Sentence.DecidingWords
import SentenceSpans.Proofs.Offset.Requests
