import SpokenCalculator.Main
import SpokenCalculator.Proofs.Assistant.Attempts
import SpokenCalculator.Proofs.Assistant.BareWakeWord
import SpokenCalculator.Proofs.Assistant.HalfDuplex
import SpokenCalculator.Proofs.Assistant.Interruption
import SpokenCalculator.Proofs.Assistant.Stopping
import SpokenCalculator.Proofs.Assistant.Summons
import SpokenCalculator.Proofs.Assistant.Turn
import SpokenCalculator.Proofs.Assistant.Voice
import SpokenCalculator.Proofs.Audio.LiveBlocks
import SpokenCalculator.Proofs.Audio.Queue
import SpokenCalculator.Proofs.Calculation.Accuracy
import SpokenCalculator.Proofs.CommandLine.Exit
import SpokenCalculator.Proofs.Engine.Log
import SpokenCalculator.Proofs.Engine.Memory
import SpokenCalculator.Proofs.Engine.Signals
import SpokenCalculator.Proofs.Number.Misread
import SpokenCalculator.Proofs.Number.Run
import SpokenCalculator.Proofs.Phrase.Boundary
import SpokenCalculator.Proofs.Phrase.Filler
import SpokenCalculator.Proofs.Phrase.Grammar
import SpokenCalculator.Proofs.Phrase.Grouping
import SpokenCalculator.Proofs.Phrase.Insertion
import SpokenCalculator.Proofs.Phrase.Negation
import SpokenCalculator.Proofs.Phrase.Printed
import SpokenCalculator.Proofs.Phrase.Trailing
import SpokenCalculator.Proofs.Speaker.Cancellation
import SpokenCalculator.Proofs.Speaker.Leftover
import SpokenCalculator.Proofs.Spelling.Integer
import SpokenCalculator.Proofs.Spelling.Rounded
import SpokenCalculator.Proofs.Spelling.Understood
import SpokenCalculator.Proofs.Transcriber
