import Kaomoji.Command.Disk
import Kaomoji.Main
import Kaomoji.Proofs.LongestMatch
import Kaomoji.Proofs.TokenStream
import Kaomoji.Proofs.LineReading
import Kaomoji.Proofs.ScannerRun
import Kaomoji.Proofs.ShownLines
import Kaomoji.Proofs.TokenPlaces
import Kaomoji.Proofs.Causes
import Kaomoji.Proofs.ErrorPlaces
import Kaomoji.Proofs.ErrorKinds
import Kaomoji.Proofs.UnlimitedOutput
import Kaomoji.Proofs.CAcceptance
import Kaomoji.Proofs.TargetCorrespondence
import Kaomoji.Proofs.TargetWords
import Kaomoji.Proofs.CScoping
import Kaomoji.Proofs.LimitedOutput
import Kaomoji.Proofs.GeneratorReuse
import Kaomoji.Proofs.Relocation
import Kaomoji.Proofs.Seams
import Kaomoji.Proofs.Concatenation
import Kaomoji.Proofs.Layout
import Kaomoji.Proofs.Numerals
import Kaomoji.Proofs.PythonReading
import Kaomoji.Proofs.PrintedLines
import Kaomoji.Proofs.RepeatedParsing
import Kaomoji.Proofs.DiskPaths
import Kaomoji.Proofs.ParallelBuild
import Kaomoji.Proofs.Labels
import Kaomoji.Proofs.OutputPaths
import Kaomoji.Proofs.RefusedDeclarations
import Kaomoji.Proofs.WholeNumbers
import Kaomoji.Proofs.NumberSpelling
import Kaomoji.Proofs.LineEnds
import Kaomoji.Proofs.DigitSeparators
import Kaomoji.Proofs.Collisions
import Kaomoji.Proofs.ExactNumerals
import Kaomoji.Proofs.IdentifierShape
import Kaomoji.Proofs.LineMeanings
import Kaomoji.Proofs.BuildItems
import Kaomoji.Proofs.Colours
import Kaomoji.Proofs.MixedCalls
import Kaomoji.Proofs.CurrentTokens
import Kaomoji.Proofs.SnippetRows
