import LongSuffix.Disk
import LongSuffix.Json.Position
import LongSuffix.Main
import LongSuffix.Proofs.FileRuns
import LongSuffix.Proofs.DryRun
import LongSuffix.Proofs.Agreement
import LongSuffix.Proofs.Extraction
import LongSuffix.Proofs.Rescan
import LongSuffix.Proofs.Canonical
import LongSuffix.Proofs.Structure
import LongSuffix.Proofs.Repeat
import LongSuffix.Proofs.Terminators
import LongSuffix.Proofs.Grouping
import LongSuffix.Proofs.TokenView
import LongSuffix.Proofs.Summary
import LongSuffix.Proofs.Edits
import LongSuffix.Proofs.Coordinate
import LongSuffix.Proofs.NumericWords
import LongSuffix.Proofs.PositionText
import LongSuffix.Proofs.PositionJson
import LongSuffix.Proofs.Preorder
import LongSuffix.Proofs.Comparison
import LongSuffix.Proofs.SuffixPositions
import LongSuffix.Proofs.Words
