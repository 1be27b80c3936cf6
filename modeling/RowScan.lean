import RowScan.Main
import RowScan.Proofs.Table.Reading
import RowScan.Proofs.Table.RoundTrip
import RowScan.Proofs.Estimator
import RowScan.Proofs.Files.Tree
import RowScan.Proofs.Run.Effects
import RowScan.Proofs.Run.Failure
import RowScan.Proofs.Trace
import RowScan.Proofs.Frequencies
import RowScan.Proofs.Run.Join
import RowScan.Proofs.Arithmetic
import RowScan.Proofs.Treatment
import RowScan.Proofs.Number.Reading
import RowScan.Proofs.Number.Whole
import RowScan.Proofs.Table.Written
import RowScan.Proofs.Inputs
import RowScan.Proofs.Comparison
import RowScan.Proofs.Comparison.ExpectedText
import RowScan.Proofs.Comparison.Determined
import RowScan.Proofs.Table.Sink
import RowScan.Proofs.Estimator.Rearrangement
import RowScan.Proofs.Table.Violations
import RowScan.Proofs.Run.FirstFailure
import RowScan.Proofs.Run.Abortion
import RowScan.Proofs.Table.Continued
import RowScan.Proofs.Treatment.Sums
import RowScan.Proofs.Treatment.Order
import RowScan.Proofs.Number.Natural
import RowScan.Proofs.Layout
import RowScan.Proofs.Settings
import RowScan.Proofs.Summary
import RowScan.Proofs.Comparison.Reread
import RowScan.Proofs.Run.Agreement
import RowScan.Proofs.Treatment.Calibration
import RowScan.Proofs.Frequencies.Loading
import RowScan.Proofs.Treatment.Coincidence
import RowScan.Proofs.Table.Calls
import RowScan.Proofs.Trace.Decoding
import RowScan.Proofs.Table.Offence
import RowScan.Proofs.Inputs.FirstOffence
import RowScan.Proofs.Table.Blocks
import RowScan.Proofs.Table.Respelling
import RowScan.Proofs.Inputs.Forms
import RowScan.Proofs.Files.Outline
import RowScan.Proofs.Run.Forms
import RowScan.Proofs.Estimator.Irrelevance
import RowScan.Proofs.Table.Spelling
import RowScan.Proofs.Summary.Accuracy
import RowScan.Proofs.Layout.Variables
import RowScan.Proofs.Table.Progress
import RowScan.Proofs.Inputs.Progress
