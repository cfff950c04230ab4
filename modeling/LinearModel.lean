import LinearModel.Demo.Walkthrough
import LinearModel.Main
import LinearModel.Proofs.Assignment
import LinearModel.Proofs.Cells
import LinearModel.Proofs.Commuting
import LinearModel.Proofs.Difference
import LinearModel.Proofs.Display
import LinearModel.Proofs.FirstForeign
import LinearModel.Proofs.InRange
import LinearModel.Proofs.Interleaving
import LinearModel.Proofs.Journal
import LinearModel.Proofs.Masks
import LinearModel.Proofs.Rebuild
import LinearModel.Proofs.Rejected
import LinearModel.Proofs.Selection
import LinearModel.Proofs.Stages
import LinearModel.Proofs.Tallies
import LinearModel.Proofs.TimeLimit
import LinearModel.Text.Bytes
