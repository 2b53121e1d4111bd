import SqlText.Composer.Request
import SqlText.Log.Request
import SqlText.Proofs.Draft.Runs
import SqlText.Proofs.Draft.Rollback
import SqlText.Proofs.Composer.Outcome
import SqlText.Proofs.Composer.Columns
import SqlText.Proofs.Composer.Refusals
import SqlText.Proofs.Composer.Run
import SqlText.Proofs.Composer.History
import SqlText.Proofs.Composer.Sound
import SqlText.Proofs.Composer.Unambiguous
import SqlText.Proofs.Binding
import SqlText.Proofs.Composer.Wording
import SqlText.Proofs.Composer.Answers
import SqlText.Proofs.Composer.HandOff
import SqlText.Proofs.Composer.Latest
import SqlText.Proofs.Composer.Reports
import SqlText.Proofs.Composer.Parameters
import SqlText.Proofs.Composer.Failure
import SqlText.Proofs.Composer.Commute
import SqlText.Proofs.Log.Growth
import SqlText.Proofs.Log.Agreement
import SqlText.Proofs.Log.Gates
import SqlText.Proofs.Log.Mirror
import SqlText.Proofs.Statement.Addition
import SqlText.Proofs.Log.Reconfiguration
import SqlText.Proofs.Log.Formatting
import SqlText.Proofs.Insert
import SqlText.Proofs.Log.Coloring
import SqlText.Proofs.Log.Alike
import SqlText.Proofs.Log.Once
