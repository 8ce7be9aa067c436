import TabletopDice.Session
import TabletopDice.Chance.Replay
import TabletopDice.Chance.Recorded
import TabletopDice.CommandLine.Console
import TabletopDice.Proofs.Reading
import TabletopDice.Proofs.Blocks
import TabletopDice.Proofs.CanonicalText
import TabletopDice.Proofs.Compound
import TabletopDice.Proofs.Accepted
import TabletopDice.Proofs.Lockstep
import TabletopDice.Proofs.Interchange
import TabletopDice.Proofs.Limits
import TabletopDice.Proofs.Failure
import TabletopDice.Proofs.Trimming
import TabletopDice.Proofs.EitherCase
import TabletopDice.Proofs.Recording
import TabletopDice.Proofs.Capping
import TabletopDice.Proofs.Accounting
import TabletopDice.Proofs.Splitting
import TabletopDice.Proofs.OneSided
import TabletopDice.Proofs.Rerolling
import TabletopDice.Proofs.Exploding
import TabletopDice.Proofs.Partition
import TabletopDice.Proofs.Extremes
import TabletopDice.Proofs.Composing
import TabletopDice.Proofs.Counting
import TabletopDice.Proofs.Totals
import TabletopDice.Proofs.Raising
import TabletopDice.Proofs.Conditions
import TabletopDice.Proofs.Tallying
import TabletopDice.Proofs.Exactness
import TabletopDice.Proofs.OutcomeTexts
import TabletopDice.Proofs.Shorthand
import TabletopDice.Proofs.TakenDraws
import TabletopDice.Proofs.Transcripts
