import HeapFixtures.Bench
import HeapFixtures.Main
import HeapFixtures.Log.Filter.Reading
import HeapFixtures.Linux.System
import HeapFixtures.Linux.Tables
import HeapFixtures.Proofs.Dealing
import HeapFixtures.Proofs.Agreement
import HeapFixtures.Proofs.Reckoning
import HeapFixtures.Proofs.Effect
import HeapFixtures.Proofs.Iteration
import HeapFixtures.Proofs.Passage
import HeapFixtures.Proofs.SinkText
import HeapFixtures.Proofs.Custody
import HeapFixtures.Proofs.InUse
import HeapFixtures.Proofs.Insertion
import HeapFixtures.Proofs.Settling
import HeapFixtures.Proofs.Ending
import HeapFixtures.Proofs.Transparency
import HeapFixtures.Proofs.Privacy
import HeapFixtures.Proofs.Working
import HeapFixtures.Proofs.WorkerSteps
import HeapFixtures.Proofs.SharedPool
import HeapFixtures.Proofs.WorkerReports
import HeapFixtures.Proofs.Joining
import HeapFixtures.Proofs.PoolTurns
import HeapFixtures.Proofs.PoolInvariant
import HeapFixtures.Proofs.PoolSchedule
import HeapFixtures.Proofs.Fairness
import HeapFixtures.Proofs.PoolAnswers
import HeapFixtures.Proofs.Contents
import HeapFixtures.Proofs.Resizing
import HeapFixtures.Proofs.Slots
import HeapFixtures.Proofs.DebugJournal
import HeapFixtures.Proofs.Texts
import HeapFixtures.Proofs.PolicyExit
import HeapFixtures.Proofs.Departure
import HeapFixtures.Proofs.ProcessTurns
import HeapFixtures.Proofs.Balance
import HeapFixtures.Proofs.ProcessExit
import HeapFixtures.Proofs.StepsLeft
import HeapFixtures.Proofs.ProcessSchedule
import HeapFixtures.Proofs.Conclusion
import HeapFixtures.Proofs.Statuses
import HeapFixtures.Proofs.Doubling
import HeapFixtures.Proofs.Accounting
import HeapFixtures.Proofs.Filtering
import HeapFixtures.Proofs.Listening
import HeapFixtures.Proofs.Totals
import HeapFixtures.Proofs.Sturdiness
import HeapFixtures.Proofs.Overrun
import HeapFixtures.Proofs.Returning
import HeapFixtures.Proofs.Script
import HeapFixtures.Proofs.Recording
import HeapFixtures.Proofs.Bookkeeping
import HeapFixtures.Proofs.Rounds
import HeapFixtures.Proofs.Pairs
import HeapFixtures.Proofs.Vetting
import HeapFixtures.Proofs.Writing
import HeapFixtures.Proofs.Unobserved
import HeapFixtures.Proofs.Lockstep
import HeapFixtures.Proofs.Obstruction
import HeapFixtures.Proofs.Pieces
import HeapFixtures.Proofs.Locating
import HeapFixtures.Proofs.Installing
import HeapFixtures.Proofs.Wrapping
import HeapFixtures.Proofs.Reporting
import HeapFixtures.Proofs.PoolEvents
import HeapFixtures.Proofs.Keywords
import HeapFixtures.Proofs.Planning
import HeapFixtures.Proofs.Rereading
