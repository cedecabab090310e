import SovereignCapital.Admission.Budget
import SovereignCapital.Admission.Consistent
import SovereignCapital.Aggressiveness.PreSelect
import SovereignCapital.Audit.Log
import SovereignCapital.Capital.Books
import SovereignCapital.Capital.Demand
import SovereignCapital.Capital.NextAmount
import SovereignCapital.ClosedLoop.Close
import SovereignCapital.Discovery.Sound
import SovereignCapital.Engine.BalancerBatch
import SovereignCapital.Engine.BalancerFormat
import SovereignCapital.Engine.PoolKeys
import SovereignCapital.Engine.Requote
import SovereignCapital.Engine.RequoteInPlace
import SovereignCapital.Engine.ReversePrefilter
import SovereignCapital.EngineControl.Governor
import SovereignCapital.Execute.Controls
import SovereignCapital.Execute.Notional
import SovereignCapital.Executor.InFlight
import SovereignCapital.Executor.Solvency
import SovereignCapital.Flashloan.Capacity
import SovereignCapital.Flashloan.Caps
import SovereignCapital.Gas.Tolerance
import SovereignCapital.Launch.Budget
import SovereignCapital.Launch.LifeCycle
import SovereignCapital.Lineage.WriteOnce
import SovereignCapital.Omar.LearningGate
import SovereignCapital.Pnl.Exact
import SovereignCapital.Pools.Candidates
import SovereignCapital.Pools.ReadingOrder
import SovereignCapital.Portfolio.Feasible
import SovereignCapital.Prime.CommitPaths
import SovereignCapital.Prime.DoubleEntry
import SovereignCapital.Prime.Preview
import SovereignCapital.Prime.Reconciled
import SovereignCapital.Profitability.ExpectedUsd
import SovereignCapital.Profitability.Sticky
import SovereignCapital.RateLimit.Limiter
import SovereignCapital.Receipt.Complete
import SovereignCapital.Receipt.GasBudget
import SovereignCapital.Receipt.SignedBooks
import SovereignCapital.Receipt.Tracking
import SovereignCapital.Recovery.History
import SovereignCapital.Replay.Faithful
import SovereignCapital.Rpc.Aligned
import SovereignCapital.Scan.BestByRoute
import SovereignCapital.Scan.Rotation
import SovereignCapital.Selection.FailClosed
import SovereignCapital.Sizing.Bounded
import SovereignCapital.Sizing.Conservative
import SovereignCapital.Sizing.Monotone
import SovereignCapital.Sizing.QuoteBinding
import SovereignCapital.Split.GasCost
import SovereignCapital.Split.Optimal
import SovereignCapital.Split.Shortlist
import SovereignCapital.Superstructure.Restriction
import SovereignCapital.Treasury.Allocation
import SovereignCapital.WealthGoals.Service
import SovereignCapital.Withdraw.ReconcileOnce
import SovereignCapital.WithdrawAll.DryRun
import SovereignCapital.WithdrawAll.Progress
import SovereignCapital.WithdrawAll.Tracking
