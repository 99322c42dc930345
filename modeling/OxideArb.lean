import OxideArb.Book.BookStore
import OxideArb.Book.OrderBook
import OxideArb.Calibration.Calibrator
import OxideArb.Calibration.Prior
import OxideArb.Catalog.FullSync
import OxideArb.Catalog.Gamma
import OxideArb.Catalog.NoGap
import OxideArb.Control.ModeTransition
import OxideArb.Control.TradingGate
import OxideArb.ControlFactor.Acquisition
import OxideArb.ControlFactor.Audit
import OxideArb.ControlFactor.BucketBuilder
import OxideArb.ControlFactor.EffectiveFrom
import OxideArb.ControlFactor.Haircut
import OxideArb.ControlFactor.Live
import OxideArb.ControlFactor.Membership
import OxideArb.ControlFactor.Payload
import OxideArb.ControlFactor.Publication
import OxideArb.ControlFactor.ReadCommitted
import OxideArb.ControlFactor.Registry
import OxideArb.ControlFactor.Restrictions
import OxideArb.ControlFactor.RoundTrip
import OxideArb.ControlFactor.RunTransitions
import OxideArb.ControlFactor.Shadow
import OxideArb.ControlFactor.Snapshot
import OxideArb.ControlFactor.Specificity
import OxideArb.ControlFactor.Stability
import OxideArb.ControlFactor.TradingPath
import OxideArb.Detection.Coalescer
import OxideArb.Detection.Detector
import OxideArb.Detection.EmissionSpacing
import OxideArb.Detection.EmissionTiming
import OxideArb.Detection.Funnel
import OxideArb.Detection.Fusion
import OxideArb.Detection.GreedyWalk
import OxideArb.Detection.Pipeline
import OxideArb.Detection.ScoreOrder
import OxideArb.Detection.Scorer
import OxideArb.Detection.Thresholds
import OxideArb.Detection.Walker
import OxideArb.Evidence.Portfolio
import OxideArb.Execution.Abandoned
import OxideArb.Execution.Admission
import OxideArb.Execution.Dispatch
import OxideArb.Execution.FeeFormula
import OxideArb.Execution.Fsm
import OxideArb.Execution.LiveOrder
import OxideArb.Execution.PreSubmit
import OxideArb.Execution.Validator
import OxideArb.Exposure.InMemory
import OxideArb.Exposure.Interleaving
import OxideArb.Exposure.Locks
import OxideArb.Feed.Events
import OxideArb.Feed.Freshness
import OxideArb.Feed.Hotset
import OxideArb.Infra.AsyncWriter
import OxideArb.Infra.BatchInserter
import OxideArb.Infra.HealthAlerts
import OxideArb.Infra.Shutdown
import OxideArb.Lib.Batcher
import OxideArb.Lib.Bloom
import OxideArb.Lib.Checked
import OxideArb.Lib.Grouping
import OxideArb.Lib.LazyHeap
import OxideArb.Lib.Lists
import OxideArb.Lib.Prog
import OxideArb.Lib.Routine
import OxideArb.Lib.SortedSearch
import OxideArb.Lib.Table
import OxideArb.Lib.Tickets
import OxideArb.Lib.Transition
import OxideArb.Lib.WaitFor
import OxideArb.Pipeline.BookGate
import OxideArb.Reconciliation.Close
import OxideArb.Reconciliation.Evidence
import OxideArb.Reconciliation.FillCapital
import OxideArb.Reconciliation.Ledger
import OxideArb.Reconciliation.Worker
import OxideArb.Risk.Accounting
import OxideArb.Risk.Blacklist
import OxideArb.Risk.Budget
import OxideArb.Risk.Checks
import OxideArb.Risk.CircuitBreaker
import OxideArb.Risk.Context
import OxideArb.Risk.Cooldown
import OxideArb.Risk.Endings
import OxideArb.Risk.Engine
import OxideArb.Risk.Halting
import OxideArb.Risk.Kelly
import OxideArb.Risk.LossCaps
import OxideArb.Risk.Operations
import OxideArb.Risk.Parts
import OxideArb.Risk.PotentialLoss
import OxideArb.Risk.PreTrade
import OxideArb.Risk.Probes
import OxideArb.Risk.Published
import OxideArb.Risk.Reconciler
import OxideArb.Risk.Recovery
import OxideArb.Risk.Restart
import OxideArb.Risk.Rollback
import OxideArb.Risk.SettlementView
import OxideArb.Risk.Sizing
import OxideArb.Risk.State
import OxideArb.Risk.Steps
import OxideArb.Risk.Validation
import OxideArb.Risk.Versions
import OxideArb.Risk.Windows
import OxideArb.Risk.WriteOrder
import OxideArb.Settlement.BookedOnce
import OxideArb.Settlement.LiveRedeem
import OxideArb.Settlement.Loops
import OxideArb.Settlement.Oracle
import OxideArb.Settlement.PositionRepository
import OxideArb.Settlement.Redemption
import OxideArb.Settlement.Service
import OxideArb.Trade.Integrity
import OxideArb.Trade.Lifecycle
import OxideArb.Trade.Repository
import OxideArb.Types.Basic
import OxideArb.Types.Market
import OxideArb.Types.Micro
import OxideArb.Types.Position
import OxideArb.Types.Rounding
import OxideArb.Valuation.EquityValuator
import OxideArb.Valuation.RiskMetrics
import OxideArb.Web.Broadcaster
import OxideArb.Web.ConfigActivation
import OxideArb.Web.Jwt
import OxideArb.Web.Rbac
import OxideArb.Web.Refresh
import OxideArb.Web.Session
