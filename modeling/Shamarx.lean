import Shamarx.Foundation.Runs
import Shamarx.Foundation.InFlight
import Shamarx.Foundation.Rounding
import Shamarx.Foundation.Calendar
import Shamarx.Foundation.Weekdays
import Shamarx.Foundation.Reports
import Shamarx.Foundation.Bisection
import Shamarx.Foundation.Buckets
import Shamarx.Foundation.Weights
import Shamarx.Foundation.AppendOnly
import Shamarx.Foundation.DayBook
import Shamarx.Foundation.WholeParts
import Shamarx.Foundation.TaskLock
import Shamarx.Foundation.SingleUse
import Shamarx.Foundation.Online
import Shamarx.Foundation.Countdown
import Shamarx.Foundation.FirstMatch
import Shamarx.Foundation.GrowingTable
import Shamarx.Engine.Types
import Shamarx.Engine.Instruments
import Shamarx.Engine.RiskManager
import Shamarx.Engine.RiskManagerLemmas
import Shamarx.Engine.LotSizing
import Shamarx.Engine.Pauses
import Shamarx.Engine.Deadlines
import Shamarx.Engine.TradingDays
import Shamarx.Engine.Resets
import Shamarx.Engine.PausesLengthen
import Shamarx.Engine.DailyLoss
import Shamarx.Engine.WeeklyDrawdown
import Shamarx.Engine.HardKill
import Shamarx.Engine.LossFree
import Shamarx.Engine.KeptLog
import Shamarx.Engine.RollingPause
import Shamarx.Engine.Streaks
import Shamarx.Engine.Structure
import Shamarx.Engine.NewsCalendar
import Shamarx.Engine.BlackoutSearch
import Shamarx.Engine.Indicators
import Shamarx.Engine.PositionSimulator
import Shamarx.Engine.StopRatchet
import Shamarx.Orchestrator.State
import Shamarx.Orchestrator.Evaluate
import Shamarx.Orchestrator.EvaluateLemmas
import Shamarx.Orchestrator.Calls
import Shamarx.Orchestrator.LossStreaks
import Shamarx.Orchestrator.EnteredSweeps
import Shamarx.Orchestrator.Cooldown
import Shamarx.Orchestrator.CatchUp
import Shamarx.Orchestrator.RestartTransparency
import Shamarx.Orchestrator.SetupExpiry
import Shamarx.Orchestrator.Sizing
import Shamarx.Orchestrator.SignalShape
import Shamarx.Orchestrator.ReplayCursor
import Shamarx.Orchestrator.SweepContext
import Shamarx.Broker.CTraderSymbols
import Shamarx.Broker.CTraderVolumes
import Shamarx.Broker.CloseFacts
import Shamarx.Broker.PlaceOrder
import Shamarx.Broker.ModifyPosition
import Shamarx.Market.DailyBars
import Shamarx.Market.DukascopyImport
import Shamarx.Market.ImportParts
import Shamarx.Market.ResumedImport
import Shamarx.Market.MetaApiPaging
import Shamarx.Market.HistoricalMerge
import Shamarx.Live.OrderLegs
import Shamarx.Live.TradeRows
import Shamarx.Live.Persistence
import Shamarx.Live.LiveAnalytics
import Shamarx.Live.PositionMonitor
import Shamarx.Live.MonitorPasses
import Shamarx.Live.UninterruptedPass
import Shamarx.Live.AbsenceConfirmation
import Shamarx.Live.ReportedExits
import Shamarx.Live.ExitReconciliation
import Shamarx.Live.AccountBrakes
import Shamarx.Live.CircuitBreaker
import Shamarx.Live.EntryGate
import Shamarx.Live.SharedSignals
import Shamarx.Live.SweepExecution
import Shamarx.Live.SisterRunner
import Shamarx.Live.SisterProtection
import Shamarx.Live.AccountRisk
import Shamarx.Live.PositionCap
import Shamarx.Live.FillPrice
import Shamarx.Live.PendingEntries
import Shamarx.Live.PositionManager
import Shamarx.Live.HeldStops
import Shamarx.Live.BreakEven
import Shamarx.Live.ManagedCandles
import Shamarx.Replay.SimulatedBroker
import Shamarx.Replay.BrokerLemmas
import Shamarx.Replay.ReplayEngine
import Shamarx.Replay.Conservation
import Shamarx.Replay.FillModel
import Shamarx.Replay.LimitsAtStop
import Shamarx.Replay.ExitParity
import Shamarx.Replay.HardCap
import Shamarx.Replay.Flush
import Shamarx.Replay.RetraceParity
import Shamarx.Replay.SignalOrigins
import Shamarx.Replay.OneSource
import Shamarx.Replay.Stacking
import Shamarx.Auth.RefreshTokens
import Shamarx.Auth.TokenRecord
import Shamarx.Auth.RotationSafety
import Shamarx.Auth.PasswordReset
import Shamarx.Accounts.EnabledCache
import Shamarx.Accounts.BrokerOAuth
import Shamarx.Accounts.OneTimeCredentials
import Shamarx.Live.OrchestratorRegistry
import Shamarx.Broker.ClientRegistry
import Shamarx.Broker.OneClient
import Shamarx.Broker.MetaApiBreaker
import Shamarx.Broker.CTraderSession
import Shamarx.Broker.CTraderTransports
import Shamarx.Broker.CTraderTokens
import Shamarx.Broker.CTraderCorrelation
import Shamarx.Foundation.Text
import Shamarx.Foundation.Decimals
import Shamarx.Foundation.Encodings
import Shamarx.Bridge.FileBridge
import Shamarx.Bridge.AtMostOnce
import Shamarx.Bridge.Format
import Shamarx.Bridge.RoundTrip
import Shamarx.Fleet.TerminalRegistry
import Shamarx.Fleet.TerminalManager
import Shamarx.Risk.DailyRisk
import Shamarx.Risk.RowsInTurn
import Shamarx.Invites.InviteService
import Shamarx.Invites.InviteRecord
import Shamarx.Invites.RevokedInFlight
import Shamarx.Engine.IndicatorCausality
import Shamarx.Backtest.PositionExit
import Shamarx.Backtest.RegimeDetection
import Shamarx.Backtest.SetupEvaluators
import Shamarx.Backtest.V6Evaluators
import Shamarx.Backtest.FairValueGaps
import Shamarx.Backtest.WalkForward
import Shamarx.Backtest.GapRetirement
import Shamarx.Backtest.RegimeHysteresis
import Shamarx.Backtest.Metrics
import Shamarx.Backtest.PerformanceTracker
import Shamarx.Backtest.SmcEngine
import Shamarx.Backtest.Causality
import Shamarx.Backtest.CooldownParity
import Shamarx.Engine.AnchorRanges
import Shamarx.Engine.ZoneDetection
import Shamarx.Engine.StructureGates
import Shamarx.Journal.MonthViews
import Shamarx.Foundation.CallLog
import Shamarx.Live.DecisionLog
import Shamarx.Live.LiveControl
import Shamarx.Live.LiveSessions
import Shamarx.Live.OneSession
import Shamarx.Live.ControlRestart
import Shamarx.Foundation.Backoff
import Shamarx.Fleet.Watchdog
import Shamarx.Broker.MockBroker
import Shamarx.Market.CandleStream
import Shamarx.Replay.ReplaySessions
import Shamarx.Accounts.AccountHosting
import Shamarx.Accounts.SoftCap
import Shamarx.Accounts.HostedTerminals
import Shamarx.Live.SessionViews
import Shamarx.Live.LiveStats
import Shamarx.Live.EquityCurve
