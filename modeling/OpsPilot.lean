import OpsPilot.Lib.Binary64
import OpsPilot.Lib.Digits
import OpsPilot.Lib.Execution
import OpsPilot.Lib.Infix
import OpsPilot.Lib.JsonText
import OpsPilot.Lib.Lowercase
import OpsPilot.Lib.Paging
import OpsPilot.Lib.Percent
import OpsPilot.Lib.Procedure
import OpsPilot.Lib.Ranking
import OpsPilot.Lib.Reach
import OpsPilot.Lib.Spans
import OpsPilot.Lib.Substitution
import OpsPilot.Lib.Superstep
import OpsPilot.Simulator.Engine
import OpsPilot.Simulator.OffTarget
import OpsPilot.Simulator.Queries
import OpsPilot.Simulator.Recovery
import OpsPilot.Simulator.RejectedLoad
import OpsPilot.Simulator.Repository
import OpsPilot.Tools.Defaults
import OpsPilot.Tools.Effects
import OpsPilot.Tools.QueryTools
import OpsPilot.Tools.Redaction
import OpsPilot.Tools.Remediation
import OpsPilot.Safety.BlastRadius
import OpsPilot.Safety.Compensation
import OpsPilot.Safety.Concurrent
import OpsPilot.Safety.Destructive
import OpsPilot.Safety.ExecutionRunner
import OpsPilot.Safety.KeyText
import OpsPilot.Safety.Keys
import OpsPilot.Safety.Policy
import OpsPilot.Safety.Skips
import OpsPilot.Safety.Totality
import OpsPilot.Agents
import OpsPilot.Agents.Investigators
import OpsPilot.Agents.Quarantine
import OpsPilot.Llm.MockProvider
import OpsPilot.Llm.Router
import OpsPilot.Memory.Budget
import OpsPilot.Memory.Concurrent
import OpsPilot.Memory.Episodic
import OpsPilot.Memory.SeedData
import OpsPilot.Memory.VectorSearch
import OpsPilot.Orchestration.Consultation
import OpsPilot.Orchestration.Sight
import OpsPilot.Orchestration.CriticGate
import OpsPilot.Orchestration.DefaultRepair
import OpsPilot.Orchestration.DefaultReplies
import OpsPilot.Orchestration.DefaultRun
import OpsPilot.Orchestration.EvidenceJoin
import OpsPilot.Orchestration.Exits
import OpsPilot.Orchestration.Invocations
import OpsPilot.Orchestration.LoopBound
import OpsPilot.Orchestration.StaleCritique
import OpsPilot.Orchestration.Moves
import OpsPilot.Orchestration.Nodes
import OpsPilot.Orchestration.Resolution
import OpsPilot.Orchestration.Results
import OpsPilot.Orchestration.Rollbacks
import OpsPilot.Orchestration.Trail
import OpsPilot.Orchestration.Updates
import OpsPilot.Orchestration.Workflow
import OpsPilot.Reporting.Facts
import OpsPilot.Reporting.Postmortem
import OpsPilot.Api.ApprovalGate
import OpsPilot.Api.ApprovalLog
import OpsPilot.Api.Approvals
import OpsPilot.Api.Creation
import OpsPilot.Api.DefaultService
import OpsPilot.Api.Delivery
import OpsPilot.Api.Edits
import OpsPilot.Api.Investigation
import OpsPilot.Api.Learning
import OpsPilot.Api.Lessons
import OpsPilot.Api.Mirror
import OpsPilot.Api.Paging
import OpsPilot.Api.Reads
import OpsPilot.Api.Routes
import OpsPilot.Api.Service
import OpsPilot.Api.Snapshot
import OpsPilot.Api.TerminalSignal
import OpsPilot.Evaluation.Benchmark
import OpsPilot.Evaluation.Runner
import OpsPilot.Web.Agreement
import OpsPilot.Web.Alarms
import OpsPilot.Web.AlertBoard
import OpsPilot.Web.AppController
import OpsPilot.Web.Reconnect
import OpsPilot.Web.Selection
import OpsPilot.Web.StreamConsumer
import OpsPilot.Observability.Logging
