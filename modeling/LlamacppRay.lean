import LlamacppRay.Automata.Machine
import LlamacppRay.Automata.Tasks
import LlamacppRay.Automata.Traces
import LlamacppRay.Asyncio.Monitor
import LlamacppRay.Python.Builtins
import LlamacppRay.Python.Json
import LlamacppRay.Python.Lines
import LlamacppRay.Python.Program
import LlamacppRay.Python.Separated
import LlamacppRay.Redis.Keyspace
import LlamacppRay.Shell.Script
import LlamacppRay.Gateway.NodePool
import LlamacppRay.Gateway.Retry
import LlamacppRay.Gateway.SubmitInference
import LlamacppRay.Gateway.StreamInference
import LlamacppRay.Gateway.HealthMonitor
import LlamacppRay.Gateway.ProbeRounds
import LlamacppRay.Gateway.Config
import LlamacppRay.Gateway.PoolSystem
import LlamacppRay.Gateway.PoolQueue
import LlamacppRay.Gateway.Router
import LlamacppRay.Gateway.Slots
import LlamacppRay.Gateway.Occupancy
import LlamacppRay.Gateway.Leaks
import LlamacppRay.Gateway.Parking
import LlamacppRay.Gateway.Streaming
import LlamacppRay.Gateway.Failures
import LlamacppRay.Gateway.Eviction
import LlamacppRay.Gateway.Plan
import LlamacppRay.Gateway.Equivalence
import LlamacppRay.Gateway.RateLimiter
import LlamacppRay.Gateway.SlidingWindow
import LlamacppRay.Gateway.RateBound
import LlamacppRay.Gateway.Accounts
import LlamacppRay.Gateway.Authentication
import LlamacppRay.Gateway.Chat
import LlamacppRay.Gateway.ChatPaths
import LlamacppRay.Gateway.Relay
import LlamacppRay.Gateway.ChatStatuses
import LlamacppRay.Gateway.Bookkeeping
import LlamacppRay.Gateway.ActiveRequests
import LlamacppRay.Gateway.Ledgers
import LlamacppRay.Cron.LlamaCppSync
import LlamacppRay.Cron.Builds
import LlamacppRay.Cron.SyncJob
import LlamacppRay.Cron.Isolation
import LlamacppRay.Gateway.Grants
import LlamacppRay.Gateway.BackoffTiers
import LlamacppRay.Gateway.RetryBounds
import LlamacppRay.Gateway.Affinity
import LlamacppRay.Gateway.Exhaustion
import LlamacppRay.Gateway.QueueRejections
import LlamacppRay.Gateway.Accounting
import LlamacppRay.Gateway.Rewriting
import LlamacppRay.Scripts.LlamaWatchdog
import LlamacppRay.Automata.Histories
import LlamacppRay.Gateway.Admission
import LlamacppRay.Gateway.Service
import LlamacppRay.Scripts.MonitorNode
import LlamacppRay.Scripts.Outages
import LlamacppRay.Automata.Servers
import LlamacppRay.Python.Counting
import LlamacppRay.Gateway.Administration
import LlamacppRay.Scripts.Database
import LlamacppRay.Gateway.BackOffice
import LlamacppRay.Gateway.Listings
import LlamacppRay.Gateway.Confidentiality
import LlamacppRay.Gateway.Usage
import LlamacppRay.Gateway.Reconciliation
import LlamacppRay.Gateway.Failover
import LlamacppRay.Gateway.FrontDoor
import LlamacppRay.Gateway.Process
import LlamacppRay.Gateway.Attribution
import LlamacppRay.Automata.Termination
import LlamacppRay.Gateway.Draining
import LlamacppRay.Gateway.Detection
import LlamacppRay.Cron.Fleet
import LlamacppRay.Scripts.StreamingClient
