import Orchestrator.Store
import Orchestrator.Domain.Deployment
import Orchestrator.Domain.DeploymentFacts
import Orchestrator.Domain.Task
import Orchestrator.Domain.TaskFacts
import Orchestrator.Planner.Waves
import Orchestrator.Planner.Depth
import Orchestrator.Planner.RuleBased
import Orchestrator.Planner.PlanShape
import Orchestrator.Service.DeploymentService
import Orchestrator.Service.ServiceFacts
import Orchestrator.Service.Completion
import Orchestrator.Lock.RedisLock
import Orchestrator.Service.Execution
import Orchestrator.Service.SnapshotCompletion
import Orchestrator.Workers.WorkerAgent
import Orchestrator.Workers.TaskQueue
import Orchestrator.Service.Progress
import Orchestrator.Service.Drift
import Orchestrator.Workers.Semaphore
import Orchestrator.Api.Auth
import Orchestrator.Api.DeploymentRoutes
import Orchestrator.Api.RateLimiter
import Orchestrator.Service.Lifecycle
import Orchestrator.Workers.Delivery
import Orchestrator.Workers.Terraform
