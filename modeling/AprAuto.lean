import AprAuto.Python
import AprAuto.Config
import AprAuto.Store
import AprAuto.Truncation
import AprAuto.Process
import AprAuto.Score
import AprAuto.Orchestrator.Loop
import AprAuto.Orchestrator.Policy
import AprAuto.Orchestrator.Invariant
import AprAuto.Orchestrator.Stop
import AprAuto.Orchestrator.Budget
import AprAuto.Orchestrator.Shutdown
import AprAuto.Orchestrator.Artifacts
import AprAuto.Orchestrator.Errors
import AprAuto.Orchestrator.Preflight
import AprAuto.Orchestrator.Window
import AprAuto.Yaml
import AprAuto.AtomicWrite
import AprAuto.Shell
import AprAuto.Env
import AprAuto.Logging
import AprAuto.Git
