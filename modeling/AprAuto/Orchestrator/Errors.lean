import AprAuto.Orchestrator.Loop
import AprAuto.Process

namespace AprAuto.Orchestrator

open Store

section Errors

variable {db : UnicodeDb} {cfg : Config} {endRound : Int} {s : St} {p : Pass} {e : PyExc}

theorem undecodable_stderr_escapes_run :
    Process.runAprRound (.completed 1 (.bytes []) .undecodable) = .error .unicodeDecodeError ∧
      run UnicodeDb.ascii {} {} [{ apr := Process.runAprRound (.completed 1 (.bytes []) .undecodable) }]
        ⟨[]⟩ = .error .unicodeDecodeError ∧
      run UnicodeDb.ascii { startRound := some 1 } {} [{ apr := .ok (true, []) }]
        ⟨[(.round 1, .special 96)]⟩ = .error .osError :=
  ⟨rfl, rfl, rfl⟩

end Errors

end AprAuto.Orchestrator
