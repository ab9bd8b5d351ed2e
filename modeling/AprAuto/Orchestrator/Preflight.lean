import AprAuto.Orchestrator.Invariant
import AprAuto.Score

namespace AprAuto.Orchestrator

open Store Score

def pyEqZero : Json → Bool
  | .bool b => !b
  | .int i => i = 0
  | .float (.num q) => q = 0
  | _ => false

def statusOk (data : Json) : Except PyExc Bool := do
  let ok ← data.get "ok".toList
  if !(ok.map Json.truthy).getD false then pure false
  else
    let inner := (← data.get "data".toList).getD (.obj [])
    let configured := (← inner.get "configured".toList).getD (.bool false)
    let wfCount := (← inner.get "workflow_count".toList).getD (.int 0)
    let _ ← inner.get "oracle_available".toList
    if !configured.truthy then pure false
    else if pyEqZero wfCount then pure false
    else pure true

def checkAprStatus (loads : Text → Except PyExc Json) (p : Process.ProcResult) : Except PyExc Bool :=
  match Process.run p with
  | .error .timeoutExpired => .ok false
  | .error (.raised .osError) => .ok false
  | .error (.raised e) => .error e
  | .ok r =>
      let out := Str.strip r.stdout
      if out.isEmpty then .ok false
      else match loads out with
        | .error .jsonDecodeError => .ok false
        | .error e => .error e
        | .ok data => statusOk data

structure Probes where
  aprOnPath : Bool := true
  oracleConnect : Except PyExc Unit := .ok ()
  aprStatus : Process.ProcResult
  configFile : TextFile := .missing
  workflowExists : Text → Except PyExc Bool
  listWorkflows : Except PyExc Unit := .ok ()
  gitOnPath : Bool := true
  cdpProbe : Process.ProcResult

def checkTailscale (connect : Except PyExc Unit) : Except PyExc Bool :=
  match connect with
  | .ok () => .ok true
  | .error .osError => .ok false
  | .error e => .error e

def oracleCheck (cfg : Config) (connect : Except PyExc Unit) : Except PyExc Bool :=
  if cfg.oracleHost.isEmpty then .ok true
  else if cfg.oracleToken.isEmpty then .ok false
  else checkTailscale connect

def cdpProbe (p : Process.ProcResult) : Except PyExc Unit :=
  match Process.run p with
  | .error .timeoutExpired => .ok ()
  | .error (.raised .osError) => .ok ()
  | .error (.raised e) => .error e
  | .ok _ => .ok ()

def preflight (loads : Text → Except PyExc Json) (cfg : Config) (pr : Probes) :
    Except PyExc (Bool × Config) := do
  let oracleOk ← oracleCheck cfg pr.oracleConnect
  let aprOk ← checkAprStatus loads pr.aprStatus
  let workflowOk ← Workflow.checkWorkflowExists pr.configFile pr.workflowExists pr.listWorkflows cfg.workflow
  let cfg := if cfg.commit && !pr.gitOnPath then { cfg with commit := false } else cfg
  (if cfg.cdpRecoveryEnabled && !cfg.cdpRecoverySshHost.isEmpty then cdpProbe pr.cdpProbe else pure ())
  pure (pr.aprOnPath && oracleOk && aprOk && workflowOk, cfg)

def main (db : UnicodeDb) (loads : Text → Except PyExc Json) (env : Text → Option Text)
    (intOfStr : Text → Option Int) (args : Config) (pr : Probes) (e : Startup) (passes : List Pass)
    (d : Dir) : Except PyExc RunEnd := do
  let (ok, cfg) ← preflight loads (args.postInit env intOfStr) pr
  run db cfg { e with preflight := ok } passes d

section Startup

variable {loads : Text → Except PyExc Json} {cfg : Config} {pr : Probes}

theorem preflight_eq_ok {ok : Bool} {cfg' : Config} (h : preflight loads cfg pr = .ok (ok, cfg')) :
    ∃ oracleOk aprOk workflowOk, oracleCheck cfg pr.oracleConnect = .ok oracleOk ∧
      checkAprStatus loads pr.aprStatus = .ok aprOk ∧
      Workflow.checkWorkflowExists pr.configFile pr.workflowExists pr.listWorkflows cfg.workflow =
        .ok workflowOk ∧
      ok = (pr.aprOnPath && oracleOk && aprOk && workflowOk) ∧
      cfg' = { cfg with commit := cfg.commit && pr.gitOnPath } := by
  unfold preflight at h
  obtain ⟨oracleOk, ho, h⟩ := bind_eq_ok.mp h
  obtain ⟨aprOk, ha, h⟩ := bind_eq_ok.mp h
  obtain ⟨workflowOk, hw, h⟩ := bind_eq_ok.mp h
  dsimp only at h
  obtain ⟨_, -, h⟩ := bind_eq_ok.mp h
  simp only [pure, Except.pure, Except.ok.injEq, Prod.mk.injEq] at h
  refine ⟨oracleOk, aprOk, workflowOk, ho, ha, hw, h.1.symm, ?_⟩
  rw [← h.2]
  cases cfg with
  | mk _ _ _ _ _ _ _ commit => cases commit <;> cases pr.gitOnPath <;> rfl

theorem oracleCheck_postInit_of_no_token {env : Text → Option Text} {args : Config}
    (intOfStr : Text → Option Int) (connect : Except PyExc Unit)
    (htoken : args.oracleToken = []) (henv : (env "ORACLE_REMOTE_TOKEN".toList).getD [] = []) :
    oracleCheck (args.postInit env intOfStr) connect = .ok false := by
  have hhost := Config.oracleHost_postInit_ne_nil env intOfStr args
  have htok : (args.postInit env intOfStr).oracleToken = [] := by
    simp only [Config.oracleToken_postInit, htoken, List.isEmpty_nil, ↓reduceIte]
    exact henv
  simp [oracleCheck, hhost, htok]

end Startup

def RoundResult.Respects (cfg : Config) (r : RoundResult) : Prop :=
  (cfg.integrate = false → r.integrated = false) ∧
    (cfg.commit = false → r.committed = false ∧ r.commitSha = none)

theorem Attempt.entry_respects {cfg : Config} {a : Attempt} (ha : a.Allowed cfg) (n : Int) :
    (a.entry n).Respects cfg := by
  cases a with
  | failed msg => exact ⟨fun _ => rfl, fun _ => ⟨rfl, rfl⟩⟩
  | truncated chars lines attempted => exact ⟨fun _ => rfl, fun _ => ⟨rfl, rfl⟩⟩
  | accepted recovered chars lines pct integrated sha =>
      exact ⟨ha.1, fun hc => by simp [Attempt.entry, ha.2 hc, truthy]⟩

theorem finish_results (endRound : Int) (s : St) :
    (finish endRound s).summary.results = s.summary.results := by
  unfold finish
  dsimp only
  split_ifs <;> rfl

section Runs

variable {db : UnicodeDb} {cfg : Config}

theorem step_respects {endRound : Int} {s : St} {p : Pass} {f : Flow St}
    (hs : ∀ x ∈ s.summary.results, x.Respects cfg) (h : step db cfg endRound s p = .ok f) :
    ∀ x ∈ f.state.summary.results, x.Respects cfg := by
  obtain ⟨⟨a, ha, hf⟩, -⟩ := step_map h
  have hr := congrArg (fun f : Flow Book => f.state.summary.results) hf
  simp only [Flow.state_map, Book.pass_results] at hr
  intro x hx
  rw [hr] at hx
  rcases List.mem_append.mp hx with hx | hx
  · exact hs x hx
  · split_ifs at hx
    · rw [List.mem_singleton.mp hx]
      exact a.entry_respects ha _
    · cases hx

theorem run_eq_ok {e : Startup} {passes : List Pass} {d : Dir} {r : RunEnd}
    (h : run db cfg e passes d = .ok r) :
    (r = .dryRun ∧ cfg.dryRun = true) ∨ (e.preflight = false ∧ cfg.dryRun = false ∧ r = .preflightFailed) ∨
      (e.preflight = true ∧ ∃ f, loop db cfg ((startRound cfg d).1 + cfg.maxRounds) passes
          (initial (startRound cfg d).1 (startRound cfg d).2 d) = .ok f ∧
        (r = .running f.state ∨ r = .returned (finish ((startRound cfg d).1 + cfg.maxRounds) f.state))) := by
  unfold run at h
  cases hp : e.preflight <;>
    simp only [hp, Bool.not_false, Bool.not_true, if_true, if_false, Bool.false_eq_true] at h
  case false =>
    split at h
    · cases h; exact .inl ⟨rfl, ‹_›⟩
    · obtain ⟨_, -, h⟩ := bind_eq_ok.mp h
      cases h
      exact .inr (.inl ⟨rfl, by simpa using ‹¬cfg.dryRun = true›, rfl⟩)
  case true =>
    obtain ⟨_, -, h⟩ := bind_eq_ok.mp h
    obtain ⟨_, -, h⟩ := bind_eq_ok.mp h
    obtain ⟨_, -, h⟩ := bind_eq_ok.mp h
    obtain ⟨_, -, h⟩ := bind_eq_ok.mp h
    split at h
    · cases h; exact .inl ⟨rfl, ‹_›⟩
    · obtain ⟨f, hf, h⟩ := bind_eq_ok.mp h
      refine .inr (.inr ⟨rfl, f, hf, ?_⟩)
      cases f with
      | head s => cases h; exact .inl rfl
      | exit s => obtain ⟨_, -, h⟩ := bind_eq_ok.mp h; cases h; exact .inr rfl

theorem run_respects {e : Startup} {passes : List Pass} {d : Dir} {r : RunEnd} {s : St}
    (h : run db cfg e passes d = .ok r) (hs : r = .returned s ∨ r = .running s) :
    ∀ x ∈ s.summary.results, x.Respects cfg := by
  rcases run_eq_ok h with ⟨rfl, -⟩ | ⟨-, -, rfl⟩ | ⟨-, f, hf, hr⟩
  · simp at hs
  · simp at hs
  have hloop := loop_induction (fun s => ∀ x ∈ s.summary.results, x.Respects cfg)
    (fun _ _ _ => step_respects) (by simp [initial]) hf
  rcases hr with rfl | rfl <;> rcases hs with hs | hs <;> cases hs
  · exact hloop
  · rw [finish_results]; exact hloop

end Runs

section Main

variable {db : UnicodeDb} {loads : Text → Except PyExc Json} {env : Text → Option Text}
  {intOfStr : Text → Option Int} {args : Config} {pr : Probes} {e : Startup} {passes : List Pass} {d : Dir}
  {r : RunEnd}

theorem main_without_token_stops_at_preflight (htoken : args.oracleToken = [])
    (henv : (env "ORACLE_REMOTE_TOKEN".toList).getD [] = [])
    (h : main db loads env intOfStr args pr e passes d = .ok r) :
    r = if args.dryRun then .dryRun else .preflightFailed := by
  obtain ⟨⟨ok, cfg⟩, hpre, hrun⟩ := bind_eq_ok.mp h
  obtain ⟨oracleOk, aprOk, workflowOk, ho, -, -, hok, rfl⟩ := preflight_eq_ok hpre
  rw [oracleCheck_postInit_of_no_token intOfStr pr.oracleConnect htoken henv, Except.ok.injEq] at ho
  have hdry : (args.postInit env intOfStr).dryRun = args.dryRun := by
    obtain ⟨_, _, _, _, _, hp⟩ := Config.postInit_eq env intOfStr args
    rw [hp]
  rw [← ho, Bool.and_false, Bool.false_and, Bool.false_and] at hok
  subst hok
  rcases run_eq_ok hrun with ⟨rfl, hd⟩ | ⟨-, hd, rfl⟩ | ⟨hp, -⟩
  · simp only at hd; rw [hdry] at hd; simp [hd]
  · simp only at hd; rw [hdry] at hd; simp [hd]
  · cases hp

theorem main_without_token_stops_at_preflight_when_checks_pass :
    ({} : Config).oracleToken = [] ∧ ((fun _ => none : Text → Option Text) "ORACLE_REMOTE_TOKEN".toList).getD [] = [] ∧
      main UnicodeDb.ascii
        (fun _ => .ok (.obj [("ok".toList, .bool true),
          ("data".toList, .obj [("configured".toList, .bool true), ("workflow_count".toList, .int 1)])]))
        (fun _ => none) (fun _ => none) {}
        { aprStatus := .completed 0 (.bytes "{}".toList) (.bytes []), workflowExists := fun _ => .ok true,
          cdpProbe := .timedOut } {} [{ apr := .ok (true, []) }] ⟨[]⟩ = .ok .preflightFailed ∧
      RunEnd.preflightFailed = if ({} : Config).dryRun then .dryRun else .preflightFailed := by
  refine ⟨rfl, rfl, ?h, main_without_token_stops_at_preflight (by rfl) (by rfl) ?h⟩
  rfl

theorem main_honours_switches {s : St} (h : main db loads env intOfStr args pr e passes d = .ok r)
    (hs : r = .returned s ∨ r = .running s) :
    ∀ x ∈ s.summary.results, (args.integrate = false → x.integrated = false) ∧
      ((args.commit && pr.gitOnPath) = false → x.committed = false ∧ x.commitSha = none) := by
  obtain ⟨⟨ok, cfg⟩, hpre, hrun⟩ := bind_eq_ok.mp h
  obtain ⟨-, -, -, -, -, -, -, rfl⟩ := preflight_eq_ok hpre
  obtain ⟨_, _, _, _, _, hp⟩ := Config.postInit_eq env intOfStr args
  intro x hx
  have hx := run_respects hrun hs x hx
  rw [hp] at hx
  exact hx

set_option maxRecDepth 10000 in
theorem main_honours_switches_without_git :
    ∃ r s, main UnicodeDb.ascii
        (fun _ => .ok (.obj [("ok".toList, .bool true),
          ("data".toList, .obj [("configured".toList, .bool true), ("workflow_count".toList, .int 1)])]))
        (fun _ => some "t".toList) (fun _ => none) {}
        { aprStatus := .completed 0 (.bytes "{}".toList) (.bytes []), workflowExists := fun _ => .ok true,
          gitOnPath := false, cdpProbe := .timedOut } {}
        [{ apr := .ok (true, []),
           output := some (.file (List.flatten (List.replicate 5 (List.replicate 49 'a' ++ ['\n'])))),
           commit := .ok (some "abc".toList) },
         { shutdown := true, apr := .ok (true, []) }] ⟨[]⟩ = .ok r ∧
      (r = .returned s ∨ r = .running s) ∧
      ∀ x ∈ s.summary.results, (({} : Config).integrate = false → x.integrated = false) ∧
        ((({} : Config).commit && false) = false → x.committed = false ∧ x.commitSha = none) := by
  refine' ⟨_, _, ?h, .inl rfl, main_honours_switches ?h (.inl rfl)⟩
  rfl

end Main

end AprAuto.Orchestrator
