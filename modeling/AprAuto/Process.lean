import AprAuto.Config

namespace AprAuto.Process

inductive Captured where
  | bytes (decoded : Text)
  | undecodable
  deriving DecidableEq, Repr

def Captured.text : Captured → Except PyExc Text
  | .bytes decoded => .ok (Str.universalNewlines decoded)
  | .undecodable => .error .unicodeDecodeError

inductive ProcResult where
  | completed (returncode : Int) (stdout stderr : Captured)
  | timedOut
  | spawnFailed
  deriving DecidableEq, Repr

inductive RunError where
  | timeoutExpired
  | raised (e : PyExc)
  deriving DecidableEq, Repr

structure Completed where
  returncode : Int
  stdout : Text
  stderr : Text

def run : ProcResult → Except RunError Completed
  | .timedOut => .error .timeoutExpired
  | .spawnFailed => .error (.raised .osError)
  | .completed rc out err =>
      match out.text, err.text with
      | .ok o, .ok e => .ok ⟨rc, o, e⟩
      | .error x, _ => .error (.raised x)
      | _, .error x => .error (.raised x)

theorem run_eq_raised {p : ProcResult} {e : PyExc} (h : run p = .error (.raised e)) :
    e = .osError ∨ e = .unicodeDecodeError := by
  cases p with
  | completed rc out err =>
      cases out <;> cases err <;>
        simp only [run, Captured.text, reduceCtorEq, Except.error.injEq, RunError.raised.injEq] at h <;>
        exact .inr h.symm
  | timedOut => cases h
  | spawnFailed => cases h; exact .inl rfl

def errorMap : Int → Option Text
  | 2 => some "Usage error".toList
  | 3 => some "Dependency error (Oracle not found)".toList
  | 4 => some "Config error (missing files or workflow)".toList
  | 10 => some "Network error".toList
  | _ => none

def runAprRound (p : ProcResult) : Except PyExc (Bool × Text) :=
  match run p with
  | .error .timeoutExpired => .ok (false, s!"Timed out after {roundTimeoutSeconds}s".toList)
  | .error (.raised e) => .error e
  | .ok r =>
      if r.returncode = 0 then .ok (true, [])
      else
        let msg := (errorMap r.returncode).getD s!"Exit code {r.returncode}".toList
        match (Str.splitlines (Str.strip r.stderr)).getLast? with
        | some last => .ok (false, msg ++ " ‚Äî ".toList ++ last.take 200)
        | none => .ok (false, msg)

def attemptCdpRecovery (cfg : Config) (p : ProcResult) : Except PyExc (Option Text) :=
  if !cfg.cdpRecoveryEnabled then .ok none
  else if cfg.cdpRecoverySshHost.isEmpty || cfg.cdpRecoveryScriptPath.isEmpty then .ok none
  else
    match run p with
    | .error .timeoutExpired => .ok none
    | .error (.raised .osError) => .ok none
    | .error (.raised e) => .error e
    | .ok r =>
        if r.returncode ≠ 0 then .ok none
        else if r.stdout.isEmpty || r.stdout.length < minOutputChars then .ok none
        else .ok (some r.stdout)

def runBackfill (p : ProcResult) : Except PyExc Bool :=
  match run p with
  | .ok r => .ok (r.returncode = 0)
  | .error .timeoutExpired => .ok false
  | .error (.raised .osError) => .ok false
  | .error (.raised e) => .error e

structure IntegrateRuns where
  prompt : ProcResult
  claude : Option ProcResult
  mkdirFails : Bool
  writeFails : Bool

def runIntegrate (x : IntegrateRuns) : Except PyExc Bool :=
  match run x.prompt with
  | .error .timeoutExpired => .ok false
  | .error (.raised .osError) => .ok false
  | .error (.raised e) => .error e
  | .ok r =>
      if r.returncode ≠ 0 || (Str.strip r.stdout).isEmpty then .ok false
      else
        let claudeDone : Except PyExc Bool :=
          match x.claude.map run with
          | some (.ok c) => .ok (c.returncode = 0)
          | some (.error (.raised .unicodeDecodeError)) => .error .unicodeDecodeError
          | _ => .ok false
        match claudeDone with
        | .error e => .error e
        | .ok true => .ok true
        | .ok false =>
            if x.mkdirFails then .error .osError
            else .ok !x.writeFails

theorem run_stdout_no_cr {p : ProcResult} {r : Completed} (h : run p = .ok r) : '\r' ∉ r.stdout := by
  cases p with
  | completed rc out err =>
      cases out <;> cases err <;> simp only [run, Captured.text, reduceCtorEq, Except.ok.injEq] at h
      subst h
      exact Str.not_cr_mem_universalNewlines _
  | timedOut => cases h
  | spawnFailed => cases h

theorem attemptCdpRecovery_no_cr {cfg : Config} {p : ProcResult} {t : Text}
    (h : attemptCdpRecovery cfg p = .ok (some t)) : '\r' ∉ t := by
  unfold attemptCdpRecovery at h
  split_ifs at h with h1 h2
  · cases h
  · cases h
  · split at h
    · cases h
    · cases h
    · cases h
    · rename_i r hr
      split_ifs at h
      · cases h
      · cases h
      · cases h
        exact run_stdout_no_cr hr

end AprAuto.Process
