import AprAuto.Truncation

namespace AprAuto.Orchestrator

open Store Truncation

inductive StopReason where
  | preflightFailed
  | shutdown
  | consecutiveFailures
  | truncatedOutput
  | converged
  | maxRoundsReached
  | completed
  deriving DecidableEq, Repr

structure RoundResult where
  roundNum : Int
  success : Bool
  errorMsg : Option Text := none
  convergencePct : Option PyFloat := none
  roundChars : Nat := 0
  roundLines : Nat := 0
  truncated : Bool := false
  cdpRecoveryAttempted : Bool := false
  integrated : Bool := false
  committed : Bool := false
  commitSha : Option Text := none
  deriving DecidableEq, Repr

structure RunSummary where
  stoppedReason : Option StopReason := none
  roundsCompleted : Nat := 0
  roundsFailed : Nat := 0
  results : List RoundResult := []
  deriving DecidableEq, Repr

inductive Event where
  | call (n : Int)
  | flag (n : Int) (k : Nat) (found : Option Entry) (renamed : Bool)
  deriving DecidableEq, Repr

structure Book where
  roundNum : Int
  consecutiveFailures : Nat
  summary : RunSummary
  outputSizes : List Nat
  truncationAttempts : Int → Nat

structure St extends Book where
  dir : Dir
  log : List Event

inductive WriteFault where
  | atOpen
  | afterOpen (written : Nat)
  deriving DecidableEq, Repr

structure Pass where
  shutdown : Bool := false
  status : Except PyExc Unit := .ok ()
  apr : Except PyExc (Bool × Text)
  output : Option Entry := none
  renameFails : Bool := false
  recovery : Except PyExc (Option Text) := .ok none
  writeFault : Option WriteFault := none
  backfill : Except PyExc Bool := .ok false
  score : Except PyExc (Option PyFloat) := .ok none
  integrate : Except PyExc Bool := .ok false
  commit : Except PyExc (Option Text) := .ok none

inductive Flow (σ : Type) where
  | head (s : σ)
  | exit (s : σ)

def Flow.map {σ τ : Type} (f : σ → τ) : Flow σ → Flow τ
  | .head s => .head (f s)
  | .exit s => .exit (f s)

def truthy : Option Text → Bool
  | some t => !t.isEmpty
  | none => false

def reachesTarget (target : PyFloat) : Option PyFloat → Bool
  | some pct => target.le pct
  | none => false

@[simps] def failureEntry (n : Int) (msg : Text) : RoundResult :=
  { roundNum := n, success := false, errorMsg := some msg }

@[simps] def truncationEntry (n : Int) (chars lines : Nat) (attempted : Bool) : RoundResult :=
  { roundNum := n, success := false, errorMsg := some "output_truncated".toList,
    roundChars := chars, roundLines := lines, truncated := true, cdpRecoveryAttempted := attempted }

@[simps] def successEntry (n : Int) (chars lines : Nat) (pct : Option PyFloat) (integrated : Bool)
    (sha : Option Text) : RoundResult :=
  { roundNum := n, success := true, convergencePct := pct, roundChars := chars, roundLines := lines,
    integrated := integrated, committed := truthy sha, commitSha := if truthy sha then sha else none }

namespace Book

@[simps] def stop (b : Book) (r : StopReason) : Book :=
  { b with summary := { b.summary with stoppedReason := some r } }

@[simps] def fail (b : Book) (r : RoundResult) : Book :=
  { b with consecutiveFailures := b.consecutiveFailures + 1,
           summary := { b.summary with roundsFailed := b.summary.roundsFailed + 1,
                                       results := b.summary.results ++ [r] } }

@[simps] def countCompleted (b : Book) : Book :=
  { b with consecutiveFailures := 0,
           summary := { b.summary with roundsCompleted := b.summary.roundsCompleted + 1 } }

@[simps] def recordResult (b : Book) (r : RoundResult) : Book :=
  { b with summary := { b.summary with results := b.summary.results ++ [r] } }

@[simps] def bumpAttempts (b : Book) : Book :=
  { b with truncationAttempts := fun m =>
      if m = b.roundNum then b.truncationAttempts b.roundNum + 1 else b.truncationAttempts m }

end Book

namespace St

def stop (s : St) (r : StopReason) : St := { s with toBook := s.toBook.stop r }

def recordFailure (s : St) (r : RoundResult) : St := { s with toBook := s.toBook.fail r }

def countCompleted (s : St) : St := { s with toBook := s.toBook.countCompleted }

def recordResult (s : St) (r : RoundResult) : St := { s with toBook := s.toBook.recordResult r }

def bumpAttempts (s : St) : St := { s with toBook := s.toBook.bumpAttempts }

def flag (s : St) (renameFails : Bool) : St :=
  { s with log := s.log ++ [.flag s.roundNum (s.truncationAttempts s.roundNum)
      ((s.dir.get (roundFile s.roundNum)).filter Entry.exists) !renameFails] }

def archive (s : St) (renameFails : Bool) : St :=
  match s.dir.get (roundFile s.roundNum) with
  | some e =>
      if !e.exists || renameFails then s
      else { s with dir := s.dir.rename (roundFile s.roundNum) (.truncated s.roundNum (s.truncationAttempts s.roundNum)) }
  | none => s

def writeFailed (s : St) (text : Text) : WriteFault → St
  | .atOpen => s
  | .afterOpen written => { s with dir := s.dir.set (roundFile s.roundNum) (.file (text.take written)) }

def runTool (s : St) (output : Option Entry) : St :=
  { s with dir := match output with
                  | some e => s.dir.set (roundFile s.roundNum) e
                  | none => s.dir,
           log := s.log ++ [.call s.roundNum] }

end St

section Body

variable (db : UnicodeDb) (cfg : Config) (endRound : Int)

def afterFailure (s : St) : Flow St :=
  if maxConsecutiveFailures ≤ s.consecutiveFailures then .exit (s.stop .consecutiveFailures)
  else .head s

def truncationFailure (s : St) (r : RoundResult) : Flow St :=
  let s := s.recordFailure r
  if s.truncationAttempts s.roundNum < maxTruncationRetries then afterFailure s
  else .exit (s.stop .truncatedOutput)

def accept (s : St) (p : Pass) (chars lines : Nat) : Except PyExc (Flow St) := do
  let s := s.countCompleted
  let backfillOk ← p.backfill
  let convPct ← (if backfillOk then p.score else pure none)
  let integrated ← (if cfg.integrate then p.integrate else pure false)
  let sha ← (if cfg.commit then p.commit else pure none)
  let s := s.recordResult (successEntry s.roundNum chars lines convPct integrated sha)
  if reachesTarget cfg.convergenceTarget convPct then pure (.exit (s.stop .converged))
  else pure (.head { s with roundNum := s.roundNum + 1 })

def recover (s : St) (p : Pass) (chars lines : Nat) : Except PyExc (Flow St) := do
  let s := (s.bumpAttempts.flag p.renameFails).archive p.renameFails
  match ← p.recovery with
  | some text =>
      if text.isEmpty then
        pure (truncationFailure s (truncationEntry s.roundNum chars lines true))
      else match p.writeFault with
        | some fault =>
            pure (truncationFailure (s.writeFailed text fault)
              (truncationEntry s.roundNum chars lines cfg.cdpRecoveryEnabled))
        | none =>
            let s := { s with dir := s.dir.set (roundFile s.roundNum) (.file text) }
            if checkOutputTruncation db s.dir s.roundNum s.outputSizes then
              pure (truncationFailure s (truncationEntry s.roundNum text.length (text.count '\n') true))
            else
              accept cfg { s with consecutiveFailures := 0, outputSizes := s.outputSizes ++ [text.length] }
                p text.length (text.count '\n')
  | none => pure (truncationFailure s (truncationEntry s.roundNum chars lines cfg.cdpRecoveryEnabled))

def verify (s : St) (p : Pass) : Except PyExc (Flow St) := do
  let content ← readRoundFile s.dir s.roundNum
  let chars := (content.map List.length).getD 0
  let lines := (content.map (List.count '\n')).getD 0
  let truncated := checkOutputTruncation db s.dir s.roundNum s.outputSizes
  let s := if 0 < chars && !truncated then { s with outputSizes := s.outputSizes ++ [chars] } else s
  if truncated then recover db cfg s p chars lines else accept cfg s p chars lines

def step (s : St) (p : Pass) : Except PyExc (Flow St) :=
  if s.roundNum < endRound then
    if p.shutdown then pure (.exit (s.stop .shutdown))
    else do
      p.status
      let s := s.runTool p.output
      let (success, errorMsg) ← p.apr
      if success then verify db cfg s p
      else pure (afterFailure (s.recordFailure (failureEntry s.roundNum errorMsg)))
  else pure (.exit s)

def loop : List Pass → St → Except PyExc (Flow St)
  | [], s => pure (.head s)
  | p :: ps, s => do
      match ← step db cfg endRound s p with
      | .head s' => loop ps s'
      | .exit s' => pure (.exit s')

def finish (s : St) : St :=
  let s := if endRound ≤ s.roundNum ∧ s.summary.stoppedReason = none then s.stop .maxRoundsReached
    else s
  if s.summary.stoppedReason = none then s.stop .completed else s

end Body

def initial (start : Int) (seed : List Nat) (d : Dir) : St :=
  { roundNum := start, consecutiveFailures := 0, summary := {}, outputSizes := seed,
    truncationAttempts := fun _ => 0, dir := d, log := [] }

structure Startup where
  preflight : Bool := true
  configFile : TextFile := .missing
  workflowFile : Text → TextFile := fun _ => .missing
  backfill : Except PyExc Bool := .ok false
  persist : Except PyExc Unit := .ok ()

inductive RunEnd where
  | dryRun
  | preflightFailed
  | returned (s : St)
  | running (s : St)

def startRound (cfg : Config) (d : Dir) : Int × List Nat :=
  match cfg.startRound with
  | some n => (n, [])
  | none =>
      let last := detectLastRound d
      (last + 1, if 0 < last then seedOutputSizes d last else [])

def run (db : UnicodeDb) (cfg : Config) (e : Startup) (passes : List Pass) (d : Dir) :
    Except PyExc RunEnd :=
  if !e.preflight then
    if cfg.dryRun then pure .dryRun
    else e.persist >>= fun _ => pure .preflightFailed
  else
    Workflow.resolveWorkflowName e.configFile cfg.workflow >>= fun workflowName =>
    Workflow.resolveRoundsDir e.workflowFile workflowName >>= fun _ =>
    (if cfg.startRound = none then statRoundFiles d else pure ()) >>= fun _ =>
    let (start, seed) := startRound cfg d
    let endRound := start + cfg.maxRounds
    (if 1 < start then e.backfill >>= fun _ => pure () else pure ()) >>= fun _ =>
      if cfg.dryRun then pure .dryRun
      else loop db cfg endRound passes (initial start seed d) >>= fun
        | .head s => pure (.running s)
        | .exit s => e.persist >>= fun _ => pure (.returned (finish endRound s))

end AprAuto.Orchestrator
