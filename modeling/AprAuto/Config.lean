import AprAuto.Python

namespace AprAuto

def defaultMaxRounds : Int := 50
def defaultConvergenceTarget : ℚ := 75
def defaultWorkflow : Text := "default".toList
def defaultOracleHost : Text := "100.122.100.99".toList
def defaultOraclePort : Int := 9333
def defaultCooldownSeconds : Int := 10
def roundTimeoutSeconds : Nat := 3600
def maxConsecutiveFailures : Nat := 3
def maxTruncationRetries : Nat := 3
def minOutputChars : Nat := 200
def minOutputLines : Nat := 5
def cdpRecoveryScript : Text := "~/dev/rch-mac/scripts/oracle_cdp_recover.js".toList

structure Config where
  maxRounds : Int := defaultMaxRounds
  startRound : Option Int := none
  workflow : Text := defaultWorkflow
  convergenceTarget : PyFloat := .num defaultConvergenceTarget
  cooldown : Int := defaultCooldownSeconds
  dryRun : Bool := false
  integrate : Bool := true
  commit : Bool := true
  oracleHost : Text := []
  oraclePort : Int := defaultOraclePort
  oracleToken : Text := []
  cdpRecoveryEnabled : Bool := true
  cdpRecoverySshHost : Text := []
  cdpRecoveryScriptPath : Text := []
  deriving DecidableEq, Repr

namespace Config

def fillOracleToken (env : Text → Option Text) (c : Config) : Config :=
  if c.oracleToken.isEmpty then { c with oracleToken := (env "ORACLE_REMOTE_TOKEN".toList).getD [] } else c

def fillOracleHost (env : Text → Option Text) (intOfStr : Text → Option Int) (c : Config) : Config :=
  if c.oracleHost.isEmpty then
    let hostEnv := Str.strip ((env "ORACLE_REMOTE_HOST".toList).getD [])
    let c :=
      if hostEnv.isEmpty then c
      else if hostEnv.contains ':' then
        let parts := Str.rsplitOnce ':' hostEnv
        { c with oracleHost := parts.1, oraclePort := (intOfStr parts.2).getD c.oraclePort }
      else { c with oracleHost := hostEnv }
    if c.oracleHost.isEmpty then { c with oracleHost := defaultOracleHost } else c
  else c

def fillCdpRecovery (env : Text → Option Text) (c : Config) : Config :=
  let c :=
    if c.cdpRecoverySshHost.isEmpty then
      let sshHost := (env "APR_CDP_RECOVERY_SSH_HOST".toList).getD []
      { c with cdpRecoverySshHost := if sshHost.isEmpty then "paul@".toList ++ c.oracleHost else sshHost }
    else c
  if c.cdpRecoveryScriptPath.isEmpty then
    { c with cdpRecoveryScriptPath := (env "APR_CDP_RECOVERY_SCRIPT".toList).getD cdpRecoveryScript }
  else c

def postInit (env : Text → Option Text) (intOfStr : Text → Option Int) (c : Config) : Config :=
  fillCdpRecovery env (fillOracleHost env intOfStr (fillOracleToken env c))

section PostInit

variable (env : Text → Option Text) (intOfStr : Text → Option Int) (c : Config)

theorem fillOracleToken_eq : ∃ token, fillOracleToken env c = { c with oracleToken := token } := by
  unfold fillOracleToken
  split_ifs <;> exact ⟨_, rfl⟩

theorem fillOracleHost_eq :
    ∃ host port, fillOracleHost env intOfStr c = { c with oracleHost := host, oraclePort := port } := by
  unfold fillOracleHost
  split
  · dsimp only
    repeat' split
    all_goals exact ⟨_, _, rfl⟩
  · exact ⟨_, _, rfl⟩

theorem fillCdpRecovery_eq : ∃ sshHost script,
    fillCdpRecovery env c = { c with cdpRecoverySshHost := sshHost, cdpRecoveryScriptPath := script } := by
  unfold fillCdpRecovery
  dsimp only
  repeat' split
  all_goals exact ⟨_, _, rfl⟩

theorem postInit_eq : ∃ host port token sshHost script, c.postInit env intOfStr =
    { c with oracleHost := host, oraclePort := port, oracleToken := token,
             cdpRecoverySshHost := sshHost, cdpRecoveryScriptPath := script } := by
  obtain ⟨token, ht⟩ := fillOracleToken_eq env c
  obtain ⟨host, port, hh⟩ := fillOracleHost_eq env intOfStr (fillOracleToken env c)
  obtain ⟨sshHost, script, hc⟩ := fillCdpRecovery_eq env (fillOracleHost env intOfStr (fillOracleToken env c))
  exact ⟨host, port, token, sshHost, script, by rw [postInit, hc, hh, ht]⟩

theorem oracleHost_fallback_ne_nil :
    (if c.oracleHost.isEmpty then { c with oracleHost := defaultOracleHost } else c).oracleHost ≠ [] := by
  split_ifs with h
  · exact List.cons_ne_nil _ _
  · exact mt List.isEmpty_iff.mpr h

theorem oracleHost_fillOracleHost_ne_nil : (fillOracleHost env intOfStr c).oracleHost ≠ [] := by
  unfold fillOracleHost
  split_ifs with h
  · exact oracleHost_fallback_ne_nil _
  · exact mt List.isEmpty_iff.mpr h

theorem oracleToken_postInit : (c.postInit env intOfStr).oracleToken =
    if c.oracleToken.isEmpty then (env "ORACLE_REMOTE_TOKEN".toList).getD [] else c.oracleToken := by
  obtain ⟨sshHost, script, hc⟩ := fillCdpRecovery_eq env (fillOracleHost env intOfStr (fillOracleToken env c))
  obtain ⟨host, port, hh⟩ := fillOracleHost_eq env intOfStr (fillOracleToken env c)
  rw [postInit, hc, hh]
  unfold fillOracleToken
  split_ifs <;> rfl

theorem oracleHost_postInit_ne_nil : (c.postInit env intOfStr).oracleHost ≠ [] := by
  obtain ⟨sshHost, script, hc⟩ := fillCdpRecovery_eq env (fillOracleHost env intOfStr (fillOracleToken env c))
  rw [postInit, hc]
  exact oracleHost_fillOracleHost_ne_nil env intOfStr _

end PostInit

end Config

inductive TextFile where
  | missing
  | text (raw : Text)
  | unreadable
  | undecodable
  | unstatable
  deriving DecidableEq, Repr

def TextFile.exists : TextFile → Except PyExc Bool
  | .missing => .ok false
  | .unstatable => .error .osError
  | _ => .ok true

def TextFile.readText : TextFile → Except PyExc Text
  | .text raw => .ok (Str.universalNewlines raw)
  | .undecodable => .error .unicodeDecodeError
  | _ => .error .osError

def catchOsError {α : Type} (dflt : α) : Except PyExc α → Except PyExc α
  | .error .osError => .ok dflt
  | r => r

namespace Workflow

def isQuote (c : Char) : Bool := c = '"' || c = '\''

def cleanYamlValue (raw : Text) : Text :=
  Str.stripBy isQuote (Str.strip (raw.takeWhile (· != '#')))

def defaultWorkflowIn : List Text → Option Text
  | [] => none
  | line :: rest =>
      let stripped := Str.strip line
      if stripped.isEmpty || Str.startswith stripped "#".toList then defaultWorkflowIn rest
      else if Str.startswith stripped "default_workflow:".toList then
        let value := cleanYamlValue (Str.splitOnce ':' stripped).2
        if value.isEmpty then none else some value
      else defaultWorkflowIn rest

def readDefaultWorkflow (config : TextFile) : Except PyExc (Option Text) :=
  config.exists >>= fun found =>
    if found then catchOsError none (config.readText.map fun t => defaultWorkflowIn (Str.splitlines t))
    else .ok none

def outputDirIn : Option Nat → List Text → Option Text
  | _, [] => none
  | inRounds, line :: rest =>
      let raw := Str.rstripBy (· == '\n') line
      let stripped := Str.strip raw
      if stripped.isEmpty || Str.startswith stripped "#".toList then outputDirIn inRounds rest
      else
        let indent := raw.length - (Str.lstripBy (· == ' ') raw).length
        match inRounds with
        | none =>
            if Str.startswith stripped "rounds:".toList then outputDirIn (some indent) rest
            else outputDirIn none rest
        | some roundsIndent =>
            if indent ≤ roundsIndent then none
            else if Str.startswith stripped "output_dir:".toList then
              some (cleanYamlValue (Str.splitOnce ':' stripped).2)
            else outputDirIn (some roundsIndent) rest

def readRoundsOutputDir (workflowFile : TextFile) : Except PyExc (Option Text) :=
  workflowFile.exists >>= fun found =>
    if found then catchOsError none (workflowFile.readText.map fun t => outputDirIn none (Str.splitlines t))
    else .ok none

def resolveWorkflowName (config : TextFile) (requested : Text) : Except PyExc Text :=
  if requested ≠ defaultWorkflow then .ok requested
  else (readDefaultWorkflow config).map fun v => v.getD requested

def resolveRoundsDir (workflowFile : Text → TextFile) (workflowName : Text) : Except PyExc Text :=
  (readRoundsOutputDir (workflowFile workflowName)).map fun
    | some dir => if dir.isEmpty then ".apr/rounds/".toList ++ workflowName else dir
    | none => ".apr/rounds/".toList ++ workflowName

def configNames (workflowExists : Text → Except PyExc Bool) : List Text → Except PyExc Bool
  | [] => .ok false
  | line :: rest =>
      if Str.startswith (Str.strip line) "default_workflow:".toList then
        workflowExists (Str.stripBy isQuote (Str.strip (Str.splitOnce ':' line).2)) >>= fun found =>
          if found then .ok true else configNames workflowExists rest
      else configNames workflowExists rest

def checkWorkflowExists (config : TextFile) (workflowExists : Text → Except PyExc Bool)
    (listWorkflows : Except PyExc Unit) (workflow : Text) : Except PyExc Bool :=
  workflowExists workflow >>= fun found =>
  if found then .ok true
  else
    (if workflow = defaultWorkflow then
      config.exists >>= fun present =>
        if present then
          catchOsError false (config.readText >>= fun t => configNames workflowExists (Str.splitlines t))
        else .ok false
    else .ok false) >>= fun viaConfig =>
    if viaConfig then .ok true else listWorkflows.map fun _ => false

theorem preflight_and_run_disagree_on_default :
    checkWorkflowExists (.text "default_workflow: main # primary\n".toList)
        (fun name => .ok (name == "main".toList)) (.ok ()) defaultWorkflow = .ok false ∧
      resolveWorkflowName (.text "default_workflow: main # primary\n".toList) defaultWorkflow =
        .ok "main".toList ∧
      checkWorkflowExists (.text "default_workflow: main\n".toList)
        (fun name => .ok (name == "default".toList)) (.ok ()) defaultWorkflow = .ok true ∧
      resolveWorkflowName (.text "default_workflow: main\n".toList) defaultWorkflow = .ok "main".toList :=
  ⟨rfl, rfl, rfl, rfl⟩

end Workflow

end AprAuto
