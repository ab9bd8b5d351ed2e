import AprAuto.Config

namespace AprAuto.Env

def defaultMinStableMs : Text := "45000".toList
def defaultSettleWindowMs : Text := "45000".toList

structure Args where
  target : PyFloat := .num defaultConvergenceTarget
  maxRounds : Int := defaultMaxRounds
  startRound : Option Int := none
  workflow : Text := defaultWorkflow
  cooldown : Int := defaultCooldownSeconds
  dryRun : Bool := false
  noIntegrate : Bool := false
  noCommit : Bool := false
  noCdpRecovery : Bool := false
  cdpSshHost : Option Text := none
  deriving DecidableEq, Repr

def argsConfig (args : Args) : Config :=
  { maxRounds := args.maxRounds, startRound := args.startRound, workflow := args.workflow,
    convergenceTarget := args.target, cooldown := args.cooldown, dryRun := args.dryRun,
    integrate := !args.noIntegrate, commit := !args.noCommit, cdpRecoveryEnabled := !args.noCdpRecovery }

def parseArgs (env : Text → Option Text) (intOfStr : Text → Option Int) (args : Args) : Config :=
  let config := Config.postInit env intOfStr (argsConfig args)
  match args.cdpSshHost with
  | some host => if host.isEmpty then config else { config with cdpRecoverySshHost := host }
  | none => config

def setdefault (env : Text → Option Text) (key value : Text) : Text → Option Text :=
  Function.update env key (some ((env key).getD value))

def buildEnv (environ : Text → Option Text) (config : Config) : Text → Option Text :=
  let env := environ
  let env :=
    if !config.oracleHost.isEmpty && config.oraclePort != 0 then
      Function.update env "ORACLE_REMOTE_HOST".toList
        (some (config.oracleHost ++ ":".toList ++ (toString config.oraclePort).toList))
    else env
  let env :=
    if !config.oracleToken.isEmpty then Function.update env "ORACLE_REMOTE_TOKEN".toList (some config.oracleToken)
    else env
  let env := setdefault env "APR_ORACLE_MIN_STABLE_MS".toList defaultMinStableMs
  let env := setdefault env "APR_ORACLE_SETTLE_WINDOW_MS".toList defaultSettleWindowMs
  let env := setdefault env "APR_CHECK_UPDATES".toList "0".toList
  setdefault env "NO_COLOR".toList "1".toList

def aprDefaults : List (Text × Text) :=
  [("APR_ORACLE_MIN_STABLE_MS".toList, defaultMinStableMs), ("APR_ORACLE_SETTLE_WINDOW_MS".toList, defaultSettleWindowMs),
   ("APR_CHECK_UPDATES".toList, "0".toList), ("NO_COLOR".toList, "1".toList)]

section Args

variable (env : Text → Option Text) (intOfStr : Text → Option Int) (args : Args)

theorem parseArgs_eq : ∃ sshHost, parseArgs env intOfStr args =
    { Config.postInit env intOfStr (argsConfig args) with cdpRecoverySshHost := sshHost } := by
  unfold parseArgs
  generalize Config.postInit env intOfStr (argsConfig args) = c
  repeat' split
  all_goals exact ⟨_, rfl⟩

theorem parseArgs_oracleHost_ne_nil : (parseArgs env intOfStr args).oracleHost ≠ [] := by
  obtain ⟨sshHost, h⟩ := parseArgs_eq env intOfStr args
  rw [h]
  dsimp only
  exact Config.oracleHost_postInit_ne_nil env intOfStr _

theorem parseArgs_oracleToken :
    (parseArgs env intOfStr args).oracleToken = (env "ORACLE_REMOTE_TOKEN".toList).getD [] := by
  obtain ⟨sshHost, h⟩ := parseArgs_eq env intOfStr args
  rw [h]
  dsimp only
  exact Config.oracleToken_postInit env intOfStr (argsConfig args)

end Args

section Build

theorem setdefault_apply (env : Text → Option Text) (key value k : Text) :
    setdefault env key value k = if k = key then (env k).orElse fun _ => some value else env k := by
  rw [setdefault, Function.update_apply]
  split
  · subst_vars
    cases env k <;> rfl
  · rfl

theorem foldl_setdefault (defaults : List (Text × Text)) (env : Text → Option Text) (k : Text) :
    defaults.foldl (fun e d => setdefault e d.1 d.2) env k = (env k).orElse fun _ => defaults.lookup k := by
  induction defaults generalizing env with
  | nil =>
      show env k = _
      cases env k <;> rfl
  | cons d ds ih =>
      obtain ⟨key, value⟩ := d
      rw [List.foldl_cons, ih, setdefault_apply, List.lookup_cons]
      by_cases hk : k = key
      · subst hk
        rw [if_pos rfl, beq_self_eq_true]
        cases env k <;> rfl
      · rw [if_neg hk, beq_false_of_ne hk]

theorem update_getD_self {e e₀ : Text → Option Text} {key : Text} (h : e key = e₀ key) :
    (if !((e₀ key).getD []).isEmpty then Function.update e key (some ((e₀ key).getD [])) else e) = e := by
  split
  · next hne =>
      rw [Function.update_eq_self_iff, h]
      revert hne
      cases e₀ key <;> simp
  · rfl

theorem hostUpdate_apply {host : Text} (hhost : host ≠ []) (port : Int) (e : Text → Option Text) (v k : Text) :
    (if !host.isEmpty && port != 0 then Function.update e "ORACLE_REMOTE_HOST".toList (some v) else e) k =
      if k = "ORACLE_REMOTE_HOST".toList ∧ port ≠ 0 then some v else e k := by
  by_cases hp : port = 0
  · simp [hp]
  · simp [hp, hhost, Function.update_apply]

theorem buildEnv_apply {environ : Text → Option Text} {config : Config} (hhost : config.oracleHost ≠ [])
    (htoken : config.oracleToken = (environ "ORACLE_REMOTE_TOKEN".toList).getD []) (k : Text) :
    buildEnv environ config k =
      if k = "ORACLE_REMOTE_HOST".toList ∧ config.oraclePort ≠ 0 then
        some (config.oracleHost ++ ":".toList ++ (toString config.oraclePort).toList)
      else (environ k).orElse fun _ => aprDefaults.lookup k := by
  show aprDefaults.foldl (fun e d => setdefault e d.1 d.2) _ k = _
  rw [foldl_setdefault, htoken, update_getD_self, hostUpdate_apply hhost]
  · split_ifs <;> rfl
  · rw [hostUpdate_apply hhost, if_neg fun h => absurd h.1 (by decide)]

end Build

theorem apr_environment_is_user_environment (environ : Text → Option Text) (intOfStr : Text → Option Int)
    (args : Args) (k : Text) :
    buildEnv environ (parseArgs environ intOfStr args) k =
      if k = "ORACLE_REMOTE_HOST".toList ∧ (parseArgs environ intOfStr args).oraclePort ≠ 0 then
        some ((parseArgs environ intOfStr args).oracleHost ++ ":".toList ++
          (toString (parseArgs environ intOfStr args).oraclePort).toList)
      else (environ k).orElse fun _ => aprDefaults.lookup k :=
  buildEnv_apply (parseArgs_oracleHost_ne_nil environ intOfStr args) (parseArgs_oracleToken environ intOfStr args) k

section Canonical

theorem digitChar_plain {d : Nat} (hd : d < 10) :
    Str.isspace (Nat.digitChar d) = false ∧ Nat.digitChar d ≠ ':' := by
  have key : ∀ d < 10, Str.isspace (Nat.digitChar d) = false ∧ Nat.digitChar d ≠ ':' := by decide
  exact key d hd

theorem toDigitsCore_plain (f n : Nat) {ds : Text} (hds : ∀ c ∈ ds, Str.isspace c = false ∧ c ≠ ':') :
    ∀ c ∈ Nat.toDigitsCore 10 f n ds, Str.isspace c = false ∧ c ≠ ':' := by
  induction f generalizing n ds with
  | zero => exact hds
  | succ f ih =>
      have hd : ∀ c ∈ Nat.digitChar (n % 10) :: ds, Str.isspace c = false ∧ c ≠ ':' :=
        List.forall_mem_cons.2 ⟨digitChar_plain (Nat.mod_lt n (by decide)), hds⟩
      dsimp only [Nat.toDigitsCore]
      split
      · exact hd
      · exact ih _ hd

theorem toString_int_plain (n : Int) : ∀ c ∈ (toString n).toList, Str.isspace c = false ∧ c ≠ ':' := by
  have hnat (m : Nat) : ∀ c ∈ (toString m).toList, Str.isspace c = false ∧ c ≠ ':' :=
    toDigitsCore_plain (m + 1) m (by simp)
  cases n with
  | ofNat m => exact hnat m
  | negSucc m => exact List.forall_mem_cons.2 ⟨by decide, hnat (m + 1)⟩

variable {environ : Text → Option Text} {intOfStr : Text → Option Int} {host : Text} {port : Int}

theorem fillOracleHost_canonical (c : Config) (hc : c.oracleHost = [])
    (henv : environ "ORACLE_REMOTE_HOST".toList = some (host ++ ':' :: (toString port).toList))
    (hhost : host ≠ []) (hlead : ∀ x ∈ host.head?, Str.isspace x = false)
    (hint : intOfStr (toString port).toList = some port) :
    Config.fillOracleHost environ intOfStr c = { c with oracleHost := host, oraclePort := port } := by
  have hplain := toString_int_plain port
  have hstrip := Str.strip_append hlead (List.forall_mem_cons.2 ⟨by decide, fun x hx => (hplain x hx).1⟩)
    (List.cons_ne_nil ':' (toString port).toList)
  have hsplit := Str.rsplitOnce_append ':' host fun h => (hplain ':' h).2 rfl
  unfold Config.fillOracleHost
  rw [henv, Option.getD_some, hstrip]
  dsimp only
  rw [hsplit, hint]
  simp [hc, hhost]

theorem postInit_oracle_canonical (c : Config) (hc : c.oracleHost = [])
    (henv : environ "ORACLE_REMOTE_HOST".toList = some (host ++ ':' :: (toString port).toList))
    (hhost : host ≠ []) (hlead : ∀ x ∈ host.head?, Str.isspace x = false)
    (hint : intOfStr (toString port).toList = some port) :
    (c.postInit environ intOfStr).oracleHost = host ∧ (c.postInit environ intOfStr).oraclePort = port := by
  obtain ⟨token, htok⟩ := Config.fillOracleToken_eq environ c
  obtain ⟨sshHost, script, hcdp⟩ :=
    Config.fillCdpRecovery_eq environ (Config.fillOracleHost environ intOfStr (Config.fillOracleToken environ c))
  rw [Config.postInit, hcdp,
    fillOracleHost_canonical (Config.fillOracleToken environ c) (by rw [htok]; exact hc) henv hhost hlead hint]
  exact ⟨rfl, rfl⟩

end Canonical

theorem canonical_oracle_remote_host_round_trips (environ : Text → Option Text) (intOfStr : Text → Option Int)
    (args : Args) (host : Text) (port : Int)
    (henv : environ "ORACLE_REMOTE_HOST".toList = some (host ++ ":".toList ++ (toString port).toList))
    (hhost : host ≠ []) (hlead : ∀ c ∈ host.head?, Str.isspace c = false) (hport : port ≠ 0)
    (hint : intOfStr (toString port).toList = some port) :
    (parseArgs environ intOfStr args).oracleHost = host ∧ (parseArgs environ intOfStr args).oraclePort = port ∧
      buildEnv environ (parseArgs environ intOfStr args) "ORACLE_REMOTE_HOST".toList =
        environ "ORACLE_REMOTE_HOST".toList := by
  have henv' : environ "ORACLE_REMOTE_HOST".toList = some (host ++ ':' :: (toString port).toList) := by
    rw [henv, List.append_assoc]
    rfl
  obtain ⟨sshHost, hargs⟩ := parseArgs_eq environ intOfStr args
  have hcfg : (parseArgs environ intOfStr args).oracleHost = host ∧
      (parseArgs environ intOfStr args).oraclePort = port := by
    rw [hargs]
    dsimp only
    exact postInit_oracle_canonical (argsConfig args) rfl henv' hhost hlead hint
  refine ⟨hcfg.1, hcfg.2, ?_⟩
  rw [buildEnv_apply (parseArgs_oracleHost_ne_nil environ intOfStr args) (parseArgs_oracleToken environ intOfStr args),
    if_pos ⟨rfl, hcfg.2 ▸ hport⟩, hcfg.1, hcfg.2, henv]

theorem default_oracle_remote_host_round_trips :
    buildEnv (Function.update (fun _ => none) "ORACLE_REMOTE_HOST".toList (some "100.122.100.99:9333".toList))
        (parseArgs (Function.update (fun _ => none) "ORACLE_REMOTE_HOST".toList (some "100.122.100.99:9333".toList))
          (fun s => some (s.foldl (fun n c => n * 10 + (c.toNat - 48 : Nat)) 0 : Nat)) {})
        "ORACLE_REMOTE_HOST".toList = some "100.122.100.99:9333".toList :=
  (canonical_oracle_remote_host_round_trips _ _ {} "100.122.100.99".toList 9333 (by decide) (by decide) (by decide)
    (by decide) (by decide)).2.2.trans (by decide)

end AprAuto.Env
