import AprAuto.Orchestrator.Policy

namespace AprAuto.Orchestrator

open Store Truncation

def accepted (rs : List RoundResult) : List RoundResult := rs.filter (·.success)

def failures (rs : List RoundResult) : List RoundResult := rs.filter (!·.success)

def trailingFailures (rs : List RoundResult) : List RoundResult := rs.reverse.takeWhile (!·.success)

def Numbered : Int → List RoundResult → Prop
  | _, [] => True
  | n, r :: rs => r.roundNum = n ∧ Numbered (if r.success then n + 1 else n) rs

section Lists

variable {rs : List RoundResult} {r : RoundResult}

@[simp] theorem accepted_nil : accepted [] = [] := rfl
@[simp] theorem failures_nil : failures [] = [] := rfl
@[simp] theorem trailingFailures_nil : trailingFailures [] = [] := rfl

@[simp] theorem accepted_append (h : r.success = false) : accepted (rs ++ [r]) = accepted rs := by
  simp [accepted, h]

@[simp] theorem accepted_append_success (h : r.success = true) : accepted (rs ++ [r]) = accepted rs ++ [r] := by
  simp [accepted, h]

@[simp] theorem failures_append (h : r.success = false) : failures (rs ++ [r]) = failures rs ++ [r] := by
  simp [failures, h]

@[simp] theorem failures_append_success (h : r.success = true) : failures (rs ++ [r]) = failures rs := by
  simp [failures, h]

@[simp] theorem trailingFailures_append (h : r.success = false) :
    trailingFailures (rs ++ [r]) = r :: trailingFailures rs := by
  simp [trailingFailures, h]

@[simp] theorem trailingFailures_append_success (h : r.success = true) : trailingFailures (rs ++ [r]) = [] := by
  simp [trailingFailures, h]

theorem numbered_append {n : Int} :
    Numbered n (rs ++ [r]) ↔ Numbered n rs ∧ r.roundNum = n + (accepted rs).length := by
  induction rs generalizing n with
  | nil => simp [Numbered]
  | cons x xs ih =>
      cases hx : x.success <;> simp [Numbered, hx, ih, accepted, and_assoc]
      omega

theorem numbered_accepted {n : Int} (h : Numbered n rs) :
    (accepted rs).map (·.roundNum) = (List.range (accepted rs).length).map (fun i : Nat => n + i) := by
  induction rs generalizing n with
  | nil => rfl
  | cons x xs ih =>
      obtain ⟨rfl, h⟩ := h
      cases hx : x.success
      · simpa [accepted, hx] using ih (by simpa [hx] using h)
      · have hs : accepted (x :: xs) = x :: accepted xs := by simp [accepted, hx]
        rw [hs, List.map_cons, List.length_cons, List.range_succ_eq_map, List.map_cons, List.map_map,
          ih (by simpa [hx] using h)]
        simp only [Nat.cast_zero, add_zero, List.cons.injEq, true_and]
        exact List.map_congr_left fun i _ => by simp only [Function.comp_apply]; push_cast; omega

end Lists

structure Running (start endRound : Int) (target : PyFloat) (seed : List Nat) (b : Book)
    (calls : List Int) : Prop where
  round : b.roundNum = start + b.summary.roundsCompleted
  entries : b.summary.results.map (·.roundNum) = calls
  completed : b.summary.roundsCompleted = (accepted b.summary.results).length
  failed : b.summary.roundsFailed = (failures b.summary.results).length
  numbered : Numbered start b.summary.results
  trailing : b.consecutiveFailures = (trailingFailures b.summary.results).length
  belowCap : b.consecutiveFailures < maxConsecutiveFailures
  sizes : b.outputSizes = seed ++ (accepted b.summary.results).map (·.roundChars)
  attempts : b.truncationAttempts b.roundNum =
    ((trailingFailures b.summary.results).filter (·.truncated)).length
  fresh : ∀ m, b.roundNum < m → b.truncationAttempts m = 0
  unset : b.summary.stoppedReason = none
  notConverged : ∀ r ∈ (accepted b.summary.results).getLast?,
    reachesTarget target r.convergencePct = false
  capped : b.roundNum ≤ max start endRound

namespace Book

variable {b b' : Book} {target : PyFloat}

theorem retry_eq_head : b.retry = .head b' ↔ b.consecutiveFailures < maxConsecutiveFailures ∧ b' = b := by
  unfold retry; split_ifs with h <;> simp [eq_comm] <;> omega

theorem truncFail_eq_head {r : RoundResult} :
    b.truncFail r = .head b' ↔ b.truncationAttempts b.roundNum < maxTruncationRetries ∧
      b.consecutiveFailures + 1 < maxConsecutiveFailures ∧ b' = b.fail r := by
  unfold truncFail; dsimp only; split_ifs with h <;> simp_all [retry_eq_head]

theorem pass_eq_head {sh : Bool} {a : Attempt} (h : b.pass endRound target sh a = .head b') :
    b.roundNum < endRound ∧ sh = false ∧ b.apply target a = .head b' := by
  unfold pass at h; split_ifs at h; simp_all

theorem apply_accepted_eq_head {recovered : Bool} {chars lines : Nat} {pct : Option PyFloat}
    {integrated : Bool} {sha : Option Text}
    (h : b.apply target (.accepted recovered chars lines pct integrated sha) = .head b') :
    reachesTarget target pct = false ∧ b'.roundNum = b.roundNum + 1 ∧ b'.consecutiveFailures = 0 ∧
    b'.summary.results = b.summary.results ++ [successEntry b.roundNum chars lines pct integrated sha] ∧
    b'.summary.roundsCompleted = b.summary.roundsCompleted + 1 ∧
    b'.summary.roundsFailed = b.summary.roundsFailed ∧
    b'.summary.stoppedReason = b.summary.stoppedReason ∧
    b'.outputSizes = b.outputSizes ++ [chars] ∧
    ∀ m, m ≠ b.roundNum → b'.truncationAttempts m = b.truncationAttempts m := by
  unfold apply accept at h
  dsimp only at h
  split_ifs at h with hc <;> cases h <;> simp_all

end Book

section Preservation

variable {start endRound : Int} {target : PyFloat} {seed : List Nat} {b b' : Book} {calls : List Int}

theorem Running.fail (hi : Running start endRound target seed b calls) {msg : Text}
    (hcap : b.consecutiveFailures + 1 < maxConsecutiveFailures) :
    Running start endRound target seed (b.fail (failureEntry b.roundNum msg)) (calls ++ [b.roundNum]) where
  round := by simpa using hi.round
  entries := by simp [hi.entries]
  completed := by simpa using hi.completed
  failed := by simp [hi.failed]
  numbered := numbered_append.mpr ⟨hi.numbered, by simp [hi.round, hi.completed]⟩
  trailing := by simp [hi.trailing]
  belowCap := hcap
  sizes := by simpa using hi.sizes
  attempts := by simpa using hi.attempts
  fresh := hi.fresh
  unset := hi.unset
  notConverged := by simpa using hi.notConverged
  capped := hi.capped

theorem Running.truncFail (hi : Running start endRound target seed b calls) {chars lines : Nat}
    {attempted : Bool} (hcap : b.consecutiveFailures + 1 < maxConsecutiveFailures) :
    Running start endRound target seed
      (b.bumpAttempts.fail (truncationEntry b.roundNum chars lines attempted)) (calls ++ [b.roundNum]) where
  round := by simpa using hi.round
  entries := by simp [hi.entries]
  completed := by simpa using hi.completed
  failed := by simp [hi.failed]
  numbered := numbered_append.mpr ⟨hi.numbered, by simp [hi.round, hi.completed]⟩
  trailing := by simp [hi.trailing]
  belowCap := hcap
  sizes := by simpa using hi.sizes
  attempts := by simp [hi.attempts]
  fresh m hm := by simp only [Book.fail_roundNum, Book.bumpAttempts_roundNum] at hm; simp [hm.ne', hi.fresh m hm]
  unset := hi.unset
  notConverged := by simpa using hi.notConverged
  capped := hi.capped

theorem Running.accept (hi : Running start endRound target seed b calls) (hr : b.roundNum < endRound)
    {recovered : Bool} {chars lines : Nat} {pct : Option PyFloat} {integrated : Bool} {sha : Option Text}
    (h : b.apply target (.accepted recovered chars lines pct integrated sha) = .head b') :
    Running start endRound target seed b' (calls ++ [b.roundNum]) := by
  obtain ⟨hc, hn, hf, hres, hcomp, hfail, hstop, hsizes, hatt⟩ := Book.apply_accepted_eq_head h
  have hfresh : ∀ m, b'.roundNum ≤ m → b'.truncationAttempts m = 0 := fun m hm => by
    rw [hatt m (by omega)]; exact hi.fresh m (by omega)
  exact {
    round := by rw [hn, hcomp, hi.round]; push_cast; omega
    entries := by simp [hres, hi.entries]
    completed := by simp [hres, hcomp, hi.completed]
    failed := by simp [hres, hfail, hi.failed]
    numbered := by rw [hres]; exact numbered_append.mpr ⟨hi.numbered, by simp [hi.round, hi.completed]⟩
    trailing := by simp [hres, hf]
    belowCap := by rw [hf]; decide
    sizes := by simp [hsizes, hres, hi.sizes]
    attempts := by simp [hres, hfresh _ le_rfl]
    fresh := fun m hm => hfresh m hm.le
    unset := by rw [hstop, hi.unset]
    notConverged := by simp [hres, hc]
    capped := by rw [hn]; have := hi.capped; omega }

theorem Running.pass_head (hi : Running start endRound target seed b calls) {sh : Bool} {a : Attempt}
    (h : b.pass endRound target sh a = .head b') :
    Running start endRound target seed b' (calls ++ [b.roundNum]) := by
  obtain ⟨hr, -, h⟩ := Book.pass_eq_head h
  cases a with
  | failed msg =>
      obtain ⟨hcap, rfl⟩ := Book.retry_eq_head.mp h
      exact hi.fail (by simpa using hcap)
  | truncated chars lines attempted =>
      obtain ⟨-, hcap, rfl⟩ := Book.truncFail_eq_head.mp h
      exact hi.truncFail (by simpa using hcap)
  | accepted => exact hi.accept hr h

end Preservation

theorem initial_running (start endRound : Int) (target : PyFloat) (seed : List Nat) (d : Dir) :
    Running start endRound target seed (initial start seed d).toBook [] where
  round := by simp [initial]
  entries := rfl
  completed := rfl
  failed := rfl
  numbered := trivial
  trailing := rfl
  belowCap := by simp [initial, maxConsecutiveFailures]
  sizes := by simp [initial]
  attempts := rfl
  fresh _ _ := rfl
  unset := rfl
  notConverged := by simp [initial]
  capped := le_max_left _ _

section Runs

variable {db : UnicodeDb} {cfg : Config} {endRound : Int}

theorem loop_head_induction (P : St → Prop)
    (hstep : ∀ s p s', P s → step db cfg endRound s p = .ok (.head s') → P s') :
    ∀ {ps : List Pass} {s s' : St}, P s → loop db cfg endRound ps s = .ok (.head s') → P s'
  | [], s, s', hs, h => by cases h; exact hs
  | p :: ps, s, s', hs, h => by
      obtain ⟨f, hf, h⟩ := bind_eq_ok.mp h
      cases f with
      | head s₁ => exact loop_head_induction P hstep (hstep s p s₁ hs hf) h
      | exit s₁ => cases h

theorem loop_induction (P : St → Prop)
    (hstep : ∀ s p f, P s → step db cfg endRound s p = .ok f → P f.state) :
    ∀ {ps : List Pass} {s : St} {f : Flow St}, P s → loop db cfg endRound ps s = .ok f → P f.state
  | [], s, f, hs, h => by cases h; exact hs
  | p :: ps, s, f, hs, h => by
      obtain ⟨f₁, hf, h⟩ := bind_eq_ok.mp h
      cases f₁ with
      | head s₁ => exact loop_induction P hstep (hstep s p _ hs hf) h
      | exit s₁ => cases h; exact hstep s p _ hs hf

theorem loop_eq_exit : ∀ {ps : List Pass} {s s' : St}, loop db cfg endRound ps s = .ok (.exit s') →
    ∃ pre p rest h, ps = pre ++ p :: rest ∧ loop db cfg endRound pre s = .ok (.head h) ∧
      step db cfg endRound h p = .ok (.exit s')
  | [], _, _, h => by cases h
  | p :: ps, s, s', h => by
      obtain ⟨f, hf, h⟩ := bind_eq_ok.mp h
      cases f with
      | head s₁ =>
          obtain ⟨pre, q, rest, h', rfl, hpre, hq⟩ := loop_eq_exit h
          exact ⟨p :: pre, q, rest, h', rfl, by simp only [loop, hf]; exact hpre, hq⟩
      | exit s₁ =>
          cases h
          exact ⟨[], p, ps, s, rfl, rfl, hf⟩

theorem step_head_calls {s s' : St} {p : Pass} (h : step db cfg endRound s p = .ok (.head s')) :
    (∃ a, s.toBook.pass endRound cfg.convergenceTarget p.shutdown a = .head s'.toBook) ∧
    callsOf s'.log = callsOf s.log ++ [s.roundNum] := by
  obtain ⟨⟨a, -, ha⟩, hl⟩ := step_map h
  obtain ⟨hr, hs, -⟩ := Book.pass_eq_head ha.symm
  exact ⟨⟨a, ha.symm⟩, by simpa [hr, hs, Flow.state] using hl⟩

theorem loop_running {start : Int} {seed : List Nat} {d : Dir} {ps : List Pass} {s : St}
    (h : loop db cfg endRound ps (initial start seed d) = .ok (.head s)) :
    Running start endRound cfg.convergenceTarget seed s.toBook (callsOf s.log) := by
  refine loop_head_induction (fun s => Running start endRound cfg.convergenceTarget seed s.toBook
    (callsOf s.log)) (fun s p s' hs hp => ?_) (initial_running _ _ _ _ _) h
  obtain ⟨⟨a, ha⟩, hl⟩ := step_head_calls hp
  rw [hl]
  exact hs.pass_head ha

theorem running_at_every_loop_head {start : Int} {seed : List Nat} {d : Dir} {passes : List Pass}
    {s : St} (h : loop db cfg (start + cfg.maxRounds) passes (initial start seed d) = .ok (.head s)) :
    Running start (start + cfg.maxRounds) cfg.convergenceTarget seed s.toBook (callsOf s.log) ∧
    (accepted s.summary.results).map (·.roundNum) =
      (List.range s.summary.roundsCompleted).map (fun i : Nat => start + i) := by
  have hi := loop_running h
  exact ⟨hi, by rw [hi.completed]; exact numbered_accepted hi.numbered⟩

theorem running_after_failed_and_truncated_rounds :
    ∃ s, loop UnicodeDb.ascii {} (1 + ({} : Config).maxRounds)
        [{ apr := .ok (false, []) }, { apr := .ok (true, []) }] (initial 1 [] ⟨[]⟩) = .ok (.head s) ∧
      Running 1 (1 + ({} : Config).maxRounds) ({} : Config).convergenceTarget [] s.toBook (callsOf s.log) ∧
      (accepted s.summary.results).map (·.roundNum) =
        (List.range s.summary.roundsCompleted).map (fun i : Nat => (1 : Int) + i) :=
  ⟨_, rfl, @running_at_every_loop_head UnicodeDb.ascii {} 1 [] ⟨[]⟩
    [{ apr := .ok (false, []) }, { apr := .ok (true, []) }] _ rfl⟩

end Runs

end AprAuto.Orchestrator
