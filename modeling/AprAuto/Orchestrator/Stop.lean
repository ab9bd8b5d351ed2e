import AprAuto.Orchestrator.Invariant
import Mathlib.Data.List.Basic

namespace AprAuto.Orchestrator

open Store Truncation

def lastEntries (rs : List RoundResult) : List RoundResult := rs.reverse.take maxConsecutiveFailures

def FailedOut (n : Int) (rs : List RoundResult) : Prop :=
  (lastEntries rs).length = maxConsecutiveFailures ∧
    ∀ r ∈ lastEntries rs, r.success = false ∧ r.roundNum = n

def TruncatedOut (n : Int) (rs : List RoundResult) : Prop :=
  FailedOut n rs ∧ ∀ r ∈ lastEntries rs, r.truncated = true

def Converged (target : PyFloat) (rs : List RoundResult) : Prop :=
  ∃ r ∈ rs.getLast?, r.success = true ∧ ∃ pct, r.convergencePct = some pct ∧ target.le pct = true

theorem reachesTarget_eq_true_iff {target : PyFloat} {c : Option PyFloat} :
    reachesTarget target c = true ↔ ∃ pct, c = some pct ∧ target.le pct = true := by
  cases c <;> simp [reachesTarget]

theorem reachesTarget_eq_false_iff {target : PyFloat} {c : Option PyFloat} :
    reachesTarget target c = false ↔ ∀ pct, c = some pct → target.le pct = false := by
  cases c <;> simp [reachesTarget]

def finalReason (endRound : Int) (b : Book) : StopReason :=
  b.summary.stoppedReason.getD (if endRound ≤ b.roundNum then .maxRoundsReached else .completed)

theorem finish_stoppedReason (endRound : Int) (s : St) :
    (finish endRound s).summary.stoppedReason = some (finalReason endRound s.toBook) := by
  unfold finish finalReason
  cases h : s.summary.stoppedReason with
  | some r => simp [h]
  | none => by_cases hr : endRound ≤ s.roundNum <;> simp [h, hr, St.stop]

section Lists

variable {α : Type} {p : α → Bool} {l : List α} {k : Nat}

theorem take_all_iff_le_takeWhile :
    ((l.take k).length = k ∧ ∀ x ∈ l.take k, p x = true) ↔ k ≤ (l.takeWhile p).length := by
  induction l generalizing k with
  | nil => simp; omega
  | cons x xs ih =>
      cases k with
      | zero => simp
      | succ k =>
          cases hx : p x
          · simp [List.takeWhile_cons, hx]
          · simp only [List.take_succ_cons, List.length_cons, Nat.add_right_cancel_iff,
              List.forall_mem_cons, hx, true_and, List.takeWhile_cons, if_true, Nat.add_le_add_iff_right]
            exact ih

theorem take_eq_takeWhile (h : (l.takeWhile p).length = k) : l.take k = l.takeWhile p := by
  rw [← h]; exact (List.prefix_iff_eq_take.mp (List.takeWhile_prefix p)).symm

end Lists

section Trailing

variable {rs : List RoundResult} {r : RoundResult} {n : Int}

theorem failedOut_trailing (h : FailedOut n rs) :
    maxConsecutiveFailures ≤ (trailingFailures rs).length := by
  refine take_all_iff_le_takeWhile.mp ⟨h.1, fun x hx => ?_⟩
  simpa using (h.2 x hx).1

theorem lastEntries_eq_trailing (h : (trailingFailures rs).length = maxConsecutiveFailures) :
    lastEntries rs = trailingFailures rs :=
  take_eq_takeWhile h

theorem failedOut_of_trailing (h : (trailingFailures rs).length = maxConsecutiveFailures)
    (hn : ∀ r ∈ trailingFailures rs, r.roundNum = n) : FailedOut n rs := by
  rw [FailedOut, lastEntries_eq_trailing h]
  exact ⟨h, fun x hx => ⟨by simpa using List.mem_takeWhile_imp hx, hn x hx⟩⟩

theorem truncatedOut_iff_of_trailing (h : (trailingFailures rs).length = maxConsecutiveFailures)
    (hn : ∀ r ∈ trailingFailures rs, r.roundNum = n) :
    TruncatedOut n rs ↔ ((trailingFailures rs).filter (·.truncated)).length = maxConsecutiveFailures := by
  rw [TruncatedOut, lastEntries_eq_trailing h, ← h, List.filter_length_eq_length]
  exact and_iff_right (failedOut_of_trailing h hn)

theorem not_failedOut_of_success (hs : r.success = true) : ¬FailedOut n (rs ++ [r]) := fun h => by
  have := failedOut_trailing h
  simp [trailingFailures_append_success hs, maxConsecutiveFailures] at this

theorem numbered_trailing (h : Numbered n rs) :
    ∀ r ∈ trailingFailures rs, r.roundNum = n + (accepted rs).length := by
  induction rs using List.reverseRecOn with
  | nil => simp
  | append_singleton xs x ih =>
      obtain ⟨h, hx⟩ := numbered_append.mp h
      cases hs : x.success
      · simp only [trailingFailures_append hs, accepted_append hs, List.mem_cons]
        rintro r (rfl | hr)
        · exact hx
        · exact ih h r hr
      · simp [trailingFailures_append_success hs]

theorem getLast_accepted (h : rs.getLast? = some r) (hs : r.success = true) :
    (accepted rs).getLast? = some r := by
  rcases List.eq_nil_or_concat rs with rfl | ⟨xs, x, rfl⟩
  · cases h
  · simp only [List.concat_eq_append, List.getLast?_append, List.getLast?_singleton,
      Option.or_some, Option.some.injEq] at h
    subst h
    simp [accepted_append_success hs]

end Trailing

theorem Book.apply_accepted_eq_exit {b b' : Book} {target : PyFloat} {recovered : Bool}
    {chars lines : Nat} {pct : Option PyFloat} {integrated : Bool} {sha : Option Text}
    (h : b.apply target (.accepted recovered chars lines pct integrated sha) = .exit b') :
    reachesTarget target pct = true ∧ b'.roundNum = b.roundNum ∧
    b'.summary.results = b.summary.results ++ [successEntry b.roundNum chars lines pct integrated sha] ∧
    b'.summary.roundsCompleted = b.summary.roundsCompleted + 1 ∧
    b'.summary.stoppedReason = some .converged := by
  unfold Book.apply Book.accept at h
  dsimp only at h
  split_ifs at h with hc <;> cases h <;> simp_all

structure StopLaw (start maxRounds : Int) (target : PyFloat) (h : Book) (shutdown : Bool) (s : Book)
    (reason : StopReason) : Prop where
  unsetAtHead : h.summary.stoppedReason = none
  setOnce : s.summary.stoppedReason = none ↔ start + maxRounds ≤ h.roundNum
  converged : reason = .converged ↔ Converged target s.summary.results
  truncatedOutput : reason = .truncatedOutput ↔ TruncatedOut s.roundNum s.summary.results
  consecutiveFailures : reason = .consecutiveFailures ↔
    FailedOut s.roundNum s.summary.results ∧ ¬TruncatedOut s.roundNum s.summary.results
  shutdownSeen : reason = .shutdown ↔ shutdown = true ∧ h.roundNum < start + maxRounds
  maxRoundsReached : reason = .maxRoundsReached ↔ s.summary.roundsCompleted = maxRounds.toNat ∧
    ∀ r ∈ (accepted s.summary.results).getLast?, ∀ pct, r.convergencePct = some pct → target.le pct = false
  neverCompleted : reason ≠ .completed

section Exits

variable {start mr : Int} {target : PyFloat} {seed : List Nat} {b b' : Book} {calls : List Int}
  {n : Int}

theorem Running.trailing_round (hi : Running start (start + mr) target seed b calls) :
    ∀ r ∈ trailingFailures b.summary.results, r.roundNum = b.roundNum := by
  rw [hi.round, hi.completed]; exact numbered_trailing hi.numbered

theorem Running.not_failedOut (hi : Running start (start + mr) target seed b calls) :
    ¬FailedOut n b.summary.results := fun h => by
  have := failedOut_trailing h
  have := hi.belowCap
  rw [hi.trailing] at this
  omega

theorem Running.not_truncatedOut (hi : Running start (start + mr) target seed b calls) :
    ¬TruncatedOut n b.summary.results := fun h => hi.not_failedOut h.1

theorem Running.not_converged (hi : Running start (start + mr) target seed b calls) :
    ¬Converged target b.summary.results := by
  rintro ⟨r, hr, hs, hc⟩
  have := hi.notConverged r (getLast_accepted hr hs)
  rw [← reachesTarget_eq_true_iff] at hc
  simp_all

theorem Running.completed_eq_iff (hi : Running start (start + mr) target seed b calls) :
    b.summary.roundsCompleted = mr.toNat ↔ start + mr ≤ b.roundNum := by
  have := hi.capped; rw [hi.round] at this ⊢; omega

theorem Running.fail_trailing (hi : Running start (start + mr) target seed b calls)
    (hcf : maxConsecutiveFailures ≤ b.consecutiveFailures + 1) {r : RoundResult}
    (hs : r.success = false) (hn : r.roundNum = b.roundNum) :
    (trailingFailures (b.summary.results ++ [r])).length = maxConsecutiveFailures ∧
    ∀ x ∈ trailingFailures (b.summary.results ++ [r]), x.roundNum = b.roundNum := by
  have := hi.belowCap
  rw [trailingFailures_append hs]
  refine ⟨by simp only [List.length_cons, ← hi.trailing]; omega, ?_⟩
  simpa [hn] using hi.trailing_round

theorem Running.attempts_le (hi : Running start (start + mr) target seed b calls) :
    b.truncationAttempts b.roundNum ≤ b.consecutiveFailures := by
  rw [hi.attempts, hi.trailing]; exact List.length_filter_le _ _

theorem Running.truncatedOut_append (hi : Running start (start + mr) target seed b calls)
    (hcf : maxConsecutiveFailures ≤ b.consecutiveFailures + 1) {r : RoundResult}
    (hs : r.success = false) (hn : r.roundNum = b.roundNum) :
    TruncatedOut b.roundNum (b.summary.results ++ [r]) ↔
      b.truncationAttempts b.roundNum + (if r.truncated then 1 else 0) = maxConsecutiveFailures := by
  obtain ⟨h3, hround⟩ := hi.fail_trailing hcf hs hn
  rw [truncatedOut_iff_of_trailing h3 hround, trailingFailures_append hs, List.filter_cons, hi.attempts]
  cases r.truncated <;> simp [Nat.add_comm]

theorem Running.stopLaw_failed (hi : Running start (start + mr) target seed b calls)
    (hr : b.roundNum < start + mr) {sh : Bool} (hsh : sh = false)
    (hcf : maxConsecutiveFailures ≤ b.consecutiveFailures + 1) {r : RoundResult}
    (hs : r.success = false) (hn : r.roundNum = b.roundNum) {c : Book} (hcn : c.roundNum = b.roundNum)
    (hcs : c.summary = b.summary) {reason : StopReason}
    (hreason : reason = .truncatedOutput ∨ reason = .consecutiveFailures)
    (htr : reason = .truncatedOutput ↔ TruncatedOut b.roundNum (b.summary.results ++ [r])) :
    StopLaw start mr target b sh ((c.fail r).stop reason) reason := by
  obtain ⟨h3, hround⟩ := hi.fail_trailing hcf hs hn
  have hfo := failedOut_of_trailing h3 hround
  have hlast : ¬Converged target (b.summary.results ++ [r]) := by simp [Converged, hs]
  exact {
    unsetAtHead := hi.unset
    setOnce := by simp; omega
    converged := by simp only [Book.stop_summary_results, Book.fail_summary_results, hcs, hlast,
        iff_false]; rcases hreason with rfl | rfl <;> simp
    truncatedOutput := by simpa [hcs, hcn] using htr
    consecutiveFailures := by
      simp only [Book.stop_summary_results, Book.fail_summary_results, Book.stop_roundNum,
        Book.fail_roundNum, hcs, hcn, ← htr, hfo, true_and]
      rcases hreason with rfl | rfl <;> simp
    shutdownSeen := by simp [hsh]; rcases hreason with rfl | rfl <;> simp
    maxRoundsReached := by
      simp only [Book.stop_summary_roundsCompleted, Book.fail_summary_roundsCompleted, hcs,
        hi.completed_eq_iff]
      rcases hreason with rfl | rfl <;> simp <;> omega
    neverCompleted := by rcases hreason with rfl | rfl <;> simp }

theorem Running.stopLaw_idle (hi : Running start (start + mr) target seed b calls) (s : Book)
    {sh : Bool} (hres : s.summary.results = b.summary.results) (hn : s.roundNum = b.roundNum)
    (hcomp : s.summary.roundsCompleted = b.summary.roundsCompleted)
    (hset : s.summary.stoppedReason = none ↔ start + mr ≤ b.roundNum) {reason : StopReason}
    (hreason : reason = .shutdown ∨ reason = .maxRoundsReached)
    (hsd : reason = .shutdown ↔ sh = true ∧ b.roundNum < start + mr)
    (hmax : reason = .maxRoundsReached ↔ start + mr ≤ b.roundNum) :
    StopLaw start mr target b sh s reason where
  unsetAtHead := hi.unset
  setOnce := hset
  converged := by rw [hres]; rcases hreason with rfl | rfl <;> simp [hi.not_converged]
  truncatedOutput := by rw [hres, hn]; rcases hreason with rfl | rfl <;> simp [hi.not_truncatedOut]
  consecutiveFailures := by rw [hres, hn]; rcases hreason with rfl | rfl <;> simp [hi.not_failedOut]
  shutdownSeen := hsd
  maxRoundsReached := by
    rw [hmax, hcomp, hres, hi.completed_eq_iff]
    exact ⟨fun h => ⟨h, fun r hr => reachesTarget_eq_false_iff.mp (hi.notConverged r hr)⟩, And.left⟩
  neverCompleted := by rcases hreason with rfl | rfl <;> simp

theorem Running.stopLaw (hi : Running start (start + mr) target seed b calls) {sh : Bool} {a : Attempt}
    (h : b.pass (start + mr) target sh a = .exit b') :
    StopLaw start mr target b sh b' (finalReason (start + mr) b') := by
  have hu := hi.unset
  unfold Book.pass at h
  split_ifs at h with hr hs
  · cases h
    refine hi.stopLaw_idle (b.stop .shutdown) rfl rfl rfl ?_ (.inl rfl) ?_ ?_
    · simp; omega
    · simp [finalReason, hs, hr]
    · simp [finalReason]; omega
  · cases a with
    | failed msg =>
        unfold Book.apply Book.retry at h
        dsimp only at h
        split_ifs at h with hcf
        cases h
        refine hi.stopLaw_failed hr (by simpa using hs) hcf ?_ ?_ ?_ ?_ (.inr rfl) ?_ <;> try rfl
        rw [hi.truncatedOut_append hcf rfl rfl]
        have := hi.attempts_le
        have := hi.belowCap
        simp only [failureEntry_truncated, Bool.false_eq_true, if_false, add_zero, reduceCtorEq, false_iff]
        omega
    | truncated chars lines attempted =>
        have hle := hi.attempts_le
        have hcap := hi.belowCap
        have hmc : maxConsecutiveFailures = 3 := rfl
        have hmt : maxTruncationRetries = 3 := rfl
        unfold Book.apply Book.truncFail Book.retry at h
        dsimp only at h
        split_ifs at h with h1 hcf <;> cases h <;>
          simp only [Book.fail_truncationAttempts, Book.bumpAttempts_truncationAttempts,
            Book.fail_roundNum, Book.bumpAttempts_roundNum, if_true] at h1
        · refine hi.stopLaw_failed hr (by simpa using hs) hcf ?_ ?_ ?_ ?_ (.inr rfl) ?_ <;> try rfl
          rw [hi.truncatedOut_append hcf rfl rfl]
          simp only [truncationEntry_truncated, if_true, reduceCtorEq, false_iff]
          omega
        · have hcf : maxConsecutiveFailures ≤ b.consecutiveFailures + 1 := by omega
          refine hi.stopLaw_failed hr (by simpa using hs) hcf ?_ ?_ ?_ ?_ (.inl rfl) ?_ <;> try rfl
          rw [hi.truncatedOut_append hcf rfl rfl]
          simp only [truncationEntry_truncated, if_true, true_iff]
          omega
    | accepted recovered chars lines pct integrated sha =>
        obtain ⟨hc, hn, hres, hcomp, hstop⟩ := Book.apply_accepted_eq_exit h
        have hfo : ∀ m, ¬FailedOut m b'.summary.results := fun m => by
          rw [hres]; exact not_failedOut_of_success rfl
        exact {
          unsetAtHead := hu
          setOnce := by simp [hstop]; omega
          converged := by simp [finalReason, hstop, hres, Converged, ← reachesTarget_eq_true_iff, hc]
          truncatedOutput := by simp [finalReason, hstop, TruncatedOut, hfo]
          consecutiveFailures := by simp [finalReason, hstop, hfo]
          shutdownSeen := by simp [finalReason, hstop, hs]
          maxRoundsReached := by
            simp [finalReason, hstop, hres, ← reachesTarget_eq_false_iff, hc]
          neverCompleted := by simp [finalReason, hstop] }
  · cases h
    have hr' : start + mr ≤ b.roundNum := by omega
    refine hi.stopLaw_idle b rfl rfl rfl (by simp [hu, hr']) (.inr ?_) ?_ ?_ <;>
      simp [finalReason, hu, hr', hr]

end Exits

theorem Book.pass_entries (b : Book) (endRound : Int) (target : PyFloat) (sh : Bool) (a : Attempt) :
    (b.pass endRound target sh a).state.summary.results.map (·.roundNum) =
      b.summary.results.map (·.roundNum) ++
        if b.roundNum < endRound ∧ sh = false then [b.roundNum] else [] := by
  rw [Book.pass_results, List.map_append]
  split_ifs <;> simp

section Runs

variable {db : UnicodeDb} {cfg : Config}

theorem stop_reason_follows_history {start : Int} {seed : List Nat} {d : Dir} {pre : List Pass}
    {h : St} {p : Pass} {s : St}
    (hpre : loop db cfg (start + cfg.maxRounds) pre (initial start seed d) = .ok (.head h))
    (hp : step db cfg (start + cfg.maxRounds) h p = .ok (.exit s)) :
    ∃ reason, (finish (start + cfg.maxRounds) s).summary.stoppedReason = some reason ∧
      StopLaw start cfg.maxRounds cfg.convergenceTarget h.toBook p.shutdown s.toBook reason ∧
      callsOf s.log = s.summary.results.map (·.roundNum) := by
  have hi := loop_running hpre
  obtain ⟨⟨a, -, ha⟩, hl⟩ := step_map hp
  have hb : h.toBook.pass (start + cfg.maxRounds) cfg.convergenceTarget p.shutdown a = .exit s.toBook :=
    ha.symm
  refine ⟨_, finish_stoppedReason _ _, hi.stopLaw hb, ?_⟩
  have he := Book.pass_entries h.toBook (start + cfg.maxRounds) cfg.convergenceTarget p.shutdown a
  rw [hb] at he
  simp only [Flow.state] at hl he
  rw [hl, he, ← hi.entries]

set_option maxRecDepth 10000 in
theorem stop_reason_after_failure_then_convergence :
    ∃ h s, loop UnicodeDb.ascii {} (1 + ({} : Config).maxRounds) [{ apr := .ok (false, []) }]
        (initial 1 [] ⟨[]⟩) = .ok (.head h) ∧
      step UnicodeDb.ascii {} (1 + ({} : Config).maxRounds) h
          { apr := .ok (true, []), output := some (.file (List.flatten (List.replicate 5 (List.replicate 49 'a' ++ ['\n'])))),
            backfill := .ok true, score := .ok (some (.num 80)) } = .ok (.exit s) ∧
      s.summary.stoppedReason = some .converged ∧
      ∃ reason, (finish (1 + ({} : Config).maxRounds) s).summary.stoppedReason = some reason ∧
        StopLaw 1 ({} : Config).maxRounds ({} : Config).convergenceTarget h.toBook false s.toBook reason ∧
        callsOf s.log = s.summary.results.map (·.roundNum) :=
  ⟨_, _, rfl, rfl, rfl, @stop_reason_follows_history UnicodeDb.ascii {} 1 [] ⟨[]⟩ [{ apr := .ok (false, []) }] _
    { apr := .ok (true, []), output := some (.file (List.flatten (List.replicate 5 (List.replicate 49 'a' ++ ['\n'])))),
      backfill := .ok true, score := .ok (some (.num 80)) } _ rfl rfl⟩

end Runs

end AprAuto.Orchestrator
