import AprAuto.Orchestrator.Invariant

namespace AprAuto.Orchestrator

open Store

def potential (endRound : Int) (b : Book) : Nat :=
  maxConsecutiveFailures * (endRound - b.roundNum).toNat - b.consecutiveFailures

structure Budget (start endRound : Int) (b : Book) (calls : List Int) : Prop where
  here : calls.count b.roundNum = b.consecutiveFailures
  later : ∀ m, b.roundNum < m → calls.count m = 0
  each : ∀ m, calls.count m ≤ maxConsecutiveFailures
  spent : calls.length + potential endRound b ≤ maxConsecutiveFailures * (endRound - start).toNat
  below : b.consecutiveFailures < maxConsecutiveFailures

section Preservation

variable {start endRound : Int} {b b' : Book} {calls : List Int}

theorem Budget.retry (hi : Budget start endRound b calls) (hr : b.roundNum < endRound)
    (hcap : b'.consecutiveFailures = b.consecutiveFailures + 1)
    (hcf : b'.consecutiveFailures < maxConsecutiveFailures) (hn : b'.roundNum = b.roundNum) :
    Budget start endRound b' (calls ++ [b.roundNum]) where
  here := by simp [hn, hi.here, hcap]
  later m hm := by rw [hn] at hm; simp [hm.ne', hi.later m hm]
  each m := by
    by_cases hm : m = b.roundNum
    · subst hm; simp only [List.count_append, List.count_singleton_self, hi.here]; omega
    · simpa [hm] using hi.each m
  spent := by
    have hs := hi.spent
    simp only [potential, List.length_append, List.length_singleton, hn, hcap,
      maxConsecutiveFailures] at hs hcf ⊢
    omega
  below := hcf

theorem Budget.advance (hi : Budget start endRound b calls) (hr : b.roundNum < endRound)
    (hn : b'.roundNum = b.roundNum + 1) (hf : b'.consecutiveFailures = 0) :
    Budget start endRound b' (calls ++ [b.roundNum]) where
  here := by simp [hn, hf, hi.later (b.roundNum + 1) (by omega)]
  later m hm := by
    rw [hn] at hm
    simp [show m ≠ b.roundNum by omega, hi.later m (by omega)]
  each m := by
    by_cases hm : m = b.roundNum
    · subst hm; have := hi.below; simp only [List.count_append, List.count_singleton_self, hi.here]; omega
    · simpa [hm] using hi.each m
  spent := by
    have hs := hi.spent
    have hb := hi.below
    simp only [potential, List.length_append, List.length_singleton, hn, hf,
      maxConsecutiveFailures] at hs hb ⊢
    omega
  below := by rw [hf]; decide

theorem Budget.pass_head (hi : Budget start endRound b calls) {target : PyFloat} {sh : Bool}
    {a : Attempt} (h : b.pass endRound target sh a = .head b') :
    Budget start endRound b' (calls ++ [b.roundNum]) := by
  obtain ⟨hr, -, h⟩ := Book.pass_eq_head h
  cases a with
  | failed msg =>
      obtain ⟨hcap, rfl⟩ := Book.retry_eq_head.mp h
      exact hi.retry hr rfl hcap rfl
  | truncated chars lines attempted =>
      obtain ⟨-, hcap, rfl⟩ := Book.truncFail_eq_head.mp h
      exact hi.retry hr rfl hcap rfl
  | accepted =>
      obtain ⟨-, hn, hf, -⟩ := Book.apply_accepted_eq_head h
      exact hi.advance hr hn hf

theorem Budget.pass_exit (hi : Budget start endRound b calls) (sh : Bool) :
    (calls ++ if b.roundNum < endRound ∧ sh = false then [b.roundNum] else []).length ≤
      maxConsecutiveFailures * (endRound - start).toNat ∧
    ∀ m, (calls ++ if b.roundNum < endRound ∧ sh = false then [b.roundNum] else []).count m ≤
      maxConsecutiveFailures := by
  have hs := hi.spent
  have hb := hi.below
  split_ifs with hr
  · refine ⟨?_, fun m => ?_⟩
    · simp only [potential, List.length_append, List.length_singleton, maxConsecutiveFailures] at hs hb ⊢
      omega
    · by_cases hm : m = b.roundNum
      · subst hm; simp only [List.count_append, List.count_singleton_self, hi.here]; omega
      · simpa [hm] using hi.each m
  · simpa using ⟨by omega, hi.each⟩

end Preservation

theorem initial_budget (start endRound : Int) (seed : List Nat) (d : Dir) :
    Budget start endRound (initial start seed d).toBook [] where
  here := rfl
  later _ _ := rfl
  each _ := Nat.zero_le _
  spent := by simp [potential, initial]
  below := by simp [initial, maxConsecutiveFailures]

section Runs

variable {db : UnicodeDb} {cfg : Config} {endRound : Int}

theorem loop_head_calls_length :
    ∀ {ps : List Pass} {s s' : St}, loop db cfg endRound ps s = .ok (.head s') →
      (callsOf s'.log).length = (callsOf s.log).length + ps.length
  | [], _, _, h => by cases h; rfl
  | p :: ps, s, s', h => by
      obtain ⟨f, hf, h⟩ := bind_eq_ok.mp h
      cases f with
      | head s₁ =>
          rw [loop_head_calls_length h, (step_head_calls hf).2]
          simp only [List.length_append, List.length_cons, List.length_nil]
          omega
      | exit s₁ => cases h

theorem loop_budget {start : Int} {seed : List Nat} {d : Dir} {ps : List Pass} {s : St}
    (h : loop db cfg endRound ps (initial start seed d) = .ok (.head s)) :
    Budget start endRound s.toBook (callsOf s.log) := by
  refine loop_head_induction (fun s => Budget start endRound s.toBook (callsOf s.log))
    (fun s p s' hs hp => ?_) (initial_budget _ _ _ _) h
  obtain ⟨⟨a, ha⟩, hl⟩ := step_head_calls hp
  rw [hl]
  exact hs.pass_head ha

theorem loop_within_call_budget {start : Int} {seed : List Nat} {d : Dir} {passes : List Pass}
    {f : Flow St} (h : loop db cfg (start + cfg.maxRounds) passes (initial start seed d) = .ok f) :
    (callsOf f.state.log).length ≤ maxConsecutiveFailures * cfg.maxRounds.toNat ∧
    (∀ m, (callsOf f.state.log).count m ≤ maxConsecutiveFailures) ∧
    (maxConsecutiveFailures * cfg.maxRounds.toNat < passes.length → ∃ s, f = .exit s) := by
  have hM : (start + cfg.maxRounds - start).toNat = cfg.maxRounds.toNat := by omega
  cases f with
  | head s =>
      have hb := loop_budget h
      have hlen := loop_head_calls_length h
      have hspent := hb.spent
      rw [hM] at hspent
      simp only [initial, callsOf, List.length_nil, zero_add] at hlen
      exact ⟨by simp only [Flow.state]; omega, hb.each, fun hp => absurd hp (by omega)⟩
  | exit s =>
      obtain ⟨pre, p, rest, hh, -, hpre, hp⟩ := loop_eq_exit h
      have hex := (loop_budget hpre).pass_exit p.shutdown
      rw [hM] at hex
      obtain ⟨-, hl⟩ := step_map hp
      simp only [Flow.state] at hl ⊢
      rw [hl]
      exact ⟨hex.1, hex.2, fun _ => ⟨s, rfl⟩⟩

theorem call_budget_of_three_failures :
    ∃ f, loop UnicodeDb.ascii { maxRounds := 1 } (1 + 1)
        [{ apr := .ok (false, []) }, { apr := .ok (false, []) }, { apr := .ok (false, []) }]
        (initial 1 [] ⟨[]⟩) = .ok f ∧
      (callsOf f.state.log).length ≤ maxConsecutiveFailures * (1 : Int).toNat ∧
      (∀ m, (callsOf f.state.log).count m ≤ maxConsecutiveFailures) ∧
      (maxConsecutiveFailures * (1 : Int).toNat < 3 → ∃ s, f = .exit s) :=
  ⟨_, rfl, @loop_within_call_budget UnicodeDb.ascii { maxRounds := 1 } 1 [] ⟨[]⟩
    [{ apr := .ok (false, []) }, { apr := .ok (false, []) }, { apr := .ok (false, []) }] _ rfl⟩

end Runs

end AprAuto.Orchestrator
