import AprAuto.Orchestrator.Stop

namespace AprAuto.Orchestrator

open Store

section Runs

variable {db : UnicodeDb} {cfg : Config} {endRound : Int}

theorem loop_append_of_head {rest : List Pass} {h : St} :
    ∀ {pre : List Pass} {s : St}, loop db cfg endRound pre s = .ok (.head h) →
      loop db cfg endRound (pre ++ rest) s = loop db cfg endRound rest h
  | [], _, hpre => by cases hpre; rfl
  | p :: pre, s, hpre => by
      obtain ⟨f, hf, hpre⟩ := bind_eq_ok.mp hpre
      cases f with
      | head s₁ =>
          show (step db cfg endRound s p >>= _) = _
          rw [hf]
          exact loop_append_of_head hpre
      | exit s₁ => cases hpre

theorem step_of_shutdown {s : St} {p : Pass} (hp : p.shutdown = true) :
    step db cfg endRound s p =
      .ok (.exit (if s.roundNum < endRound then s.stop .shutdown else s)) := by
  unfold step; split_ifs <;> simp_all [pure, Except.pure]

theorem shutdown_ends_by_next_head {start : Int} {seed : List Nat} {d : Dir} {pre post : List Pass}
    {h : St} {p q : Pass} {f : Flow St}
    (hpre : loop db cfg (start + cfg.maxRounds) pre (initial start seed d) = .ok (.head h))
    (hq : q.shutdown = true)
    (hrun : loop db cfg (start + cfg.maxRounds) (pre ++ p :: q :: post) (initial start seed d) = .ok f) :
    ∃ s, f = .exit s ∧ (callsOf s.log).length ≤ (callsOf h.log).length + 1 ∧
      (step db cfg (start + cfg.maxRounds) h p = .ok (.exit s) ∨
        (finish (start + cfg.maxRounds) s).summary.stoppedReason =
          some (if s.roundNum < start + cfg.maxRounds then .shutdown else .maxRoundsReached)) := by
  rw [loop_append_of_head hpre] at hrun
  obtain ⟨f₁, hf₁, hrun⟩ := bind_eq_ok.mp hrun
  cases f₁ with
  | exit s =>
      cases hrun
      obtain ⟨-, hl⟩ := step_map hf₁
      refine ⟨s, rfl, ?_, .inl hf₁⟩
      simp only [Flow.state] at hl
      rw [hl]; split_ifs <;> simp
  | head h' =>
      obtain ⟨⟨a, ha⟩, hl⟩ := step_head_calls hf₁
      have hu := ((loop_running hpre).pass_head ha).unset
      have hlen : (callsOf h'.log).length = (callsOf h.log).length + 1 := by simp [hl]
      simp only [loop, step_of_shutdown hq, bind, Except.bind, pure, Except.pure] at hrun
      cases hrun
      by_cases hr : h'.roundNum < start + cfg.maxRounds <;>
        exact ⟨_, rfl, by simp [hr, hlen], .inr (by simp [hr, finish_stoppedReason, finalReason, hu])⟩

theorem shutdown_ends_by_next_head_after_failure :
    ∃ h f, loop UnicodeDb.ascii {} (1 + ({} : Config).maxRounds) [] (initial 1 [] ⟨[]⟩) = .ok (.head h) ∧
      loop UnicodeDb.ascii {} (1 + ({} : Config).maxRounds)
        ([] ++ { apr := .ok (false, []) } :: { shutdown := true, apr := .ok (true, []) } :: [])
        (initial 1 [] ⟨[]⟩) = .ok f ∧
      ∃ s, f = .exit s ∧ (callsOf s.log).length ≤ (callsOf h.log).length + 1 ∧
        (step UnicodeDb.ascii {} (1 + ({} : Config).maxRounds) h { apr := .ok (false, []) } = .ok (.exit s) ∨
          (finish (1 + ({} : Config).maxRounds) s).summary.stoppedReason =
            some (if s.roundNum < 1 + ({} : Config).maxRounds then .shutdown else .maxRoundsReached)) :=
  ⟨_, _, rfl, rfl, @shutdown_ends_by_next_head UnicodeDb.ascii {} 1 [] ⟨[]⟩ [] [] _
    { apr := .ok (false, []) } { shutdown := true, apr := .ok (true, []) } _ rfl rfl rfl⟩

set_option maxRecDepth 10000 in
theorem signal_in_final_round_reports_max_rounds :
    ∃ s, loop UnicodeDb.ascii { maxRounds := 1 } (1 + 1)
        [{ apr := .ok (true, []),
           output := some (.file (List.flatten (List.replicate 5 (List.replicate 49 'a' ++ ['\n'])))) },
         { shutdown := true, apr := .ok (true, []) }] (initial 1 [] ⟨[]⟩) = .ok (.exit s) ∧
      (finish (1 + 1) s).summary.stoppedReason = some .maxRoundsReached ∧ callsOf s.log = [1] :=
  ⟨_, rfl, rfl, rfl⟩

end Runs

end AprAuto.Orchestrator
