import AprAuto.Orchestrator.Preflight

namespace AprAuto.Orchestrator

open Store Truncation

def KeepsRounds (n : Int) (d d' : Dir) : Prop :=
  ∀ m, m ≠ n → d'.get (.round m) = d.get (.round m)

namespace KeepsRounds

variable {n : Int} {d₁ d₂ d₃ : Dir}

theorem refl (n : Int) (d : Dir) : KeepsRounds n d d := fun _ _ => rfl

theorem trans (h₁ : KeepsRounds n d₁ d₂) (h₂ : KeepsRounds n d₂ d₃) : KeepsRounds n d₁ d₃ :=
  fun m hm => (h₂ m hm).trans (h₁ m hm)

end KeepsRounds

theorem keepsRounds_set (n : Int) (d : Dir) (e : Entry) : KeepsRounds n d (d.set (roundFile n) e) :=
  fun m hm => by simp [roundFile, hm]

theorem keepsRounds_rename (n : Int) (k : Nat) (d : Dir) :
    KeepsRounds n d (d.rename (roundFile n) (.truncated n k)) := fun m hm => by
  unfold Dir.rename
  split
  · rfl
  · simp [roundFile, hm, Dir.get_erase]

namespace St

theorem runTool_keepsRounds (s : St) (o : Option Entry) : KeepsRounds s.roundNum s.dir (s.runTool o).dir := by
  cases o
  · exact .refl _ _
  · exact keepsRounds_set _ _ _

theorem archive_keepsRounds (s : St) (rf : Bool) : KeepsRounds s.roundNum s.dir (s.archive rf).dir := by
  unfold archive
  split
  · split
    · exact .refl _ _
    · exact keepsRounds_rename _ _ _
  · exact .refl _ _

end St

section Frame

variable {db : UnicodeDb} {cfg : Config} {endRound : Int} {s : St} {p : Pass} {f : Flow St}

theorem afterFailure_dir (s : St) : (afterFailure s).state.dir = s.dir := by
  unfold afterFailure; split <;> rfl

theorem truncationFailure_dir (s : St) (r : RoundResult) : (truncationFailure s r).state.dir = s.dir := by
  unfold truncationFailure; dsimp only; split
  · exact afterFailure_dir _
  · rfl

theorem accept_dir {chars lines : Nat} (h : accept cfg s p chars lines = .ok f) : f.state.dir = s.dir := by
  unfold accept at h
  obtain ⟨_, -, h⟩ := bind_eq_ok.mp h
  obtain ⟨_, -, h⟩ := bind_eq_ok.mp h
  obtain ⟨_, -, h⟩ := bind_eq_ok.mp h
  obtain ⟨_, -, h⟩ := bind_eq_ok.mp h
  split at h <;> cases h <;> rfl

theorem recover_keepsRounds {chars lines : Nat} (h : recover db cfg s p chars lines = .ok f) :
    KeepsRounds s.roundNum s.dir f.state.dir := by
  have ha := St.archive_keepsRounds (s.bumpAttempts.flag p.renameFails) p.renameFails
  have hn : ((s.bumpAttempts.flag p.renameFails).archive p.renameFails).roundNum = s.roundNum := by
    rw [St.archive_toBook]; rfl
  generalize ht : (s.bumpAttempts.flag p.renameFails).archive p.renameFails = t at ha hn
  have hset : ∀ e, KeepsRounds s.roundNum s.dir (t.dir.set (roundFile t.roundNum) e) :=
    fun e => ha.trans (hn ▸ keepsRounds_set _ _ _)
  rcases recover_cases ht h with ⟨_, rfl⟩ | ⟨_, w, rfl⟩ | ⟨_, rfl | hacc⟩
  · rw [truncationFailure_dir]; exact ha
  · rw [truncationFailure_dir]
    cases w
    · exact ha
    · exact hset _
  · rw [truncationFailure_dir]; exact hset _
  · rw [accept_dir hacc]; exact hset _

theorem verify_keepsRounds (h : verify db cfg s p = .ok f) : KeepsRounds s.roundNum s.dir f.state.dir := by
  unfold verify at h
  obtain ⟨content, -, h⟩ := bind_eq_ok.mp h
  dsimp only at h
  split at h
  · have hk := recover_keepsRounds h
    split at hk <;> exact hk
  · rw [accept_dir h]
    split <;> exact .refl _ _

theorem step_keepsRounds (h : step db cfg endRound s p = .ok f) :
    f.state.dir = s.dir ∨ s.roundNum < endRound ∧ KeepsRounds s.roundNum s.dir f.state.dir := by
  unfold step at h
  split_ifs at h with hr
  · cases h; exact .inl rfl
  · obtain ⟨_, -, h⟩ := bind_eq_ok.mp h
    obtain ⟨⟨success, msg⟩, -, h⟩ := bind_eq_ok.mp h
    refine .inr ⟨hr, (St.runTool_keepsRounds s p.output).trans ?_⟩
    cases success
    · cases h; rw [afterFailure_dir]; exact .refl _ _
    · exact verify_keepsRounds h
  · cases h; exact .inl rfl

theorem Book.roundNum_le_pass (endRound : Int) (target : PyFloat) (b : Book) (sh : Bool) (a : Attempt) :
    b.roundNum ≤ (b.pass endRound target sh a).state.roundNum := by
  unfold Book.pass
  split_ifs
  · exact le_rfl
  · cases a <;> simp only [Book.apply, Book.retry, Book.truncFail, Book.accept] <;> split_ifs <;>
      simp [Flow.state]
  · exact le_rfl

theorem roundNum_le_step (h : step db cfg endRound s p = .ok f) : s.roundNum ≤ f.state.roundNum := by
  obtain ⟨⟨a, -, ha⟩, -⟩ := step_map h
  have hr := congrArg (fun f : Flow Book => f.state.roundNum) ha
  simp only [Flow.state_map] at hr
  exact hr ▸ Book.roundNum_le_pass _ _ _ _ _

end Frame

structure InWindow (start endRound : Int) (d : Dir) (s : St) : Prop where
  started : start ≤ s.roundNum
  calls : ∀ m ∈ callsOf s.log, start ≤ m ∧ m < endRound
  kept : ∀ m, m < start ∨ endRound ≤ m → s.dir.get (.round m) = d.get (.round m)

section Runs

variable {db : UnicodeDb} {cfg : Config} {start endRound : Int} {d : Dir}

theorem inWindow_step {s : St} {p : Pass} {f : Flow St} (hi : InWindow start endRound d s)
    (h : step db cfg endRound s p = .ok f) : InWindow start endRound d f.state where
  started := hi.started.trans (roundNum_le_step h)
  calls m hm := by
    rw [(step_map h).2, List.mem_append] at hm
    rcases hm with hm | hm
    · exact hi.calls m hm
    · split_ifs at hm with hc
      · rw [List.mem_singleton.mp hm]
        exact ⟨hi.started, hc.1⟩
      · cases hm
  kept m hm := by
    rcases step_keepsRounds h with hd | ⟨hr, hk⟩
    · rw [hd]; exact hi.kept m hm
    · have hs := hi.started
      rw [hk m (by omega)]
      exact hi.kept m hm

theorem initial_inWindow (start endRound : Int) (seed : List Nat) (d : Dir) :
    InWindow start endRound d (initial start seed d) where
  started := le_rfl
  calls _ h := by cases h
  kept _ _ := rfl

@[simp] theorem finish_dir (endRound : Int) (s : St) : (finish endRound s).dir = s.dir := by
  unfold finish; dsimp only; split_ifs <;> rfl

@[simp] theorem finish_log (endRound : Int) (s : St) : (finish endRound s).log = s.log := by
  unfold finish; dsimp only; split_ifs <;> rfl

theorem run_stays_in_round_window {e : Startup} {passes : List Pass} {r : RunEnd} {s : St}
    (h : run db cfg e passes d = .ok r) (hs : r = .returned s ∨ r = .running s) :
    (∀ m ∈ callsOf s.log, (startRound cfg d).1 ≤ m ∧ m < (startRound cfg d).1 + cfg.maxRounds) ∧
    ∀ m, m < (startRound cfg d).1 ∨ (startRound cfg d).1 + cfg.maxRounds ≤ m →
      s.dir.get (.round m) = d.get (.round m) := by
  rcases run_eq_ok h with ⟨rfl, -⟩ | ⟨-, -, rfl⟩ | ⟨-, f, hf, hr⟩
  · simp at hs
  · simp at hs
  have hw := loop_induction (InWindow _ _ d) (fun _ _ _ => inWindow_step) (initial_inWindow _ _ _ d) hf
  obtain ⟨hd, hl⟩ : s.dir = f.state.dir ∧ s.log = f.state.log := by
    rcases hr with rfl | rfl <;> rcases hs with hs | hs <;> cases hs <;> simp
  rw [hd, hl]
  exact ⟨hw.calls, hw.kept⟩

theorem run_stays_in_round_window_on_resume :
    ∃ r s, run UnicodeDb.ascii {} {}
        [{ apr := .ok (true, []), output := some (.file "x".toList) }, { shutdown := true, apr := .ok (true, []) }]
        ⟨[(.round 1, .file "done".toList)]⟩ = .ok r ∧ (r = .returned s ∨ r = .running s) ∧
      (∀ m ∈ callsOf s.log, (startRound {} ⟨[(.round 1, .file "done".toList)]⟩).1 ≤ m ∧
        m < (startRound {} ⟨[(.round 1, .file "done".toList)]⟩).1 + ({} : Config).maxRounds) ∧
      ∀ m, m < (startRound {} ⟨[(.round 1, .file "done".toList)]⟩).1 ∨
          (startRound {} ⟨[(.round 1, .file "done".toList)]⟩).1 + ({} : Config).maxRounds ≤ m →
        s.dir.get (.round m) = (⟨[(.round 1, .file "done".toList)]⟩ : Dir).get (.round m) := by
  refine' ⟨_, _, ?h, .inl rfl, run_stays_in_round_window ?h (.inl rfl)⟩
  rfl

end Runs

end AprAuto.Orchestrator
