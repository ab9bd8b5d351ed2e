import AprAuto.Orchestrator.Invariant
import AprAuto.Process
import Mathlib.Data.List.Nodup

namespace AprAuto.Orchestrator

open Store Truncation

structure DiskStable (P : St → Prop) : Prop where
  book : ∀ s t : St, P s → t.dir = s.dir → t.log = s.log →
    t.truncationAttempts = s.truncationAttempts → P t
  runTool : ∀ s o, P s → P (s.runTool o)
  retire : ∀ s rf, P s → P ((s.bumpAttempts.flag rf).archive rf)
  write : ∀ s text, P s → P { s with dir := s.dir.set (roundFile s.roundNum) (.file text) }

namespace DiskStable

variable {P : St → Prop} (hP : DiskStable P) {db : UnicodeDb} {cfg : Config} {endRound : Int}
  {s : St} {p : Pass} {f : Flow St}
include hP

theorem afterFailure (hs : P s) : P (Orchestrator.afterFailure s).state := by
  unfold Orchestrator.afterFailure; split <;> exact hP.book _ _ hs rfl rfl rfl

theorem truncationFailure (hs : P s) (r : RoundResult) :
    P (Orchestrator.truncationFailure s r).state := by
  unfold Orchestrator.truncationFailure; dsimp only; split
  · exact hP.afterFailure (hP.book _ _ hs rfl rfl rfl)
  · exact hP.book _ _ hs rfl rfl rfl

theorem accept {chars lines : Nat} (hs : P s) (h : Orchestrator.accept cfg s p chars lines = .ok f) :
    P f.state := by
  unfold Orchestrator.accept at h
  obtain ⟨_, -, h⟩ := bind_eq_ok.mp h
  obtain ⟨_, -, h⟩ := bind_eq_ok.mp h
  obtain ⟨_, -, h⟩ := bind_eq_ok.mp h
  obtain ⟨_, -, h⟩ := bind_eq_ok.mp h
  split at h <;> cases h <;> exact hP.book _ _ hs rfl rfl rfl

theorem recover {chars lines : Nat} (hs : P s) (h : Orchestrator.recover db cfg s p chars lines = .ok f) :
    P f.state := by
  have hr := hP.retire s p.renameFails hs
  generalize ht : (s.bumpAttempts.flag p.renameFails).archive p.renameFails = t at hr
  have hw : ∀ text, P { t with dir := t.dir.set (roundFile t.roundNum) (.file text) } :=
    fun text => hP.write _ text hr
  rcases recover_cases ht h with ⟨_, rfl⟩ | ⟨text, w, rfl⟩ | ⟨text, rfl | ha⟩
  · exact hP.truncationFailure hr _
  · refine hP.truncationFailure ?_ _
    cases w
    · exact hr
    · exact hw _
  · exact hP.truncationFailure (hw text) _
  · refine hP.accept ?_ ha
    exact hP.book _ _ (hw text) rfl rfl rfl

theorem verify (hs : P s) (h : Orchestrator.verify db cfg s p = .ok f) : P f.state := by
  unfold Orchestrator.verify at h
  obtain ⟨content, -, h⟩ := bind_eq_ok.mp h
  dsimp only at h
  have hs' : ∀ c : Bool, P (if c = true then
      { s with outputSizes := s.outputSizes ++ [(content.map List.length).getD 0] } else s) := fun c => by
    split
    · exact hP.book _ _ hs rfl rfl rfl
    · exact hs
  split at h
  · exact hP.recover (hs' _) h
  · exact hP.accept (hs' _) h

theorem step (hs : P s) (h : Orchestrator.step db cfg endRound s p = .ok f) : P f.state := by
  unfold Orchestrator.step at h
  split_ifs at h with hr hsh
  · cases h; exact hP.book _ _ hs rfl rfl rfl
  · obtain ⟨_, -, h⟩ := bind_eq_ok.mp h
    obtain ⟨⟨success, msg⟩, -, h⟩ := bind_eq_ok.mp h
    have ht := hP.runTool s p.output hs
    cases success
    · cases h; exact hP.afterFailure (hP.book _ _ ht rfl rfl rfl)
    · exact hP.verify ht h
  · cases h; exact hs

theorem loop : ∀ {ps : List Pass} {s : St} {f : Flow St}, P s →
    Orchestrator.loop db cfg endRound ps s = .ok f → P f.state
  | [], _, _, hs, h => by cases h; exact hs
  | _ :: _, _, _, hs, h => by
      obtain ⟨f₁, hf₁, h⟩ := bind_eq_ok.mp h
      cases f₁ with
      | head s₁ => exact loop (hP.step hs hf₁) h
      | exit s₁ => cases h; exact hP.step hs hf₁

end DiskStable

def archiveKeys : List Event → List (Int × Nat)
  | [] => []
  | .call _ :: es => archiveKeys es
  | .flag n k (some _) true :: es => (n, k) :: archiveKeys es
  | .flag _ _ _ _ :: es => archiveKeys es

@[simp] theorem archiveKeys_append (xs ys : List Event) :
    archiveKeys (xs ++ ys) = archiveKeys xs ++ archiveKeys ys := by
  induction xs with
  | nil => rfl
  | cons e es ih => rcases e with _ | ⟨n, k, _ | _, _ | _⟩ <;> simp [archiveKeys, ih]

@[simp] theorem archiveKeys_call (n : Int) : archiveKeys [.call n] = [] := rfl

@[simp] theorem archiveKeys_moved (n : Int) (k : Nat) (e : Entry) :
    archiveKeys [.flag n k (some e) true] = [(n, k)] := rfl

theorem mem_archiveKeys {es : List Event} {n : Int} {k : Nat} {e : Entry}
    (h : Event.flag n k (some e) true ∈ es) : (n, k) ∈ archiveKeys es := by
  induction es with
  | nil => cases h
  | cons x xs ih =>
      rcases List.mem_cons.mp h with rfl | hx
      · simp [archiveKeys]
      · have := ih hx
        rcases x with _ | ⟨_, _, _ | _, _ | _⟩ <;> simp [archiveKeys, this]

structure ArchiveSafe (d : Dir) (s : St) : Prop where
  distinct : (archiveKeys s.log).Nodup
  below : ∀ nk ∈ archiveKeys s.log, nk.2 ≤ s.truncationAttempts nk.1
  kept : ∀ n k e, Event.flag n k (some e) true ∈ s.log → s.dir.get (.truncated n k) = some e
  frame : ∀ n k, (n, k) ∉ archiveKeys s.log → s.dir.get (.truncated n k) = d.get (.truncated n k)

section Archive

variable {d : Dir}

theorem ArchiveSafe.bumped {s : St} (hs : ArchiveSafe d s) : ArchiveSafe d s.bumpAttempts where
  distinct := hs.distinct
  below nk hk := by
    have := hs.below nk hk
    simp only [St.bumpAttempts_toBook, Book.bumpAttempts_truncationAttempts]
    split_ifs with h
    · rw [h] at this; omega
    · exact this
  kept := hs.kept
  frame := hs.frame

theorem ArchiveSafe.noted {s : St} (hs : ArchiveSafe d s) {ev : Event} (hk : archiveKeys [ev] = []) :
    ArchiveSafe d { s with log := s.log ++ [ev] } where
  distinct := by simpa [hk] using hs.distinct
  below := by simpa [hk] using hs.below
  kept n k e hm := by
    rcases List.mem_append.mp hm with hm | hm
    · exact hs.kept n k e hm
    · simpa [hk] using mem_archiveKeys hm
  frame n k h := hs.frame n k (by simpa [hk] using h)

theorem ArchiveSafe.moved {s : St} (hs : ArchiveSafe d s) (k : Nat)
    (hk : ∀ nk ∈ archiveKeys s.log, nk.1 = s.roundNum → nk.2 < k)
    (hb : k ≤ s.truncationAttempts s.roundNum) {e : Entry}
    (he : s.dir.get (roundFile s.roundNum) = some e) :
    ArchiveSafe d { s with
      dir := s.dir.rename (roundFile s.roundNum) (.truncated s.roundNum k)
      log := s.log ++ [.flag s.roundNum k (some e) true] } := by
  have hfresh : (s.roundNum, k) ∉ archiveKeys s.log := fun h => by
    have := hk _ h rfl; simp at this
  have hne : ∀ n j, (n, j) ∈ archiveKeys s.log → Name.truncated n j ≠ .truncated s.roundNum k := by
    rintro n j hj h; cases h; exact hfresh hj
  refine ⟨?_, ?_, ?_, ?_⟩
  · simpa [List.nodup_append, hs.distinct] using hfresh
  · simp only [archiveKeys_append, archiveKeys_moved, List.mem_append, List.mem_singleton]
    rintro ⟨n, j⟩ (hj | hj)
    · exact hs.below _ hj
    · simp only [Prod.mk.injEq] at hj
      obtain ⟨rfl, rfl⟩ := hj
      exact hb
  · intro n j e' hm
    rw [Dir.get_rename _ _ _ _ _ he]
    rcases List.mem_append.mp hm with hm | hm
    · rw [if_neg (hne n j (mem_archiveKeys hm)), if_neg (by simp [roundFile])]
      exact hs.kept n j e' hm
    · simp only [List.mem_singleton, Event.flag.injEq, Option.some.injEq] at hm
      obtain ⟨rfl, rfl, rfl, -⟩ := hm
      simp
  · intro n j hj
    simp only [archiveKeys_append, archiveKeys_moved, List.mem_append, List.mem_singleton,
      not_or] at hj
    rw [Dir.get_rename _ _ _ _ _ he, if_neg (by simpa using hj.2), if_neg (by simp [roundFile])]
    exact hs.frame n j hj.1

theorem ArchiveSafe.retired {s : St} (hs : ArchiveSafe d s) (rf : Bool)
    (hk : ∀ nk ∈ archiveKeys s.log, nk.1 = s.roundNum → nk.2 < s.truncationAttempts s.roundNum) :
    ArchiveSafe d ((s.flag rf).archive rf) := by
  unfold St.flag St.archive
  dsimp only
  cases he : s.dir.get (roundFile s.roundNum) with
  | none => exact hs.noted rfl
  | some e =>
      cases hx : e.exists <;> cases rf <;>
        simp only [hx, Option.filter, Bool.not_false, Bool.not_true, Bool.or_false, Bool.or_true,
          Bool.false_eq_true, if_true, if_false]
      · exact hs.noted rfl
      · exact hs.noted rfl
      · exact hs.moved _ hk le_rfl he
      · exact hs.noted rfl

theorem archiveSafe_stable (d : Dir) : DiskStable (ArchiveSafe d) where
  book s t hs hd hl ha := by
    obtain ⟨h1, h2, h3, h4⟩ := hs
    exact ⟨by rw [hl]; exact h1, by rw [hl, ha]; exact h2, by rw [hl, hd]; exact h3,
      by rw [hl, hd]; exact h4⟩
  runTool s o hs := by
    have hget : ∀ n k, (s.runTool o).dir.get (.truncated n k) = s.dir.get (.truncated n k) := by
      intro n k; cases o <;> simp [St.runTool, roundFile]
    refine ⟨by simpa using hs.distinct, by simpa using hs.below, fun n k e hm => ?_, fun n k hk => ?_⟩
    · simp only [St.runTool_log, List.mem_append, List.mem_singleton, reduceCtorEq, or_false] at hm
      rw [hget]; exact hs.kept n k e hm
    · rw [hget]; exact hs.frame n k (by simpa using hk)
  retire s rf hs := hs.bumped.retired rf fun nk hk hn => by
    have := hs.below nk hk
    have hn' : nk.1 = s.roundNum := hn
    rw [hn'] at this
    simp only [St.bumpAttempts_toBook, Book.bumpAttempts_truncationAttempts,
      Book.bumpAttempts_roundNum, ite_true]
    omega
  write s text hs :=
    ⟨hs.distinct, hs.below, fun n k e hm => by simpa [roundFile] using hs.kept n k e hm,
      fun n k hk => by simpa [roundFile] using hs.frame n k hk⟩

theorem initial_archiveSafe (start : Int) (seed : List Nat) (d : Dir) :
    ArchiveSafe d (initial start seed d) where
  distinct := List.nodup_nil
  below _ h := by cases h
  kept _ _ _ h := by cases h
  frame _ _ _ := rfl

end Archive

section Runs

variable {db : UnicodeDb} {cfg : Config}

theorem archives_kept_within_run {start : Int} {seed : List Nat} {d : Dir} {passes : List Pass}
    {f : Flow St} (h : loop db cfg (start + cfg.maxRounds) passes (initial start seed d) = .ok f) :
    (archiveKeys f.state.log).Nodup ∧
    (∀ n k e, Event.flag n k (some e) true ∈ f.state.log → f.state.dir.get (.truncated n k) = some e) ∧
    (∀ n k, (n, k) ∉ archiveKeys f.state.log →
      f.state.dir.get (.truncated n k) = d.get (.truncated n k)) := by
  have hs := (archiveSafe_stable d).loop (initial_archiveSafe start seed d) h
  exact ⟨hs.distinct, hs.kept, hs.frame⟩

theorem archives_kept_after_two_truncations :
    ∃ f, loop UnicodeDb.ascii {} (1 + ({} : Config).maxRounds)
        [{ apr := .ok (true, []), output := some (.file "x".toList) },
         { apr := .ok (true, []), output := some (.file "y".toList) }] (initial 1 [] ⟨[]⟩) = .ok f ∧
      f.state.log = [.call 1, .flag 1 1 (some (.file "x".toList)) true,
        .call 1, .flag 1 2 (some (.file "y".toList)) true] ∧
      (archiveKeys f.state.log).Nodup ∧
      (∀ n k e, Event.flag n k (some e) true ∈ f.state.log → f.state.dir.get (.truncated n k) = some e) ∧
      (∀ n k, (n, k) ∉ archiveKeys f.state.log →
        f.state.dir.get (.truncated n k) = (⟨[]⟩ : Dir).get (.truncated n k)) :=
  ⟨_, rfl, rfl, @archives_kept_within_run UnicodeDb.ascii {} 1 [] ⟨[]⟩
    [{ apr := .ok (true, []), output := some (.file "x".toList) },
     { apr := .ok (true, []), output := some (.file "y".toList) }] _ rfl⟩

theorem recovered_text_reads_back {cfg : Config} {p : Process.ProcResult} {t : Text}
    (h : Process.attemptCdpRecovery cfg p = .ok (some t)) : (Entry.file t).readText = .ok t := by
  simp [Entry.readText, Str.universalNewlines_of_no_cr t (Process.attemptCdpRecovery_no_cr h)]

set_option maxRecDepth 10000 in
theorem recovered_text_reads_back_of_recovery :
    Process.attemptCdpRecovery
        { cdpRecoverySshHost := "host".toList, cdpRecoveryScriptPath := "recover.sh".toList }
        (.completed 0 (.bytes (List.replicate 200 'a')) (.bytes [])) = .ok (some (List.replicate 200 'a')) ∧
      (Entry.file (List.replicate 200 'a')).readText = .ok (List.replicate 200 'a') :=
  ⟨rfl, @recovered_text_reads_back
    { cdpRecoverySshHost := "host".toList, cdpRecoveryScriptPath := "recover.sh".toList }
    (.completed 0 (.bytes (List.replicate 200 'a')) (.bytes [])) _ rfl⟩

theorem le_detectLastRound {d : Dir} {n : Int} {e : Entry} (hn : 0 ≤ n)
    (he : d.get (.round n) = some e) (hs : 0 < e.size) : n ≤ detectLastRound d := by
  obtain ⟨⟨name, x⟩, hfind, -⟩ := Option.map_eq_some'.mp he
  obtain rfl : name = .round n := by simpa using List.find?_some hfind
  exact le_detectLastRound_scan hn (by simpa [he] using hs) (List.mem_of_find?_eq_some hfind)

theorem le_detectLastRound_of_round_three :
    (0 : Int) ≤ 3 ∧ (⟨[(.round 3, .file "abc".toList)]⟩ : Dir).get (.round 3) = some (.file "abc".toList) ∧
      0 < (Entry.file "abc".toList).size ∧ 3 ≤ detectLastRound ⟨[(.round 3, .file "abc".toList)]⟩ :=
  ⟨by decide, rfl, by decide, le_detectLastRound (by decide) rfl (by decide)⟩

set_option maxRecDepth 10000 in
theorem rejected_recovery_read_as_completed_round :
    ∃ s, run UnicodeDb.ascii
        { cdpRecoverySshHost := "host".toList, cdpRecoveryScriptPath := "recover.sh".toList } {}
        [{ apr := .ok (true, []), output := some (.file "x".toList),
           recovery := .ok (some (List.replicate 200 'a')) },
         { shutdown := true, apr := .ok (true, []) }] ⟨[]⟩ = .ok (.returned s) ∧
      Process.attemptCdpRecovery
          { cdpRecoverySshHost := "host".toList, cdpRecoveryScriptPath := "recover.sh".toList }
          (.completed 0 (.bytes (List.replicate 200 'a')) (.bytes [])) =
        .ok (some (List.replicate 200 'a')) ∧
      s.summary.roundsCompleted = 0 ∧ s.summary.stoppedReason = some .shutdown ∧
      s.dir.get (.round 1) = some (.file (List.replicate 200 'a')) ∧
      checkOutputTruncation UnicodeDb.ascii s.dir 1 [] = true ∧
      s.dir.get (.truncated 1 1) = some (.file "x".toList) ∧
      detectLastRound s.dir + 1 = 2 :=
  ⟨_, rfl, rfl, rfl, rfl, rfl, rfl, rfl, rfl⟩

theorem rerun_overwrites_archive :
    ∃ s₁ s₂,
      run UnicodeDb.ascii {} {} [{ apr := .ok (true, []), output := some (.file "x".toList) },
        { shutdown := true, apr := .ok (true, []) }] ⟨[]⟩ = .ok (.returned s₁) ∧
      s₁.dir.get (.truncated 1 1) = some (.file "x".toList) ∧
      run UnicodeDb.ascii {} {} [{ apr := .ok (true, []), output := some (.file "y".toList) },
        { shutdown := true, apr := .ok (true, []) }] s₁.dir = .ok (.returned s₂) ∧
      s₂.dir.get (.truncated 1 1) = some (.file "y".toList) ∧
      s₂.dir.entries.all (fun x => x.2 != .file "x".toList) = true :=
  ⟨_, _, rfl, rfl, rfl, rfl, rfl⟩

end Runs

end AprAuto.Orchestrator
