import AprAuto.Orchestrator.Loop

namespace AprAuto.Orchestrator

open Store Truncation

inductive Attempt where
  | failed (msg : Text)
  | truncated (chars lines : Nat) (attempted : Bool)
  | accepted (recovered : Bool) (chars lines : Nat) (pct : Option PyFloat) (integrated : Bool)
      (sha : Option Text)

namespace Attempt

def Allowed (cfg : Config) : Attempt → Prop
  | accepted _ _ _ _ integrated sha =>
      (cfg.integrate = false → integrated = false) ∧ (cfg.commit = false → sha = none)
  | _ => True

def entry (n : Int) : Attempt → RoundResult
  | failed msg => failureEntry n msg
  | truncated chars lines attempted => truncationEntry n chars lines attempted
  | accepted _ chars lines pct integrated sha => successEntry n chars lines pct integrated sha

@[simp] theorem roundNum_entry (n : Int) (a : Attempt) : (a.entry n).roundNum = n := by
  cases a <;> rfl

end Attempt

namespace Book

def retry (b : Book) : Flow Book :=
  if maxConsecutiveFailures ≤ b.consecutiveFailures then .exit (b.stop .consecutiveFailures)
  else .head b

def truncFail (b : Book) (r : RoundResult) : Flow Book :=
  let b := b.fail r
  if b.truncationAttempts b.roundNum < maxTruncationRetries then b.retry
  else .exit (b.stop .truncatedOutput)

def accept (target : PyFloat) (b : Book) (chars lines : Nat) (pct : Option PyFloat)
    (integrated : Bool) (sha : Option Text) : Flow Book :=
  let b := b.countCompleted.recordResult (successEntry b.roundNum chars lines pct integrated sha)
  if reachesTarget target pct then .exit (b.stop .converged)
  else .head { b with roundNum := b.roundNum + 1 }

def apply (target : PyFloat) (b : Book) : Attempt → Flow Book
  | .failed msg => (b.fail (failureEntry b.roundNum msg)).retry
  | .truncated chars lines attempted =>
      b.bumpAttempts.truncFail (truncationEntry b.roundNum chars lines attempted)
  | .accepted recovered chars lines pct integrated sha =>
      { (if recovered then b.bumpAttempts else b) with outputSizes := b.outputSizes ++ [chars] }.accept
        target chars lines pct integrated sha

def pass (endRound : Int) (target : PyFloat) (b : Book) (shutdown : Bool) (a : Attempt) :
    Flow Book :=
  if b.roundNum < endRound then
    if shutdown then .exit (b.stop .shutdown) else b.apply target a
  else .exit b

def loop (endRound : Int) (target : PyFloat) : List (Bool × Attempt) → Book → Flow Book
  | [], b => .head b
  | (sh, a) :: rest, b =>
      match b.pass endRound target sh a with
      | .head b' => loop endRound target rest b'
      | .exit b' => .exit b'

end Book

def Flow.state {σ : Type} : Flow σ → σ
  | .head s => s
  | .exit s => s

@[simp] theorem Flow.state_map {σ τ : Type} (g : σ → τ) (f : Flow σ) : (f.map g).state = g f.state := by
  cases f <;> rfl

theorem Book.apply_results (target : PyFloat) (b : Book) (a : Attempt) :
    (b.apply target a).state.summary.results = b.summary.results ++ [a.entry b.roundNum] := by
  cases a <;> simp only [Book.apply, Book.retry, Book.truncFail, Book.accept] <;> split_ifs <;>
    simp [Flow.state, Attempt.entry]

theorem Book.pass_results (endRound : Int) (target : PyFloat) (b : Book) (sh : Bool) (a : Attempt) :
    (b.pass endRound target sh a).state.summary.results =
      b.summary.results ++ if b.roundNum < endRound ∧ sh = false then [a.entry b.roundNum] else [] := by
  unfold Book.pass
  by_cases hr : b.roundNum < endRound
  · cases sh
    · simp [hr, Book.apply_results]
    · simp [hr, Flow.state]
  · simp [hr, Flow.state]

def callsOf : List Event → List Int
  | [] => []
  | .call n :: es => n :: callsOf es
  | .flag _ _ _ _ :: es => callsOf es

@[simp] theorem callsOf_append (xs ys : List Event) : callsOf (xs ++ ys) = callsOf xs ++ callsOf ys := by
  induction xs with
  | nil => rfl
  | cons e es ih => cases e <;> simp [callsOf, ih]

@[simp] theorem callsOf_call (n : Int) : callsOf [.call n] = [n] := rfl

@[simp] theorem callsOf_flag (n : Int) (k : Nat) (found : Option Entry) (renamed : Bool) :
    callsOf [.flag n k found renamed] = [] := rfl

namespace St

@[simp] theorem stop_toBook (s : St) (r : StopReason) : (s.stop r).toBook = s.toBook.stop r := rfl
@[simp] theorem recordFailure_toBook (s : St) (r : RoundResult) :
    (s.recordFailure r).toBook = s.toBook.fail r := rfl
@[simp] theorem bumpAttempts_toBook (s : St) : s.bumpAttempts.toBook = s.toBook.bumpAttempts := rfl
@[simp] theorem runTool_toBook (s : St) (o : Option Entry) : (s.runTool o).toBook = s.toBook := rfl
@[simp] theorem stop_log (s : St) (r : StopReason) : (s.stop r).log = s.log := rfl
@[simp] theorem recordFailure_log (s : St) (r : RoundResult) : (s.recordFailure r).log = s.log := rfl
@[simp] theorem bumpAttempts_log (s : St) : s.bumpAttempts.log = s.log := rfl
@[simp] theorem runTool_log (s : St) (o : Option Entry) :
    (s.runTool o).log = s.log ++ [.call s.roundNum] := rfl

@[simp] theorem flag_toBook (s : St) (rf : Bool) : (s.flag rf).toBook = s.toBook := rfl

@[simp] theorem flag_calls (s : St) (rf : Bool) : callsOf (s.flag rf).log = callsOf s.log := by
  simp [flag]

theorem archive_toBook (s : St) (rf : Bool) : (s.archive rf).toBook = s.toBook := by
  unfold archive; split <;> (try split) <;> rfl

theorem archive_log (s : St) (rf : Bool) : (s.archive rf).log = s.log := by
  unfold archive; split <;> (try split) <;> rfl

theorem writeFailed_toBook (s : St) (text : Text) (w : WriteFault) : (s.writeFailed text w).toBook = s.toBook := by
  cases w <;> rfl

theorem writeFailed_log (s : St) (text : Text) (w : WriteFault) : (s.writeFailed text w).log = s.log := by
  cases w <;> rfl

end St

section Refinement

variable {db : UnicodeDb} {cfg : Config} {endRound : Int}

theorem afterFailure_map (s : St) : (afterFailure s).map St.toBook = s.toBook.retry := by
  unfold afterFailure Book.retry; split <;> rfl

theorem truncationFailure_map (s : St) (r : RoundResult) :
    (truncationFailure s r).map St.toBook = s.toBook.truncFail r := by
  unfold truncationFailure Book.truncFail
  dsimp only
  split_ifs with h1 h2 h2
  · exact afterFailure_map _
  · exact absurd h1 h2
  · exact absurd h2 h1
  · rfl

theorem afterFailure_log (s : St) : (afterFailure s).state.log = s.log := by
  unfold afterFailure; split <;> rfl

theorem truncationFailure_log (s : St) (r : RoundResult) :
    (truncationFailure s r).state.log = s.log := by
  unfold truncationFailure; dsimp only; split
  · exact afterFailure_log _
  · rfl

theorem accept_map {s : St} {p : Pass} {chars lines : Nat} {f : Flow St}
    (h : accept cfg s p chars lines = .ok f) :
    (∃ pct integrated sha, (cfg.integrate = false → integrated = false) ∧ (cfg.commit = false → sha = none) ∧
      f.map St.toBook = s.toBook.accept cfg.convergenceTarget chars lines pct integrated sha) ∧
    f.state.log = s.log := by
  unfold accept at h
  obtain ⟨_, -, h⟩ := bind_eq_ok.mp h
  obtain ⟨pct, -, h⟩ := bind_eq_ok.mp h
  obtain ⟨integrated, hi, h⟩ := bind_eq_ok.mp h
  obtain ⟨sha, hsha, h⟩ := bind_eq_ok.mp h
  have hi : cfg.integrate = false → integrated = false := fun hc => ite_pure_eq_ok_of_neg hi (by simp [hc])
  have hsha : cfg.commit = false → sha = none := fun hc => ite_pure_eq_ok_of_neg hsha (by simp [hc])
  unfold Book.accept
  split at h <;> rename_i hc <;> simp only [pure, Except.pure, Except.ok.injEq] at h <;> subst h
  · exact ⟨⟨pct, integrated, sha, hi, hsha, by simp only [hc, if_true]; rfl⟩, rfl⟩
  · exact ⟨⟨pct, integrated, sha, hi, hsha, by simp only [hc, if_false, Bool.false_eq_true]; rfl⟩, rfl⟩

theorem recover_cases {s t : St} {p : Pass} {chars lines : Nat} {f : Flow St}
    (ht : (s.bumpAttempts.flag p.renameFails).archive p.renameFails = t)
    (h : recover db cfg s p chars lines = .ok f) :
    (∃ att, f = truncationFailure t (truncationEntry t.roundNum chars lines att)) ∨
    (∃ text w, f = truncationFailure (t.writeFailed text w)
      (truncationEntry t.roundNum chars lines cfg.cdpRecoveryEnabled)) ∨
    ∃ text, f = truncationFailure { t with dir := t.dir.set (roundFile t.roundNum) (.file text) }
        (truncationEntry t.roundNum text.length (text.count '\n') true) ∨
      accept cfg { t with
          dir := t.dir.set (roundFile t.roundNum) (.file text), consecutiveFailures := 0,
          outputSizes := t.outputSizes ++ [text.length] } p text.length (text.count '\n') = .ok f := by
  unfold recover at h
  obtain ⟨recovered, -, h⟩ := bind_eq_ok.mp h
  rw [ht] at h
  cases recovered with
  | none => cases h; exact .inl ⟨_, rfl⟩
  | some text =>
      simp only at h
      split at h
      · cases h; exact .inl ⟨_, rfl⟩
      cases hw : p.writeFault with
      | some w => simp only [hw] at h; cases h; exact .inr (.inl ⟨text, w, rfl⟩)
      | none =>
          simp only [hw] at h
          split at h
          · cases h; exact .inr (.inr ⟨text, .inl rfl⟩)
          · exact .inr (.inr ⟨text, .inr h⟩)

theorem recover_map {s : St} {p : Pass} {chars lines : Nat} {f : Flow St}
    (h : recover db cfg s p chars lines = .ok f) :
    (∃ a, a.Allowed cfg ∧ f.map St.toBook = s.toBook.apply cfg.convergenceTarget a) ∧
    callsOf f.state.log = callsOf s.log := by
  have hb : ((s.bumpAttempts.flag p.renameFails).archive p.renameFails).toBook = s.toBook.bumpAttempts := by
    rw [St.archive_toBook]; rfl
  have hc : callsOf ((s.bumpAttempts.flag p.renameFails).archive p.renameFails).log = callsOf s.log := by
    rw [St.archive_log, St.flag_calls]; rfl
  generalize ht : (s.bumpAttempts.flag p.renameFails).archive p.renameFails = t at hb hc
  have hn : t.roundNum = s.roundNum := by rw [show t.roundNum = t.toBook.roundNum from rfl, hb]; rfl
  have trunc : ∀ (u : St) (c l : Nat) (att : Bool), u.toBook = s.toBook.bumpAttempts →
      callsOf u.log = callsOf s.log →
      (∃ a, a.Allowed cfg ∧ (truncationFailure u (truncationEntry s.roundNum c l att)).map St.toBook =
        s.toBook.apply cfg.convergenceTarget a) ∧
      callsOf (truncationFailure u (truncationEntry s.roundNum c l att)).state.log = callsOf s.log :=
    fun u c l att hb hc => ⟨⟨.truncated c l att, trivial, by rw [truncationFailure_map, hb]; rfl⟩,
      by rw [truncationFailure_log, hc]⟩
  rcases recover_cases ht h with ⟨_, rfl⟩ | ⟨text, w, rfl⟩ | ⟨text, rfl | ha⟩
  · rw [hn]; exact trunc _ _ _ _ hb hc
  · rw [hn]
    exact trunc _ _ _ _ (by rw [St.writeFailed_toBook t text w, hb]) (by rw [St.writeFailed_log t text w, hc])
  · rw [hn]; exact trunc _ _ _ _ hb hc
  · obtain ⟨⟨pct, integrated, sha, hi, hsha, hf⟩, hl⟩ := accept_map ha
    refine ⟨⟨.accepted true text.length (text.count '\n') pct integrated sha, ⟨hi, hsha⟩, ?_⟩, ?_⟩
    · rw [hf]; simp only [hb]; rfl
    · rw [hl]; exact hc

theorem verify_map {s : St} {p : Pass} {f : Flow St} (h : verify db cfg s p = .ok f) :
    (∃ a, a.Allowed cfg ∧ f.map St.toBook = s.toBook.apply cfg.convergenceTarget a) ∧
    callsOf f.state.log = callsOf s.log := by
  unfold verify at h
  obtain ⟨content, hcontent, h⟩ := bind_eq_ok.mp h
  by_cases ht : checkOutputTruncation db s.dir s.roundNum s.outputSizes = true
  · simp only [ht, Bool.not_true, Bool.and_false, Bool.false_eq_true, if_false, if_true] at h
    exact recover_map h
  · obtain ⟨raw, hraw, hok⟩ := checkOutputTruncation_eq_false (Bool.eq_false_iff.mpr ht)
    have hc : content = some (Str.universalNewlines raw) := by
      simpa [readRoundFile, hraw, Entry.exists, Entry.readText, Except.map] using hcontent.symm
    have hpos : 0 < (Str.universalNewlines raw).length :=
      lt_of_lt_of_le (by decide) (minOutputChars_le_of_truncatedContent_eq_false hok)
    subst hc
    simp only [ht, Option.map_some', Option.getD_some, hpos, decide_True, Bool.not_false,
      Bool.and_self, if_true, Bool.false_eq_true, if_false] at h
    obtain ⟨⟨pct, integrated, sha, hi, hsha, hf⟩, hl⟩ := accept_map h
    exact ⟨⟨.accepted false _ _ pct integrated sha, ⟨hi, hsha⟩, by rw [hf]; rfl⟩, by rw [hl]⟩

theorem step_map {s : St} {p : Pass} {f : Flow St} (h : step db cfg endRound s p = .ok f) :
    (∃ a, a.Allowed cfg ∧ f.map St.toBook = s.toBook.pass endRound cfg.convergenceTarget p.shutdown a) ∧
    callsOf f.state.log =
      callsOf s.log ++ if s.roundNum < endRound ∧ p.shutdown = false then [s.roundNum] else [] := by
  unfold step at h
  by_cases hr : s.roundNum < endRound
  · by_cases hs : p.shutdown = true
    · simp only [hr, hs, if_true, pure, Except.pure, Except.ok.injEq] at h
      subst h
      exact ⟨⟨.failed [], trivial, by simp only [Book.pass, hr, hs, if_true]; rfl⟩, by simp [hs, Flow.state]⟩
    · simp only [hr, hs, if_true, Bool.false_eq_true, if_false] at h
      obtain ⟨_, -, h⟩ := bind_eq_ok.mp h
      obtain ⟨⟨success, msg⟩, -, h⟩ := bind_eq_ok.mp h
      have hcall : s.roundNum < endRound ∧ p.shutdown = false := ⟨hr, by simpa using hs⟩
      cases success
      · simp only [Bool.false_eq_true, if_false, pure, Except.pure, Except.ok.injEq] at h
        subst h
        refine ⟨⟨.failed msg, trivial, ?_⟩, ?_⟩
        · simp only [Book.pass, hr, hs, if_true, Bool.false_eq_true, if_false, afterFailure_map]; rfl
        · simp [afterFailure_log, hcall]
      · simp only [if_true] at h
        obtain ⟨⟨a, hal, ha⟩, hl⟩ := verify_map h
        exact ⟨⟨a, hal, by simp only [Book.pass, hr, hs, if_true, Bool.false_eq_true, if_false, ha]; rfl⟩,
          by simp [hl, hcall]⟩
  · simp only [hr, if_false, pure, Except.pure, Except.ok.injEq] at h
    subst h
    exact ⟨⟨.failed [], trivial, by simp only [Book.pass, hr, if_false]; rfl⟩, by simp [hr, Flow.state]⟩

theorem loop_refines_policy : ∀ {ps : List Pass} {s : St} {f : Flow St},
    loop db cfg endRound ps s = .ok f →
    ∃ as : List Attempt, as.length = ps.length ∧
      f.map St.toBook = s.toBook.loop endRound cfg.convergenceTarget ((ps.map Pass.shutdown).zip as)
  | [], _, _, h => by cases h; exact ⟨[], rfl, rfl⟩
  | p :: ps, s, f, h => by
      obtain ⟨f₁, hf₁, h⟩ := bind_eq_ok.mp h
      obtain ⟨⟨a, -, ha⟩, -⟩ := step_map hf₁
      cases f₁ with
      | head s₁ =>
          obtain ⟨as, hlen, hf⟩ := loop_refines_policy h
          refine ⟨a :: as, by simp [hlen], ?_⟩
          simp only [List.map_cons, List.zip_cons_cons, Book.loop, ← ha, Flow.map]
          exact hf
      | exit s₁ =>
          cases h
          refine ⟨a :: List.replicate ps.length (.failed []), by simp, ?_⟩
          simp only [List.map_cons, List.zip_cons_cons, Book.loop, ← ha, Flow.map]

theorem loop_refines_policy_on_failure_then_shutdown :
    ∃ f, loop UnicodeDb.ascii {} 51 [{ apr := .ok (false, []) }, { shutdown := true, apr := .ok (true, []) }]
        (initial 1 [] ⟨[]⟩) = .ok f ∧
      ∃ as : List Attempt, as.length = 2 ∧
        f.map St.toBook = (initial 1 [] ⟨[]⟩).toBook.loop 51 ({} : Config).convergenceTarget
          (([{ apr := .ok (false, []) }, { shutdown := true, apr := .ok (true, []) }] : List Pass).map
            Pass.shutdown |>.zip as) :=
  ⟨_, rfl, @loop_refines_policy UnicodeDb.ascii {} 51
    [{ apr := .ok (false, []) }, { shutdown := true, apr := .ok (true, []) }] _ _ rfl⟩

end Refinement

end AprAuto.Orchestrator
