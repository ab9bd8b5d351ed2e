import Mathlib.Data.List.Nodup
import AprAuto.Python

namespace AprAuto.Logging

def maxLogFiles : Nat := 20

structure LogFile where
  name : Text
  mtime : Nat
  deriving DecidableEq, Repr

def isRunLogName (name : Text) : Bool := Str.startswith name "run_".toList && Str.endswith name ".log".toList

def LogFile.isRunLog (f : LogFile) : Bool := isRunLogName f.name

structure LogDir where
  files : List LogFile
  nodup : (files.map LogFile.name).Nodup

namespace LogDir

def names (d : LogDir) : List Text := d.files.map LogFile.name

def unlink (d : LogDir) (name : Text) : LogDir :=
  ⟨d.files.filter (·.name != name), d.nodup.sublist ((List.filter_sublist _).map _)⟩

def openAppend (d : LogDir) (name : Text) (now : Nat) : LogDir :=
  ⟨(d.unlink name).files ++ [⟨name, now⟩], by
    rw [List.map_append, List.nodup_append]
    exact ⟨(d.unlink name).nodup, List.nodup_singleton _, by simp [unlink]⟩⟩

def glob (d : LogDir) : List LogFile := d.files.filter LogFile.isRunLog

def rotate (d : LogDir) : List LogFile → LogDir
  | [] => d
  | l :: logs => if maxLogFiles ≤ (l :: logs).length then rotate (d.unlink l.name) logs else d

end LogDir

def byMtime (a b : LogFile) : Bool := decide (a.mtime ≤ b.mtime)

def logFileName (ts : Text) : Text := "run_".toList ++ ts ++ ".log".toList

def setupLogging (d : LogDir) (ts : Text) (now : Nat) : LogDir × Text :=
  let logs := d.glob.mergeSort byMtime
  let logFile := logFileName ts
  ((d.rotate logs).openAppend logFile now, logFile)

theorem isRunLogName_logFileName (ts : Text) : isRunLogName (logFileName ts) = true := by
  rw [isRunLogName, Bool.and_eq_true, Str.startswith, Str.endswith, List.isPrefixOf_iff_prefix,
    List.isSuffixOf_iff_suffix]
  exact ⟨(List.prefix_append _ _).trans (List.prefix_append _ _), List.suffix_append _ _⟩

namespace LogDir

variable (d : LogDir)

theorem mem_unlink {f : LogFile} {name : Text} : f ∈ (d.unlink name).files ↔ f ∈ d.files ∧ f.name ≠ name := by
  simp [unlink]

theorem mem_openAppend {f : LogFile} {name : Text} {now : Nat} :
    f ∈ (d.openAppend name now).files ↔ f ∈ d.files ∧ f.name ≠ name ∨ f = ⟨name, now⟩ := by
  simp [openAppend, mem_unlink]

theorem openAppend_run_logs_length (name : Text) (now : Nat) :
    ((d.openAppend name now).files.filter LogFile.isRunLog).length ≤ (d.files.filter LogFile.isRunLog).length + 1 := by
  rw [openAppend, List.filter_append, List.length_append]
  exact Nat.add_le_add ((List.filter_sublist d.files).filter _).length_le (List.length_filter_le _ _)

theorem openAppend_run_logs_of_fresh {name : Text} (now : Nat) (hname : isRunLogName name = true)
    (hfresh : name ∉ d.names) :
    (d.openAppend name now).files.filter LogFile.isRunLog = d.files.filter LogFile.isRunLog ++ [⟨name, now⟩] := by
  have hkeep : d.files.filter (·.name != name) = d.files :=
    List.filter_eq_self.2 fun f hf => bne_iff_ne.2 fun h => hfresh (h ▸ List.mem_map_of_mem _ hf)
  show (d.files.filter (fun f : LogFile => f.name != name) ++ [LogFile.mk name now]).filter LogFile.isRunLog = _
  rw [hkeep, List.filter_append]
  simp [LogFile.isRunLog, hname]

theorem eq_of_name_eq {a b : LogFile} (ha : a ∈ d.files) (hb : b ∈ d.files) (h : a.name = b.name) : a = b :=
  List.inj_on_of_nodup_map d.nodup ha hb h

theorem mem_rotate {f : LogFile} (logs : List LogFile) :
    f ∈ (d.rotate logs).files ↔
      f ∈ d.files ∧ f.name ∉ (logs.take (logs.length + 1 - maxLogFiles)).map LogFile.name := by
  induction logs generalizing d with
  | nil => simp [rotate]
  | cons l logs ih =>
      rw [rotate]
      split
      · next h =>
          have hk : (l :: logs).length + 1 - maxLogFiles = logs.length + 1 - maxLogFiles + 1 := by
            simp only [List.length_cons] at h ⊢
            omega
          rw [ih, mem_unlink, hk, List.take_succ_cons, List.map_cons, List.mem_cons, not_or, and_assoc]
      · next h =>
          have hk : (l :: logs).length + 1 - maxLogFiles = 0 := by
            simp only [List.length_cons] at h ⊢
            omega
          rw [hk, List.take_zero, List.map_nil]
          simp

end LogDir

section Setup

variable (d : LogDir) (ts : Text) (now : Nat)

def popped : List LogFile := (d.glob.mergeSort byMtime).take ((d.glob.mergeSort byMtime).length + 1 - maxLogFiles)

def spared : List LogFile := (d.glob.mergeSort byMtime).drop ((d.glob.mergeSort byMtime).length + 1 - maxLogFiles)

theorem mem_logs {f : LogFile} : f ∈ d.glob.mergeSort byMtime ↔ f ∈ d.files ∧ f.isRunLog = true := by
  rw [(List.mergeSort_perm _ _).mem_iff, LogDir.glob, List.mem_filter]

theorem nodup_logs : (d.glob.mergeSort byMtime).Nodup :=
  (List.mergeSort_perm _ _).nodup_iff.2 ((d.nodup.of_map _).filter _)

theorem popped_append_spared : popped d ++ spared d = d.glob.mergeSort byMtime := List.take_append_drop _ _

theorem mem_spared_iff {f : LogFile} : f ∈ spared d ↔ f ∈ d.files ∧ f.isRunLog = true ∧ f ∉ popped d := by
  constructor
  · intro hf
    obtain ⟨hd, hrun⟩ := (mem_logs d).1 (List.mem_of_mem_drop hf)
    exact ⟨hd, hrun, fun hk => List.disjoint_take_drop (nodup_logs d) le_rfl hk hf⟩
  · rintro ⟨hd, hrun, hk⟩
    have hl := (mem_logs d).2 ⟨hd, hrun⟩
    rw [← popped_append_spared, List.mem_append] at hl
    exact hl.resolve_left hk

theorem mtime_le_of_popped {f g : LogFile} (hf : f ∈ popped d) (hg : g ∈ spared d) : f.mtime ≤ g.mtime := by
  have h : (popped d ++ spared d).Pairwise fun a b => byMtime a b = true := by
    rw [popped_append_spared]
    exact List.sorted_mergeSort (fun a b c hab hbc => by simp only [byMtime, decide_eq_true_eq] at *; omega)
      (fun a b => by simp only [byMtime, Bool.or_eq_true, decide_eq_true_eq]; omega) _
  simpa [byMtime] using (List.pairwise_append.1 h).2.2 f hf g hg

theorem mem_rotate_logs {f : LogFile} :
    f ∈ (d.rotate (d.glob.mergeSort byMtime)).files ↔ f ∈ d.files ∧ f ∉ popped d := by
  rw [d.mem_rotate, List.mem_map]
  refine and_congr_right fun hf => not_congr ⟨?_, fun h => ⟨f, h, rfl⟩⟩
  rintro ⟨g, hg, he⟩
  rwa [d.eq_of_name_eq ((mem_logs d).1 (List.mem_of_mem_take hg)).1 hf he] at hg

theorem rotate_run_logs_perm :
    List.Perm ((d.rotate (d.glob.mergeSort byMtime)).files.filter LogFile.isRunLog) (spared d) := by
  have hspared : (spared d).Nodup := (nodup_logs d).sublist (List.drop_sublist _ _)
  refine (List.perm_ext_iff_of_nodup (((d.rotate _).nodup.of_map _).filter _) hspared).2 fun f => ?_
  rw [List.mem_filter, mem_rotate_logs, mem_spared_iff]
  exact ⟨fun ⟨⟨hd, hk⟩, hrun⟩ => ⟨hd, hrun, hk⟩, fun ⟨hd, hrun, hk⟩ => ⟨⟨hd, hk⟩, hrun⟩⟩

theorem rotate_run_logs_length :
    ((d.rotate (d.glob.mergeSort byMtime)).files.filter LogFile.isRunLog).length =
      min (d.files.filter LogFile.isRunLog).length (maxLogFiles - 1) := by
  rw [(rotate_run_logs_perm d).length_eq, spared, List.length_drop, (List.mergeSort_perm _ _).length_eq, LogDir.glob]
  have : maxLogFiles = 20 := rfl
  omega

theorem setup_logging_keeps_at_most_max_run_logs :
    ((setupLogging d ts now).1.files.filter LogFile.isRunLog).length ≤ maxLogFiles ∧
      (setupLogging d ts now).2 ∈ (setupLogging d ts now).1.names ∧
      ∀ f ∈ d.files, f.isRunLog = false → f ∈ (setupLogging d ts now).1.files := by
  have hrun := isRunLogName_logFileName ts
  refine ⟨?_, ?_, fun f hf hnot => ?_⟩
  · have : maxLogFiles = 20 := rfl
    have := rotate_run_logs_length d
    exact (LogDir.openAppend_run_logs_length _ _ now).trans (by omega)
  · simp [setupLogging, LogDir.names, LogDir.openAppend]
  · have hne : f.name ≠ logFileName ts := fun h => by
      rw [LogFile.isRunLog, h, hrun] at hnot
      exact Bool.noConfusion hnot
    refine (LogDir.mem_openAppend _).2 (.inl ⟨(mem_rotate_logs d).2 ⟨hf, fun h => ?_⟩, hne⟩)
    rw [((mem_logs d).1 (List.mem_of_mem_take h)).2] at hnot
    exact Bool.noConfusion hnot

theorem mem_names_setupLogging {g : LogFile} (hg : g ∈ d.files) :
    g.name ∈ (setupLogging d ts now).1.names ↔
      g.name = logFileName ts ∨ g ∈ (d.rotate (d.glob.mergeSort byMtime)).files := by
  simp only [setupLogging, LogDir.names, List.mem_map, LogDir.mem_openAppend]
  constructor
  · rintro ⟨x, ⟨hx, -⟩ | rfl, he⟩
    · exact .inr (d.eq_of_name_eq ((mem_rotate_logs d).1 hx).1 hg he ▸ hx)
    · exact .inl he.symm
  · rintro (he | hr)
    · exact ⟨_, .inr rfl, he.symm⟩
    · by_cases he : g.name = logFileName ts
      · exact ⟨_, .inr rfl, he.symm⟩
      · exact ⟨g, .inl ⟨hr, he⟩, rfl⟩

theorem setup_logging_deletes_only_oldest_run_logs :
    (∀ f ∈ d.files, f.name ∉ (setupLogging d ts now).1.names →
      f.isRunLog = true ∧ ∀ g ∈ d.files, g.isRunLog = true → g.name ∈ (setupLogging d ts now).1.names →
        g.name ≠ (setupLogging d ts now).2 → f.mtime ≤ g.mtime) ∧
    ((d.files.filter LogFile.isRunLog).length < maxLogFiles →
      ∀ f ∈ d.files, f.name ∈ (setupLogging d ts now).1.names) := by
  refine ⟨fun f hf hgone => ?_, fun hfew f hf => ?_⟩
  · rw [mem_names_setupLogging d ts now hf, not_or, mem_rotate_logs, not_and, not_not] at hgone
    have hfk := hgone.2 hf
    refine ⟨((mem_logs d).1 (List.mem_of_mem_take hfk)).2, fun g hg hrun hkept hne => ?_⟩
    rw [mem_names_setupLogging d ts now hg, mem_rotate_logs] at hkept
    exact mtime_le_of_popped d hfk ((mem_spared_iff d).2 ⟨hg, hrun, (hkept.resolve_left hne).2⟩)
  · have hk : popped d = [] := by
      rw [popped, (List.mergeSort_perm d.glob byMtime).length_eq,
        Nat.sub_eq_zero_of_le (show d.glob.length + 1 ≤ maxLogFiles from hfew), List.take_zero]
    rw [mem_names_setupLogging d ts now hf, mem_rotate_logs, hk]
    exact .inr ⟨hf, List.not_mem_nil f⟩

theorem setup_logging_run_log_count_of_fresh_name (hfresh : logFileName ts ∉ d.names) :
    ((setupLogging d ts now).1.files.filter LogFile.isRunLog).length =
      min (d.files.filter LogFile.isRunLog).length (maxLogFiles - 1) + 1 := by
  have hfresh' : logFileName ts ∉ (d.rotate (d.glob.mergeSort byMtime)).names := fun h => by
    obtain ⟨f, hf, he⟩ := List.mem_map.1 h
    exact hfresh (he ▸ List.mem_map_of_mem _ ((mem_rotate_logs d).1 hf).1)
  rw [setupLogging, LogDir.openAppend_run_logs_of_fresh _ now (isRunLogName_logFileName ts) hfresh',
    List.length_append, rotate_run_logs_length, List.length_singleton]

theorem setup_logging_run_log_count_after_two_runs :
    ((setupLogging ⟨[⟨"run_1.log".toList, 1⟩, ⟨"status.json".toList, 2⟩, ⟨"run_2.log".toList, 3⟩], by decide⟩
        "20260101_000000".toList 4).1.files.filter LogFile.isRunLog).length = 3 :=
  setup_logging_run_log_count_of_fresh_name _ _ _ (by decide)

end Setup

end AprAuto.Logging
