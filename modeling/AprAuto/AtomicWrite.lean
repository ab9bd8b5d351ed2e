import AprAuto.Python

namespace AprAuto.AtomicWrite

def tmpName (name rnd : Text) : Text := name ++ ".".toList ++ rnd ++ ".tmp".toList

def setFile (files : Text → Option Text) (x : Text) (v : Option Text) : Text → Option Text :=
  fun y => if y = x then v else files y

def replaceFile (files : Text → Option Text) (src dst : Text) : Text → Option Text :=
  setFile (setFile files dst (files src)) src none

structure Faults where
  mkdir : Bool := false
  create : Bool := false
  write : Option Nat := none
  flush : Bool := false
  fsync : Bool := false
  close : Bool := false
  replace : Bool := false
  openDir : Bool := false

inductive Pc where
  | mkdir
  | create
  | dump (written : Nat)
  | flush
  | fsync
  | close
  | replace
  | openDir
  | fsyncDir
  | closeDir
  | done (result : Except PyExc Unit)

structure Machine where
  pc : Pc
  tmp : Option Text
  files : Text → Option Text

def initial (files : Text → Option Text) : Machine := ⟨.mkdir, none, files⟩

section Step

variable (name : Text) (rnds : List Text) (ser : Text) (f : Faults)

def step (m : Machine) : Machine :=
  match m.pc, m.tmp with
  | .mkdir, _ => if f.mkdir then { m with pc := .done (.error .osError) } else { m with pc := .create }
  | .create, _ =>
      match rnds.find? (fun r => m.files (tmpName name r) = none) with
      | none => { m with pc := .done (.ok ()) }
      | some r =>
          if f.create then { m with pc := .done (.ok ()) }
          else ⟨.dump 0, some (tmpName name r), setFile m.files (tmpName name r) (some [])⟩
  | .dump k, some t =>
      if f.write = some k then { m with pc := .done (.ok ()) }
      else if k < ser.length then
        { m with pc := .dump (k + 1), files := setFile m.files t (some (ser.take (k + 1))) }
      else { m with pc := .flush }
  | .flush, _ => if f.flush then { m with pc := .done (.ok ()) } else { m with pc := .fsync }
  | .fsync, _ => if f.fsync then { m with pc := .done (.ok ()) } else { m with pc := .close }
  | .close, _ => if f.close then { m with pc := .done (.ok ()) } else { m with pc := .replace }
  | .replace, some t =>
      if f.replace then { m with pc := .done (.ok ()) }
      else { m with pc := .openDir, files := replaceFile m.files t name }
  | .openDir, _ => if f.openDir then { m with pc := .done (.ok ()) } else { m with pc := .fsyncDir }
  | .fsyncDir, _ => { m with pc := .closeDir }
  | .closeDir, _ => { m with pc := .done (.ok ()) }
  | _, _ => m

def run : Nat → Machine → Machine
  | 0, m => m
  | n + 1, m => run n (step name rnds ser f m)

def atomicWriteJson (files : Text → Option Text) : Machine := run name rnds ser f (ser.length + 10) (initial files)

end Step

section Callers

variable (rnds : List Text) (ser : Text) (f : Faults)

def writeStatus (logDir : Text) (files : Text → Option Text) : Machine :=
  atomicWriteJson (logDir ++ "/status.json".toList) rnds ser f files

def saveSummary (logDir : Text) (files : Text → Option Text) : Machine :=
  atomicWriteJson (logDir ++ "/last_run.json".toList) rnds ser f files

end Callers

section Files

variable {files : Text → Option Text} {x y : Text} {v w : Option Text}

@[simp] theorem setFile_same : setFile files x v x = v := by simp [setFile]

theorem setFile_of_ne (h : y ≠ x) : setFile files x v y = files y := by simp [setFile, h]

@[simp] theorem setFile_setFile : setFile (setFile files x v) x w = setFile files x w := by
  funext y; by_cases h : y = x <;> simp [setFile, h]

theorem replaceFile_dst (h : x ≠ y) : replaceFile files x y y = files x := by
  simp [replaceFile, setFile_of_ne (Ne.symm h)]

theorem tmpName_ne (name rnd : Text) : tmpName name rnd ≠ name := fun h => by
  have := congrArg List.length h
  simp [tmpName] at this

end Files

section Crash

variable {name : Text} {rnds : List Text} {ser : Text} {f : Faults} {old : Option Text}

def Inv (name ser : Text) (old : Option Text) (m : Machine) : Prop :=
  match m.pc with
  | .mkdir | .create => m.files name = old
  | .dump k => m.files name = old ∧ k ≤ ser.length ∧
      ∃ t, m.tmp = some t ∧ t ≠ name ∧ m.files t = some (ser.take k)
  | .flush | .fsync | .close | .replace => m.files name = old ∧
      ∃ t, m.tmp = some t ∧ t ≠ name ∧ m.files t = some ser
  | .openDir | .fsyncDir | .closeDir => m.files name = some ser
  | .done _ => m.files name = old ∨ m.files name = some ser

theorem Inv.files_name {m : Machine} (hi : Inv name ser old m) :
    m.files name = old ∨ m.files name = some ser := by
  rcases m with ⟨pc, tmp, files⟩
  cases pc
  case mkdir | create => exact .inl hi
  case dump | flush | fsync | close | replace => exact .inl hi.1
  case openDir | fsyncDir | closeDir => exact .inr hi
  case done => exact hi

theorem inv_step {m : Machine} (hi : Inv name ser old m) : Inv name ser old (step name rnds ser f m) := by
  rcases m with ⟨pc, tmp, files⟩
  cases pc with
  | mkdir => simp only [step]; split_ifs; exacts [.inl hi, hi]
  | create =>
      simp only [step]
      split
      · exact .inl hi
      · split_ifs
        · exact .inl hi
        · exact ⟨by simpa [setFile_of_ne (tmpName_ne _ _).symm] using hi, Nat.zero_le _, _, rfl,
            tmpName_ne _ _, by simp⟩
  | dump k =>
      obtain ⟨hn, hk, t, rfl, htn, ht⟩ := hi
      simp only [step]
      split_ifs with hw hlt
      · exact .inl hn
      · exact ⟨by simpa [setFile_of_ne htn.symm] using hn, hlt, t, rfl, htn, by simp⟩
      · refine ⟨hn, t, rfl, htn, ?_⟩
        rw [ht, List.take_of_length_le (by omega)]
  | flush | fsync | close =>
      obtain ⟨hn, t, rfl, htn, ht⟩ := hi
      simp only [step]
      split_ifs
      · exact .inl hn
      · exact ⟨hn, t, rfl, htn, ht⟩
  | replace =>
      obtain ⟨hn, t, rfl, htn, ht⟩ := hi
      simp only [step]
      split_ifs
      · exact .inl hn
      · show replaceFile files t name name = some ser
        rw [replaceFile_dst htn]; exact ht
  | openDir => simp only [step]; split_ifs; exacts [.inr hi, hi]
  | fsyncDir => exact hi
  | closeDir => exact .inr hi
  | done r => exact hi

theorem inv_run {m : Machine} (hi : Inv name ser old m) :
    ∀ n, Inv name ser old (run name rnds ser f n m)
  | 0 => hi
  | n + 1 => inv_run (inv_step hi) n

theorem write_never_exposes_partial_file (files : Text → Option Text) (n : Nat) :
    (run name rnds ser f n (initial files)).files name = files name ∨
      (run name rnds ser f n (initial files)).files name = some ser :=
  (inv_run (show Inv name ser (files name) (initial files) from rfl) n).files_name

end Crash

section Outcome

variable (name : Text) (rnds : List Text) (ser : Text) (f : Faults)

def afterDump (t : Text) (files : Text → Option Text) : Text → Option Text :=
  if f.flush || f.fsync || f.close || f.replace then files else replaceFile files t name

def outcome (files : Text → Option Text) : Except PyExc Unit × (Text → Option Text) :=
  if f.mkdir then (.error .osError, files)
  else match rnds.find? (fun r => files (tmpName name r) = none) with
    | none => (.ok (), files)
    | some r =>
        if f.create then (.ok (), files)
        else match f.write.filter (fun k => decide (k ≤ ser.length)) with
          | some k => (.ok (), setFile files (tmpName name r) (some (ser.take k)))
          | none => (.ok (), afterDump name f (tmpName name r) (setFile files (tmpName name r) (some ser)))

def dumping (t : Text) (k : Nat) (files : Text → Option Text) : Machine :=
  ⟨.dump k, some t, setFile files t (some (ser.take k))⟩

end Outcome

section Trace

variable {name : Text} {rnds : List Text} {ser : Text} {f : Faults}

theorem run_add (a b : Nat) (m : Machine) :
    run name rnds ser f (a + b) m = run name rnds ser f b (run name rnds ser f a m) := by
  induction a generalizing m with
  | zero => rw [Nat.zero_add]; rfl
  | succ a ih => rw [Nat.succ_add]; exact ih _

theorem run_done {r : Except PyExc Unit} {tmp : Option Text} {files : Text → Option Text} :
    ∀ n, run name rnds ser f n ⟨.done r, tmp, files⟩ = ⟨.done r, tmp, files⟩
  | 0 => rfl
  | n + 1 => run_done n

theorem reaches_done {a n : Nat} {m : Machine} {r : Except PyExc Unit} {tmp : Option Text}
    {files : Text → Option Text} (h : run name rnds ser f a m = ⟨.done r, tmp, files⟩) (ha : a ≤ n) :
    run name rnds ser f n m = ⟨.done r, tmp, files⟩ := by
  rw [show n = a + (n - a) by omega, run_add, h, run_done]

theorem run_dumping {t : Text} {files : Text → Option Text} :
    ∀ j k, k + j ≤ ser.length → (∀ i, k ≤ i → i < k + j → f.write ≠ some i) →
      run name rnds ser f j (dumping ser t k files) = dumping ser t (k + j) files
  | 0, _, _, _ => rfl
  | j + 1, k, hj, hw => by
      have hstep : step name rnds ser f (dumping ser t k files) = dumping ser t (k + 1) files := by
        simp [dumping, step, hw k le_rfl (by omega), show k < ser.length by omega]
      rw [run, hstep, run_dumping j (k + 1) (by omega) fun i hi hk => hw i (by omega) (by omega),
        Nat.add_right_comm, Nat.add_assoc]

theorem run_flush (t : Text) (files : Text → Option Text) :
    run name rnds ser f 7 ⟨.flush, some t, files⟩ = ⟨.done (.ok ()), some t, afterDump name f t files⟩ := by
  rcases f with ⟨mkdir, create, write, flush, fsync, close, replace, openDir⟩
  cases flush; case true => rfl
  cases fsync; case true => rfl
  cases close; case true => rfl
  cases replace; case true => rfl
  cases openDir <;> rfl

theorem run_two {files : Text → Option Text} {r : Text} (hmkdir : f.mkdir = false)
    (hr : rnds.find? (fun r => files (tmpName name r) = none) = some r) (hcreate : f.create = false) :
    run name rnds ser f 2 (initial files) = dumping ser (tmpName name r) 0 files := by
  simp [run, step, initial, hmkdir, hr, hcreate, dumping]

theorem atomicWriteJson_eq (files : Text → Option Text) :
    (atomicWriteJson name rnds ser f files).pc = .done (outcome name rnds ser f files).1 ∧
      (atomicWriteJson name rnds ser f files).files = (outcome name rnds ser f files).2 := by
  suffices ∃ a ≤ ser.length + 10, ∃ tmp, run name rnds ser f a (initial files) =
      ⟨.done (outcome name rnds ser f files).1, tmp, (outcome name rnds ser f files).2⟩ by
    obtain ⟨a, ha, tmp, h⟩ := this
    rw [atomicWriteJson, reaches_done h ha]
    exact ⟨rfl, rfl⟩
  unfold outcome
  cases hmkdir : f.mkdir
  case true => exact ⟨1, by omega, none, by simp [run, step, initial, hmkdir]⟩
  cases hr : rnds.find? (fun r => files (tmpName name r) = none) with
  | none => exact ⟨2, by omega, none, by simp [run, step, initial, hmkdir, hr]⟩
  | some r =>
    cases hcreate : f.create
    case true => exact ⟨2, by omega, none, by simp [run, step, initial, hmkdir, hr, hcreate]⟩
    have h2 : run name rnds ser f 2 (initial files) = dumping ser (tmpName name r) 0 files :=
      run_two hmkdir hr hcreate
    cases hw : f.write.filter (fun k => decide (k ≤ ser.length)) with
    | some k =>
      obtain ⟨hwk, hk⟩ : f.write = some k ∧ k ≤ ser.length := by simpa using Option.mem_filter_iff.1 hw
      refine ⟨2 + k + 1, by omega, some (tmpName name r), ?_⟩
      rw [run_add, run_add, h2, run_dumping k 0 (by omega) fun i _ hi => by simp [hwk]; omega]
      simp [run, step, dumping, hwk]
    | none =>
      have hnw : ∀ i, i ≤ ser.length → f.write ≠ some i := fun i hi hwi => by
        simp [hwi] at hw
        omega
      have hend : run name rnds ser f 1 (dumping ser (tmpName name r) ser.length files) =
          ⟨.flush, some (tmpName name r), setFile files (tmpName name r) (some ser)⟩ := by
        simp [run, step, dumping, hnw ser.length le_rfl]
      refine ⟨2 + ser.length + 1 + 7, by omega, some (tmpName name r), ?_⟩
      rw [run_add, run_add, run_add, h2, run_dumping ser.length 0 (by omega) fun i _ hi => hnw i (by omega),
        Nat.zero_add, hend, run_flush]
      rfl

end Trace

section Results

variable {name : Text} {rnds : List Text} {ser : Text} {f : Faults} {files : Text → Option Text}

theorem oserror_before_replace_leaves_tmp_file {r : Text}
    (hr : rnds.find? (fun r => files (tmpName name r) = none) = some r)
    (hmkdir : f.mkdir = false) (hcreate : f.create = false)
    (hfail : (∃ k ≤ ser.length, f.write = some k) ∨ f.flush ∨ f.fsync ∨ f.close) :
    (atomicWriteJson name rnds ser f files).pc = .done (.ok ()) ∧ files (tmpName name r) = none ∧
      ∃ k ≤ ser.length, (atomicWriteJson name rnds ser f files).files (tmpName name r) = some (ser.take k) := by
  have hfresh : files (tmpName name r) = none := by simpa using List.find?_some hr
  rw [(atomicWriteJson_eq files).1, (atomicWriteJson_eq files).2]
  simp only [outcome, hmkdir, hr, hcreate, Bool.false_eq_true, ↓reduceIte]
  cases hw : f.write.filter (fun k => decide (k ≤ ser.length)) with
  | some k => exact ⟨rfl, hfresh, k, by simpa using (Option.mem_filter_iff.1 hw).2, by simp⟩
  | none =>
    have hdump : (f.flush || f.fsync || f.close || f.replace) = true := by
      rcases hfail with ⟨k, hk, hwk⟩ | h
      · simp [hwk] at hw
        omega
      · rcases h with h | h | h <;> simp [h]
    exact ⟨rfl, hfresh, ser.length, le_rfl, by simp [afterDump, hdump]⟩

theorem fsync_failure_leaves_tmp_file :
    let files : Text → Option Text := fun p => if p = "status.json".toList then some "old".toList else none
    ["abc".toList].find? (fun r => files (tmpName "status.json".toList r) = none) = some "abc".toList ∧
      ({ fsync := true } : Faults).mkdir = false ∧ ({ fsync := true } : Faults).create = false ∧
      (atomicWriteJson "status.json".toList ["abc".toList] "{}".toList { fsync := true } files).pc =
          .done (.ok ()) ∧ files (tmpName "status.json".toList "abc".toList) = none ∧
        ∃ k ≤ "{}".toList.length, (atomicWriteJson "status.json".toList ["abc".toList] "{}".toList
          { fsync := true } files).files (tmpName "status.json".toList "abc".toList) = some ("{}".toList.take k) :=
  ⟨rfl, rfl, rfl, oserror_before_replace_leaves_tmp_file rfl rfl rfl (.inr (.inr (.inl rfl)))⟩

theorem outcome_result : (outcome name rnds ser f files).1 = if f.mkdir then .error .osError else .ok () := by
  unfold outcome
  split_ifs <;> (repeat' split) <;> rfl

theorem atomic_write_json_raises_only_when_mkdir_fails :
    (atomicWriteJson name rnds ser f files).pc = .done (if f.mkdir then .error .osError else .ok ()) := by
  rw [(atomicWriteJson_eq files).1, outcome_result]

theorem atomic_write_json_changes_only_path {r : Text}
    (hr : rnds.find? (fun r => files (tmpName name r) = none) = some r) :
    (atomicWriteJson name rnds ser {} files).files = setFile files name (some ser) := by
  have hfresh : files (tmpName name r) = none := by simpa using List.find?_some hr
  rw [(atomicWriteJson_eq files).2]
  funext y
  by_cases ht : y = tmpName name r
  · subst ht
    simp [outcome, hr, afterDump, replaceFile, setFile_of_ne (tmpName_ne name r), hfresh]
  · by_cases hn : y = name
    · subst hn
      simp [outcome, hr, afterDump, replaceFile_dst (tmpName_ne y r)]
    · simp [outcome, hr, afterDump, replaceFile, setFile_of_ne ht, setFile_of_ne hn]

theorem atomic_write_json_changes_only_status_file :
    ["abc".toList].find? (fun r => (fun _ => none : Text → Option Text) (tmpName "status.json".toList r) = none) =
        some "abc".toList ∧
      (atomicWriteJson "status.json".toList ["abc".toList] "{}".toList {} fun _ => none).files =
        setFile (fun _ => none) "status.json".toList (some "{}".toList) :=
  ⟨rfl, atomic_write_json_changes_only_path rfl⟩

end Results

end AprAuto.AtomicWrite
