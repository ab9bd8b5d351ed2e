import Mathlib.Data.List.Basic
import AprAuto.Process

namespace AprAuto.Git

open Process

inductive Code where
  | unmodified
  | modified
  | typeChanged
  | added
  | deleted
  | renamed
  | copied
  | unmerged
  | untracked
  | ignored
  deriving DecidableEq, Repr

def Code.char : Code → Char
  | .unmodified => ' '
  | .modified => 'M'
  | .typeChanged => 'T'
  | .added => 'A'
  | .deleted => 'D'
  | .renamed => 'R'
  | .copied => 'C'
  | .unmerged => 'U'
  | .untracked => '?'
  | .ignored => '!'

structure Entry where
  x : Code
  y : Code
  path : Text
  origPath : Option Text
  deriving DecidableEq, Repr

def Entry.header (e : Entry) : Text := e.x.char :: e.y.char :: ' ' :: e.path

def Entry.porcelainZ (e : Entry) : Text := e.header ++ '\x00' :: (e.origPath.map (· ++ ['\x00'])).getD []

def porcelainZ (es : List Entry) : Text := es.flatMap Entry.porcelainZ

def untrackedPath (entry : Text) : Option Text :=
  if Str.startswith entry "?? ".toList then
    let path := entry.drop 3
    if Str.startswith path ".apr/".toList then none
    else if path.isEmpty then none
    else some path
  else none

def untrackedPaths (stdout : Text) : List Text := (stdout.splitOn '\x00').filterMap untrackedPath

def stageCommand (status : Completed) : Option (List Text) :=
  if status.returncode = 0 ∧ status.stdout ≠ [] then
    let paths := untrackedPaths status.stdout
    if paths.isEmpty then none else some ("git".toList :: "add".toList :: "--".toList :: paths)
  else none

def commitMessage (roundNum : Int) (convInfo : Text) : Text :=
  "apr-auto: round ".toList ++ (toString roundNum).toList ++
    if convInfo.isEmpty then [] else " (".toList ++ convInfo ++ ")".toList

def commitCommand (roundNum : Int) (convInfo : Text) : List Text :=
  ["git".toList, "commit".toList, "-m".toList, commitMessage roundNum convInfo]

structure GitRuns where
  addTracked : ProcResult
  status : ProcResult
  addUntracked : List Text → ProcResult
  commit : List Text → ProcResult
  revParse : ProcResult
  pull : ProcResult
  push : ProcResult

def runBytes : ProcResult → Except RunError Unit
  | .timedOut => .error .timeoutExpired
  | .spawnFailed => .error (.raised .osError)
  | .completed _ _ _ => .ok ()

def guarded {α : Type} : Except RunError α → (α → Except PyExc (Option Text)) → Except PyExc (Option Text)
  | .ok a, k => k a
  | .error .timeoutExpired, _ => .ok none
  | .error (.raised .osError), _ => .ok none
  | .error (.raised e), _ => .error e

def gitCommitAndPush (roundNum : Int) (convInfo : Text) (x : GitRuns) : Except PyExc (Option Text) :=
  guarded (runBytes x.addTracked) fun _ =>
  guarded (run x.status) fun status =>
  guarded ((stageCommand status).elim (.ok ()) fun cmd => runBytes (x.addUntracked cmd)) fun _ =>
  guarded (run (x.commit (commitCommand roundNum convInfo))) fun result =>
  if result.returncode ≠ 0 then .ok none
  else
    guarded (run x.revParse) fun shaResult =>
    let sha := if shaResult.returncode = 0 then Str.strip shaResult.stdout else []
    guarded (run x.pull) fun _ =>
    guarded (run x.push) fun _ => .ok (some sha)

def Entry.fields (e : Entry) : List Text := e.header :: e.origPath.toList

def Entry.staged (e : Entry) : Bool :=
  e.x == .untracked && e.y == .untracked && !Str.startswith e.path ".apr/".toList && !e.path.isEmpty

def Entry.decode (e : Entry) : Entry :=
  { e with path := Str.universalNewlines e.path, origPath := e.origPath.map Str.universalNewlines }

section Format

theorem char_plain (c : Code) : c.char ≠ '\x00' ∧ c.char ≠ '\r' := by
  cases c <;> decide

theorem porcelainZ_cons (e : Entry) (es : List Entry) : porcelainZ (e :: es) = e.porcelainZ ++ porcelainZ es :=
  List.flatMap_cons _ _ _

theorem splitOn_append_nul {s : Text} (hs : '\x00' ∉ s) (rest : Text) :
    (s ++ '\x00' :: rest).splitOn '\x00' = s :: rest.splitOn '\x00' :=
  List.splitOnP_first (· == '\x00') s (fun _ hc he => hs (eq_of_beq he ▸ hc)) '\x00' (beq_self_eq_true _) rest

theorem nul_not_mem_header {e : Entry} (hp : '\x00' ∉ e.path) : '\x00' ∉ e.header := by
  simp only [Entry.header, List.mem_cons, not_or]
  exact ⟨(char_plain e.x).1.symm, (char_plain e.y).1.symm, by decide, hp⟩

theorem splitOn_porcelainZ (es : List Entry) (h : ∀ e ∈ es, '\x00' ∉ e.path ∧ ∀ o ∈ e.origPath, '\x00' ∉ o) :
    (porcelainZ es).splitOn '\x00' = es.flatMap Entry.fields ++ [[]] := by
  induction es with
  | nil => rfl
  | cons e es ih =>
      obtain ⟨hp, ho⟩ := h e (.head _)
      have ih := ih fun e he => h e (.tail _ he)
      rw [porcelainZ_cons, Entry.porcelainZ, List.append_assoc, List.cons_append,
        splitOn_append_nul (nul_not_mem_header hp), List.flatMap_cons, Entry.fields]
      cases horig : e.origPath with
      | none => simp [ih]
      | some o =>
          rw [horig] at ho
          simp only [Option.map_some', Option.getD_some, List.append_assoc, List.singleton_append,
            splitOn_append_nul (ho o rfl), List.nil_append, ih, Option.toList_some, List.cons_append]

theorem question_beq_char (c : Code) : ('?' == c.char) = (c == .untracked) := by
  cases c <;> rfl

theorem startswith_header (e : Entry) :
    Str.startswith e.header "?? ".toList = (e.x == .untracked && e.y == .untracked) := by
  simp only [Str.startswith, Entry.header, show "?? ".toList = ['?', '?', ' '] from rfl, List.isPrefixOf_cons₂,
    question_beq_char, beq_self_eq_true, List.isPrefixOf_nil_left, Bool.and_true]

theorem untrackedPath_header (e : Entry) : untrackedPath e.header = if e.staged then some e.path else none := by
  rw [untrackedPath, startswith_header, Entry.staged]
  show (if _ then (if Str.startswith e.path _ then none else if e.path.isEmpty then none else some e.path) else none) = _
  cases (e.x == .untracked && e.y == .untracked) <;> cases Str.startswith e.path ".apr/".toList <;>
    cases e.path.isEmpty <;> rfl

theorem fields_filterMap {e : Entry} (ho : ∀ o ∈ e.origPath, Str.startswith o "?? ".toList = false) :
    e.fields.filterMap untrackedPath = if e.staged then [e.path] else [] := by
  have horig : e.origPath.toList.filterMap untrackedPath = [] := by
    cases horig : e.origPath with
    | none => rfl
    | some o =>
        have hnone : untrackedPath o = none := by
          rw [untrackedPath, ho o horig]
          rfl
        simp [hnone]
  rw [Entry.fields, List.filterMap_cons, untrackedPath_header, horig]
  cases e.staged <;> rfl

theorem untrackedPaths_porcelainZ (es : List Entry)
    (h : ∀ e ∈ es, '\x00' ∉ e.path ∧ ∀ o ∈ e.origPath, '\x00' ∉ o ∧ Str.startswith o "?? ".toList = false) :
    untrackedPaths (porcelainZ es) = (es.filter Entry.staged).map Entry.path := by
  rw [untrackedPaths, splitOn_porcelainZ es fun e he => ⟨(h e he).1, fun o ho => ((h e he).2 o ho).1⟩,
    List.filterMap_append]
  show _ ++ [] = _
  rw [List.append_nil]
  induction es with
  | nil => rfl
  | cons e es ih =>
      rw [List.flatMap_cons, List.filterMap_append, fields_filterMap fun o ho => ((h e (.head _)).2 o ho).2,
        ih fun e he => h e (.tail _ he), List.filter_cons]
      split <;> rfl

theorem universalNewlines_header (e : Entry) : Str.universalNewlines e.header = e.decode.header := by
  rw [Entry.header, Str.universalNewlines_cons_of_ne (char_plain e.x).2,
    Str.universalNewlines_cons_of_ne (char_plain e.y).2, Str.universalNewlines_cons_of_ne (by decide)]
  rfl

theorem nul_head_ne_newline (t : Text) : ∀ c ∈ ('\x00' :: t).head?, c ≠ '\n' := by
  intro c hc
  cases hc
  decide

theorem universalNewlines_porcelainZ (es : List Entry) :
    Str.universalNewlines (porcelainZ es) = porcelainZ (es.map Entry.decode) := by
  induction es with
  | nil => rfl
  | cons e es ih =>
      rw [List.map_cons, porcelainZ_cons, porcelainZ_cons, Entry.porcelainZ, Entry.porcelainZ, List.append_assoc,
        List.cons_append, Str.universalNewlines_append (nul_head_ne_newline _), universalNewlines_header,
        Str.universalNewlines_cons_of_ne (by decide), List.append_assoc, List.cons_append]
      cases horig : e.origPath with
      | none => simp [Entry.decode, horig, ih]
      | some o =>
          simp only [Entry.decode, horig, Option.map_some', Option.getD_some, List.append_assoc,
            List.singleton_append, Str.universalNewlines_append (nul_head_ne_newline _),
            Str.universalNewlines_cons_of_ne (show '\x00' ≠ '\r' by decide), ih]

theorem staged_decode (e : Entry) : e.decode.staged = e.staged := by
  rw [Entry.staged, Entry.staged, Entry.decode]
  dsimp only
  rw [Str.startswith_universalNewlines e.path (by decide), Str.isEmpty_universalNewlines]

theorem decode_plain {e : Entry}
    (h : '\x00' ∉ e.path ∧ ∀ o ∈ e.origPath, '\x00' ∉ o ∧ Str.startswith o "?? ".toList = false) :
    '\x00' ∉ e.decode.path ∧ ∀ o ∈ e.decode.origPath, '\x00' ∉ o ∧ Str.startswith o "?? ".toList = false := by
  have hnul {s : Text} (hs : '\x00' ∉ s) : '\x00' ∉ Str.universalNewlines s := fun hm =>
    (Str.mem_universalNewlines hm).elim hs (by decide)
  refine ⟨hnul h.1, fun o ho => ?_⟩
  obtain ⟨o', ho', rfl⟩ := Option.mem_map.1 ho
  exact ⟨hnul (h.2 o' ho').1, (Str.startswith_universalNewlines o' (by decide)).trans (h.2 o' ho').2⟩

end Format

theorem stage_command_adds_untracked_paths_outside_apr (es : List Entry) (err : Text)
    (h : ∀ e ∈ es, '\x00' ∉ e.path ∧ ∀ o ∈ e.origPath, '\x00' ∉ o ∧ Str.startswith o "?? ".toList = false) :
    stageCommand ⟨0, Str.universalNewlines (porcelainZ es), err⟩ =
      if es.filter Entry.staged = [] then none
      else some ("git".toList :: "add".toList :: "--".toList ::
        (es.filter Entry.staged).map fun e => Str.universalNewlines e.path) := by
  have hpaths : untrackedPaths (Str.universalNewlines (porcelainZ es)) =
      (es.filter Entry.staged).map fun e => Str.universalNewlines e.path := by
    rw [universalNewlines_porcelainZ, untrackedPaths_porcelainZ _ (List.forall_mem_map.2 fun e he => decode_plain (h e he)),
      List.filter_map, List.map_map]
    congr 2
    funext e
    exact staged_decode e
  unfold stageCommand
  dsimp only
  rw [hpaths]
  cases es with
  | nil => rfl
  | cons e es =>
      have hne : Str.universalNewlines (porcelainZ (e :: es)) ≠ [] := by
        rw [ne_eq, ← List.isEmpty_iff, Str.isEmpty_universalNewlines, porcelainZ_cons, Entry.porcelainZ, Entry.header]
        exact Bool.false_ne_true
      rw [if_pos ⟨rfl, hne⟩]
      simp only [List.isEmpty_iff, List.map_eq_nil_iff]

theorem stage_command_skips_tracked_and_apr_entries :
    stageCommand ⟨0, Str.universalNewlines (porcelainZ [⟨.untracked, .untracked, "notes.md".toList, none⟩,
      ⟨.untracked, .untracked, ".apr/rounds/round_3.md".toList, none⟩,
      ⟨.renamed, .unmodified, "b.py".toList, some "a.py".toList⟩]), []⟩ =
      some ["git".toList, "add".toList, "--".toList, "notes.md".toList] :=
  (stage_command_adds_untracked_paths_outside_apr _ [] (by decide)).trans (by decide)

end AprAuto.Git
