import AprAuto.Config

namespace AprAuto.Shell

def safeChar (c : Char) : Bool :=
  'a' ≤ c && c ≤ 'z' || 'A' ≤ c && c ≤ 'Z' || '0' ≤ c && c ≤ '9' || "%+,-./:=@_".toList.contains c

def escape (s : Text) : Text := s.flatMap fun c => if c = '\'' then "'\"'\"'".toList else [c]

def quote (s : Text) : Text :=
  if s.isEmpty then "''".toList
  else if s.all safeChar then s
  else '\'' :: escape s ++ ['\'']

inductive Token where
  | word (w : Text)
  | andIf
  deriving DecidableEq, Repr

inductive Mode where
  | gap
  | plain
  | single
  | double
  | amp
  deriving DecidableEq, Repr

def isBlank (c : Char) : Bool := c = ' ' || c = '\t'

def lex : Mode → Text → List Token → Text → Option (List Token)
  | .gap, _, toks, [] => some toks.reverse
  | .gap, _, toks, c :: cs =>
      if isBlank c then lex .gap [] toks cs
      else if c = '&' then lex .amp [] toks cs
      else if c = '\'' then lex .single [] toks cs
      else if c = '"' then lex .double [] toks cs
      else if safeChar c then lex .plain [c] toks cs
      else none
  | .plain, acc, toks, [] => some (.word acc.reverse :: toks).reverse
  | .plain, acc, toks, c :: cs =>
      if isBlank c then lex .gap [] (.word acc.reverse :: toks) cs
      else if c = '\'' then lex .single acc toks cs
      else if c = '"' then lex .double acc toks cs
      else if safeChar c then lex .plain (c :: acc) toks cs
      else none
  | .single, _, _, [] => none
  | .single, acc, toks, c :: cs =>
      if c = '\'' then lex .plain acc toks cs else lex .single (c :: acc) toks cs
  | .double, _, _, [] => none
  | .double, acc, toks, c :: cs =>
      if c = '"' then lex .plain acc toks cs
      else if c = '\\' || c = '$' || c = '`' then none
      else lex .double (c :: acc) toks cs
  | .amp, _, _, [] => none
  | .amp, _, toks, c :: cs => if c = '&' then lex .gap [] (.andIf :: toks) cs else none

def words (cmd : Text) : Option (List Token) := lex .gap [] [] cmd

def recoveryCommand (cfg : Config) : Text :=
  "/usr/local/bin/node ".toList ++ quote cfg.cdpRecoveryScriptPath ++ " --timeout 120 --min-length ".toList ++
    (toString minOutputChars).toList

def probeCommand (cfg : Config) : Text :=
  "test -f ".toList ++ quote cfg.cdpRecoveryScriptPath ++ " && echo ok".toList

section Lex

variable {acc : Text} {toks : List Token} {rest : Text}

theorem safeChar_special {c : Char} (h : safeChar c = true) :
    isBlank c = false ∧ c ≠ '&' ∧ c ≠ '\'' ∧ c ≠ '"' := by
  refine ⟨?_, ?_, ?_, ?_⟩
  · simp only [isBlank, Bool.or_eq_false_iff, decide_eq_false_iff_not]
    constructor <;> rintro rfl <;> revert h <;> decide
  all_goals rintro rfl; revert h; decide

theorem escape_quote_cons (s : Text) : escape ('\'' :: s) = '\'' :: '"' :: '\'' :: '"' :: '\'' :: escape s := rfl

theorem escape_cons_of_ne {c : Char} (s : Text) (hc : c ≠ '\'') : escape (c :: s) = c :: escape s := by
  simp [escape, hc]

theorem lex_plain_safe {s : Text} (hs : ∀ c ∈ s, safeChar c = true) :
    lex .plain acc toks (s ++ rest) = lex .plain (s.reverse ++ acc) toks rest := by
  induction s generalizing acc with
  | nil => rfl
  | cons c s ih =>
      obtain ⟨hb, -, hq, hd⟩ := safeChar_special (hs c (.head _))
      rw [List.cons_append, lex, if_neg (by simp [hb]), if_neg hq, if_neg hd,
        if_pos (hs c (.head _)), ih fun c hc => hs c (.tail _ hc)]
      simp

theorem lex_single_escape (s : Text) :
    lex .single acc toks (escape s ++ '\'' :: rest) = lex .plain (s.reverse ++ acc) toks rest := by
  induction s generalizing acc with
  | nil => rfl
  | cons c s ih =>
      by_cases hc : c = '\''
      · subst hc
        rw [escape_quote_cons]
        exact (ih : lex .single ('\'' :: acc) toks _ = _).trans (by simp)
      · rw [escape_cons_of_ne s hc, List.cons_append, lex, if_neg hc, ih]
        simp

theorem lex_gap_safe {w : Text} (hw : ∀ c ∈ w, safeChar c = true) (hne : w ≠ []) :
    lex .gap acc toks (w ++ rest) = lex .plain w.reverse toks rest := by
  obtain ⟨c, w, rfl⟩ := List.exists_cons_of_ne_nil hne
  obtain ⟨hb, ha, hq, hd⟩ := safeChar_special (hw c (.head _))
  rw [List.cons_append, lex, if_neg (by simp [hb]), if_neg ha, if_neg hq, if_neg hd, if_pos (hw c (.head _)),
    lex_plain_safe fun c hc => hw c (.tail _ hc)]
  simp

theorem lex_quote (s : Text) : lex .gap acc toks (quote s ++ rest) = lex .plain s.reverse toks rest := by
  unfold quote
  split_ifs with he hs
  · rw [List.isEmpty_iff.1 he]
    rfl
  · exact lex_gap_safe (List.all_eq_true.1 hs) (mt List.isEmpty_iff.2 he)
  · rw [List.append_assoc, List.cons_append, List.singleton_append]
    exact lex_single_escape s |>.trans (by rw [List.append_nil])

theorem lex_plain_blank : lex .plain acc toks (' ' :: rest) = lex .gap [] (.word acc.reverse :: toks) rest := rfl

theorem lex_gap_word {w : Text} (hw : ∀ c ∈ w, safeChar c = true) (hne : w ≠ []) :
    lex .gap acc toks (w ++ ' ' :: rest) = lex .gap [] (.word w :: toks) rest := by
  rw [lex_gap_safe hw hne, lex_plain_blank, List.reverse_reverse]

end Lex

theorem recovery_command_passes_script_as_one_argument (cfg : Config) :
    words (recoveryCommand cfg) = some [.word "/usr/local/bin/node".toList, .word cfg.cdpRecoveryScriptPath,
      .word "--timeout".toList, .word "120".toList, .word "--min-length".toList, .word "200".toList] := by
  rw [words, recoveryCommand, show ("/usr/local/bin/node ".toList : Text) = "/usr/local/bin/node".toList ++ [' ']
    from rfl, List.append_assoc, List.append_assoc, List.append_assoc, List.singleton_append,
    lex_gap_word (by decide) (by decide), lex_quote, show (" --timeout 120 --min-length ".toList : Text) =
    ' ' :: "--timeout 120 --min-length ".toList from rfl, List.cons_append, lex_plain_blank, List.reverse_reverse]
  rfl

theorem probe_command_tests_script_path (cfg : Config) :
    words (probeCommand cfg) = some [.word "test".toList, .word "-f".toList, .word cfg.cdpRecoveryScriptPath,
      .andIf, .word "echo".toList, .word "ok".toList] := by
  rw [words, probeCommand, show ("test -f ".toList : Text) = "test".toList ++ ' ' :: ("-f".toList ++ [' '])
    from rfl, List.append_assoc, List.append_assoc, List.cons_append, lex_gap_word (by decide) (by decide),
    List.append_assoc, List.singleton_append, lex_gap_word (by decide) (by decide), lex_quote,
    show (" && echo ok".toList : Text) = ' ' :: "&& echo ok".toList from rfl, lex_plain_blank, List.reverse_reverse]
  rfl

end AprAuto.Shell
