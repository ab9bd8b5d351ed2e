import AprAuto.Config
import AprAuto.Store
import Mathlib.Algebra.Order.Field.Rat
import Mathlib.Algebra.Order.Field.Basic
import Mathlib.Tactic.Linarith

namespace AprAuto.Truncation

open Store

def noVowelFragment (db : UnicodeDb) (last : Text) : Bool :=
  3 < last.length && (last.getLast?.map db.isalpha).getD false &&
    !"aeiouy".toList.any fun v => (last.flatMap db.lower).contains v

def endsSuspiciously (db : UnicodeDb) (content : Text) (chars : Nat) : Bool :=
  let stripped := Str.rstrip content
  if stripped.isEmpty then false
  else match (Str.split stripped).getLast? with
    | none => false
    | some last =>
        if Str.endswith stripped "``".toList && !Str.endswith stripped "```".toList then true
        else if noVowelFragment db last then true
        else match (Str.splitlines stripped).getLast? with
          | some lastLine => Str.startswith lastLine "#".toList && decide (chars < 1000)
          | none => false

def belowRollingAverage (chars : Nat) (outputSizes : List Nat) : Bool :=
  !outputSizes.isEmpty && 0 < chars &&
    decide ((chars : ℚ) < (outputSizes.sum : ℚ) / outputSizes.length * (3 / 10))

def truncatedContent (db : UnicodeDb) (content : Text) (outputSizes : List Nat) : Bool :=
  let chars := content.length
  if chars < minOutputChars then true
  else if content.count '\n' < minOutputLines then true
  else if endsSuspiciously db content chars then true
  else belowRollingAverage chars outputSizes

def checkOutputTruncation (db : UnicodeDb) (d : Dir) (roundNum : Int) (outputSizes : List Nat) :
    Bool :=
  match d.get (roundFile roundNum) with
  | none => true
  | some e =>
      match e.readText with
      | .ok content => truncatedContent db content outputSizes
      | .error _ => true

theorem belowRollingAverage_iff (chars : Nat) (outputSizes : List Nat) :
    belowRollingAverage chars outputSizes = true ↔
      outputSizes ≠ [] ∧ 0 < chars ∧ 10 * chars * outputSizes.length < 3 * outputSizes.sum := by
  cases outputSizes with
  | nil => simp [belowRollingAverage]
  | cons x xs =>
      have hl : (0 : ℚ) < (x :: xs).length := by simp only [List.length_cons]; positivity
      have key : (chars : ℚ) < ((x :: xs).sum : ℚ) / (x :: xs).length * (3 / 10) ↔
          10 * chars * (x :: xs).length < 3 * (x :: xs).sum := by
        rw [div_mul_eq_mul_div, lt_div_iff₀ hl, ← Nat.cast_lt (α := ℚ)]
        push_cast
        constructor <;> intro h <;> linarith
      simp only [belowRollingAverage, List.isEmpty_cons, Bool.not_false, Bool.true_and,
        Bool.and_eq_true, decide_eq_true_eq, key, ne_eq, List.cons_ne_nil, not_false_eq_true, true_and]

theorem belowRollingAverage_nil (chars : Nat) : belowRollingAverage chars [] = false := rfl

theorem minOutputChars_le_of_truncatedContent_eq_false {db : UnicodeDb} {content : Text}
    {outputSizes : List Nat} (h : truncatedContent db content outputSizes = false) :
    minOutputChars ≤ content.length := by
  by_contra hc
  simp [truncatedContent, Nat.lt_of_not_le hc] at h

theorem checkOutputTruncation_eq_false {db : UnicodeDb} {d : Dir} {n : Int}
    {outputSizes : List Nat} (h : checkOutputTruncation db d n outputSizes = false) :
    ∃ raw, d.get (roundFile n) = some (.file raw) ∧
      truncatedContent db (Str.universalNewlines raw) outputSizes = false := by
  unfold checkOutputTruncation at h
  split at h
  · simp at h
  · rename_i e he
    cases e with
    | file raw => exact ⟨raw, he, h⟩
    | special _ => simp [Entry.readText] at h
    | dangling => simp [Entry.readText] at h

theorem truncatedContent_eq_belowRollingAverage {db : UnicodeDb} {content : Text}
    {outputSizes : List Nat} (h1 : minOutputChars ≤ content.length)
    (h2 : minOutputLines ≤ content.count '\n') (h3 : endsSuspiciously db content content.length = false) :
    truncatedContent db content outputSizes = belowRollingAverage content.length outputSizes := by
  simp [truncatedContent, Nat.not_lt.mpr h1, Nat.not_lt.mpr h2, h3]

set_option maxRecDepth 10000 in
theorem seeded_byte_sizes_flag_repeated_round (db : UnicodeDb) :
    let c : Text := List.flatten (List.replicate 5 (List.replicate 40 '😀' ++ " ok\n".toList))
    let d : Dir := ⟨[(.round 1, .file c), (.round 2, .file c)]⟩
    c.length = 220 ∧ Str.utf8Len c = 820 ∧ seedOutputSizes d 1 = [820] ∧
      checkOutputTruncation db d 2 [c.length] = false ∧
      checkOutputTruncation db d 2 (seedOutputSizes d 1) = true := by
  intro c d
  have hlen : c.length = 220 := rfl
  have hseed : seedOutputSizes d 1 = [820] := rfl
  have hcheck : ∀ sizes, checkOutputTruncation db d 2 sizes = belowRollingAverage 220 sizes := fun sizes =>
    (truncatedContent_eq_belowRollingAverage (by decide) (by decide) rfl :
      truncatedContent db c sizes = belowRollingAverage c.length sizes)
  refine ⟨hlen, rfl, hseed, ?_, ?_⟩
  · rw [hlen, hcheck, Bool.eq_false_iff, Ne, belowRollingAverage_iff]
    decide
  · rw [hseed, hcheck, belowRollingAverage_iff]
    decide

end AprAuto.Truncation
