import AprAuto.Process
import Mathlib.Tactic.NormNum
import Mathlib.Tactic.Linarith
import Mathlib.Data.Rat.Floor

namespace AprAuto.Score

inductive Json where
  | null
  | bool (b : Bool)
  | int (i : Int)
  | float (x : PyFloat)
  | str (s : Text)
  | arr (xs : List Json)
  | obj (kvs : List (Text × Json))

namespace Json

def lookup (kvs : List (Text × Json)) (k : Text) : Option Json :=
  kvs.foldl (fun acc kv => if kv.1 = k then some kv.2 else acc) none

def truthy : Json → Bool
  | null => false
  | bool b => b
  | int i => i ≠ 0
  | float (.num q) => q ≠ 0
  | float _ => true
  | str s => !s.isEmpty
  | arr xs => !xs.isEmpty
  | obj kvs => !kvs.isEmpty

def get (d : Json) (k : Text) : Except PyExc (Option Json) :=
  match d with
  | obj kvs => .ok (lookup kvs k)
  | _ => .error .attributeError

theorem get_eq_error {d : Json} {k : Text} {e : PyExc} (h : d.get k = .error e) : e = .attributeError := by
  cases d <;> simp only [get, reduceCtorEq, Except.error.injEq] at h <;> exact h.symm

end Json

def floatOverflowBound : Nat := 2 ^ 1024 - 2 ^ 970

def toFloat (R : Rounding) (floatOfStr : Text → Option PyFloat) : Json → Except PyExc (Option PyFloat)
  | .bool b => .ok (some (.num (if b then 1 else 0)))
  | .int i => if floatOverflowBound ≤ i.natAbs then .error .overflowError else .ok (some (R.round i))
  | .float x => .ok (some x)
  | .str s => .ok (floatOfStr s)
  | _ => .ok none

def firstScore (R : Rounding) (floatOfStr : Text → Option PyFloat) :
    List (Option Json) → Except PyExc (Option PyFloat)
  | [] => .ok none
  | none :: rest => firstScore R floatOfStr rest
  | some .null :: rest => firstScore R floatOfStr rest
  | some raw :: rest =>
      match toFloat R floatOfStr raw with
      | .error e => .error e
      | .ok none => firstScore R floatOfStr rest
      | .ok (some val) =>
          if val.le (.num 1) then .ok (some (PyFloat.mul100 R val))
          else if val.le (.num 100) then .ok (some val)
          else firstScore R floatOfStr rest

def extractStabilityScore (R : Rounding) (floatOfStr : Text → Option PyFloat) (data : Json) :
    Except PyExc (Option PyFloat) := do
  let found ← data.get "convergence".toList
  let conv := match found with
    | some v => if v.truthy then v else .obj []
    | none => .obj []
  let candidates := [← conv.get "score".toList, ← conv.get "confidence".toList,
    ← conv.get "stability_score".toList, ← data.get "convergence_score".toList,
    ← data.get "stability_score".toList]
  firstScore R floatOfStr candidates

theorem lt_floatOverflowBound {n : Nat} (h : n ≤ 2 ^ 53) : n < floatOverflowBound := by
  have hb : 2 ^ 53 < floatOverflowBound := by norm_num [floatOverflowBound]
  omega

section Rounded

variable {R : Rounding} {floatOfStr : Text → Option PyFloat}

theorem toFloat_int {i : Int} (h : i.natAbs ≤ 2 ^ 53) :
    toFloat R floatOfStr (.int i) = .ok (some (.num i)) := by
  simp [toFloat, Nat.not_le.mpr (lt_floatOverflowBound h), R.exact i h]

theorem toFloat_int_overflow {i : Int} (h : floatOverflowBound ≤ i.natAbs) :
    toFloat R floatOfStr (.int i) = .error .overflowError := by
  simp [toFloat, h]

theorem PyFloat.mul100_le_hundred {x : PyFloat} (h : x.le (.num 1) = true) :
    (PyFloat.mul100 R x).le (.num 100) = true := by
  cases x with
  | num q =>
      have hq : q * 100 ≤ ((100 : Int) : ℚ) := by
        simp only [PyFloat.le, decide_eq_true_eq] at h
        push_cast
        linarith
      have hr := R.mono _ _ hq
      rw [R.exact 100 (by norm_num), Int.cast_ofNat] at hr
      exact hr
  | _ => simp_all [PyFloat.le, PyFloat.mul100]

theorem firstScore_le_hundred {cs : List (Option Json)} {v : PyFloat}
    (h : firstScore R floatOfStr cs = .ok (some v)) : v.le (.num 100) = true := by
  induction cs using firstScore.induct R floatOfStr with
  | case1 => simp [firstScore] at h
  | case2 rest ih => exact ih (by simpa [firstScore] using h)
  | case3 rest ih => exact ih (by simpa [firstScore] using h)
  | case4 raw rest hn e he => simp [firstScore, hn, he] at h
  | case5 raw rest hn he ih => exact ih (by simpa [firstScore, hn, he] using h)
  | case6 raw rest hn val he h1 =>
      simp only [firstScore, hn, he, h1, if_true, Except.ok.injEq, Option.some.injEq] at h
      exact h ▸ PyFloat.mul100_le_hundred h1
  | case7 raw rest hn val he h1 h2 =>
      simp only [firstScore, hn, he, h1, h2, if_true, Bool.false_eq_true, if_false, Except.ok.injEq,
        Option.some.injEq] at h
      exact h ▸ h2
  | case8 raw rest hn val he h1 h2 ih => exact ih (by simpa [firstScore, hn, he, h1, h2] using h)

theorem extractStabilityScore_le_hundred {data : Json} {v : PyFloat}
    (h : extractStabilityScore R floatOfStr data = .ok (some v)) : v.le (.num 100) = true := by
  unfold extractStabilityScore at h
  obtain ⟨_, -, h⟩ := bind_eq_ok.mp h
  obtain ⟨_, -, h⟩ := bind_eq_ok.mp h
  obtain ⟨_, -, h⟩ := bind_eq_ok.mp h
  obtain ⟨_, -, h⟩ := bind_eq_ok.mp h
  obtain ⟨_, -, h⟩ := bind_eq_ok.mp h
  obtain ⟨_, -, h⟩ := bind_eq_ok.mp h
  exact firstScore_le_hundred h

theorem extractStabilityScore_obj {kvs : List (Text × Json)} (h : Json.lookup kvs "convergence".toList = none) :
    extractStabilityScore R floatOfStr (.obj kvs) = firstScore R floatOfStr
      [none, none, none, Json.lookup kvs "convergence_score".toList,
        Json.lookup kvs "stability_score".toList] := by
  simp only [extractStabilityScore, Json.get, bind, Except.bind] at h ⊢
  rw [h]
  rfl

end Rounded

def Rounding.grid (p : Nat) : Rounding where
  round q := .num (⌊q * 2 ^ p⌋ / 2 ^ p)
  mono a b h := by
    simp only [PyFloat.le, decide_eq_true_eq]
    exact div_le_div_of_nonneg_right (Int.cast_le.mpr (Int.floor_mono
      (mul_le_mul_of_nonneg_right h (pow_nonneg (by norm_num) p)))) (pow_nonneg (by norm_num) p)
  exact i _ := by
    dsimp only
    congr 1
    rw [show (i : ℚ) * 2 ^ p = ((i * 2 ^ p : Int) : ℚ) by push_cast; rfl, Int.floor_intCast]
    push_cast
    field_simp

theorem extractStabilityScore_le_hundred_of_negInf :
    extractStabilityScore (Rounding.grid 52) (fun _ => none) (.obj [("stability_score".toList, .float .negInf)]) =
        .ok (some .negInf) ∧ PyFloat.negInf.le (.num 100) = true :=
  ⟨rfl, @extractStabilityScore_le_hundred (Rounding.grid 52) (fun _ => none)
    (.obj [("stability_score".toList, .float .negInf)]) .negInf rfl⟩

theorem stability_score_escapes_percent_range (R : Rounding) :
    extractStabilityScore R (fun _ => none) (.obj [("stability_score".toList, .int (-5))]) =
        .ok (some (.num (-500))) ∧
      extractStabilityScore R (fun _ => none) (.arr []) = .error .attributeError ∧
      extractStabilityScore R (fun _ => none) (.obj [("stability_score".toList, .bool true)]) =
        .ok (some (.num 100)) ∧
      extractStabilityScore R (fun _ => none)
          (.obj [("stability_score".toList, .int floatOverflowBound)]) = .error .overflowError ∧
      extractStabilityScore R (fun _ => none) (.obj [("stability_score".toList, .float .negInf)]) =
        .ok (some .negInf) := by
  refine ⟨(extractStabilityScore_obj (by rfl)).trans ?_, rfl, (extractStabilityScore_obj (by rfl)).trans ?_,
    (extractStabilityScore_obj (by rfl)).trans ?_, rfl⟩
  · have h500 : ((-5 : Int) : ℚ) * 100 = ((-500 : Int) : ℚ) := by norm_num
    simp only [Json.lookup, List.foldl, firstScore, toFloat_int (show (-5 : Int).natAbs ≤ 2 ^ 53 by decide),
      PyFloat.le, PyFloat.mul100, h500, R.exact (-500) (by decide)]
    norm_num
  · have h100 : ((1 : ℚ) * 100) = ((100 : Int) : ℚ) := by norm_num
    simp only [Json.lookup, List.foldl, firstScore, toFloat, PyFloat.le, PyFloat.mul100, if_true, h100,
      R.exact 100 (by decide)]
    norm_num
  · simp only [Json.lookup, List.foldl, firstScore, toFloat_int_overflow (Int.natAbs_ofNat floatOverflowBound).ge]

def readStabilityScore (R : Rounding) (loads : Text → Except PyExc Json) (floatOfStr : Text → Option PyFloat)
    (p : Process.ProcResult) : Except PyExc (Option PyFloat) :=
  match Process.run p with
  | .error .timeoutExpired => .ok none
  | .error (.raised .osError) => .ok none
  | .error (.raised e) => .error e
  | .ok r =>
      if r.returncode ≠ 0 || (Str.strip r.stdout).isEmpty then .ok none
      else match loads (Str.strip r.stdout) with
        | .ok data => extractStabilityScore R floatOfStr data
        | .error .jsonDecodeError => .ok none
        | .error e => .error e

end AprAuto.Score
