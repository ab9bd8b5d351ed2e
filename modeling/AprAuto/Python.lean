import Mathlib.Data.Rat.Defs
import Mathlib.Algebra.Group.Nat.Basic

namespace AprAuto

abbrev Text := List Char

inductive PyExc where
  | osError
  | unicodeDecodeError
  | unicodeError
  | jsonDecodeError
  | valueError
  | recursionError
  | attributeError
  | overflowError
  deriving DecidableEq, Repr

theorem bind_eq_ok {ε α β : Type} {x : Except ε α} {f : α → Except ε β} {b : β} :
    x >>= f = .ok b ↔ ∃ a, x = .ok a ∧ f a = .ok b := by
  cases x <;> simp [bind, Except.bind]

theorem ite_pure_eq_ok_of_neg {ε α : Type} {c : Prop} [Decidable c] {x : Except ε α} {v a : α}
    (h : (if c then x else pure v) = .ok a) (hc : ¬c) : a = v := by
  rw [if_neg hc] at h
  cases h
  rfl

namespace Str

def isspace (c : Char) : Bool :=
  let n := c.toNat
  (9 ≤ n && n ≤ 13) || (28 ≤ n && n ≤ 32) || n = 133 || n = 160 || n = 5760 ||
    (8192 ≤ n && n ≤ 8202) || n = 8232 || n = 8233 || n = 8239 || n = 8287 || n = 12288

def isLineBoundary (c : Char) : Bool :=
  let n := c.toNat
  (10 ≤ n && n ≤ 13) || (28 ≤ n && n ≤ 30) || n = 133 || n = 8232 || n = 8233

def lstripBy (p : Char → Bool) (s : Text) : Text := s.dropWhile p

def rstripBy (p : Char → Bool) (s : Text) : Text := (s.reverse.dropWhile p).reverse

def stripBy (p : Char → Bool) (s : Text) : Text := rstripBy p (lstripBy p s)

def strip (s : Text) : Text := stripBy isspace s

def rstrip (s : Text) : Text := rstripBy isspace s

def startswith (s pre : Text) : Bool := pre.isPrefixOf s

def endswith (s suf : Text) : Bool := suf.isSuffixOf s

def splitOnce (sep : Char) (s : Text) : Text × Text :=
  (s.takeWhile (· != sep), (s.dropWhile (· != sep)).drop 1)

def rsplitOnce (sep : Char) (s : Text) : Text × Text :=
  let parts := splitOnce sep s.reverse
  (parts.2.reverse, parts.1.reverse)

def splitFrom : Text → Text → List Text
  | cur, [] => if cur.isEmpty then [] else [cur.reverse]
  | cur, c :: cs =>
      if isspace c then
        if cur.isEmpty then splitFrom [] cs else cur.reverse :: splitFrom [] cs
      else splitFrom (c :: cur) cs

def split (s : Text) : List Text := splitFrom [] s

def splitlinesFrom : Text → Text → List Text
  | cur, [] => if cur.isEmpty then [] else [cur.reverse]
  | cur, '\r' :: '\n' :: cs => cur.reverse :: splitlinesFrom [] cs
  | cur, c :: cs =>
      if isLineBoundary c then cur.reverse :: splitlinesFrom [] cs
      else splitlinesFrom (c :: cur) cs

def splitlines (s : Text) : List Text := splitlinesFrom [] s

def universalNewlines : Text → Text
  | '\r' :: '\n' :: cs => '\n' :: universalNewlines cs
  | '\r' :: cs => '\n' :: universalNewlines cs
  | c :: cs => c :: universalNewlines cs
  | [] => []

def utf8Len : Text → Nat
  | [] => 0
  | c :: cs => c.utf8Size + utf8Len cs

theorem universalNewlines_of_no_cr (s : Text) (h : '\r' ∉ s) : universalNewlines s = s := by
  induction s using universalNewlines.induct <;> simp_all [universalNewlines]

theorem not_cr_mem_universalNewlines (s : Text) : '\r' ∉ universalNewlines s := by
  induction s using universalNewlines.induct <;> simp_all [universalNewlines, @eq_comm _ '\r']

theorem universalNewlines_cons_of_ne {c : Char} (hc : c ≠ '\r') (s : Text) :
    universalNewlines (c :: s) = c :: universalNewlines s :=
  universalNewlines.eq_3 c s (fun _ h => absurd h hc) hc

theorem universalNewlines_cr_of_head {s : Text} (hs : ∀ c ∈ s.head?, c ≠ '\n') :
    universalNewlines ('\r' :: s) = '\n' :: universalNewlines s :=
  universalNewlines.eq_2 s fun cs h => hs '\n' (by simp [h]) rfl

theorem head?_append_ne_newline {cs b : Text} (hcs : ∀ c ∈ cs.head?, c ≠ '\n') (hb : ∀ c ∈ b.head?, c ≠ '\n') :
    ∀ c ∈ (cs ++ b).head?, c ≠ '\n' := by
  cases cs with
  | nil => exact hb
  | cons d ds => exact hcs

theorem universalNewlines_append {a b : Text} (hb : ∀ c ∈ b.head?, c ≠ '\n') :
    universalNewlines (a ++ b) = universalNewlines a ++ universalNewlines b := by
  induction a using universalNewlines.induct with
  | case1 cs ih =>
      rw [List.cons_append, List.cons_append, universalNewlines.eq_1, universalNewlines.eq_1, ih, List.cons_append]
  | case2 cs hcs ih =>
      have hcs' : ∀ c ∈ cs.head?, c ≠ '\n' := by
        cases cs with
        | nil => simp
        | cons d ds =>
            intro c hc hn
            simp only [List.head?_cons, Option.mem_def, Option.some.injEq] at hc
            exact hcs ds (by rw [hc, hn])
      rw [List.cons_append, universalNewlines_cr_of_head (head?_append_ne_newline hcs' hb),
        universalNewlines_cr_of_head hcs', ih, List.cons_append]
  | case3 c cs _ hc ih =>
      rw [List.cons_append, universalNewlines_cons_of_ne hc, universalNewlines_cons_of_ne hc, ih, List.cons_append]
  | case4 => rfl

theorem universalNewlines_cr_eq (s : Text) : ∃ t, universalNewlines ('\r' :: s) = '\n' :: t := by
  by_cases hs : ∃ t, s = '\n' :: t
  · obtain ⟨t, rfl⟩ := hs
    exact ⟨_, universalNewlines.eq_1 t⟩
  · refine ⟨_, universalNewlines_cr_of_head fun c hc hn => hs ?_⟩
    obtain ⟨t, ht⟩ := List.head?_eq_some_iff.1 hc
    exact ⟨t, hn ▸ ht⟩

theorem isEmpty_universalNewlines (s : Text) : (universalNewlines s).isEmpty = s.isEmpty := by
  cases s with
  | nil => rfl
  | cons c cs =>
      by_cases hc : c = '\r'
      · subst hc
        obtain ⟨t, ht⟩ := universalNewlines_cr_eq cs
        rw [ht]
        rfl
      · rw [universalNewlines_cons_of_ne hc]
        rfl

theorem mem_universalNewlines {c : Char} {s : Text} (h : c ∈ universalNewlines s) : c ∈ s ∨ c = '\n' := by
  induction s using universalNewlines.induct with
  | case1 cs ih =>
      rw [universalNewlines.eq_1, List.mem_cons] at h
      exact h.elim .inr fun h => (ih h).imp (fun h => .tail _ (.tail _ h)) id
  | case2 cs hcs ih =>
      rw [universalNewlines.eq_2 cs hcs, List.mem_cons] at h
      exact h.elim .inr fun h => (ih h).imp (.tail _) id
  | case3 d cs _ hd ih =>
      rw [universalNewlines_cons_of_ne hd, List.mem_cons] at h
      exact h.elim (fun h => .inl (h ▸ .head _)) fun h => (ih h).imp (.tail _) id
  | case4 => exact absurd h (List.not_mem_nil _)

theorem startswith_universalNewlines (s : Text) {pre : Text} (hpre : ∀ c ∈ pre, c ≠ '\r' ∧ c ≠ '\n') :
    startswith (universalNewlines s) pre = startswith s pre := by
  induction pre generalizing s with
  | nil => simp [startswith]
  | cons p ps ih =>
      cases s with
      | nil => rfl
      | cons c cs =>
          obtain ⟨hpr, hpn⟩ := hpre p (.head _)
          by_cases hc : c = '\r'
          · subst hc
            obtain ⟨t, ht⟩ := universalNewlines_cr_eq cs
            simp only [startswith, ht, List.isPrefixOf_cons₂, beq_false_of_ne hpn, beq_false_of_ne hpr,
              Bool.false_and]
          · rw [universalNewlines_cons_of_ne hc]
            simp only [startswith, List.isPrefixOf] at ih ⊢
            rw [ih cs fun c hc => hpre c (.tail _ hc)]

theorem dropWhile_of_head? {p : Char → Bool} {s : Text} (h : ∀ c ∈ s.head?, p c = false) : s.dropWhile p = s := by
  cases s with
  | nil => rfl
  | cons c s => exact List.dropWhile_cons_of_neg (by simpa using h)

theorem strip_of_ends {s : Text} (hh : ∀ c ∈ s.head?, isspace c = false)
    (hl : ∀ c ∈ s.getLast?, isspace c = false) : strip s = s := by
  rw [strip, stripBy, lstripBy, dropWhile_of_head? hh, rstripBy,
    dropWhile_of_head? (by rwa [List.head?_reverse]), List.reverse_reverse]

theorem strip_append {s t : Text} (hs : ∀ c ∈ s.head?, isspace c = false) (ht : ∀ c ∈ t, isspace c = false)
    (hne : t ≠ []) : strip (s ++ t) = s ++ t := by
  apply strip_of_ends
  · intro c hc
    rw [List.head?_append] at hc
    cases h : s.head? with
    | none => exact ht c (List.mem_of_mem_head? (by rwa [h, Option.none_or] at hc))
    | some x => exact hs c (by rwa [h, Option.or_some, ← h] at hc)
  · intro c hc
    rw [List.getLast?_append, List.getLast?_eq_getLast t hne, Option.or_some] at hc
    exact ht c (Option.some_inj.1 hc ▸ List.getLast_mem hne)

theorem rsplitOnce_append (sep : Char) (s : Text) {t : Text} (h : sep ∉ t) :
    rsplitOnce sep (s ++ sep :: t) = (s, t) := by
  have ht : ∀ c ∈ t.reverse, (c != sep) = true := fun c hc => bne_iff_ne.2 fun e => h (e ▸ List.mem_reverse.1 hc)
  simp only [rsplitOnce, splitOnce, List.reverse_append, List.reverse_cons, List.append_assoc,
    List.singleton_append, List.takeWhile_append_of_pos ht, List.dropWhile_append_of_pos ht]
  simp

end Str

structure UnicodeDb where
  isalpha : Char → Bool
  lower : Char → Text
  isalpha_ascii : ∀ c : Char, c.toNat < 128 → isalpha c = c.isAlpha
  lower_ascii : ∀ c : Char, c.toNat < 128 → lower c = [c.toLower]

def UnicodeDb.ascii : UnicodeDb where
  isalpha := Char.isAlpha
  lower c := [c.toLower]
  isalpha_ascii _ _ := rfl
  lower_ascii _ _ := rfl

inductive PyFloat where
  | num (q : ℚ)
  | inf
  | negInf
  | nan
  deriving DecidableEq, Repr

namespace PyFloat

def le : PyFloat → PyFloat → Bool
  | nan, _ => false
  | _, nan => false
  | negInf, _ => true
  | _, inf => true
  | inf, _ => false
  | _, negInf => false
  | num a, num b => decide (a ≤ b)

def IsFinite : PyFloat → Prop
  | num _ => True
  | _ => False

end PyFloat

structure Rounding where
  round : ℚ → PyFloat
  mono : ∀ a b : ℚ, a ≤ b → (round a).le (round b) = true
  exact : ∀ i : Int, i.natAbs ≤ 2 ^ 53 → round i = .num i

def PyFloat.mul100 (R : Rounding) : PyFloat → PyFloat
  | .num q => R.round (q * 100)
  | x => x

end AprAuto
