import AprAuto.Python

namespace AprAuto.Store

inductive Name where
  | round (n : Int)
  | truncated (n : Int) (k : Nat)
  deriving DecidableEq, Repr

inductive Entry where
  | file (text : Text)
  | special (size : Nat)
  | dangling
  deriving DecidableEq, Repr

def Entry.exists : Entry → Bool
  | .dangling => false
  | _ => true

def Entry.size : Entry → Nat
  | .file t => Str.utf8Len t
  | .special n => n
  | .dangling => 0

def Entry.readText : Entry → Except PyExc Text
  | .file t => .ok (Str.universalNewlines t)
  | _ => .error .osError

structure Dir where
  entries : List (Name × Entry)
  deriving DecidableEq, Repr

namespace Dir

def get (d : Dir) (x : Name) : Option Entry := (d.entries.find? (·.1 == x)).map (·.2)

def erase (d : Dir) (x : Name) : Dir := ⟨d.entries.filter (·.1 != x)⟩

def set (d : Dir) (x : Name) (e : Entry) : Dir := ⟨(x, e) :: (d.erase x).entries⟩

def rename (d : Dir) (src dst : Name) : Dir :=
  match d.get src with
  | none => d
  | some e => (d.erase src).set dst e

theorem get_erase (d : Dir) (x y : Name) :
    (d.erase x).get y = if y = x then none else d.get y := by
  obtain ⟨es⟩ := d
  simp only [get, erase]
  induction es with
  | nil => simp
  | cons p es ih =>
      by_cases hp : p.1 = x
      · by_cases hy : y = x
        · simp_all
        · simp_all [List.find?_cons, Ne.symm hy]
      · by_cases hy : y = x
        · simp_all [List.find?_cons, hp]
        · by_cases hpy : p.1 = y <;> simp_all [List.find?_cons]

theorem get_erase_of_ne {d : Dir} {x y : Name} (h : y ≠ x) : (d.erase x).get y = d.get y := by
  simp [get_erase, h]

@[simp] theorem get_erase_self (d : Dir) (x : Name) : (d.erase x).get x = none := by
  simp [get_erase]

@[simp] theorem get_set (d : Dir) (x y : Name) (e : Entry) :
    (d.set x e).get y = if y = x then some e else d.get y := by
  by_cases hy : y = x
  · simp [set, get, hy]
  · have h : (⟨(x, e) :: (d.erase x).entries⟩ : Dir).get y = (d.erase x).get y := by
      simp [get, List.find?_cons, Ne.symm hy]
    rw [set, h, get_erase_of_ne hy, if_neg hy]

theorem get_rename (d : Dir) (src dst y : Name) (e : Entry) (h : d.get src = some e) :
    (d.rename src dst).get y = if y = dst then some e else if y = src then none else d.get y := by
  simp only [rename, h, get_set, get_erase]

end Dir

def roundFile (n : Int) : Name := .round n

def readRoundFile (d : Dir) (n : Int) : Except PyExc (Option Text) :=
  match d.get (roundFile n) with
  | some e => if e.exists then e.readText.map some else .ok none
  | none => .ok none

def detectLastRound (d : Dir) : Int := scan d.entries
where
  scan : List (Name × Entry) → Int
    | [] => 0
    | (.round n, _) :: rest =>
        if 0 ≤ n ∧ 0 < ((d.get (.round n)).map Entry.size).getD 0 then max n (scan rest)
        else scan rest
    | (.truncated _ _, _) :: rest => scan rest

theorem le_detectLastRound_scan {d : Dir} {n : Int} (hn : 0 ≤ n)
    (hpos : 0 < ((d.get (.round n)).map Entry.size).getD 0) {x : Entry} :
    ∀ {l : List (Name × Entry)}, (Name.round n, x) ∈ l → n ≤ detectLastRound.scan d l
  | (.round m, _) :: rest, h => by
      simp only [detectLastRound.scan]
      rcases List.mem_cons.mp h with h | h
      · cases h; simp only [hn, hpos, and_self, if_true]; omega
      · have := le_detectLastRound_scan hn hpos h
        split_ifs <;> omega
  | (.truncated _ _, _) :: rest, h => by
      simp only [detectLastRound.scan]
      rcases List.mem_cons.mp h with h | h
      · cases h
      · exact le_detectLastRound_scan hn hpos h

def statRoundFiles (d : Dir) : Except PyExc Unit :=
  if d.entries.any fun
    | (.round n, .dangling) => 0 ≤ n
    | _ => false
  then .error .osError else .ok ()

def seedOutputSizes (d : Dir) (upTo : Int) : List Nat :=
  let first := max 1 (upTo - 4)
  ((List.range (upTo + 1 - first).toNat).map fun (i : Nat) => first + i).filterMap fun n =>
    match d.get (roundFile n) with
    | some e => if 0 < e.size then some e.size else none
    | none => none

end AprAuto.Store
