import Mathlib.Data.List.Basic
import AprAuto.Config

namespace AprAuto.Yaml

open Workflow

def docLines (raw : Text) : List Text := Str.splitlines (Str.universalNewlines raw)

def isContent (line : Text) : Bool :=
  !(Str.strip line).isEmpty && !Str.startswith (Str.strip line) "#".toList

def indentOf (line : Text) : Nat := (line.takeWhile (· == ' ')).length

def isWhite (c : Char) : Bool := c == ' ' || c == '\t'

def escapeChar? : Char → Option Char
  | '0' => some (Char.ofNat 0)
  | 'a' => some (Char.ofNat 7)
  | 'b' => some (Char.ofNat 8)
  | 't' => some '\t'
  | '\t' => some '\t'
  | 'n' => some '\n'
  | 'v' => some (Char.ofNat 11)
  | 'f' => some (Char.ofNat 12)
  | 'r' => some '\r'
  | 'e' => some (Char.ofNat 27)
  | ' ' => some ' '
  | '"' => some '"'
  | '/' => some '/'
  | '\\' => some '\\'
  | 'N' => some (Char.ofNat 0x85)
  | '_' => some (Char.ofNat 0xa0)
  | 'L' => some (Char.ofNat 0x2028)
  | 'P' => some (Char.ofNat 0x2029)
  | _ => none

def hexWidth? : Char → Option Nat
  | 'x' => some 2
  | 'u' => some 4
  | 'U' => some 8
  | _ => none

def hexVal? (c : Char) : Option Nat :=
  if '0' ≤ c ∧ c ≤ '9' then some (c.toNat - '0'.toNat)
  else if 'a' ≤ c ∧ c ≤ 'f' then some (c.toNat - 'a'.toNat + 10)
  else if 'A' ≤ c ∧ c ≤ 'F' then some (c.toNat - 'A'.toNat + 10)
  else none

def doubleQuoted : Option (Nat × Nat) → Text → Text
  | _, [] => []
  | some (k, v), c :: cs =>
      if k = 0 then Char.ofNat (16 * v + (hexVal? c).getD 0) :: doubleQuoted none cs
      else doubleQuoted (some (k - 1, 16 * v + (hexVal? c).getD 0)) cs
  | none, '"' :: _ => []
  | none, '\\' :: c :: cs =>
      match escapeChar? c, hexWidth? c with
      | some e, _ => e :: doubleQuoted none cs
      | none, some w => doubleQuoted (some (w - 1, 0)) cs
      | none, none => c :: doubleQuoted none cs
  | none, c :: cs => c :: doubleQuoted none cs

def singleQuoted : Text → Text
  | [] => []
  | '\'' :: '\'' :: cs => '\'' :: singleQuoted cs
  | '\'' :: _ => []
  | c :: cs => c :: singleQuoted cs

def plainKey : Text → Text
  | [] => []
  | c :: cs => if c = ':' ∧ (cs.head?.map isWhite).getD true then [] else c :: plainKey cs

def yamlKey (line : Text) : Text :=
  match Str.stripBy isWhite line with
  | '"' :: rest => doubleQuoted none rest
  | '\'' :: rest => singleQuoted rest
  | body => Str.rstripBy isWhite (plainKey body)

def valueOf (line : Text) : Text := (Str.splitOnce ':' (Str.strip line)).2

def dropComment : Text → Text
  | [] => []
  | ' ' :: '#' :: _ => []
  | c :: cs => c :: dropComment cs

def scalar (raw : Text) : Text :=
  match Str.lstripBy (· == ' ') raw with
  | '"' :: rest => rest.takeWhile (· != '"')
  | '\'' :: rest => rest.takeWhile (· != '\'')
  | _ => Str.strip (dropComment raw)

def paths : List (Nat × Text) → List Text → List (List Text × Text)
  | _, [] => []
  | stack, line :: rest =>
      if isContent line then
        let parents := stack.dropWhile (fun p => indentOf line ≤ p.1)
        ((parents.map (·.2)).reverse, line) :: paths ((indentOf line, yamlKey line) :: parents) rest
      else paths stack rest

def isRoundsOutputDir (p : List Text × Text) : Bool :=
  p.1 == ["rounds".toList] && yamlKey p.2 == "output_dir".toList

def outputDirLine (raw : Text) : Option Text := ((paths [] (docLines raw)).find? isRoundsOutputDir).map (·.2)

def roundsOutputDir (raw : Text) : Option Text := (outputDirLine raw).map fun line => scalar (valueOf line)

def isIndicator (c : Char) : Bool :=
  c == '-' || c == '?' || c == ':' || c == ',' || c == '[' || c == ']' || c == '\x7b' || c == '\x7d' ||
    c == '#' || c == '&' || c == '*' || c == '!' || c == '|' || c == '>' || c == '\'' || c == '"' ||
    c == '%' || c == '@' || c == '\x60'

def keyChar (c : Char) : Bool := c != ':' && !Str.isspace c && c != '#' && c != '"' && c != '\''

def keyLine (line : Text) : Bool :=
  let key := yamlKey line
  !key.isEmpty && key.all keyChar && !isIndicator (key.headD ' ') &&
    Str.startswith (line.dropWhile (· == ' ')) (key ++ ":".toList)

def closedQuote (q : Char) (rest : Text) : Bool :=
  let after := rest.dropWhile (· != q)
  !after.isEmpty && ((Str.strip (after.drop 1)).isEmpty ||
    Str.startswith (Str.strip (after.drop 1)) "#".toList && Str.startswith (after.drop 1) " ".toList)

def mapsInline : Text → Bool
  | ':' :: ' ' :: _ => true
  | _ :: cs => mapsInline cs
  | [] => false

def plainForm (v : Text) : Bool :=
  match v with
  | [] => true
  | c :: _ => !isIndicator c && !mapsInline v && !Str.endswith v ":".toList

def scalarForm (raw : Text) : Bool :=
  match Str.lstripBy (· == ' ') raw with
  | '"' :: rest => closedQuote '"' rest && !rest.contains '\\'
  | '\'' :: rest => closedQuote '\'' rest
  | _ => plainForm (Str.strip (dropComment raw))

def opensBlock (line : Text) : Bool := (Str.strip (dropComment (valueOf line))).isEmpty

def blocksFrom : List Nat → Bool → List Text → Bool
  | _, _, [] => true
  | stack, opens, line :: rest =>
      if !isContent line then blocksFrom stack opens rest
      else
        let i := indentOf line
        let placed := match stack with
          | [] => true
          | top :: _ => if top < i then opens else stack.contains i
        placed && blocksFrom (i :: stack.dropWhile (i ≤ ·)) (opensBlock line) rest

def InSubset (raw : Text) : Bool :=
  raw.all (fun c => !Str.isspace c || c == ' ' || c == '\n' || c == '\r') &&
    (docLines raw).all (fun l => !isContent l || keyLine l && scalarForm (valueOf l)) &&
    blocksFrom [] false (docLines raw)

theorem rounds_output_dir_reader_diverges_from_yaml :
    (InSubset "rounds:\n  output_dir: runs#2\n".toList ∧
      readRoundsOutputDir (.text "rounds:\n  output_dir: runs#2\n".toList) = .ok (some "runs".toList) ∧
      roundsOutputDir "rounds:\n  output_dir: runs#2\n".toList = some "runs#2".toList) ∧
    (InSubset "rounds:\n  output_dir: \"a # b\"\n".toList ∧
      readRoundsOutputDir (.text "rounds:\n  output_dir: \"a # b\"\n".toList) = .ok (some "a".toList) ∧
      roundsOutputDir "rounds:\n  output_dir: \"a # b\"\n".toList = some "a # b".toList) ∧
    (InSubset "rounds:\n  archive:\n    output_dir: old\n  output_dir: new\n".toList ∧
      readRoundsOutputDir (.text "rounds:\n  archive:\n    output_dir: old\n  output_dir: new\n".toList) = .ok (some "old".toList) ∧
      roundsOutputDir "rounds:\n  archive:\n    output_dir: old\n  output_dir: new\n".toList = some "new".toList) ∧
    (InSubset "phases:\n  rounds:\n    output_dir: x\n".toList ∧
      readRoundsOutputDir (.text "phases:\n  rounds:\n    output_dir: x\n".toList) = .ok (some "x".toList) ∧
      roundsOutputDir "phases:\n  rounds:\n    output_dir: x\n".toList = none) ∧
    (InSubset "phases:\n  rounds:\n    keep: 1\nrounds:\n  output_dir: out\n".toList ∧
      readRoundsOutputDir (.text "phases:\n  rounds:\n    keep: 1\nrounds:\n  output_dir: out\n".toList) = .ok none ∧
      roundsOutputDir "phases:\n  rounds:\n    keep: 1\nrounds:\n  output_dir: out\n".toList = some "out".toList) :=
  ⟨⟨rfl, rfl, rfl⟩, ⟨rfl, rfl, rfl⟩, ⟨rfl, rfl, rfl⟩, ⟨rfl, rfl, rfl⟩, ⟨rfl, rfl, rfl⟩⟩

section Lines

theorem mem_dropWhile_of_not {p : Char → Bool} {c : Char} {l : Text} (hc : c ∈ l) (hp : p c = false) :
    c ∈ l.dropWhile p := by
  rw [← List.takeWhile_append_dropWhile p l] at hc
  rcases List.mem_append.1 hc with h | h
  · simp [List.mem_takeWhile_imp h] at hp
  · exact h

end Lines

section Scan

variable {l : Text} {rest : List Text} {stack : List (Nat × Text)}

end Scan

end AprAuto.Yaml
