/-!
# Locations

Where a step, a scenario or an example row stands. Paths are shown relative to a
base directory; paths outside of it are shown as they are.
-/

namespace Stepwise

/-- A line of a feature file. -/
structure Location where
  path : String
  line : Nat
deriving DecidableEq, Repr

/-- What follows a text at the start of another one. -/
def stripStart? : List Char → List Char → Option (List Char)
  | [], text => some text
  | _ :: _, [] => none
  | c :: start, d :: text => if c = d then stripStart? start text else none

/-- A directory without the separator at its end. -/
def dropSeparator (base : List Char) : List Char :=
  if base.getLast? = some '/' then base.dropLast else base

/-- A path without the base directory it begins with. An empty base changes
nothing. -/
def relativePath (path base : List Char) : List Char :=
  match dropSeparator base with
  | [] => path
  | base =>
      match stripStart? base path with
      | some ('/' :: rest) => rest
      | _ => path

/-- A path relative to a base directory. -/
def relativize (path base : String) : String :=
  String.ofList (relativePath path.toList base.toList)

namespace Location

def text (location : Location) : String :=
  location.path ++ ":" ++ toString location.line

/-- A location as it is shown relative to a base directory. -/
def relativeText (location : Location) (base : String) : String :=
  relativize location.path base ++ ":" ++ toString location.line

/-- Locations are ordered by path, then by line. -/
def le (a b : Location) : Bool :=
  a.path < b.path || (a.path = b.path && a.line ≤ b.line)

/-- Locations in order, each kept once. -/
def sorted (locations : List Location) : List Location :=
  dropRepeated (locations.mergeSort le)
where
  /-- Keeps the first of equal neighbours. -/
  dropRepeated : List Location → List Location
    | a :: b :: rest => if a = b then dropRepeated (b :: rest) else a :: dropRepeated (b :: rest)
    | rest => rest

end Location

theorem eq_append_of_stripStart? {start text rest : List Char}
    (h : stripStart? start text = some rest) : text = start ++ rest := by
  induction start generalizing text with
  | nil => simpa [stripStart?] using h
  | cons c start ih =>
      cases text with
      | nil => simp [stripStart?] at h
      | cons d text =>
          simp only [stripStart?] at h
          split at h
          · rename_i heq
            rw [heq, ih h, List.cons_append]
          · exact absurd h (by simp)

end Stepwise
