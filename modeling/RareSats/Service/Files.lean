/-
# Files

A file is found by its path, a text with slashes between its parts. Empty parts and
parts that are a single point do not count, and a path from the root starts with a
slash. The root of a path that starts with exactly two slashes is written with both.

Key definitions: `pathParts`, `cleanPath`, `Files`, `Files.read`.
Key theorem: `join_pathParts`.
-/
import RareSats.Error
import RareSats.Json.Basic

namespace RareSats

/-- What a file holds. -/
inductive FileContent where
  | json (value : Json)
  | text (content : String)

/-- Files by their clean paths. -/
abbrev Files := List (Text × FileContent)

/-- The mark between the parts of a path. -/
def slash : CodePoint := .scalar '/'

/-- The parts of a path, of which there is always one. -/
def pathParts : List CodePoint → List (List CodePoint)
  | [] => [[]]
  | p :: rest =>
    if p = slash then [] :: pathParts rest
    else
      match pathParts rest with
      | part :: parts => (p :: part) :: parts
      | [] => [[p]]

/-- Every path has a part. -/
theorem exists_pathParts (path : List CodePoint) :
    ∃ part parts, pathParts path = part :: parts := by
  cases path with
  | nil => exact ⟨[], [], rfl⟩
  | cons p rest =>
    unfold pathParts
    split
    next => exact ⟨[], pathParts rest, rfl⟩
    next =>
      split
      next part parts _ => exact ⟨p :: part, parts, rfl⟩
      next => exact ⟨[p], [], rfl⟩

/-- A path is its parts with slashes between them. -/
theorem join_pathParts (path : List CodePoint) : [slash].intercalate (pathParts path) = path := by
  induction path with
  | nil => rfl
  | cons p rest ih =>
    obtain ⟨part, parts, hparts⟩ := exists_pathParts rest
    rw [hparts] at ih
    unfold pathParts
    rw [hparts]
    split
    next h => simp [List.intercalate, h, ← ih]
    next => cases parts <;> simp_all [List.intercalate]

/-- The parts of a path that count. -/
def countedParts (path : List CodePoint) : List (List CodePoint) :=
  (pathParts path).filter fun part => part ≠ [] ∧ part ≠ [.scalar '.']

/-- The slashes that a clean path starts with. -/
def pathRoot (path : List CodePoint) : List CodePoint :=
  let count := (path.takeWhile (· = slash)).length
  List.replicate (if count = 2 then 2 else min count 1) slash

/-- The path without parts that do not count. A path with no part is the point. -/
def cleanPath (path : Text) : Text :=
  match pathRoot path.points ++ [slash].intercalate (countedParts path.points) with
  | [] => "."
  | points => ⟨points⟩

/-- The number of bytes that a code point takes. -/
def CodePoint.byteCount : CodePoint → Nat
  | .scalar c => c.utf8Size
  | .surrogate _ => 1

/-- The number of bytes that code points take. -/
def byteCount : List CodePoint → Nat
  | [] => 0
  | p :: rest => p.byteCount + byteCount rest

/-- The number of bytes that a part of a path may have. -/
def partLimit : Nat := 255

/-- The number of bytes that a path may have. -/
def pathLimit : Nat := 4095

/-- Why no file is found at a clean path. A path that only leads upwards is that of a directory. -/
def fileFault (path : Text) : Error :=
  if pathLimit < byteCount path.points then .longPath path
  else
    match (countedParts path.points).dropWhile (· = [.scalar '.', .scalar '.']) with
    | [] => .directory path
    | part :: _ => if partLimit < byteCount part then .longPath path else .missingFile path

/-- The content of the file at a path. -/
def Files.read (files : Files) (path : Text) : Except Error FileContent :=
  match files.lookup (cleanPath path) with
  | some content => .ok content
  | none => .error (fileFault (cleanPath path))

end RareSats
