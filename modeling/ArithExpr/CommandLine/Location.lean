/-
  Places in a tree of directories, seen from a directory in
  which files are kept, and how paths are cut into names.

  Key definitions include:
    * `Path`
    * `Path.splitNames`
    * `Path.ofName`
    * `Path.name`
    * `workingDepth`
    * `Base`
    * `Location`
    * `Location.child`
    * `Location.parent`

  Going up undoes going down:
    * `Location.parent_child`
-/

namespace ArithExpr

------------------------------------------------------------
-- Paths
------------------------------------------------------------

/- The names on the way from a directory to a file below it. -/
abbrev Path :=
  List String

/- The names of a path between its slashes. -/
def Path.splitNames (text : List Char) : List String :=
  text.foldr
    (fun c names =>
      if c = '/' then
        "" :: names
      else
        match names with
        | [] => [String.singleton c]
        | name :: others =>
            (String.singleton c ++ name) :: others)
    [""]

/- The path that a name of a file stands for. -/
def Path.ofName (name : String) : Path :=
  (Path.splitNames name.toList).filter fun part =>
    part ≠ "" ∧ part ≠ "."

/- The name of a file, with slashes between its parts. -/
def Path.name (path : Path) : String :=
  "/".intercalate path

/- The most bytes that one name of a path may take. -/
def nameLimit : Nat :=
  255

/- The most bytes that a path may take. -/
def pathLimit : Nat :=
  4095

------------------------------------------------------------
-- Locations
------------------------------------------------------------

/-
  The number of levels from the working directory up to the
  root.
-/
def workingDepth : Nat :=
  2

/-
  A directory from which a path can be followed: the root, or
  a directory some levels above the working directory, which
  is itself the one with no level in between.
-/
inductive Base where
| above (levels : Nat)
| root
deriving DecidableEq

/- A path and the directory that it is followed from. -/
structure Location where
  base : Base
  path : Path
deriving DecidableEq

namespace Location

/- What a path leads to from the working directory. -/
def inside (path : Path) : Location :=
  ⟨.above 0, path⟩

/- The root. -/
def root : Location :=
  ⟨.root, []⟩

/- What a name stands for in a directory. -/
def child
    (location : Location)
    (name : String) : Location :=
  ⟨location.base, location.path ++ [name]⟩

/-
  The directory one level up.  Enough levels above the working
  directory is the root, and so is what is above the root.
-/
def parent (location : Location) : Location :=
  match location with
  | ⟨.above levels, []⟩ =>
      if levels + 1 < workingDepth then
        ⟨.above (levels + 1), []⟩
      else
        root
  | ⟨.root, []⟩ => root
  | ⟨base, path⟩ => ⟨base, path.dropLast⟩

/- A directory is one level above what is in it. -/
theorem parent_child
    (location : Location)
    (name : String) :
    (location.child name).parent = location := by
  rcases location with ⟨base, path⟩
  cases hPath : path ++ [name] with
  | nil => simp at hPath
  | cons first others =>
      have hLast :
          (first :: others).dropLast = path := by
        rw [← hPath, List.dropLast_concat]
      simp [child, hPath, parent, hLast]

end Location

end ArithExpr
