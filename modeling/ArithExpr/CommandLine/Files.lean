import ArithExpr.CommandLine.Location

/-
  The files in and around a directory, and what opening a path
  there leads to.

  Key definitions include:
    * `Files`
    * `Files.ofList`
    * `Files.toList`
    * `Files.get?`
    * `Files.put`
    * `Files.nullDevice`
    * `FileFault`
    * `Target`
    * `Files.enter`
    * `Files.locate`
    * `Files.read`
    * `Files.store`
    * `Files.write`

  A file that is put is found again, and the others stay:
    * `Files.get?_put`
-/

namespace ArithExpr

------------------------------------------------------------
-- Files
------------------------------------------------------------

/- Files by their locations, in the order of their creation. -/
structure Files where
  entries : List (Location × String)
deriving DecidableEq

namespace Files

/- The text of the first entry at a location. -/
def textAt?
    (location : Location) :
    List (Location × String) → Option String
| [] => none
| entry :: entries =>
    if location = entry.1 then
      some entry.2
    else
      textAt? location entries

/- The text of a file, if the file is there. -/
def get?
    (files : Files)
    (location : Location) : Option String :=
  textAt? location files.entries

/- Replace the text of a file, or add the file at the end. -/
def putEntry
    (location : Location)
    (text : String) :
    List (Location × String) → List (Location × String)
| [] => [(location, text)]
| entry :: entries =>
    if location = entry.1 then
      (location, text) :: entries
    else
      entry :: putEntry location text entries

/- The files after one of them has been given a text. -/
def put
    (files : Files)
    (location : Location)
    (text : String) : Files :=
  ⟨putEntry location text files.entries⟩

/- Putting a file changes what is found there and only there. -/
theorem get?_put
    (files : Files)
    (location other : Location)
    (text : String) :
    (files.put location text).get? other =
      if other = location then some text
      else files.get? other := by
  rcases files with ⟨entries⟩
  simp only [get?, put]
  induction entries with
  | nil => simp [putEntry, textAt?]
  | cons entry entries ih =>
      rcases entry with ⟨place, old⟩
      by_cases hPlace : location = place
      · subst hPlace
        by_cases hOther : other = location <;>
          simp [putEntry, textAt?, hOther]
      · by_cases hSame : other = place
        · have hOther : ¬ place = location :=
            fun h => hPlace h.symm
          simp [putEntry, textAt?, hPlace, hSame, hOther]
        · simp [putEntry, textAt?, hPlace, hSame, ih]

/-
  The device that is found empty below every root.  What is
  written to it is lost.
-/
def nullDevice : Location :=
  ⟨.root, ["dev", "null"]⟩

/-
  Files of the working directory with given names and texts.
  Around them there is the null device and no other file.
-/
def ofList (named : List (String × String)) : Files :=
  ⟨named.map (fun entry =>
      (Location.inside (Path.ofName entry.1), entry.2)) ++
    [(nullDevice, "")]⟩

/- The names and texts of the files of the working directory. -/
def toList (files : Files) : List (String × String) :=
  files.entries.filterMap fun entry =>
    if entry.1.base = .above 0 then
      some (entry.1.path.name, entry.2)
    else
      none

/- The names of directories that are found below every root. -/
def rootDirectories : List String :=
  ["bin", "boot", "dev", "etc", "home", "lib", "media",
    "mnt", "opt", "proc", "root", "run", "sbin", "srv",
    "sys", "tmp", "usr", "var"]

/-
  A location holds a directory when a file lies below it.  The
  working directory, those above it, the root and some of
  those below the root need no file for that.
-/
def IsDirectory
    (files : Files)
    (location : Location) : Prop :=
  location.path = [] ∨
    (∃ name ∈ rootDirectories,
      location = Location.root.child name) ∨
    ∃ entry ∈ files.entries,
      location.base = entry.1.base ∧
        location.path <+: entry.1.path ∧
        location.path ≠ entry.1.path

instance
    (files : Files)
    (location : Location) :
    Decidable (files.IsDirectory location) := by
  unfold IsDirectory
  infer_instance

end Files

------------------------------------------------------------
-- Faults
------------------------------------------------------------

/- The reasons for which a path cannot be opened. -/
inductive FileFault where
| missing
| isDirectory
| notDirectory
| nameTooLong
| other (reason : String)
deriving DecidableEq

/- The text of a reason. -/
def FileFault.reason : FileFault → String
| .missing => "No such file or directory"
| .isDirectory => "Is a directory"
| .notDirectory => "Not a directory"
| .nameTooLong => "File name too long"
| .other text => text

------------------------------------------------------------
-- Following Paths
------------------------------------------------------------

/-
  What a path asks for: a directory as such, or an entry of a
  directory by its name.  A slash after the name says that the
  entry is taken to be a directory.
-/
inductive Target where
| directory
| entry
    (directory : Location)
    (name : String)
    (slash : Bool)
deriving DecidableEq

namespace Files

/-
  The directory that a name leads to from another one.  An
  empty name and a point stay where they are, and two points
  go one level up.
-/
def enter
    (files : Files)
    (here : Location)
    (name : String) : Except FileFault Location :=
  if name = "" ∨ name = "." then
    .ok here
  else if name = ".." then
    .ok here.parent
  else if nameLimit < name.utf8ByteSize then
    .error .nameTooLong
  else if files.IsDirectory (here.child name) then
    .ok (here.child name)
  else if (files.get? (here.child name)).isSome then
    .error .notDirectory
  else
    .error .missing

/-
  What a list of names asks for.  All but the last name that
  is not empty have to lead to directories.
-/
def follow
    (files : Files)
    (start : Location)
    (names : List String) : Except FileFault Target :=
  match names.reverse.dropWhile fun name => name = "" with
  | [] => .ok .directory
  | last :: before =>
      match before.reverse.foldlM files.enter start with
      | .error fault => .error fault
      | .ok directory =>
          if last = "." ∨ last = ".." then
            .ok .directory
          else
            .ok
              (.entry directory last
                (names.getLast? = some ""))

/-
  What a path asks for, or why it cannot be followed.  A path
  that begins with a slash is followed from the root.
-/
def locate
    (files : Files)
    (path : String) : Except FileFault Target :=
  if path = "" then
    .error .missing
  else if pathLimit < path.utf8ByteSize then
    .error .nameTooLong
  else if path.toList.head? = some '/' then
    files.follow .root (Path.splitNames path.toList)
  else
    files.follow (.inside [])
      (Path.splitNames path.toList)

------------------------------------------------------------
-- Reading and Writing
------------------------------------------------------------

/- The text of an entry of a directory. -/
def readEntry
    (files : Files)
    (directory : Location)
    (name : String)
    (slash : Bool) : Except FileFault String :=
  if nameLimit < name.utf8ByteSize then
    .error .nameTooLong
  else if files.IsDirectory (directory.child name) then
    .error .isDirectory
  else
    match files.get? (directory.child name) with
    | none => .error .missing
    | some text =>
        if slash then .error .notDirectory else .ok text

/- The files after a text has been written to a location. -/
def store
    (files : Files)
    (location : Location)
    (text : String) : Files :=
  if location = nullDevice then
    files
  else
    files.put location text

/-
  The files after a text has been written to an entry of a
  directory.  A slash is looked at before the entry is.
-/
def writeEntry
    (files : Files)
    (directory : Location)
    (name : String)
    (slash : Bool)
    (text : String) : Except FileFault Files :=
  if slash then
    .error .isDirectory
  else if nameLimit < name.utf8ByteSize then
    .error .nameTooLong
  else if files.IsDirectory (directory.child name) then
    .error .isDirectory
  else
    .ok (files.store (directory.child name) text)

/- The text of the file that a path leads to. -/
def read
    (files : Files)
    (path : String) : Except FileFault String :=
  match files.locate path with
  | .error fault => .error fault
  | .ok .directory => .error .isDirectory
  | .ok (.entry directory name slash) =>
      files.readEntry directory name slash

/- The files after a text has been written to a path. -/
def write
    (files : Files)
    (path text : String) : Except FileFault Files :=
  match files.locate path with
  | .error fault => .error fault
  | .ok .directory => .error .isDirectory
  | .ok (.entry directory name slash) =>
      files.writeEntry directory name slash text

end Files

end ArithExpr
