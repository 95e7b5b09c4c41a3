import KernelForge.Job.Translate

/-!
Contract: what making a file and filling it does to a tree of files.

Owns: the location that a file made for a path has, the device that a path leads to, the tree
after bytes arrived, location by location, and the three ways in which writing a file ends.

A path can lead to a device, which is there before and keeps nothing: no file differs
afterwards, and the bytes have gone to a stream of the process or nowhere. What the storage
does not take is missing at the end of what arrives, and nowhere else.

Does not own: which files a job writes.
-/

namespace KernelForge

namespace FileTree

/-! ### Following steps -/

theorem follow_append (tree : FileTree) (start : Location) (first second : List Bytes) :
    tree.follow start (first ++ second) =
      (tree.follow start first).bind fun reached => tree.follow reached second := by
  induction first generalizing start with
  | nil => rfl
  | cons step rest inductionHypothesis =>
      simp only [List.cons_append, follow]
      cases tree.enter start step with
      | error refusal => rfl
      | ok next => exact inductionHypothesis next

/-- The step `.` stays where it is, and only in a directory. -/
theorem enter_dot {tree : FileTree} {location reached : Location}
    (entered : tree.enter location [Path.dot] = .ok reached) : reached = location := by
  unfold enter at entered
  split at entered
  · cases entered
  · simpa using entered.symm
  · cases entered

theorem follow_to_directory {tree : FileTree} {start parent : Location} {before : List Bytes}
    (followed : tree.follow start (before ++ [[Path.dot]]) = .ok parent) :
    tree.follow start before = .ok parent := by
  rw [follow_append] at followed
  cases reached : tree.follow start before with
  | error refusal =>
      rw [reached] at followed
      cases followed
  | ok location =>
      rw [reached] at followed
      simp only [Except.bind, follow] at followed
      split at followed
      · cases followed
      · next entered =>
          cases followed
          rw [enter_dot entered]

/-! ### Making a file -/

/-- A last name that names an entry is the last step of its path, and no separator
follows it. -/
theorem splitLast_name {path : Path} {before : List Bytes} {name : Bytes}
    (splits : splitLast path = (before, some name)) :
    steps path = before ++ [name] ∧ path.endsWithSeparator = false := by
  unfold splitLast at splits
  split at splits
  · cases splits
  · next last reversed stepsReversed =>
      have allSteps : steps path = reversed.reverse ++ [last] := by
        rw [← List.reverse_reverse (steps path), stepsReversed, List.reverse_cons]
      simp only [Prod.mk.injEq, Option.ite_none_left_eq_some, Bool.or_eq_true, not_or,
        Option.some.injEq, Bool.not_eq_true] at splits
      obtain ⟨rfl, ⟨noSeparator, -⟩, rfl⟩ := splits
      exact ⟨allSteps, noSeparator⟩

/-- A file is made at the location that its path names. -/
theorem create_ok {tree opened : FileTree} {path : Path} {handle : Handle}
    (created : tree.create path = .ok (opened, handle)) :
    ∃ location, tree.locate path = .ok location ∧
      tree.openLocation location = .ok (opened, handle) := by
  unfold create at created
  cases refused : refuses path with
  | some refusal =>
      rw [refused] at created
      cases created
  | none =>
      rw [refused] at created
      cases splits : splitLast path with
      | mk before last =>
          cases followed : tree.follow (tree.origin path) (before ++ [[Path.dot]]) with
          | error refusal => simp [splits, followed] at created
          | ok parent =>
              cases last with
              | none => simp [splits, followed] at created
              | some name =>
                  cases entered : tree.enter parent name with
                  | error refusal => simp [splits, followed, entered] at created
                  | ok location =>
                      simp only [splits, followed, entered] at created
                      refine ⟨location, ?_, created⟩
                      obtain ⟨allSteps, noSeparator⟩ := splitLast_name splits
                      rw [locate, refused, allSteps, noSeparator]
                      simp only [Bool.false_eq_true, if_false, List.append_nil]
                      rw [follow_append, follow_to_directory followed]
                      simp only [Except.bind, follow, entered]

/-- What opening a location for writing means: a device stays as it is, and anything else
that is no directory becomes an empty file. -/
theorem openLocation_ok {tree opened : FileTree} {location : Location} {handle : Handle}
    (opening : tree.openLocation location = .ok (opened, handle)) :
    (∃ kind, tree.lookup location = some (.device kind) ∧
      opened = tree ∧ handle = .device kind) ∨
    (location ≠ [] ∧ tree.lookup location ≠ some .directory ∧
      (∀ kind, tree.lookup location ≠ some (.device kind)) ∧
      opened = tree.put location (.file []) ∧ handle = .file location) := by
  unfold openLocation at opening
  split at opening
  · cases opening
  · next kind isDevice =>
      cases opening
      exact .inl ⟨kind, isDevice, rfl, rfl⟩
  · next noDirectory noDevice =>
      cases opening
      refine .inr ⟨?_, noDirectory, noDevice, rfl, rfl⟩
      rintro rfl
      exact noDirectory rfl

/-! ### Filling what was made -/

/-- The device that a path leads to, if it leads to one. -/
def deviceAt (tree : FileTree) (path : Path) : Option Device :=
  match tree.locate path with
  | .error _ => none
  | .ok location =>
      match tree.lookup location with
      | some (.device kind) => some kind
      | _ => none

theorem deviceAt_of_device {tree : FileTree} {path : Path} {location : Location} {kind : Device}
    (named : tree.locate path = .ok location)
    (isDevice : tree.lookup location = some (.device kind)) : tree.deviceAt path = some kind := by
  simp only [deviceAt, named, isDevice]

theorem deviceAt_of_noDevice {tree : FileTree} {path : Path} {location : Location}
    (named : tree.locate path = .ok location)
    (noDevice : ∀ kind, tree.lookup location ≠ some (.device kind)) :
    tree.deviceAt path = none := by
  simp only [deviceAt, named]

/-- A tree after bytes arrived at a path, location by location: the file that the path names
holds exactly these bytes and every other location is as before; where the path leads to a
device, nothing differs at all. -/
inductive Updated (before : FileTree) (path : Path) (data : Bytes) (after : FileTree) : Prop
  | file (location : Location)
      (named : before.locate path = .ok location)
      (noDirectory : before.lookup location ≠ some .directory)
      (noDevice : ∀ kind, before.lookup location ≠ some (.device kind))
      (start : after.workingDirectory = before.workingDirectory)
      (holds : after.lookup location = some (.file data))
      (others : ∀ other, other ≠ location → after.lookup other = before.lookup other)
  | device (location : Location) (kind : Device)
      (named : before.locate path = .ok location)
      (isDevice : before.lookup location = some (.device kind))
      (same : after = before)

/-- Bytes that are delivered to a file just made for a path arrive there. -/
theorem updated_deliver {tree opened : FileTree} {path : Path} {handle : Handle}
    (created : tree.create path = .ok (opened, handle)) (data : Bytes) :
    handle.device? = tree.deviceAt path ∧ tree.Updated path data (opened.deliver handle data) := by
  obtain ⟨location, named, opening⟩ := create_ok created
  rcases openLocation_ok opening with
    ⟨kind, isDevice, rfl, rfl⟩ | ⟨notRoot, noDirectory, noDevice, rfl, rfl⟩
  · exact ⟨(deviceAt_of_device named isDevice).symm, .device location kind named isDevice rfl⟩
  · refine ⟨(deviceAt_of_noDevice named noDevice).symm, ?_⟩
    refine .file location named noDirectory noDevice rfl (lookup_put_same _ notRoot _) ?_
    intro other different
    rw [deliver, lookup_put_other _ different, lookup_put_other _ different]

/-! ### The ways in which writing a file ends -/

/-- A write breaks off only in front of a byte. -/
theorem taken_lt_of_breakOff {device : Option Device} {stop : Option Stop} {data : Bytes}
    {place : Stop} (breaks : breakOff device stop data = some place) :
    place.taken < data.length := by
  unfold breakOff at breaks
  split at breaks
  · cases breaks
  · split at breaks
    · cases breaks
    · next someData =>
        cases breaks
        exact List.length_pos_iff.mpr someData
  all_goals exact of_decide_eq_true (Option.filter_eq_some_iff.mp breaks).2

/-- What writing bytes to a path leaves, what it sends to the streams, and whether all of them
were written: the file cannot be made and nothing differs, or what arrives ends where the
write breaks off, or all of it arrives. -/
inductive Writes (before : FileTree) (path : Path) (data : Bytes) (stop : Option Stop) :
    FileTree → Streams → Bool → Prop
  | refused (cause : FileError) (unmade : before.create path = .error cause) :
      Writes before path data stop before .nothing false
  | brokenOff (made : FileTree × Handle) (created : before.create path = .ok made)
      (place : Stop) (breaks : breakOff (before.deviceAt path) stop data = some place)
      (short : place.taken < data.length)
      (after : FileTree) (updated : before.Updated path (data.take place.taken) after) :
      Writes before path data stop after
        (sends (before.deviceAt path) (data.take place.taken)) false
  | whole (made : FileTree × Handle) (created : before.create path = .ok made)
      (unbroken : breakOff (before.deviceAt path) stop data = none)
      (after : FileTree) (updated : before.Updated path data after) :
      Writes before path data stop after (sends (before.deviceAt path) data) true

theorem Writes.of_whole {before after : FileTree} {path : Path} {data : Bytes}
    {stop : Option Stop} {sent : Streams} (writes : before.Writes path data stop after sent true) :
    before.Updated path data after ∧ sent = sends (before.deviceAt path) data := by
  cases writes with
  | whole made created unbroken after updated => exact ⟨updated, rfl⟩

end FileTree

namespace Translate

open FileTree (Writes breakOff taken)

theorem writeFile_writes (files : FileTree) (path : Path) (data : Bytes) (stop : Option Stop) :
    Writes files path data stop (writeFile files path data stop).files
      (writeFile files path data stop).sent (writeFile files path data stop).result.isOk := by
  unfold writeFile
  cases created : files.create path with
  | error cause => exact .refused cause created
  | ok made =>
      obtain ⟨opened, handle⟩ := made
      obtain ⟨isDevice, updated⟩ :=
        FileTree.updated_deliver created (taken handle.device? stop data)
      simp only [FileTree.write]
      rw [isDevice] at updated ⊢
      cases breaks : breakOff (files.deviceAt path) stop data with
      | none =>
          simp only [taken, breaks] at updated ⊢
          exact .whole _ created breaks _ updated
      | some place =>
          simp only [taken, breaks] at updated ⊢
          exact .brokenOff _ created place breaks (FileTree.taken_lt_of_breakOff breaks) _ updated

end Translate

end KernelForge
