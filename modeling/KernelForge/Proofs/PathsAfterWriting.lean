import KernelForge.Proofs.FileWriting

/-!
Contract: where paths lead, and what reading them gives, after bytes arrived at one of them.

Owns: that every path leads to the same place and to the same device afterwards, and reading
any path then.

Arriving bytes change one place, and there is a directory neither before nor after. A path
that leads anywhere passes through directories only, so none of its steps sees the
difference; this is what `DifferAt.enter_ok` says, and the run over the steps rests on it.

Does not own: which files a job writes.
-/

namespace KernelForge

namespace FileTree

/-! ### Following a path past a difference -/

/-- Two trees have the same nodes but at one place, which is a directory in neither. -/
structure DifferAt (place : Location) (tree other : FileTree) : Prop where
  start : other.workingDirectory = tree.workingDirectory
  noDirectory : tree.lookup place ≠ some .directory
  otherNoDirectory : other.lookup place ≠ some .directory
  elsewhere : ∀ location, location ≠ place → other.lookup location = tree.lookup location

/-- Only a directory is entered. -/
theorem directory_of_enter {tree : FileTree} {location next : Location} {step : Bytes}
    (entered : tree.enter location step = .ok next) :
    tree.lookup location = some .directory := by
  unfold enter at entered
  split at entered
  · cases entered
  · next isDirectory => exact isDirectory
  · cases entered

namespace DifferAt

variable {place : Location} {tree other : FileTree}

theorem symm (differ : DifferAt place tree other) : DifferAt place other tree :=
  ⟨differ.start.symm, differ.otherNoDirectory, differ.noDirectory,
    fun location different => (differ.elsewhere location different).symm⟩

theorem enter_ok (differ : DifferAt place tree other) {start next : Location} {step : Bytes}
    (entered : tree.enter start step = .ok next) : other.enter start step = .ok next := by
  have different : start ≠ place := by
    rintro rfl
    exact differ.noDirectory (directory_of_enter entered)
  unfold enter at entered ⊢
  rw [differ.elsewhere start different]
  exact entered

theorem follow_ok (differ : DifferAt place tree other) {start reached : Location}
    {steps : List Bytes} (followed : tree.follow start steps = .ok reached) :
    other.follow start steps = .ok reached := by
  induction steps generalizing start with
  | nil => exact followed
  | cons step rest inductionHypothesis =>
      simp only [follow] at followed ⊢
      cases entered : tree.enter start step with
      | error refusal =>
          rw [entered] at followed
          cases followed
      | ok next =>
          rw [entered] at followed
          rw [differ.enter_ok entered]
          exact inductionHypothesis followed

theorem locate_ok (differ : DifferAt place tree other) {path : Path} {reached : Location}
    (named : tree.locate path = .ok reached) : other.locate path = .ok reached := by
  have sameOrigin : other.origin path = tree.origin path := by
    unfold origin
    rw [differ.start]
  unfold locate at named ⊢
  cases refused : refuses path with
  | some refusal =>
      rw [refused] at named
      cases named
  | none =>
      rw [refused] at named
      rw [sameOrigin]
      exact differ.follow_ok named

end DifferAt

/-! ### Where paths lead afterwards -/

theorem deviceAt_eq_some_iff {tree : FileTree} {path : Path} {kind : Device} :
    tree.deviceAt path = some kind ↔
      ∃ location, tree.locate path = .ok location ∧ tree.lookup location = some (.device kind) := by
  constructor
  · intro leads
    unfold deviceAt at leads
    split at leads
    · cases leads
    · next location named =>
        split at leads
        · next found isDevice =>
            cases leads
            exact ⟨location, named, isDevice⟩
        · cases leads
  · rintro ⟨location, named, isDevice⟩
    exact deviceAt_of_device named isDevice

/-- Writing to the first path is writing to what the second one names: both name one place,
and it is no device. -/
def Overwrites (tree : FileTree) (written other : Path) : Prop :=
  ∃ location, tree.locate written = .ok location ∧ tree.locate other = .ok location ∧
    ∀ kind, tree.lookup location ≠ some (.device kind)

theorem not_overwrites {tree : FileTree} {first second : Path}
    {firstLocation secondLocation : Location}
    (firstNamed : tree.locate first = .ok firstLocation)
    (secondNamed : tree.locate second = .ok secondLocation)
    (different : firstLocation ≠ secondLocation) : ¬ tree.Overwrites first second := by
  rintro ⟨location, named, otherNamed, -⟩
  cases firstNamed.symm.trans named
  cases secondNamed.symm.trans otherNamed
  exact different rfl

namespace Updated

variable {before after : FileTree} {path other : Path} {data : Bytes}

/-- Every path leads where it led before. -/
theorem locate_iff (updated : before.Updated path data after) (other : Path)
    (reached : Location) :
    after.locate other = .ok reached ↔ before.locate other = .ok reached := by
  cases updated with
  | file location named noDirectory noDevice start holds others =>
      have holdsNoDirectory : after.lookup location ≠ some .directory := by
        rw [holds]
        exact fun equal => nomatch equal
      have differ : DifferAt location before after := ⟨start, noDirectory, holdsNoDirectory, others⟩
      exact ⟨differ.symm.locate_ok, differ.locate_ok⟩
  | device location kind named isDevice same => rw [same]

/-- Devices stay where they are, and none is made. -/
theorem lookup_device_iff (updated : before.Updated path data after) (location : Location)
    (kind : Device) :
    after.lookup location = some (.device kind) ↔ before.lookup location = some (.device kind) := by
  cases updated with
  | file place named noDirectory noDevice start holds others =>
      by_cases here : location = place
      · rw [here, holds]
        exact ⟨fun isDevice => (nomatch isDevice), fun isDevice => absurd isDevice (noDevice kind)⟩
      · rw [others location here]
  | device place otherKind named isDevice same => rw [same]

theorem deviceAt_eq (updated : before.Updated path data after) (other : Path) :
    after.deviceAt other = before.deviceAt other := by
  apply Option.ext
  intro kind
  simp only [deviceAt_eq_some_iff, updated.locate_iff, updated.lookup_device_iff]

theorem overwrites_iff (updated : before.Updated path data after) (first second : Path) :
    after.Overwrites first second ↔ before.Overwrites first second := by
  simp only [Overwrites, updated.locate_iff, ne_eq, updated.lookup_device_iff]

/-! ### Reading afterwards -/

theorem read_of_locate {tree : FileTree} {location : Location} {content : Bytes}
    (named : tree.locate path = .ok location)
    (holds : tree.lookup location = some (.file content)) : tree.read path = .ok content := by
  simp only [read, named, holds]

/-- A path that names the file where bytes arrived reads as these bytes. -/
theorem read_of_overwrites (updated : before.Updated path data after)
    (overwrites : before.Overwrites path other) : after.read other = .ok data := by
  obtain ⟨location, named, otherNamed, noDevice⟩ := overwrites
  have locatedAfter := (updated.locate_iff other location).mpr otherNamed
  cases updated with
  | file place placed _ _ _ holds =>
      obtain rfl : place = location := Except.ok.inj (placed.symm.trans named)
      exact read_of_locate locatedAfter holds
  | device place kind placed isDevice =>
      obtain rfl : place = location := Except.ok.inj (placed.symm.trans named)
      exact absurd isDevice (noDevice kind)

/-- A path that leads to no device reads as the bytes that arrived at it. -/
theorem read_self (updated : before.Updated path data after)
    (noDevice : before.deviceAt path = none) : after.read path = .ok data := by
  cases updated with
  | file location named noDirectory stays start holds others =>
      have arrived : before.Updated path data after :=
        .file location named noDirectory stays start holds others
      exact arrived.read_of_overwrites ⟨location, named, named, stays⟩
  | device location kind named isDevice =>
      cases noDevice.symm.trans (deviceAt_of_device named isDevice)

/-- Any other path that could be read reads as before. -/
theorem read_other (updated : before.Updated path data after) {content : Bytes}
    (readable : before.read other = .ok content) (notOverwritten : ¬ before.Overwrites path other) :
    after.read other = .ok content := by
  cases named : before.locate other with
  | error refusal =>
      simp only [FileTree.read, named] at readable
      cases readable
  | ok location =>
      have locatedAfter := (updated.locate_iff other location).mpr named
      have sameNode : after.lookup location = before.lookup location := by
        cases updated with
        | file place placed _ noDevice _ _ others =>
            apply others
            rintro rfl
            exact notOverwritten ⟨location, placed, named, noDevice⟩
        | device place kind placed isDevice same => rw [same]
      simp only [FileTree.read, named] at readable
      simp only [FileTree.read, locatedAfter, sameNode]
      exact readable

end Updated

end FileTree

end KernelForge
