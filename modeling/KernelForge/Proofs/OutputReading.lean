import KernelForge.Compiler.Scripted
import KernelForge.Outputs

/-!
Contract: what is read out of the three output arrays, position by position.

Owns: the entry at a position, the first entry of a kind, and reading and classifying
entries as searches for the first entry of a kind.

The code pairs the arrays up and walks them; here every position below the count is
looked up in each array on its own. `entries_getElem?` ties the two together, and the
searches below it rest on nothing else.

Does not own: the records that are written while reading.
-/

namespace KernelForge

namespace OutputEntry

/-- The entry claims bytes but has no data. -/
def lacksData (entry : OutputEntry) : Bool :=
  entry.data.isNone && entry.length != 0

/-- The name says that the entry is a kernel binary. -/
def isKernel (entry : OutputEntry) : Bool :=
  entry.nameBytes.endsWith kernelSuffix

/-- The name says that the entry is debug info. -/
def isDebugInfo (entry : OutputEntry) : Bool :=
  entry.nameBytes.endsWith debugSuffix

/-- As many bytes of the data as the length says. -/
def content (entry : OutputEntry) : Bytes :=
  (entry.data.getD []).take entry.length

/-- The entry under its name. -/
def named (entry : OutputEntry) : Output :=
  ⟨entry.nameBytes, entry.content⟩

theorem output_of_lacksData {entry : OutputEntry} (lacks : entry.lacksData = true) :
    entry.output = .error (.missingData entry.nameBytes entry.length) := by
  obtain ⟨name, data, length⟩ := entry
  cases data with
  | none =>
      have positive : length ≠ 0 := by simpa [lacksData] using lacks
      simp only [output, if_neg positive]
  | some bytes => simp [lacksData] at lacks

theorem output_of_readable {entry : OutputEntry} (readable : entry.lacksData = false) :
    entry.output = .ok entry.named := by
  obtain ⟨name, data, length⟩ := entry
  by_cases empty : length = 0
  · simp [output, named, content, nameBytes, empty]
  · cases data with
    | none => simp [lacksData, empty] at readable
    | some bytes => simp [output, named, content, nameBytes, empty]

end OutputEntry

/-! ### Positions -/

namespace OutParameters

/-- The entry at a position: the position is below the count, no array is null, and
each array says its part. -/
def entryAt (outputs : OutParameters) (position : Nat) : Option OutputEntry :=
  if position < outputs.count then do
    let data ← outputs.data
    let lengths ← outputs.lengths
    let names ← outputs.names
    some ⟨← names[position]?, ← data[position]?, ← lengths[position]?⟩
  else none

/-- The first entry of a kind. -/
def First (outputs : OutParameters) (kind : OutputEntry → Bool) (entry : OutputEntry) : Prop :=
  ∃ position, outputs.entryAt position = some entry ∧ kind entry = true ∧
    ∀ earlier, earlier < position →
      ∀ other, outputs.entryAt earlier = some other → kind other = false

/-- No entry is of a kind. -/
def HasNo (outputs : OutParameters) (kind : OutputEntry → Bool) : Prop :=
  ∀ position entry, outputs.entryAt position = some entry → kind entry = false

/-- How many entries are considered: the count, but none if an array is null. -/
def consideredCount (outputs : OutParameters) : Nat :=
  if outputs.data = none ∨ outputs.lengths = none ∨ outputs.names = none then 0
  else outputs.count

/-- What the compiler promises of a successful call: every array that is not null has
an entry at each position below the count. -/
structure Filled (outputs : OutParameters) : Prop where
  data : ∀ entries, outputs.data = some entries → outputs.count ≤ entries.length
  lengths : ∀ entries, outputs.lengths = some entries → outputs.count ≤ entries.length
  names : ∀ entries, outputs.names = some entries → outputs.count ≤ entries.length

/-- Every scripted compiler keeps that promise, whatever its script says. -/
theorem Filled.scripted (script : Script) : script.outParameters.Filled := by
  have holds : ∀ {α : Type} (part : ScriptedOutput → α) (hidden : Bool) (entries : List α),
      (if hidden then none else some (script.outputs.map part)) = some entries →
        script.outParameters.count ≤ entries.length := by
    intro α part hidden entries present
    simp only [Option.ite_none_left_eq_some, Option.some.injEq] at present
    obtain ⟨-, rfl⟩ := present
    rw [List.length_map]
    exact Nat.min_le_right _ _
  exact ⟨holds ScriptedOutput.data script.nullData,
    holds ScriptedOutput.reported script.nullLengths, holds ScriptedOutput.name script.nullNames⟩

/-- Walking the paired arrays meets the entries of the positions in order. -/
theorem entries_getElem? (outputs : OutParameters) (position : Nat) :
    outputs.entries[position]? = outputs.entryAt position := by
  obtain ⟨count, data, lengths, names⟩ := outputs
  cases data <;> cases lengths <;> cases names <;>
    simp only [entries, entryAt, List.getElem?_nil, Option.bind_eq_bind, Option.bind_none,
      Option.bind_some, ite_self]
  next data lengths names =>
    by_cases below : position < count
    · rw [List.getElem?_take_of_lt below, List.getElem?_map, if_pos below]
      simp only [List.zip, List.getElem?_zipWith]
      cases names[position]? <;> cases data[position]? <;> cases lengths[position]? <;> rfl
    · rw [List.getElem?_take_eq_none (Nat.le_of_not_lt below), if_neg below]

theorem entries_length {outputs : OutParameters} (filled : outputs.Filled) :
    outputs.entries.length = outputs.consideredCount := by
  obtain ⟨count, data, lengths, names⟩ := outputs
  cases data <;> cases lengths <;> cases names <;> simp [entries, consideredCount]
  next data lengths names =>
    have dataHolds := filled.data data rfl
    have lengthsHold := filled.lengths lengths rfl
    have namesHold := filled.names names rfl
    simp only at dataHolds lengthsHold namesHold
    omega

/-! ### Searches -/

theorem find?_entries_eq_some_iff (outputs : OutParameters) (kind : OutputEntry → Bool)
    (entry : OutputEntry) :
    outputs.entries.find? kind = some entry ↔ outputs.First kind entry := by
  rw [List.find?_eq_some_iff_getElem]
  constructor
  · rintro ⟨isKind, position, below, rfl, earlierNot⟩
    refine ⟨position, ?_, isKind, ?_⟩
    · rw [← entries_getElem?, List.getElem?_eq_getElem below]
    · intro earlier before other atEarlier
      rw [← entries_getElem?, List.getElem?_eq_getElem (Nat.lt_trans before below)] at atEarlier
      cases atEarlier
      simpa using earlierNot earlier before
  · rintro ⟨position, atPosition, isKind, earlierNot⟩
    rw [← entries_getElem?] at atPosition
    obtain ⟨below, rfl⟩ := List.getElem?_eq_some_iff.mp atPosition
    refine ⟨isKind, position, below, rfl, ?_⟩
    intro earlier before
    have atEarlier := List.getElem?_eq_getElem (Nat.lt_trans before below)
    rw [entries_getElem?] at atEarlier
    simp [earlierNot earlier before _ atEarlier]

theorem find?_entries_eq_none_iff (outputs : OutParameters) (kind : OutputEntry → Bool) :
    outputs.entries.find? kind = none ↔ outputs.HasNo kind := by
  rw [List.find?_eq_none]
  constructor
  · intro noneIs position entry atPosition
    rw [← entries_getElem?] at atPosition
    simpa using noneIs entry (List.mem_of_getElem? atPosition)
  · intro hasNo entry member
    obtain ⟨position, atPosition⟩ := List.mem_iff_getElem?.mp member
    rw [entries_getElem?] at atPosition
    simp [hasNo position entry atPosition]

end OutParameters

/-! ### Reading and classifying -/

/-- Reading succeeds up to the first entry without its data, and any such entry refuses
all of them. -/
theorem readEntries_result (entries : List OutputEntry) :
    (readEntries entries).2 =
      match entries.find? OutputEntry.lacksData with
      | some entry => .error (.missingData entry.nameBytes entry.length)
      | none => .ok (entries.map OutputEntry.named) := by
  induction entries with
  | nil => rfl
  | cons entry rest inductionHypothesis =>
      cases lacks : entry.lacksData with
      | true =>
          rw [List.find?_cons_of_pos lacks]
          simp only [readEntries, OutputEntry.output_of_lacksData lacks]
      | false =>
          rw [List.find?_cons_of_neg (by simp [lacks])]
          simp only [readEntries, OutputEntry.output_of_readable lacks, inductionHypothesis]
          cases rest.find? OutputEntry.lacksData <;> rfl

/-- The two searches among named outputs are searches among the entries behind them, and
neither looks at what the other finds. -/
theorem classify_named (entries : List OutputEntry) :
    classify (entries.map OutputEntry.named) =
      match entries.find? OutputEntry.isKernel with
      | none => .error (.missingKernel entries.length)
      | some kernel =>
          .ok ⟨kernel.content,
            ((entries.find? OutputEntry.isDebugInfo).map OutputEntry.content).getD []⟩ := by
  have kernelSearch :
      (entries.map OutputEntry.named).find? (fun output => output.name.endsWith kernelSuffix) =
        (entries.find? OutputEntry.isKernel).map OutputEntry.named := List.find?_map
  have debugSearch :
      (entries.map OutputEntry.named).find? (fun output => output.name.endsWith debugSuffix) =
        (entries.find? OutputEntry.isDebugInfo).map OutputEntry.named := List.find?_map
  unfold classify
  rw [kernelSearch, debugSearch]
  cases entries.find? OutputEntry.isKernel with
  | none => simp only [Option.map_none, List.length_map]
  | some kernel =>
      cases entries.find? OutputEntry.isDebugInfo <;> rfl

end KernelForge
