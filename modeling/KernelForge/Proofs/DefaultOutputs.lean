import KernelForge.Job.Translate
import KernelForge.Proofs.PathParts

/-!
Contract: where the outputs of a translation go when no place was asked for.

Owns: what the two derived paths share with the path of the input, that they differ from each
other and are derived again from themselves, and for which inputs this holds.

It holds for every input with a file name but one kind of name: two dots and an extension,
whose stem is a single dot.

Does not own: outputs whose places were asked for, and what the paths lead to.
-/

namespace KernelForge.Translate

/-- An output beside the input: in the same directory, with the same stem and an extension of
its own. It is the input's own path exactly if that has the extension already. -/
structure Beside (input output : Path) (ending : Bytes) : Prop where
  directory : output.directory = input.directory
  stem : output.stem = input.stem
  extension : output.extension = some ending
  overInput : output.components = input.components ↔ input.extension = some ending

/-- Both outputs stand beside the input and apart from each other, and each of them leads to
the same two paths if it is the input in turn. -/
structure OutputsBeside (options : TranslateOptions) : Prop where
  kernel : Beside options.input (kernelPath options) kernelExtension
  debugInfo : Beside options.input (debugInfoPath options) debugInfoExtension
  apart : (kernelPath options).components ≠ (debugInfoPath options).components
  stable : ∀ output, output = kernelPath options ∨ output = debugInfoPath options →
    kernelPath { options with input := output } = kernelPath options ∧
      debugInfoPath { options with input := output } = debugInfoPath options

section Derived

variable {input : Path} {front name trail new other : Bytes}

/-- An extension that can be told from the stem: it is not empty and has neither a dot nor a
separator in it. -/
structure Plain (ending : Bytes) : Prop where
  filled : ending ≠ []
  undotted : Path.dot ∉ ending
  unseparated : Path.separator ∉ ending

theorem plain_kernelExtension : Plain kernelExtension := by
  constructor <;> decide

theorem plain_debugInfoExtension : Plain debugInfoExtension := by
  constructor <;> decide

theorem endsIn_derived (ends : input.EndsIn front name trail) (plain : Plain new)
    (safe : Path.stemOf name ≠ [Path.dot] ∨ trail ≠ []) :
    (input.withExtension new).EndsIn front (Path.stemOf name ++ Path.dot :: new) [] := by
  rw [ends.withExtension safe]
  exact ends.endsIn_withExtension plain.filled plain.unseparated

/-- The derived name is cut into the old stem and the new extension. -/
theorem splitExtension_derived (ends : input.EndsIn front name trail) (plain : Plain new) :
    Path.splitExtension (Path.stemOf name ++ Path.dot :: new) = (Path.stemOf name, some new) :=
  Path.splitExtension_of_dot (Path.stemOf_ne_nil (Path.isName_iff.mp ends.named).1) plain.undotted

theorem beside_derived (ends : input.EndsIn front name trail) (plain : Plain new)
    (safe : Path.stemOf name ≠ [Path.dot]) : Beside input (input.withExtension new) new := by
  have named : name ≠ [] := (Path.isName_iff.mp ends.named).1
  have derivedEnds := endsIn_derived ends plain (.inl safe)
  have cut := splitExtension_derived ends plain
  constructor
  · rw [derivedEnds.directory, ends.directory]
  · rw [derivedEnds.stem, ends.stem, Path.stemOf, cut]
  · rw [derivedEnds.extension, cut]
  · rw [derivedEnds.components, ends.components, ends.extension,
      Path.extensionOf_eq_some_iff named plain.undotted, List.append_cancel_left_eq,
      List.singleton_inj]
    exact eq_comm

/-- Deriving a path from a derived one is deriving it at once. -/
theorem derived_again (ends : input.EndsIn front name trail) (plain : Plain new)
    (safe : Path.stemOf name ≠ [Path.dot]) :
    (input.withExtension new).withExtension other = input.withExtension other := by
  have stem : Path.stemOf (Path.stemOf name ++ Path.dot :: new) = Path.stemOf name := by
    rw [Path.stemOf, splitExtension_derived ends plain]
  have stillSafe : Path.stemOf (Path.stemOf name ++ Path.dot :: new) ≠ [Path.dot] := by
    rw [stem]
    exact safe
  rw [(endsIn_derived ends plain (.inl safe)).withExtension (.inl stillSafe), stem,
    ends.withExtension (.inl safe)]

theorem derived_apart (ends : input.EndsIn front name trail) (plain : Plain new)
    (otherPlain : Plain other) (different : new ≠ other) (safe : Path.stemOf name ≠ [Path.dot]) :
    (input.withExtension new).components ≠ (input.withExtension other).components := by
  rw [(endsIn_derived ends plain (.inl safe)).components,
    (endsIn_derived ends otherPlain (.inl safe)).components]
  simpa using different

/-- A stem of one dot does not survive being derived twice. -/
theorem not_derived_again (ends : input.EndsIn front name trail) (plain : Plain new)
    (dots : Path.stemOf name = [Path.dot]) (trailing : trail ≠ []) :
    (input.withExtension new).withExtension new ≠ input.withExtension new := by
  have stem : Path.stemOf (Path.stemOf name ++ Path.dot :: new) = [Path.dot] := by
    rw [Path.stemOf, splitExtension_derived ends plain, dots]
  rw [(endsIn_derived ends plain (.inr trailing)).withExtension_of_dots stem,
    ends.withExtension (.inr trailing), dots]
  simpa using plain.filled.symm

end Derived

/-- **Outputs stand beside their input.** Where no output was asked for, the kernel binary and
the debug info of an input with a file name go to two different paths in its directory, with
its stem and with their own extensions; each is the input's own path exactly if that has the
extension already; and from either of them the same two paths are derived again. The one
exception is a stem of a single dot, with which this fails. -/
theorem default_outputs_beside_input_iff (options : TranslateOptions)
    (named : options.input.fileName ≠ none) (noOutput : options.output = none)
    (noDebugInfo : options.debugInfo = none) :
    OutputsBeside options ↔ options.input.stem ≠ some [Path.dot] := by
  have kernel : ∀ input, kernelPath { options with input } = input.withExtension kernelExtension :=
    fun input => by simp only [kernelPath, noOutput, Option.getD_none]
  have debugInfo : ∀ input,
      debugInfoPath { options with input } = input.withExtension debugInfoExtension :=
    fun input => by simp only [debugInfoPath, noDebugInfo, Option.getD_none]
  have kernelHere : kernelPath options = options.input.withExtension kernelExtension :=
    kernel options.input
  have debugInfoHere : debugInfoPath options = options.input.withExtension debugInfoExtension :=
    debugInfo options.input
  obtain ⟨front, name, trail, ends⟩ := Path.exists_endsIn named
  rw [ends.stem, ne_eq, Option.some.injEq]
  constructor
  · intro beside dots
    by_cases trailing : trail = []
    · subst trailing
      refine beside.apart ?_
      rw [kernelHere, debugInfoHere, ends.withExtension_of_dots dots,
        ends.withExtension_of_dots dots]
    · have again := (beside.stable _ (.inl rfl)).1
      rw [kernel, kernelHere] at again
      exact not_derived_again ends plain_kernelExtension dots trailing again
  · intro safe
    constructor
    · rw [kernelHere]
      exact beside_derived ends plain_kernelExtension safe
    · rw [debugInfoHere]
      exact beside_derived ends plain_debugInfoExtension safe
    · rw [kernelHere, debugInfoHere]
      exact derived_apart ends plain_kernelExtension plain_debugInfoExtension (by decide) safe
    · intro output isOutput
      rw [kernel, debugInfo, kernelHere, debugInfoHere]
      rw [kernelHere, debugInfoHere] at isOutput
      rcases isOutput with rfl | rfl
      · exact ⟨derived_again ends plain_kernelExtension safe,
          derived_again ends plain_kernelExtension safe⟩
      · exact ⟨derived_again ends plain_debugInfoExtension safe,
          derived_again ends plain_debugInfoExtension safe⟩

/-- Options that leave both outputs to the input's name. -/
def optionsFor (input : String) : TranslateOptions :=
  ⟨"SKL", "cm", Path.ofText input, "", [], false, none, none, none, false, false⟩

/-- A hidden file with two extensions, and a separator behind it. -/
theorem default_outputs_beside_hidden_input :
    OutputsBeside (optionsFor "a.b//.k.v2.spv/") ∧
      kernelPath (optionsFor "a.b//.k.v2.spv/") = Path.ofText "a.b//.k.v2.gen" ∧
      debugInfoPath (optionsFor "a.b//.k.v2.spv/") = Path.ofText "a.b//.k.v2.dbg" :=
  ⟨(default_outputs_beside_input_iff (optionsFor "a.b//.k.v2.spv/") (by decide) rfl rfl).mpr
    (by decide), by decide, by decide⟩

/-- Both outputs of a file named by two dots and an extension go to the directory above. -/
theorem default_outputs_meet_at_two_dots :
    (optionsFor "..k").input.fileName = some (Text.Utf8.encode "..k") ∧
      (optionsFor "..k").input.extension = some (Text.Utf8.encode "k") ∧
      kernelPath (optionsFor "..k") = Path.ofText ".." ∧
      debugInfoPath (optionsFor "..k") = Path.ofText ".." ∧
      ¬ OutputsBeside (optionsFor "..k") := by
  refine ⟨by decide, by decide, by decide, by decide, ?_⟩
  intro beside
  exact beside.apart (by decide)

end KernelForge.Translate
