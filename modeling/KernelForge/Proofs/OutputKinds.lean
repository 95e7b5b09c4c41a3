import KernelForge.Outputs

/-!
Contract: what outputs are taken for depends on the kernel binaries and the debug infos
among them.

Owns: the outputs of a kind in their own order, the choice among outputs by the first of
each kind, and what follows for outputs that are inserted, appended or reordered.

Everything rests on `find?_eq_head?_endingIn`: each of the two searches sees the outputs of
its own kind and no others.

Does not own: how the outputs were read; that is `KernelForge.Proofs.OutputReading`.
-/

namespace KernelForge

namespace Output

/-- The outputs with a name that ends in a text, in their own order. -/
def endingIn (ending : String) (outputs : List Output) : List Output :=
  outputs.filter fun output => decide (Text.Utf8.encode ending <:+ output.name)

/-- What is appended behind an output of a kind comes too late to be the first. -/
theorem head?_endingIn_append {ending : String} {outputs : List Output}
    (someOutput : endingIn ending outputs ≠ []) (more : List Output) :
    (endingIn ending (outputs ++ more)).head? = (endingIn ending outputs).head? := by
  obtain ⟨output, others, kind⟩ := List.exists_cons_of_ne_nil someOutput
  have behind : endingIn ending (outputs ++ more) =
      endingIn ending outputs ++ endingIn ending more := by
    unfold endingIn
    exact List.filter_append outputs more
  rw [behind, kind]
  rfl

/-- A search for a name meets the first output of that kind. -/
theorem find?_eq_head?_endingIn {ending : String} {suffix : Bytes}
    (encoded : suffix = Text.Utf8.encode ending) (outputs : List Output) :
    (outputs.find? fun output => output.name.endsWith suffix) =
      (endingIn ending outputs).head? := by
  have sameTest : (fun output : Output => output.name.endsWith suffix) =
      fun output => decide (Text.Utf8.encode ending <:+ output.name) := by
    funext output
    rw [encoded, Bool.eq_iff_iff, decide_eq_true_iff]
    exact List.isSuffixOf_iff_suffix
  rw [sameTest, endingIn, List.head?_filter]

theorem kernelSuffix_eq : kernelSuffix = Text.Utf8.encode ".gen" := by decide

theorem debugSuffix_eq : debugSuffix = Text.Utf8.encode ".dbg" := by decide

/-- The outputs of one kind in both lists begin alike, for either kind. -/
structure BeginAlike (first second : List Output) : Prop where
  kernels : (endingIn ".gen" first).head? = (endingIn ".gen" second).head?
  debugInfos : (endingIn ".dbg" first).head? = (endingIn ".dbg" second).head?

theorem BeginAlike.append {outputs : List Output} (someKernel : endingIn ".gen" outputs ≠ [])
    (someDebugInfo : endingIn ".dbg" outputs ≠ []) (more : List Output) :
    BeginAlike (outputs ++ more) outputs where
  kernels := head?_endingIn_append someKernel more
  debugInfos := head?_endingIn_append someDebugInfo more

/-- Lists of at most one output have no order. -/
theorem endingIn_eq_of_perm {ending : String} {first second : List Output}
    (permutation : first.Perm second) (few : (endingIn ending first).length ≤ 1) :
    endingIn ending first = endingIn ending second := by
  have ofKind : (endingIn ending first).Perm (endingIn ending second) := permutation.filter _
  cases outputs : endingIn ending first with
  | nil =>
      rw [outputs] at ofKind
      exact ofKind.nil_eq
  | cons output rest =>
      rw [outputs] at ofKind few
      have single : rest = [] := by
        apply List.eq_nil_of_length_eq_zero
        rw [List.length_cons] at few
        omega
      rw [single] at ofKind ⊢
      exact List.singleton_perm.mp ofKind

end Output

open Output

/-! ### The choice by the first of each kind -/

theorem classify_eq (outputs : List Output) :
    classify outputs =
      match (endingIn ".gen" outputs).head? with
      | none => .error (.missingKernel outputs.length)
      | some kernel =>
          .ok ⟨kernel.data, ((endingIn ".dbg" outputs).head?.map Output.data).getD []⟩ := by
  rw [← find?_eq_head?_endingIn kernelSuffix_eq, ← find?_eq_head?_endingIn debugSuffix_eq]
  rfl

theorem classifyRecord_eq_of_beginAlike {first second : List Output}
    (alike : BeginAlike first second) : classifyRecord first = classifyRecord second := by
  unfold classifyRecord
  rw [find?_eq_head?_endingIn kernelSuffix_eq first, find?_eq_head?_endingIn debugSuffix_eq first,
    find?_eq_head?_endingIn kernelSuffix_eq second,
    find?_eq_head?_endingIn debugSuffix_eq second, alike.kernels, alike.debugInfos]

theorem classify_ok_iff (outputs : List Output) (binary : DeviceBinary) :
    classify outputs = .ok binary ↔
      ∃ kernel more, endingIn ".gen" outputs = kernel :: more ∧
        binary = ⟨kernel.data, ((endingIn ".dbg" outputs).head?.map Output.data).getD []⟩ := by
  rw [classify_eq]
  cases kernels : endingIn ".gen" outputs with
  | nil => simp
  | cons kernel more => simp [eq_comm]

theorem classify_ok_iff_of_beginAlike {first second : List Output}
    (alike : BeginAlike first second) (binary : DeviceBinary) :
    classify first = .ok binary ↔ classify second = .ok binary := by
  rw [classify_eq, classify_eq, alike.kernels, alike.debugInfos]
  cases (endingIn ".gen" second).head? with
  | none => simp
  | some kernel => rfl

/-- Alike outputs with a kernel binary are classified alike. -/
theorem classify_eq_of_beginAlike {first second : List Output} (alike : BeginAlike first second)
    (someKernel : endingIn ".gen" second ≠ []) : classify first = classify second := by
  obtain ⟨kernel, more, kernels⟩ := List.exists_cons_of_ne_nil someKernel
  have classified := (classify_ok_iff second _).mpr ⟨kernel, more, kernels, rfl⟩
  rw [classified]
  exact (classify_ok_iff_of_beginAlike alike _).mpr classified

/-- **Outputs are classified by the kernel binaries and the debug infos among them.** There
is a device binary exactly if there is a kernel binary, and it has the bytes of the first
one and of the first debug info, if there is one. Other outputs, their places, and outputs
behind the first of each kind do not count; nor does any order, where no kind has two. -/
theorem classify_follows_kinds :
    (∀ outputs binary, classify outputs = .ok binary ↔
      ∃ kernel more, endingIn ".gen" outputs = kernel :: more ∧
        binary = ⟨kernel.data, ((endingIn ".dbg" outputs).head?.map Output.data).getD []⟩) ∧
    (∀ outputs, (∃ binary, classify outputs = .ok binary) ↔ endingIn ".gen" outputs ≠ []) ∧
    (∀ first second, endingIn ".gen" first = endingIn ".gen" second →
      endingIn ".dbg" first = endingIn ".dbg" second →
        (∀ binary, classify first = .ok binary ↔ classify second = .ok binary) ∧
        classifyRecord first = classifyRecord second) ∧
    (∀ outputs more, endingIn ".gen" outputs ≠ [] → endingIn ".dbg" outputs ≠ [] →
      classify (outputs ++ more) = classify outputs ∧
      classifyRecord (outputs ++ more) = classifyRecord outputs) ∧
    (∀ first second, first.Perm second → (endingIn ".gen" first).length = 1 →
      (endingIn ".dbg" first).length ≤ 1 →
        classify first = classify second ∧ classifyRecord first = classifyRecord second) := by
  refine ⟨classify_ok_iff, ?_, ?_, ?_, ?_⟩
  · intro outputs
    constructor
    · rintro ⟨binary, classified⟩
      obtain ⟨kernel, more, kernels, -⟩ := (classify_ok_iff outputs binary).mp classified
      rw [kernels]
      exact List.cons_ne_nil kernel more
    · intro someKernel
      obtain ⟨kernel, more, kernels⟩ := List.exists_cons_of_ne_nil someKernel
      exact ⟨_, (classify_ok_iff outputs _).mpr ⟨kernel, more, kernels, rfl⟩⟩
  · intro first second sameKernels sameDebugInfos
    have alike : BeginAlike first second :=
      ⟨congrArg List.head? sameKernels, congrArg List.head? sameDebugInfos⟩
    exact ⟨classify_ok_iff_of_beginAlike alike, classifyRecord_eq_of_beginAlike alike⟩
  · intro outputs more someKernel someDebugInfo
    have alike := BeginAlike.append someKernel someDebugInfo more
    exact ⟨classify_eq_of_beginAlike alike someKernel, classifyRecord_eq_of_beginAlike alike⟩
  · intro first second permutation oneKernel fewDebugInfos
    have sameKernels := endingIn_eq_of_perm permutation (Nat.le_of_eq oneKernel)
    have sameDebugInfos := endingIn_eq_of_perm permutation fewDebugInfos
    have alike : BeginAlike first second :=
      ⟨congrArg List.head? sameKernels, congrArg List.head? sameDebugInfos⟩
    have someKernel : endingIn ".gen" second ≠ [] := by
      rw [← sameKernels]
      apply List.ne_nil_of_length_pos
      omega
    exact ⟨classify_eq_of_beginAlike alike someKernel, classifyRecord_eq_of_beginAlike alike⟩

/-- A name that is nothing but its ending counts, one with the ending inside does not; the
outputs are reordered, thinned out and followed by more of their kinds. -/
theorem classify_follows_kinds_of_bare_ending :
    let kernel : Output := ⟨Text.Utf8.encode ".gen", [0, 7, 0]⟩
    let debugInfo : Output := ⟨Text.Utf8.encode "k.dbg", [0]⟩
    let other : Output := ⟨Text.Utf8.encode "k.gen.txt", [9]⟩
    let later : Output := ⟨Text.Utf8.encode "z.gen", [1]⟩
    let outputs := [other, debugInfo, kernel]
    endingIn ".gen" outputs = [kernel] ∧ endingIn ".dbg" outputs = [debugInfo] ∧
      classify outputs = .ok ⟨[0, 7, 0], [0]⟩ ∧
      classify [kernel, debugInfo] = .ok ⟨[0, 7, 0], [0]⟩ ∧
      classify (outputs ++ [later]) = classify outputs ∧
      classify outputs = classify [kernel, other, debugInfo] := by
  intro kernel debugInfo other later outputs
  obtain ⟨chosen, -, alike, appended, permuted⟩ := classify_follows_kinds
  have kernels : endingIn ".gen" outputs = [kernel] := by decide
  have debugInfos : endingIn ".dbg" outputs = [debugInfo] := by decide
  have whole : classify outputs = .ok ⟨[0, 7, 0], [0]⟩ :=
    (chosen outputs _).mpr ⟨kernel, [], kernels, by rw [debugInfos]; rfl⟩
  have thinned : classify [kernel, debugInfo] = .ok ⟨[0, 7, 0], [0]⟩ :=
    ((alike outputs [kernel, debugInfo] (by decide) (by decide)).1 _).mp whole
  have followed := (appended outputs [later] (by decide) (by decide)).1
  have reordered := (permuted outputs [kernel, other, debugInfo] (by decide) (by decide)
    (by decide)).1
  exact ⟨kernels, debugInfos, whole, thinned, followed, reordered⟩

end KernelForge
