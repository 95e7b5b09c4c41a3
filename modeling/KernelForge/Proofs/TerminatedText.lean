import KernelForge.Proofs.SessionCalls

/-!
Contract: texts as zero-terminated buffers.

Owns: where a zero byte stands in the encoding of a text, and reading the arguments of
a call back up to their first zero byte.

Does not own: which arguments are refused because of a zero character.
-/

namespace KernelForge

namespace Text.Utf8

theorem ofNat_ne_zero {value : Nat} (nonzero : 0 < value % 256) : 0 ≠ UInt8.ofNat value := by
  intro equal
  have values : (0 : UInt8).toNat = (UInt8.ofNat value).toNat := congrArg UInt8.toNat equal
  rw [UInt8.toNat_ofNat'] at values
  have zeroValue : (0 : UInt8).toNat = 0 := rfl
  omega

theorem zero_mem_utf8EncodeChar_iff (character : Char) :
    0 ∈ String.utf8EncodeChar character ↔ character = '\x00' := by
  constructor
  · fun_cases String.utf8EncodeChar character with
    | case1 value ascii =>
        intro member
        have isByte : 0 = UInt8.ofNat value := List.mem_singleton.mp member
        have isZero : value = 0 := by
          apply Decidable.byContradiction
          intro nonzero
          exact ofNat_ne_zero (by omega) isByte
        exact Char.ext (UInt32.toNat_inj.mp isZero)
    -- Every byte of a longer encoding has its highest bit set.
    | case2 value =>
        intro member
        simp only [List.mem_cons, List.not_mem_nil, or_false] at member
        rcases member with high | high <;> exact absurd high (ofNat_ne_zero (by omega))
    | case3 value =>
        intro member
        simp only [List.mem_cons, List.not_mem_nil, or_false] at member
        rcases member with high | high | high <;> exact absurd high (ofNat_ne_zero (by omega))
    | case4 value =>
        intro member
        simp only [List.mem_cons, List.not_mem_nil, or_false] at member
        rcases member with high | high | high | high <;>
          exact absurd high (ofNat_ne_zero (by omega))
  · rintro rfl
    decide

theorem zero_mem_encode_iff (text : String) : 0 ∈ encode text ↔ '\x00' ∈ text.toList := by
  simp only [encode, encodeChars, List.mem_flatMap, zero_mem_utf8EncodeChar_iff, exists_eq_right]

end Text.Utf8

namespace Bytes

theorem untilZero_append_zero {bytes : Bytes} (unbroken : 0 ∉ bytes) :
    untilZero (bytes ++ [0]) = bytes := by
  induction bytes with
  | nil => rfl
  | cons byte rest inductionHypothesis =>
      have byteNonzero : byte ≠ 0 := fun equal => unbroken (by simp [equal])
      have restUnbroken : 0 ∉ rest := fun member => unbroken (List.mem_cons_of_mem byte member)
      have restRead : untilZero (rest ++ [0]) = rest := inductionHypothesis restUnbroken
      unfold untilZero at restRead ⊢
      rw [List.cons_append, List.takeWhile_cons_of_pos (by simpa using byteNonzero), restRead]

end Bytes

namespace Session

theorem untilZero_terminated {text : String} (unbroken : ¬ HoldsZero text) :
    (terminated text).untilZero = Text.Utf8.encode text := by
  have noZero : 0 ∉ Text.Utf8.encode text := mt (Text.Utf8.zero_mem_encode_iff text).mp unbroken
  exact Bytes.untilZero_append_zero noZero

/-- A buffer ends: reading it up to a zero byte stays inside. -/
theorem zero_mem_terminated (text : String) : 0 ∈ terminated text :=
  List.mem_append_right (Text.Utf8.encode text) List.mem_cons_self

/-- Arguments that are not refused are received as they were composed. -/
theorem invokeCall_arguments_untilZero {arguments : List String}
    (accepted : refusal arguments = none) (ir : Bytes) :
    (invokeCall arguments ir).arguments.map Bytes.untilZero =
      arguments.map Text.Utf8.encode := by
  show (arguments.map terminated).map Bytes.untilZero = arguments.map Text.Utf8.encode
  rw [List.map_map]
  apply List.map_congr_left
  intro argument member
  exact untilZero_terminated (refusal_none accepted argument member)

end Session

end KernelForge
