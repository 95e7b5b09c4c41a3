import KernelForge.Proofs.Utf8Reading

/-!
Contract: what bytes show as when they are read tolerantly.

Owns: when bytes start with an ill-formed piece and how long that is, what bytes show as
piece by piece, and the tolerant reading as the one text that they show as.

A piece is measured against the characters that there are and not against the reader: it is
the longest front of the bytes that starts some encoded character, where no character is
complete; or a single byte, where not even that starts one.

Does not own: the strict reading.
-/

namespace KernelForge.Text.Utf8

/-- Bytes that some encoded character starts with. -/
def StartsCharacter (bytes : Bytes) : Prop :=
  ∃ character, bytes <+: String.utf8EncodeChar character

/-- Bytes that are an ill-formed piece of their own, given what stands behind them. -/
structure IllFormedFront (piece rest : Bytes) : Prop where
  filled : piece ≠ []
  noCharacter : ∀ character, ¬ String.utf8EncodeChar character <+: piece ++ rest
  short : StartsCharacter piece ∨ piece.length = 1
  longest : ∀ longer, longer <+: piece ++ rest → StartsCharacter longer →
    longer.length ≤ piece.length

/-- What bytes show as: their characters, and one U+FFFD for each ill-formed piece. -/
inductive ShownAs : Bytes → List Char → Prop
  | nothing : ShownAs [] []
  | character (character : Char) {rest : Bytes} {shown : List Char}
      (behind : ShownAs rest shown) :
      ShownAs (String.utf8EncodeChar character ++ rest) (character :: shown)
  | illFormed {piece rest : Bytes} (front : IllFormedFront piece rest) {shown : List Char}
      (behind : ShownAs rest shown) : ShownAs (piece ++ rest) ('\uFFFD' :: shown)

/-! ### Ill-formed pieces -/

/-- The reader finds characters where there are some. -/
theorem not_encodeChar_of_illFormed {bytes piece : Bytes} {others : List Piece}
    (broken : piecesFrom none bytes = .illFormed piece :: others) (character : Char) :
    ¬ String.utf8EncodeChar character <+: bytes := by
  rintro ⟨rest, rfl⟩
  rw [piecesFrom_encodeChar] at broken
  cases broken

/-- A piece is ill-formed if the reader says so whatever stands behind the next byte. -/
theorem illFormedFront_of_broken {piece rest : Bytes} (filled : piece ≠ [])
    (short : StartsCharacter piece ∨ piece.length = 1)
    (broken : ∀ other : Bytes, other.head? = rest.head? →
      ∃ others, piecesFrom none (piece ++ other) = .illFormed piece :: others) :
    IllFormedFront piece rest := by
  refine ⟨filled, ?_, short, ?_⟩
  · obtain ⟨others, breaks⟩ := broken rest rfl
    exact not_encodeChar_of_illFormed breaks
  · rintro longer ⟨behind, front⟩ ⟨character, tail, encoded⟩
    by_cases shorter : longer.length ≤ piece.length
    · exact shorter
    · obtain ⟨more, rfl⟩ : ∃ more, longer = piece ++ more := by
        obtain ⟨more, isMore⟩ := List.prefix_of_prefix_length_le
          (List.prefix_append piece rest) ⟨behind, front⟩ (by omega)
        exact ⟨more, isMore.symm⟩
      cases more with
      | nil => exact absurd (Nat.le_of_eq (by rw [List.append_nil])) shorter
      | cons byte more =>
          rw [List.append_assoc, List.append_cancel_left_eq] at front
          obtain ⟨others, breaks⟩ := broken (byte :: more ++ tail) (by rw [← front]; rfl)
          rw [← List.append_assoc, encoded] at breaks
          exact absurd (List.prefix_refl _) (not_encodeChar_of_illFormed breaks character)

/-! ### Pending characters that can be completed -/

namespace Pending

/-- Some byte is due, and some byte is accepted. -/
structure Open (pending : Pending) : Prop where
  due : 1 ≤ pending.due
  low : pending.low ≤ pending.high
  high : pending.high ≤ 0xBF

theorem Open.exists_accepts {pending : Pending} (isOpen : pending.Open) :
    ∃ byte, pending.Accepts byte := by
  have low : (UInt8.ofNat pending.low).toNat = pending.low := by
    have bounded := isOpen.high
    have ordered := isOpen.low
    exact toNat_byte (by omega)
  exact ⟨UInt8.ofNat pending.low, Nat.le_of_eq low.symm, low.symm ▸ isOpen.low⟩

theorem Open.next {pending : Pending} (isOpen : pending.Open) (several : pending.due ≠ 1)
    (byte : UInt8) : (pending.next byte).Open := by
  have due := isOpen.due
  refine ⟨?_, (by decide : 0x80 ≤ 0xBF), Nat.le_refl 0xBF⟩
  show 1 ≤ pending.due - 1
  omega

/-- What was seen of a character starts one. -/
theorem Sound.startsCharacter {pending : Pending} (sound : pending.Sound)
    (isOpen : pending.Open) : StartsCharacter pending.seen := by
  induction sound with
  | last one encoded =>
      obtain ⟨byte, accepted⟩ := isOpen.exists_accepts
      exact ⟨_, [byte], (encoded byte accepted).symm⟩
  | more several goesOn inductionHypothesis =>
      obtain ⟨byte, accepted⟩ := isOpen.exists_accepts
      obtain ⟨character, starts⟩ :=
        inductionHypothesis byte accepted (isOpen.next several byte)
      exact ⟨character, (List.prefix_append _ [byte]).trans starts⟩

end Pending

theorem open_of_start {byte : UInt8} {pending : Pending} (starts : start byte = .inr pending) :
    pending.Open := by
  revert starts
  fun_cases start byte
  all_goals
    intro starts
    cases starts
  all_goals
    exact ⟨Nat.le_of_ble_eq_true rfl, Nat.le_of_ble_eq_true rfl, Nat.le_of_ble_eq_true rfl⟩

/-- A byte that is not accepted ends what is pending and is read anew. -/
theorem piecesFrom_refused {pending : Pending} {byte : UInt8} (refused : ¬ pending.Accepts byte)
    (rest : Bytes) :
    piecesFrom (some pending) (byte :: rest) =
      .illFormed pending.seen :: piecesFrom none (byte :: rest) := by
  unfold Pending.Accepts at refused
  simp only [piecesFrom, refused, if_false]

/-! ### The tolerant reading -/

/-- What was read of a character that is pending: the reader stands behind it, and it can
still become one. -/
structure Pending.Reached (pending : Pending) : Prop where
  sound : pending.Sound
  isOpen : pending.Open
  filled : pending.seen ≠ []
  read : ∀ rest, piecesFrom none (pending.seen ++ rest) = piecesFrom (some pending) rest

theorem reached_of_start {byte : UInt8} {pending : Pending} (starts : start byte = .inr pending)
    (sound : pending.Sound) (seen : pending.seen = [byte]) : pending.Reached := by
  refine ⟨sound, open_of_start starts, ?_, ?_⟩
  · rw [seen]
    exact List.cons_ne_nil byte []
  · intro rest
    rw [seen, List.singleton_append, piecesFrom, starts]

theorem Pending.Reached.next {pending : Pending} (reached : pending.Reached)
    (several : pending.due ≠ 1) {byte : UInt8} (accepted : pending.Accepts byte)
    (sound : (pending.next byte).Sound) : (pending.next byte).Reached := by
  refine ⟨sound, reached.isOpen.next several byte, ?_, ?_⟩
  · exact List.append_ne_nil_of_left_ne_nil reached.filled [byte]
  intro rest
  rw [← piecesFrom_more several accepted, ← reached.read]
  simp only [Pending.next, List.append_assoc, List.singleton_append]

/-- What is pending is ill-formed where it is not accepted, or nothing is behind it. -/
theorem Pending.Reached.illFormedFront {pending : Pending} (reached : pending.Reached)
    {rest : Bytes} (ends : ∀ byte ∈ rest.head?, ¬ pending.Accepts byte) :
    IllFormedFront pending.seen rest := by
  have starts := reached.sound.startsCharacter reached.isOpen
  apply illFormedFront_of_broken reached.filled (.inl starts)
  intro other sameHead
  rw [reached.read]
  cases other with
  | nil => exact ⟨[], rfl⟩
  | cons byte others => exact piecesFrom_broken (ends byte sameHead.symm) others

theorem illFormedFront_of_start {byte : UInt8} (starts : start byte = .inl (.illFormed [byte]))
    (rest : Bytes) : IllFormedFront [byte] rest := by
  apply illFormedFront_of_broken (List.cons_ne_nil byte []) (.inr rfl)
  intro other sameHead
  rw [List.singleton_append, piecesFrom, starts]
  exact ⟨_, rfl⟩

/-- Bytes show as the reader shows them, from a start and behind a pending character. -/
theorem shownAs_piecesFrom (bytes : Bytes) :
    ShownAs bytes ((piecesFrom none bytes).map Piece.shown) ∧
      ∀ pending : Pending, pending.Reached →
        ShownAs (pending.seen ++ bytes) ((piecesFrom (some pending) bytes).map Piece.shown) := by
  induction bytes with
  | nil =>
      refine ⟨.nothing, fun pending reached => ?_⟩
      have ends : ∀ byte ∈ ([] : Bytes).head?, ¬ pending.Accepts byte :=
        fun _ isHead => absurd isHead (Option.not_mem_none _)
      exact .illFormed (reached.illFormedFront ends) .nothing
  | cons byte rest inductionHypothesis =>
      obtain ⟨fromStart, fromPending⟩ := inductionHypothesis
      have here : ShownAs (byte :: rest) ((piecesFrom none (byte :: rest)).map Piece.shown) := by
        rw [piecesFrom]
        rcases start_cases byte with ⟨ascii, starts⟩ | starts | ⟨pending, starts, sound, seen⟩
        · have shown := ShownAs.character (Char.ofNat byte.toNat) fromStart
          rw [encode_one ascii] at shown
          rw [starts]
          exact shown
        · rw [starts]
          exact .illFormed (illFormedFront_of_start starts rest) fromStart
        · have shown := fromPending pending (reached_of_start starts sound seen)
          rw [seen] at shown
          rw [starts]
          exact shown
      refine ⟨here, fun pending reached => ?_⟩
      by_cases accepted : pending.Accepts byte
      · cases reached.sound with
        | last one encoded =>
            have shown := ShownAs.character (Char.ofNat (pending.bitsWith byte)) fromStart
            rw [encoded byte accepted, List.append_assoc] at shown
            rw [piecesFrom_last one accepted]
            exact shown
        | more several goesOn =>
            have shown := fromPending _ (reached.next several accepted (goesOn byte accepted))
            rw [Pending.next, List.append_assoc] at shown
            rw [piecesFrom_more several accepted]
            exact shown
      · rw [piecesFrom_refused accepted]
        have ends : ∀ other ∈ (byte :: rest).head?, ¬ pending.Accepts other := by
          rintro other isHead
          obtain rfl := Option.some.inj isHead
          exact accepted
        exact .illFormed (reached.illFormedFront ends) here

/-! ### Bytes show as one text only -/

theorem IllFormedFront.length_le {first firstRest second secondRest : Bytes}
    (front : IllFormedFront first firstRest) (other : IllFormedFront second secondRest)
    (same : first ++ firstRest = second ++ secondRest) : first.length ≤ second.length := by
  rcases front.short with starts | one
  · exact other.longest first ⟨firstRest, same⟩ starts
  · have filled := List.length_pos_iff.mpr other.filled
    omega

theorem encodeChar_append_inj {first second : Char} {firstRest secondRest : Bytes}
    (same : String.utf8EncodeChar first ++ firstRest = String.utf8EncodeChar second ++ secondRest) :
    first = second ∧ firstRest = secondRest := by
  have read := piecesFrom_encodeChar first firstRest
  rw [same, piecesFrom_encodeChar] at read
  obtain rfl : second = first := by
    injection read with head
    injection head
  exact ⟨rfl, List.append_cancel_left same⟩

theorem ShownAs.of_nil {shown : List Char} (shownAs : ShownAs [] shown) : shown = [] := by
  generalize isNil : ([] : Bytes) = bytes at shownAs
  cases shownAs with
  | nothing => rfl
  | character character behind =>
      exact absurd (List.append_eq_nil_iff.mp isNil.symm).1 String.utf8EncodeChar_ne_nil
  | illFormed front behind => exact absurd (List.append_eq_nil_iff.mp isNil.symm).1 front.filled

theorem ShownAs.of_character {character : Char} {rest : Bytes} {shown : List Char}
    (shownAs : ShownAs (String.utf8EncodeChar character ++ rest) shown) :
    ∃ behind, shown = character :: behind ∧ ShownAs rest behind := by
  generalize same : String.utf8EncodeChar character ++ rest = bytes at shownAs
  cases shownAs with
  | nothing => exact absurd (List.append_eq_nil_iff.mp same).1 String.utf8EncodeChar_ne_nil
  | character other behind =>
      obtain ⟨rfl, rfl⟩ := encodeChar_append_inj same
      exact ⟨_, rfl, behind⟩
  | illFormed front behind => exact absurd ⟨rest, same⟩ (front.noCharacter character)

theorem ShownAs.of_illFormed {piece rest : Bytes} {shown : List Char}
    (front : IllFormedFront piece rest) (shownAs : ShownAs (piece ++ rest) shown) :
    ∃ behind, shown = '\uFFFD' :: behind ∧ ShownAs rest behind := by
  generalize same : piece ++ rest = bytes at shownAs
  cases shownAs with
  | nothing => exact absurd (List.append_eq_nil_iff.mp same).1 front.filled
  | @character character otherRest shown behind =>
      exact absurd ⟨otherRest, same.symm⟩ (front.noCharacter character)
  | illFormed other behind =>
      have sameLength :=
        Nat.le_antisymm (front.length_le other same) (other.length_le front same.symm)
      obtain ⟨rfl, rfl⟩ := List.append_inj same sameLength
      exact ⟨_, rfl, behind⟩

theorem ShownAs.unique {bytes : Bytes} {shown other : List Char} (first : ShownAs bytes shown)
    (second : ShownAs bytes other) : shown = other := by
  induction first generalizing other with
  | nothing => exact second.of_nil.symm
  | character character behind inductionHypothesis =>
      obtain ⟨others, rfl, further⟩ := second.of_character
      rw [inductionHypothesis further]
  | illFormed front behind inductionHypothesis =>
      obtain ⟨others, rfl, further⟩ := second.of_illFormed front
      rw [inductionHypothesis further]

/-- The tolerant reading of bytes is what they show as. -/
theorem decodeLossy_eq_iff {bytes : Bytes} {text : String} :
    decodeLossy bytes = text ↔ ShownAs bytes text.toList := by
  have shown : ShownAs bytes (decodeLossy bytes).toList := by
    rw [decodeLossy, String.toList_ofList]
    exact (shownAs_piecesFrom bytes).1
  constructor
  · rintro rfl
    exact shown
  · intro other
    exact String.toList_injective (shown.unique other)

end KernelForge.Text.Utf8
