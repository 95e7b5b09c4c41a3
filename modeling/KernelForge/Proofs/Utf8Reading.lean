import KernelForge.Text.Utf8

/-!
Contract: UTF-8 bytes are read back as the text that they encode.

Owns: the characters of two, three and four bytes by their bytes, what the reader makes of
an encoded character, what a pending character may become, and the strict reading as the
inverse of encoding.

Does not own: the tolerant reading of bytes that encode no text.
-/

namespace KernelForge.Text.Utf8

/-! ### Characters by their bytes -/

theorem encodeChars_cons (character : Char) (rest : List Char) :
    encodeChars (character :: rest) = String.utf8EncodeChar character ++ encodeChars rest :=
  List.flatMap_cons

theorem toNat_ofNat {value : Nat} (valid : value.isValidChar) :
    (Char.ofNat value).val.toNat = value := by
  rw [Char.ofNat, dif_pos valid]
  rfl

theorem ofNat_eq (byte : UInt8) {value : Nat} (same : value = byte.toNat) :
    UInt8.ofNat value = byte := by
  rw [same, UInt8.ofNat_toNat]

theorem encode_one {byte : UInt8} (ascii : byte.toNat < 0x80) :
    String.utf8EncodeChar (Char.ofNat byte.toNat) = [byte] := by
  have valid : byte.toNat.isValidChar := by unfold Nat.isValidChar; omega
  simp only [String.utf8EncodeChar, toNat_ofNat valid]
  rw [if_pos (by omega), UInt8.ofNat_toNat]

theorem encode_two {first second : UInt8} {value : Nat}
    (isValue : value = (first.toNat - 0xC0) * 64 + (second.toNat - 0x80))
    (firstLow : 0xC2 ≤ first.toNat) (firstHigh : first.toNat < 0xE0)
    (secondLow : 0x80 ≤ second.toNat) (secondHigh : second.toNat ≤ 0xBF) :
    String.utf8EncodeChar (Char.ofNat value) = [first, second] := by
  have valid : value.isValidChar := by unfold Nat.isValidChar; omega
  simp only [String.utf8EncodeChar, toNat_ofNat valid]
  rw [if_neg (by omega), if_pos (by omega)]
  rw [ofNat_eq first (by omega), ofNat_eq second (by omega)]

theorem encode_three {first second third : UInt8} {value : Nat}
    (isValue : value = ((first.toNat - 0xE0) * 64 + (second.toNat - 0x80)) * 64 +
      (third.toNat - 0x80))
    (long : 0x800 ≤ value) (valid : value.isValidChar)
    (firstLow : 0xE0 ≤ first.toNat) (firstHigh : first.toNat < 0xF0)
    (secondLow : 0x80 ≤ second.toNat) (secondHigh : second.toNat ≤ 0xBF)
    (thirdLow : 0x80 ≤ third.toNat) (thirdHigh : third.toNat ≤ 0xBF) :
    String.utf8EncodeChar (Char.ofNat value) = [first, second, third] := by
  simp only [String.utf8EncodeChar, toNat_ofNat valid]
  rw [if_neg (by omega), if_neg (by omega), if_pos (by omega)]
  rw [ofNat_eq first (by omega), ofNat_eq second (by omega),
    ofNat_eq third (by omega)]

theorem encode_four {first second third fourth : UInt8} {value : Nat}
    (isValue : value = (((first.toNat - 0xF0) * 64 + (second.toNat - 0x80)) * 64 +
      (third.toNat - 0x80)) * 64 + (fourth.toNat - 0x80))
    (long : 0x10000 ≤ value) (valid : value.isValidChar)
    (firstLow : 0xF0 ≤ first.toNat) (firstHigh : first.toNat ≤ 0xF4)
    (secondLow : 0x80 ≤ second.toNat) (secondHigh : second.toNat ≤ 0xBF)
    (thirdLow : 0x80 ≤ third.toNat) (thirdHigh : third.toNat ≤ 0xBF)
    (fourthLow : 0x80 ≤ fourth.toNat) (fourthHigh : fourth.toNat ≤ 0xBF) :
    String.utf8EncodeChar (Char.ofNat value) = [first, second, third, fourth] := by
  simp only [String.utf8EncodeChar, toNat_ofNat valid]
  rw [if_neg (by omega), if_neg (by omega), if_neg (by omega)]
  rw [ofNat_eq first (by omega), ofNat_eq second (by omega),
    ofNat_eq third (by omega), ofNat_eq fourth (by omega)]

/-! ### Pending characters -/

namespace Pending

def Accepts (pending : Pending) (byte : UInt8) : Prop :=
  pending.low ≤ byte.toNat ∧ byte.toNat ≤ pending.high

/-- The bits with those of the next byte behind them. -/
def bitsWith (pending : Pending) (byte : UInt8) : Nat :=
  pending.bits * 64 + (byte.toNat - 0x80)

/-- What is pending after the next byte, if that is not the last. -/
def next (pending : Pending) (byte : UInt8) : Pending :=
  ⟨pending.due - 1, 0x80, 0xBF, pending.bitsWith byte, pending.seen ++ [byte]⟩

/-- Whatever bytes the reader accepts from here on, together with those that it has seen
they encode the character that it makes of them. -/
inductive Sound : Pending → Prop
  | last {pending : Pending} (one : pending.due = 1)
      (encoded : ∀ byte, pending.Accepts byte →
        String.utf8EncodeChar (Char.ofNat (pending.bitsWith byte)) = pending.seen ++ [byte]) :
      Sound pending
  | more {pending : Pending} (several : pending.due ≠ 1)
      (goesOn : ∀ byte, pending.Accepts byte → Sound (pending.next byte)) : Sound pending

end Pending

theorem piecesFrom_last {pending : Pending} {byte : UInt8} (one : pending.due = 1)
    (accepted : pending.Accepts byte) (rest : Bytes) :
    piecesFrom (some pending) (byte :: rest) =
      .character (Char.ofNat (pending.bitsWith byte)) :: piecesFrom none rest := by
  unfold Pending.Accepts at accepted
  simp only [piecesFrom, accepted, one, and_self, if_true]
  rfl

theorem piecesFrom_more {pending : Pending} {byte : UInt8} (several : pending.due ≠ 1)
    (accepted : pending.Accepts byte) (rest : Bytes) :
    piecesFrom (some pending) (byte :: rest) = piecesFrom (some (pending.next byte)) rest := by
  unfold Pending.Accepts at accepted
  simp only [piecesFrom, accepted, several, and_self, if_true, if_false]
  rfl

theorem piecesFrom_broken {pending : Pending} {byte : UInt8}
    (refused : ¬ pending.Accepts byte) (rest : Bytes) :
    ∃ others, piecesFrom (some pending) (byte :: rest) = .illFormed pending.seen :: others := by
  unfold Pending.Accepts at refused
  simp only [piecesFrom, refused, if_false]
  exact ⟨_, rfl⟩

/-! ### The first byte of a character -/

section FirstByte

variable {byte : UInt8}

/-- The pending character behind the first of two bytes. -/
def ofTwo (byte : UInt8) : Pending :=
  ⟨1, 0x80, 0xBF, byte.toNat - 0xC0, [byte]⟩

/-- The pending character behind the first of three bytes. The bounds of the second byte
leave out overlong forms and surrogates. -/
def ofThree (byte : UInt8) : Pending :=
  ⟨2, if byte.toNat = 0xE0 then 0xA0 else 0x80, if byte.toNat = 0xED then 0x9F else 0xBF,
    byte.toNat - 0xE0, [byte]⟩

/-- The pending character behind the first of four bytes. The bounds of the second byte
leave out overlong forms and values above U+10FFFF. -/
def ofFour (byte : UInt8) : Pending :=
  ⟨3, if byte.toNat = 0xF0 then 0x90 else 0x80, if byte.toNat = 0xF4 then 0x8F else 0xBF,
    byte.toNat - 0xF0, [byte]⟩

theorem ofTwo_value (first second : UInt8) :
    (ofTwo first).bitsWith second = (first.toNat - 0xC0) * 64 + (second.toNat - 0x80) :=
  rfl

theorem ofThree_value (first second third : UInt8) :
    ((ofThree first).next second).bitsWith third =
      ((first.toNat - 0xE0) * 64 + (second.toNat - 0x80)) * 64 + (third.toNat - 0x80) :=
  rfl

theorem ofFour_value (first second third fourth : UInt8) :
    (((ofFour first).next second).next third).bitsWith fourth =
      (((first.toNat - 0xF0) * 64 + (second.toNat - 0x80)) * 64 + (third.toNat - 0x80)) * 64 +
        (fourth.toNat - 0x80) :=
  rfl

theorem start_one (ascii : byte.toNat < 0x80) :
    start byte = .inl (.character (Char.ofNat byte.toNat)) := by
  simp only [start, ascii, if_true]

theorem start_none (outside : 0x80 ≤ byte.toNat ∧ byte.toNat < 0xC2 ∨ 0xF4 < byte.toNat) :
    start byte = .inl (.illFormed [byte]) := by
  simp only [start]
  rcases outside with continuing | large
  · rw [if_neg (by omega), if_pos continuing.2]
  · rw [if_neg (by omega), if_neg (by omega), if_neg (by omega), if_neg (by omega),
      if_neg (by omega), if_neg (by omega), if_neg (by omega), if_neg (by omega),
      if_neg (by omega)]

theorem start_two (low : 0xC2 ≤ byte.toNat) (high : byte.toNat < 0xE0) :
    start byte = .inr (ofTwo byte) := by
  simp only [start, ofTwo]
  rw [if_neg (by omega), if_neg (by omega), if_pos high]

theorem start_three (low : 0xE0 ≤ byte.toNat) (high : byte.toNat < 0xF0) :
    start byte = .inr (ofThree byte) := by
  simp only [start, ofThree]
  rw [if_neg (by omega), if_neg (by omega), if_neg (by omega)]
  by_cases isE0 : byte.toNat = 0xE0
  · simp [isE0]
  · by_cases isED : byte.toNat = 0xED
    · simp [isED]
    · simp [isE0, isED, high]

theorem start_four (low : 0xF0 ≤ byte.toNat) (high : byte.toNat ≤ 0xF4) :
    start byte = .inr (ofFour byte) := by
  simp only [start, ofFour]
  rw [if_neg (by omega), if_neg (by omega), if_neg (by omega), if_neg (by omega),
    if_neg (by omega), if_neg (by omega)]
  by_cases isF0 : byte.toNat = 0xF0
  · simp [isF0]
  · by_cases isF4 : byte.toNat = 0xF4
    · simp [isF4]
    · have middle : byte.toNat < 0xF4 := by omega
      simp [isF0, isF4, middle]

theorem sound_two (low : 0xC2 ≤ byte.toNat) (high : byte.toNat < 0xE0) :
    (ofTwo byte).Sound := by
  apply Pending.Sound.last rfl
  intro second accepted
  exact encode_two rfl low high accepted.1 accepted.2

theorem ofThree_accepts_iff {second : UInt8} :
    (ofThree byte).Accepts second ↔
      0x80 ≤ second.toNat ∧ second.toNat ≤ 0xBF ∧
        (byte.toNat = 0xE0 → 0xA0 ≤ second.toNat) ∧ (byte.toNat = 0xED → second.toNat ≤ 0x9F) := by
  simp only [Pending.Accepts, ofThree]
  split <;> split <;> omega

theorem ofFour_accepts_iff {second : UInt8} :
    (ofFour byte).Accepts second ↔
      0x80 ≤ second.toNat ∧ second.toNat ≤ 0xBF ∧
        (byte.toNat = 0xF0 → 0x90 ≤ second.toNat) ∧ (byte.toNat = 0xF4 → second.toNat ≤ 0x8F) := by
  simp only [Pending.Accepts, ofFour]
  split <;> split <;> omega

theorem sound_three (low : 0xE0 ≤ byte.toNat) (high : byte.toNat < 0xF0) :
    (ofThree byte).Sound := by
  apply Pending.Sound.more (show (2 : Nat) ≠ 1 by decide)
  intro second accepted
  have bounds := ofThree_accepts_iff.mp accepted
  apply Pending.Sound.last rfl
  intro third thirdAccepted
  have thirdBounds : 0x80 ≤ third.toNat ∧ third.toNat ≤ 0xBF := thirdAccepted
  have isValue := ofThree_value byte second third
  have valid : (((ofThree byte).next second).bitsWith third).isValidChar := by
    unfold Nat.isValidChar
    omega
  exact encode_three isValue (by omega) valid low high bounds.1 bounds.2.1 thirdBounds.1
    thirdBounds.2

theorem sound_four (low : 0xF0 ≤ byte.toNat) (high : byte.toNat ≤ 0xF4) :
    (ofFour byte).Sound := by
  apply Pending.Sound.more (show (3 : Nat) ≠ 1 by decide)
  intro second accepted
  have bounds := ofFour_accepts_iff.mp accepted
  apply Pending.Sound.more (show (2 : Nat) ≠ 1 by decide)
  intro third thirdAccepted
  have thirdBounds : 0x80 ≤ third.toNat ∧ third.toNat ≤ 0xBF := thirdAccepted
  apply Pending.Sound.last rfl
  intro fourth fourthAccepted
  have fourthBounds : 0x80 ≤ fourth.toNat ∧ fourth.toNat ≤ 0xBF := fourthAccepted
  have isValue := ofFour_value byte second third fourth
  have valid : ((((ofFour byte).next second).next third).bitsWith fourth).isValidChar := by
    unfold Nat.isValidChar
    omega
  exact encode_four isValue (by omega) valid low high bounds.1 bounds.2.1 thirdBounds.1
    thirdBounds.2 fourthBounds.1 fourthBounds.2

/-- What the first byte of a piece leads to. -/
theorem start_cases (byte : UInt8) :
    (byte.toNat < 0x80 ∧ start byte = .inl (.character (Char.ofNat byte.toNat))) ∨
      start byte = .inl (.illFormed [byte]) ∨
      ∃ pending, start byte = .inr pending ∧ pending.Sound ∧ pending.seen = [byte] := by
  by_cases ascii : byte.toNat < 0x80
  · exact .inl ⟨ascii, start_one ascii⟩
  right
  by_cases two : 0xC2 ≤ byte.toNat ∧ byte.toNat < 0xE0
  · exact .inr ⟨_, start_two two.1 two.2, sound_two two.1 two.2, rfl⟩
  by_cases three : 0xE0 ≤ byte.toNat ∧ byte.toNat < 0xF0
  · exact .inr ⟨_, start_three three.1 three.2, sound_three three.1 three.2, rfl⟩
  by_cases four : 0xF0 ≤ byte.toNat ∧ byte.toNat ≤ 0xF4
  · exact .inr ⟨_, start_four four.1 four.2, sound_four four.1 four.2, rfl⟩
  · exact .inl (start_none (by omega))

end FirstByte

/-! ### The strict reading is sound -/

theorem strict_character {character : Char} {rest : List Piece} {characters : List Char} :
    (.character character :: rest).mapM Piece.strict = some characters ↔
      ∃ others, rest.mapM Piece.strict = some others ∧ characters = character :: others := by
  rw [List.mapM_cons]
  cases rest.mapM Piece.strict <;> simp [Piece.strict, eq_comm]

theorem strict_illFormed (bytes : Bytes) (rest : List Piece) :
    (.illFormed bytes :: rest).mapM Piece.strict = none := by
  rw [List.mapM_cons]
  rfl

/-- What is read strictly, with what was seen of a pending character before it, encodes
the characters that are read. -/
theorem seen_append_of_strict (bytes : Bytes) :
    (∀ characters, (piecesFrom none bytes).mapM Piece.strict = some characters →
      bytes = encodeChars characters) ∧
    ∀ pending : Pending, pending.Sound → ∀ characters,
      (piecesFrom (some pending) bytes).mapM Piece.strict = some characters →
        pending.seen ++ bytes = encodeChars characters := by
  induction bytes with
  | nil =>
      constructor
      · intro characters read
        have noCharacters : [] = characters := Option.some.inj read
        rw [← noCharacters]
        rfl
      · intro pending sound characters read
        rw [piecesFrom, strict_illFormed] at read
        cases read
  | cons byte rest inductionHypothesis =>
      obtain ⟨fromStart, fromPending⟩ := inductionHypothesis
      constructor
      · intro characters read
        rw [piecesFrom] at read
        rcases start_cases byte with ⟨ascii, starts⟩ | starts | ⟨pending, starts, sound, seen⟩
        · rw [starts] at read
          obtain ⟨others, restRead, rfl⟩ := strict_character.mp read
          rw [encodeChars_cons, encode_one ascii, ← fromStart others restRead]
          rfl
        · simp only [starts, strict_illFormed] at read
          cases read
        · rw [starts] at read
          have encoded := fromPending pending sound characters read
          rw [seen] at encoded
          exact encoded
      · intro pending sound characters read
        by_cases accepted : pending.Accepts byte
        · cases sound with
          | last one encoded =>
              rw [piecesFrom_last one accepted] at read
              obtain ⟨others, restRead, rfl⟩ := strict_character.mp read
              rw [encodeChars_cons, encoded byte accepted, ← fromStart others restRead]
              simp only [List.append_assoc, List.singleton_append]
          | more several goesOn =>
              rw [piecesFrom_more several accepted] at read
              have encoded := fromPending _ (goesOn byte accepted) characters read
              simp only [Pending.next, List.append_assoc] at encoded
              exact encoded
        · obtain ⟨others, broken⟩ := piecesFrom_broken accepted rest
          rw [broken, strict_illFormed] at read
          cases read

/-! ### The strict reading is complete -/

theorem toNat_byte {value : Nat} (small : value < 256) : (UInt8.ofNat value).toNat = value := by
  rw [UInt8.toNat_ofNat']
  exact Nat.mod_eq_of_lt small

theorem piecesFrom_two {value : Nat} (long : 0x80 ≤ value) (short : value ≤ 0x7FF)
    (rest : Bytes) :
    piecesFrom none
        (UInt8.ofNat (value / 64 % 32 + 192) :: UInt8.ofNat (value % 64 + 128) :: rest) =
      .character (Char.ofNat value) :: piecesFrom none rest := by
  have first : (UInt8.ofNat (value / 64 % 32 + 192)).toNat = value / 64 + 192 := by
    rw [toNat_byte (by omega)]
    omega
  have second : (UInt8.ofNat (value % 64 + 128)).toNat = value % 64 + 128 :=
    toNat_byte (by omega)
  rw [piecesFrom, start_two (by omega) (by omega)]
  have isValue : (ofTwo (UInt8.ofNat (value / 64 % 32 + 192))).bitsWith
      (UInt8.ofNat (value % 64 + 128)) = value := by
    rw [ofTwo_value, first, second]
    omega
  simp only
  rw [piecesFrom_last rfl (by simp only [Pending.Accepts, ofTwo]; omega), isValue]

theorem piecesFrom_three {value : Nat} (long : 0x800 ≤ value) (short : value ≤ 0xFFFF)
    (valid : value.isValidChar) (rest : Bytes) :
    piecesFrom none (UInt8.ofNat (value / 4096 % 16 + 224) :: UInt8.ofNat (value / 64 % 64 + 128) ::
        UInt8.ofNat (value % 64 + 128) :: rest) =
      .character (Char.ofNat value) :: piecesFrom none rest := by
  have first : (UInt8.ofNat (value / 4096 % 16 + 224)).toNat = value / 4096 + 224 := by
    rw [toNat_byte (by omega)]
    omega
  have second : (UInt8.ofNat (value / 64 % 64 + 128)).toNat = value / 64 % 64 + 128 :=
    toNat_byte (by omega)
  have third : (UInt8.ofNat (value % 64 + 128)).toNat = value % 64 + 128 :=
    toNat_byte (by omega)
  have accepted : (ofThree (UInt8.ofNat (value / 4096 % 16 + 224))).Accepts
      (UInt8.ofNat (value / 64 % 64 + 128)) := by
    unfold Nat.isValidChar at valid
    rw [ofThree_accepts_iff, first, second]
    omega
  have isValue : ((ofThree (UInt8.ofNat (value / 4096 % 16 + 224))).next
      (UInt8.ofNat (value / 64 % 64 + 128))).bitsWith (UInt8.ofNat (value % 64 + 128)) = value := by
    rw [ofThree_value, first, second, third]
    omega
  rw [piecesFrom, start_three (by omega) (by omega)]
  simp only
  rw [piecesFrom_more (show (2 : Nat) ≠ 1 by decide) accepted,
    piecesFrom_last rfl (by simp only [Pending.Accepts, Pending.next]; omega), isValue]

theorem piecesFrom_four {value : Nat} (long : 0x10000 ≤ value) (valid : value.isValidChar)
    (rest : Bytes) :
    piecesFrom none (UInt8.ofNat (value / 262144 % 8 + 240) ::
        UInt8.ofNat (value / 4096 % 64 + 128) :: UInt8.ofNat (value / 64 % 64 + 128) ::
        UInt8.ofNat (value % 64 + 128) :: rest) =
      .character (Char.ofNat value) :: piecesFrom none rest := by
  have limit : value < 0x110000 := by
    unfold Nat.isValidChar at valid
    omega
  have first : (UInt8.ofNat (value / 262144 % 8 + 240)).toNat = value / 262144 + 240 := by
    rw [toNat_byte (by omega)]
    omega
  have second : (UInt8.ofNat (value / 4096 % 64 + 128)).toNat = value / 4096 % 64 + 128 :=
    toNat_byte (by omega)
  have third : (UInt8.ofNat (value / 64 % 64 + 128)).toNat = value / 64 % 64 + 128 :=
    toNat_byte (by omega)
  have fourth : (UInt8.ofNat (value % 64 + 128)).toNat = value % 64 + 128 :=
    toNat_byte (by omega)
  have accepted : (ofFour (UInt8.ofNat (value / 262144 % 8 + 240))).Accepts
      (UInt8.ofNat (value / 4096 % 64 + 128)) := by
    rw [ofFour_accepts_iff, first, second]
    omega
  have isValue : (((ofFour (UInt8.ofNat (value / 262144 % 8 + 240))).next
      (UInt8.ofNat (value / 4096 % 64 + 128))).next (UInt8.ofNat (value / 64 % 64 + 128))).bitsWith
      (UInt8.ofNat (value % 64 + 128)) = value := by
    rw [ofFour_value, first, second, third, fourth]
    omega
  rw [piecesFrom, start_four (by omega) (by omega)]
  simp only
  rw [piecesFrom_more (show (3 : Nat) ≠ 1 by decide) accepted,
    piecesFrom_more (show (2 : Nat) ≠ 1 by decide)
      (by simp only [Pending.Accepts, Pending.next]; omega),
    piecesFrom_last rfl (by simp only [Pending.Accepts, Pending.next]; omega), isValue]

/-- An encoded character is read as this character, whatever follows it. -/
theorem piecesFrom_encodeChar (character : Char) (rest : Bytes) :
    piecesFrom none (String.utf8EncodeChar character ++ rest) =
      .character character :: piecesFrom none rest := by
  have valid : character.val.toNat.isValidChar := character.valid
  have same : Char.ofNat character.val.toNat = character := Char.ofNat_toNat character
  fun_cases String.utf8EncodeChar character with
  | case1 value ascii =>
      have byte : (UInt8.ofNat value).toNat = value := toNat_byte (by omega)
      rw [List.singleton_append, piecesFrom, start_one (by omega), byte, same]
  | case2 value long short =>
      have read := piecesFrom_two (by omega) short rest
      rw [same] at read
      exact read
  | case3 value long longer short =>
      have read := piecesFrom_three (by omega) short valid rest
      rw [same] at read
      exact read
  | case4 value long longer longest =>
      have read := piecesFrom_four (by omega) valid rest
      rw [same] at read
      exact read

theorem strict_encodeChars (characters : List Char) :
    (piecesFrom none (encodeChars characters)).mapM Piece.strict = some characters := by
  induction characters with
  | nil => rfl
  | cons character rest inductionHypothesis =>
      rw [encodeChars_cons, piecesFrom_encodeChar]
      exact strict_character.mpr ⟨rest, inductionHypothesis, rfl⟩

/-! ### Reading and encoding -/

/-- The strict reading finds the text that bytes encode, and only that. -/
theorem decode?_eq_some_iff {bytes : Bytes} {text : String} :
    decode? bytes = some text ↔ encode text = bytes := by
  constructor
  · intro read
    obtain ⟨characters, strict, isText⟩ := Option.map_eq_some_iff.mp read
    have encoded : bytes = encodeChars characters :=
      (seen_append_of_strict bytes).1 characters strict
    rw [encoded, ← isText, encode, String.toList_ofList]
  · rintro rfl
    have strict := strict_encodeChars text.toList
    unfold decode? pieces encode
    rw [strict, Option.map_some, String.ofList_toList]

/-- What is refused is the encoding of no text. -/
theorem decode?_eq_none_iff {bytes : Bytes} :
    decode? bytes = none ↔ ∀ text, encode text ≠ bytes := by
  simp only [Option.eq_none_iff_forall_ne_some, ne_eq, decode?_eq_some_iff]

theorem encode_inj {first second : String} : encode first = encode second ↔ first = second := by
  constructor
  · intro same
    have firstRead : decode? (encode first) = some first := decode?_eq_some_iff.mpr rfl
    have secondRead : decode? (encode first) = some second := decode?_eq_some_iff.mpr same.symm
    exact Option.some.inj (firstRead.symm.trans secondRead)
  · rintro rfl
    rfl

end KernelForge.Text.Utf8
