import KernelForge.Bytes

/-!
Contract: text as UTF-8 bytes and UTF-8 bytes as text.

Owns: encoding a text; cutting a byte string into well-formed characters and
maximal ill-formed pieces; the strict reading, which refuses any ill-formed
piece; the tolerant reading, which shows each of them as U+FFFD.

A piece is ill-formed and maximal when its bytes start some well-formed
character but the next byte, or the end, cannot continue it. A byte that starts
no character is a piece of its own.

Does not own: which of the two readings a caller wants.
-/

namespace KernelForge.Text.Utf8

/-- The UTF-8 bytes of a list of characters. -/
def encodeChars (characters : List Char) : Bytes :=
  characters.flatMap String.utf8EncodeChar

/-- The UTF-8 bytes of a text. -/
def encode (text : String) : Bytes :=
  encodeChars text.toList

theorem encode_append (first second : String) :
    encode (first ++ second) = encode first ++ encode second := by
  simp only [encode, encodeChars, String.toList_append, List.flatMap_append]

theorem encode_join (texts : List String) :
    encode (String.join texts) = texts.flatMap encode := by
  induction texts with
  | nil => rfl
  | cons text rest inductionHypothesis =>
      rw [String.join_cons, encode_append, inductionHypothesis, List.flatMap_cons]

/-- A well-formed character, or a maximal run of bytes that form none. -/
inductive Piece where
  | character (value : Char)
  | illFormed (bytes : Bytes)
deriving DecidableEq, Repr

/-- A character whose first bytes were read: how many bytes are still due, the
bounds of the next one, the bits collected, and the bytes themselves. -/
structure Pending where
  due : Nat
  low : Nat
  high : Nat
  bits : Nat
  seen : Bytes
deriving DecidableEq, Repr

/-- What one byte means where a character may start. The bounds of the second
byte exclude overlong forms, surrogates and values above U+10FFFF. -/
def start (byte : UInt8) : Piece ⊕ Pending :=
  let value := byte.toNat
  if value < 0x80 then .inl (.character (Char.ofNat value))
  else if value < 0xC2 then .inl (.illFormed [byte])
  else if value < 0xE0 then .inr ⟨1, 0x80, 0xBF, value - 0xC0, [byte]⟩
  else if value = 0xE0 then .inr ⟨2, 0xA0, 0xBF, value - 0xE0, [byte]⟩
  else if value = 0xED then .inr ⟨2, 0x80, 0x9F, value - 0xE0, [byte]⟩
  else if value < 0xF0 then .inr ⟨2, 0x80, 0xBF, value - 0xE0, [byte]⟩
  else if value = 0xF0 then .inr ⟨3, 0x90, 0xBF, value - 0xF0, [byte]⟩
  else if value < 0xF4 then .inr ⟨3, 0x80, 0xBF, value - 0xF0, [byte]⟩
  else if value = 0xF4 then .inr ⟨3, 0x80, 0x8F, value - 0xF0, [byte]⟩
  else .inl (.illFormed [byte])

/-- The pieces of a byte string, given what is pending at its front. -/
def piecesFrom : Option Pending → Bytes → List Piece
  | none, [] => []
  | some pending, [] => [.illFormed pending.seen]
  | none, byte :: rest =>
      match start byte with
      | .inl piece => piece :: piecesFrom none rest
      | .inr pending => piecesFrom (some pending) rest
  | some pending, byte :: rest =>
      if pending.low ≤ byte.toNat ∧ byte.toNat ≤ pending.high then
        let bits := pending.bits * 64 + (byte.toNat - 0x80)
        if pending.due = 1 then
          .character (Char.ofNat bits) :: piecesFrom none rest
        else
          piecesFrom (some ⟨pending.due - 1, 0x80, 0xBF, bits, pending.seen ++ [byte]⟩) rest
      else
        .illFormed pending.seen ::
          match start byte with
          | .inl piece => piece :: piecesFrom none rest
          | .inr next => piecesFrom (some next) rest

/-- The characters and ill-formed pieces of a byte string, in order. -/
def pieces (bytes : Bytes) : List Piece :=
  piecesFrom none bytes

def Piece.shown : Piece → Char
  | .character value => value
  | .illFormed _ => '\uFFFD'

def Piece.strict : Piece → Option Char
  | .character value => some value
  | .illFormed _ => none

/-- The tolerant reading: every ill-formed piece becomes one U+FFFD. -/
def decodeLossy (bytes : Bytes) : String :=
  String.ofList ((pieces bytes).map Piece.shown)

/-- The strict reading: a text only if no piece is ill-formed. -/
def decode? (bytes : Bytes) : Option String :=
  ((pieces bytes).mapM Piece.strict).map String.ofList

end KernelForge.Text.Utf8
