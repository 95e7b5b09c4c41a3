import KernelForge.Bytes

/-!
Contract: text without what a terminal would obey instead of show.

Owns: the removal of control characters and of whole control sequences from the
bytes of a text.

Blanks stay: tab, line feed, form feed and carriage return. Every other control
character goes, and so does DEL. A sequence that an escape character opens goes
up to its end: after one character, after the final character of a control
sequence, or after the terminator of a control string. Another escape character
opens another sequence, and either of the two cancel characters ends any.

A blank inside a sequence other than a control string stays and interrupts it: what
follows stays too, up to the next control character that does not stay, with which
the sequence goes on. A character of several bytes ends an interrupted sequence.

Does not own: when text is shown to a terminal; that is `KernelForge.Log.Line`.
-/

namespace KernelForge.Text.ControlSequence

/-- A part of a sequence, by what may end it. -/
inductive Sequence where
  | escape
  | intermediate
  /-- In a control sequence, whose end is a final character. -/
  | control
  /-- At the start of the header of a device control string. -/
  | header
  | headerParameter
  | headerIntermediate
  | controlString
  /-- In an operating system command, which a bell ends. -/
  | command
deriving DecidableEq, Repr

inductive Place where
  | outside
  /-- Inside a character, with bytes still due. -/
  | character (due : Nat)
  | inside (sequence : Sequence)
  | interrupted (sequence : Sequence)
deriving DecidableEq, Repr

def isBlankControl (byte : UInt8) : Bool :=
  byte = 0x09 || byte = 0x0A || byte = 0x0C || byte = 0x0D

/-- A byte that stays outside every sequence and is a whole character. -/
def isShown (byte : UInt8) : Bool :=
  isBlankControl byte || (0x20 ≤ byte && byte < 0x7F)

/-- The number of bytes that follow the first byte of a longer character. -/
def bytesDue (byte : UInt8) : Option Nat :=
  let value := byte.toNat
  if value < 0xC2 then none
  else if value < 0xE0 then some 1
  else if value < 0xF0 then some 2
  else if value < 0xF5 then some 3
  else none

def Sequence.keepsBlanks : Sequence → Bool
  | .escape | .intermediate | .control => true
  | _ => false

def afterEscape (value : Nat) : Place :=
  if value < 0x20 then .inside .escape
  else if value < 0x30 then .inside .intermediate
  else if value = 0x50 then .inside .header
  else if value = 0x58 ∨ value = 0x5E ∨ value = 0x5F then .inside .controlString
  else if value = 0x5B then .inside .control
  else if value = 0x5D then .inside .command
  else if value < 0x7F then .outside
  else .inside .escape

/-- What a byte leads to in the header of a device control string. The header ends
where the string starts, or becomes a string when it is malformed. -/
def inHeader (part : Sequence) (value : Nat) : Sequence :=
  if value < 0x20 ∨ 0x7F ≤ value then part
  else if value < 0x30 then .headerIntermediate
  else if 0x40 ≤ value ∨ part = .headerIntermediate then .controlString
  else if part = .headerParameter ∧ 0x3C ≤ value then .controlString
  else .headerParameter

/-- What a byte leads to in a sequence that it neither replaces nor cancels. -/
def Sequence.next (sequence : Sequence) (value : Nat) : Place :=
  match sequence with
  | .escape => afterEscape value
  | .intermediate => if 0x30 ≤ value ∧ value < 0x7F then .outside else .inside .intermediate
  | .control => if 0x40 ≤ value ∧ value < 0x7F then .outside else .inside .control
  | .controlString => if value = 0x9C then .outside else .inside .controlString
  | .command => if value = 0x07 then .outside else .inside .command
  | part => .inside (inHeader part value)

/-- What a byte inside a sequence leads to, and whether it stays. -/
def stepInside (sequence : Sequence) (byte : UInt8) : Place × Bool :=
  let value := byte.toNat
  if value = 0x18 ∨ value = 0x1A then (.outside, false)
  else if value = 0x1B then (.inside .escape, false)
  else if sequence.keepsBlanks ∧ isBlankControl byte then (.interrupted sequence, true)
  else (sequence.next value, false)

/-- What a byte leads to, and whether it stays. -/
def step (place : Place) (byte : UInt8) : Place × Bool :=
  match place with
  | .character due => (if due ≤ 1 then .outside else .character (due - 1), true)
  | .inside sequence => stepInside sequence byte
  | .outside =>
      match bytesDue byte with
      | some due => (.character due, true)
      | none =>
          if byte = 0x1B then (.inside .escape, false) else (.outside, isShown byte)
  | .interrupted sequence =>
      match bytesDue byte with
      | some due => (.character due, true)
      | none => if isShown byte then (place, true) else stepInside sequence byte

/-- The bytes that stay, from a place on. -/
def removeFrom (place : Place) : Bytes → Bytes
  | [] => []
  | byte :: rest =>
      let next := step place byte
      if next.2 then byte :: removeFrom next.1 rest else removeFrom next.1 rest

/-- The bytes of a text without control characters and control sequences. -/
def removed (bytes : Bytes) : Bytes :=
  removeFrom .outside bytes

end KernelForge.Text.ControlSequence
