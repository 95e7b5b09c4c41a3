import Mathlib.Data.List.Induction
import KernelForge.Echo.Escaped
import KernelForge.Proofs.Utf8Reading

/-!
Contract: an escaped command line shows one argument list only.

Owns: that an escaped argument determines the argument, where the last argument of an
escaped line begins, and that the line determines the whole list, for every quote.

A line is read from its end. An argument that ends in a backslash closes with what looks
like an escaped quote, but a quote that opens an argument stands behind a space or at the
front of the line, and one that is part of an argument does not stand there with an argument
behind it.

Does not own: reading a line back.
-/

namespace KernelForge.Echo

/-! ### One argument -/

theorem escapedChars_quote (quote : Char) (rest : List Char) :
    escapedChars quote (quote :: rest) = '\\' :: quote :: escapedChars quote rest := by
  simp [escapedChars]

theorem escapedChars_other {quote character : Char} (other : character ≠ quote)
    (rest : List Char) :
    escapedChars quote (character :: rest) = character :: escapedChars quote rest := by
  simp [escapedChars, other]

/-- Nothing escaped is a quote with something escaped behind it. -/
theorem escapedChars_ne_quote (quote : Char) (argument other : List Char) :
    escapedChars quote argument ≠ quote :: escapedChars quote other := by
  intro same
  induction argument generalizing other with
  | nil => cases same
  | cons character rest inductionHypothesis =>
      by_cases isQuote : character = quote
      · -- The quote is a backslash, so the other text begins with one too.
        rw [isQuote, escapedChars_quote] at same
        have isBackslash : '\\' = quote := (List.cons.inj same).1
        have behind : quote :: escapedChars quote rest = escapedChars quote other :=
          (List.cons.inj same).2
        cases other with
        | nil => cases behind
        | cons first others =>
            by_cases firstQuote : first = quote
            · rw [firstQuote, escapedChars_quote] at behind
              exact inductionHypothesis others (List.cons.inj behind).2
            · rw [escapedChars_other firstQuote] at behind
              exact firstQuote (List.cons.inj behind).1.symm
      · rw [escapedChars_other isQuote] at same
        exact isQuote (List.cons.inj same).1

theorem escapedChars_cons_ne_nil (quote character : Char) (rest : List Char) :
    escapedChars quote (character :: rest) ≠ [] := by
  by_cases isQuote : character = quote
  · rw [isQuote, escapedChars_quote]
    simp
  · rw [escapedChars_other isQuote]
    simp

theorem escapedChars_inj {quote : Char} {first second : List Char}
    (same : escapedChars quote first = escapedChars quote second) : first = second := by
  induction first generalizing second with
  | nil =>
      cases second with
      | nil => rfl
      | cons character rest =>
          have nonempty := escapedChars_cons_ne_nil quote character rest
          exact absurd same.symm nonempty
  | cons character rest inductionHypothesis =>
      cases second with
      | nil => exact absurd same (escapedChars_cons_ne_nil quote character rest)
      | cons other others =>
          by_cases isQuote : character = quote
          · by_cases otherQuote : other = quote
            · rw [isQuote, otherQuote, escapedChars_quote, escapedChars_quote] at same
              have tails := (List.cons.inj (List.cons.inj same).2).2
              rw [isQuote, otherQuote, inductionHypothesis tails]
            · rw [isQuote, escapedChars_quote, escapedChars_other otherQuote] at same
              have behind := (List.cons.inj same).2
              exact absurd behind.symm (escapedChars_ne_quote quote others rest)
          · by_cases otherQuote : other = quote
            · rw [otherQuote, escapedChars_quote, escapedChars_other isQuote] at same
              have behind := (List.cons.inj same).2
              exact absurd behind (escapedChars_ne_quote quote rest others)
            · rw [escapedChars_other isQuote, escapedChars_other otherQuote] at same
              have heads := (List.cons.inj same).1
              have tails := (List.cons.inj same).2
              rw [heads, inductionHypothesis tails]

theorem escaped_inj {quote : Char} {first second : String}
    (same : escaped quote first = escaped quote second) : first = second := by
  have characters := congrArg String.toList same
  simp only [escaped, String.toList_ofList] at characters
  have bodies := List.append_cancel_right (List.cons.inj characters).2
  exact String.toList_inj.mp (escapedChars_inj bodies)

/-! ### Where the last argument begins -/

/-- The front of a line that ends where an argument may begin: it is empty, or its last
character is the space behind an argument. -/
def EndsOpen (front : List Char) : Prop := ∀ character ∈ front.getLast?, character = ' '

theorem EndsOpen.tail {character : Char} {rest : List Char}
    (ends : EndsOpen (character :: rest)) : EndsOpen rest := by
  intro last member
  apply ends
  rw [List.getLast?_cons, Option.mem_def.mp member]
  rfl

theorem EndsOpen.of_append {front rest : List Char} (ends : EndsOpen (front ++ rest)) :
    EndsOpen rest := by
  induction front with
  | nil => exact ends
  | cons character others inductionHypothesis => exact inductionHypothesis ends.tail

/-- Inside an escaped argument, no quote where an argument may begin has an escaped argument
behind it. -/
theorem escapedChars_ne_append (quote : Char) (argument other : List Char) {front : List Char}
    (ends : EndsOpen front) :
    escapedChars quote argument ≠ front ++ quote :: escapedChars quote other := by
  intro same
  induction argument generalizing front with
  | nil =>
      have lengths := congrArg List.length same
      simp [escapedChars] at lengths
  | cons character rest inductionHypothesis =>
      cases front with
      | nil => exact escapedChars_ne_quote quote (character :: rest) other same
      | cons head tail =>
          by_cases isQuote : character = quote
          · rw [isQuote, escapedChars_quote] at same
            have isBackslash : '\\' = head := (List.cons.inj same).1
            have behind := (List.cons.inj same).2
            cases tail with
            | nil =>
                -- The front would be a backslash, behind which no argument begins.
                have isSpace : head = ' ' := ends head rfl
                rw [← isBackslash] at isSpace
                exact absurd isSpace (by decide)
            | cons next others =>
                exact inductionHypothesis ends.tail.tail (List.cons.inj behind).2
          · rw [escapedChars_other isQuote] at same
            exact inductionHypothesis ends.tail (List.cons.inj same).2

/-- The last argument of a line does not begin once more inside itself. -/
theorem opening_not_inside {quote : Char} {middle argument other : List Char}
    (ends : EndsOpen middle)
    (same : quote :: escapedChars quote argument =
      middle ++ quote :: escapedChars quote other) :
    middle = [] ∧ argument = other := by
  cases middle with
  | nil => exact ⟨rfl, escapedChars_inj (List.cons.inj same).2⟩
  | cons head tail =>
      have inside := (List.cons.inj same).2
      exact absurd inside (escapedChars_ne_append quote argument other ends.tail)

/-- A line has one place at which its last argument begins. -/
theorem opening_unique {quote : Char} {front otherFront argument other : List Char}
    (ends : EndsOpen front) (otherEnds : EndsOpen otherFront)
    (same : front ++ quote :: escapedChars quote argument =
      otherFront ++ quote :: escapedChars quote other) :
    front = otherFront ∧ argument = other := by
  rcases List.append_eq_append_iff.mp same with ⟨middle, longer, split⟩ | ⟨middle, longer, split⟩
  · have middleEnds : EndsOpen middle := EndsOpen.of_append (longer ▸ otherEnds)
    have nothing := opening_not_inside middleEnds split
    rw [longer, nothing.1, List.append_nil]
    exact ⟨rfl, nothing.2⟩
  · have middleEnds : EndsOpen middle := EndsOpen.of_append (longer ▸ ends)
    have nothing := opening_not_inside middleEnds split
    rw [longer, nothing.1, List.append_nil]
    exact ⟨rfl, nothing.2.symm⟩

/-! ### The whole line -/

/-- A line without its end: the arguments, each with a space behind it. -/
def lineChars (quote : Char) (arguments : List String) : List Char :=
  arguments.flatMap fun argument => (escaped quote argument).toList ++ [' ']

theorem toList_escapedLine (quote : Char) (arguments : List String) :
    (escapedLine quote arguments).toList = lineChars quote arguments ++ ['\n'] := by
  simp [escapedLine, lineChars, String.toList_join, List.flatMap_map]

theorem lineChars_append_singleton (quote : Char) (front : List String) (last : String) :
    lineChars quote (front ++ [last]) =
      lineChars quote front ++ quote :: escapedChars quote last.toList ++ [quote, ' '] := by
  simp [lineChars, escaped]

theorem endsOpen_lineChars (quote : Char) (arguments : List String) :
    EndsOpen (lineChars quote arguments) := by
  induction arguments using List.reverseRecOn with
  | nil => simp [EndsOpen, lineChars]
  | append_singleton front last _ =>
      intro character member
      rw [lineChars_append_singleton, List.getLast?_append] at member
      exact (Option.some.inj member).symm

theorem lineChars_append_singleton_ne_nil (quote : Char) (front : List String) (last : String) :
    lineChars quote (front ++ [last]) ≠ [] := by
  rw [lineChars_append_singleton]
  simp

theorem lineChars_inj {quote : Char} {first second : List String}
    (same : lineChars quote first = lineChars quote second) : first = second := by
  induction first using List.reverseRecOn generalizing second with
  | nil =>
      cases second using List.reverseRecOn with
      | nil => rfl
      | append_singleton front last =>
          exact absurd same.symm (lineChars_append_singleton_ne_nil quote front last)
  | append_singleton front last inductionHypothesis =>
      cases second using List.reverseRecOn with
      | nil => exact absurd same (lineChars_append_singleton_ne_nil quote front last)
      | append_singleton otherFront otherLast =>
          rw [lineChars_append_singleton, lineChars_append_singleton] at same
          have opened := opening_unique (endsOpen_lineChars quote front)
            (endsOpen_lineChars quote otherFront) (List.append_cancel_right same)
          have sameFront : front = otherFront := inductionHypothesis opened.1
          have sameLast : last = otherLast := String.toList_inj.mp opened.2
          rw [sameFront, sameLast]

theorem escapedLine_inj {quote : Char} {first second : List String}
    (same : escapedLine quote first = escapedLine quote second) : first = second := by
  have characters := congrArg String.toList same
  rw [toList_escapedLine, toList_escapedLine] at characters
  exact lineChars_inj (List.append_cancel_right characters)

/-- **What is written escaped determines what was to be written.** For every quote, two
arguments are written alike only if they are the same argument, and two argument lists are
written alike only if they are the same list. -/
theorem escaped_writing_unambiguous (quote : Char) :
    (∀ first second : String,
      (writeEscaped .unlimited [] quote first).1 = (writeEscaped .unlimited [] quote second).1 ↔
        first = second) ∧
    ∀ first second : List String,
      (writeEscapedLine .unlimited [] quote first).1 =
          (writeEscapedLine .unlimited [] quote second).1 ↔
        first = second := by
  constructor
  · intro first second
    show [] ++ Text.Utf8.encode (escaped quote first) =
      [] ++ Text.Utf8.encode (escaped quote second) ↔ first = second
    rw [List.nil_append, List.nil_append, Text.Utf8.encode_inj]
    exact ⟨escaped_inj, congrArg (escaped quote)⟩
  · intro first second
    rw [writeEscapedLine_unlimited, writeEscapedLine_unlimited, List.nil_append,
      List.nil_append, Text.Utf8.encode_inj]
    exact ⟨escapedLine_inj, congrArg (escapedLine quote)⟩

/-- The first argument closes with what looks like an escaped quote. -/
example : escapedLine '"' ["a\\", "b"] = "\"a\\\" \"b\" \n" := by decide

end KernelForge.Echo
