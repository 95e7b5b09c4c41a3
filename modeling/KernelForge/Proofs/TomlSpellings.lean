import KernelForge.Toml.Document
import KernelForge.Toml.Printer

/-!
Contract: the ways in which TOML 1.0 lets simple values be written, and reading them.

Owns: the spellings of a character and a text between quotes, of an integer of sixty-four bits
in any notation, and of a truth value; each of them is read as the value that it spells,
whatever ends the line behind it.

A character has more than one spelling: it may stand for itself, and it may be escaped by a
letter, by four hexadecimal digits or by eight. An integer is told from a date and a time,
which start like one, by what stands behind its first digits.

Does not own: keys, and values with brackets.
-/

namespace KernelForge.Toml

/-! ### Spellings -/

/-- The letters behind a backslash, with the characters that they stand for. -/
def escapeLetters : List (Char × Char) :=
  [('b', '\x08'), ('t', '\t'), ('n', '\n'), ('f', '\x0c'), ('r', '\r'), ('"', '"'), ('\\', '\\')]

/-- The number that hexadecimal digits go on with from a value. -/
def hexNumber : Nat → List Char → Option Nat
  | value, [] => some value
  | value, digit :: rest =>
      match hexValue digit with
      | none => none
      | some number => hexNumber (16 * value + number) rest

/-- The ways to write a character of a basic text. -/
inductive CharSpelling (character : Char) : List Char → Prop
  | itself (noQuote : character ≠ '"') (noBackslash : character ≠ '\\')
      (allowed : character = '\t' ∨ 0x20 ≤ character.toNat ∧ character.toNat ≠ 0x7F) :
      CharSpelling character [character]
  | letter (letter : Char) (stands : (letter, character) ∈ escapeLetters) :
      CharSpelling character ['\\', letter]
  | short (digits : List Char) (four : digits.length = 4)
      (number : hexNumber 0 digits = some character.toNat) :
      CharSpelling character ('\\' :: 'u' :: digits)
  | long (digits : List Char) (eight : digits.length = 8)
      (number : hexNumber 0 digits = some character.toNat) :
      CharSpelling character ('\\' :: 'U' :: digits)

/-- The ways to write characters between quotes. -/
inductive TextSpelling : List Char → List Char → Prop
  | nothing : TextSpelling [] []
  | cons {character : Char} {characters first written : List Char}
      (spelling : CharSpelling character first) (others : TextSpelling characters written) :
      TextSpelling (character :: characters) (first ++ written)

/-- Digits of a radix as they are written, with single underscores between them. -/
inductive DigitSpelling (radix : Nat) : List Char → List Char → Prop
  | one {digit : Char} (isDigit : digitIn radix digit = true) :
      DigitSpelling radix [digit] [digit]
  | cons {digit : Char} (isDigit : digitIn radix digit = true) {digits written : List Char}
      (others : DigitSpelling radix digits written) :
      DigitSpelling radix (digit :: digits) (digit :: written)
  | apart {digit : Char} (isDigit : digitIn radix digit = true) {digits written : List Char}
      (others : DigitSpelling radix digits written) :
      DigitSpelling radix (digit :: digits) (digit :: '_' :: written)

/-- The signs of a decimal integer, and whether they make it negative. -/
inductive Sign : List Char → Bool → Prop
  | none : Sign [] false
  | plus : Sign ['+'] false
  | minus : Sign ['-'] true

/-- The letters that announce a radix. -/
inductive RadixLetter : Char → Nat → Prop
  | hexadecimal : RadixLetter 'x' 16
  | octal : RadixLetter 'o' 8
  | binary : RadixLetter 'b' 2

/-- The integers that sixty-four bits hold. -/
def InSixtyFourBits (value : Int) : Prop :=
  -0x8000000000000000 ≤ value ∧ value < 0x8000000000000000

/-- The ways to write an integer of sixty-four bits. Only decimal ones have a sign, and only
they have no zero in front. -/
inductive IntegerSpelling : Int → List Char → Prop
  | decimal {sign : List Char} {negative : Bool} (isSign : Sign sign negative)
      {digits written : List Char} (spelling : DigitSpelling 10 digits written)
      (noZero : digits = ['0'] ∨ digits.head? ≠ some '0') {value : Int}
      (number : value = if negative then -(digitsValue 10 digits : Int) else digitsValue 10 digits)
      (bounded : InSixtyFourBits value) : IntegerSpelling value (sign ++ written)
  | radix {letter : Char} {radix : Nat} (isRadix : RadixLetter letter radix)
      {digits written : List Char} (spelling : DigitSpelling radix digits written) {value : Int}
      (number : value = digitsValue radix digits) (bounded : InSixtyFourBits value) :
      IntegerSpelling value ('0' :: letter :: written)

/-- The ways to write a text, an integer or a truth value on one line. -/
inductive Spelling : Value → List Char → Prop
  | text {text : String} {written : List Char} (spelling : TextSpelling text.toList written) :
      Spelling (.text text) ('"' :: written ++ ['"'])
  | integer {value : Int} {written : List Char} (spelling : IntegerSpelling value written) :
      Spelling (.integer value) written
  | yes : Spelling (.boolean true) ['t', 'r', 'u', 'e']
  | no : Spelling (.boolean false) ['f', 'a', 'l', 's', 'e']

/-- What ends a line: a line feed, with or without a carriage return, or the document. -/
inductive EndsLine : List Char → Prop
  | document : EndsLine []
  | lineFeed (rest : List Char) : EndsLine ('\n' :: rest)
  | carriageReturn (rest : List Char) : EndsLine ('\r' :: '\n' :: rest)

/-! ### Texts -/

theorem readBasic_letter {letter character : Char}
    (stands : (letter, character) ∈ escapeLetters) (rest : List Char) :
    readBasic .outside ('\\' :: letter :: rest) =
      prepend character (readBasic .outside rest) := by
  have escapes : ∀ entry ∈ escapeLetters, letterEscape entry.1 = some entry.2 := by decide
  have escaped : letterEscape letter = some character := escapes _ stands
  simp only [readBasic, escaped, Char.reduceEq, if_false, if_true]

theorem readBasic_digits (digits rest : List Char) {due value : Nat} {character : Char}
    (many : digits.length = due + 1) (number : hexNumber value digits = some character.toNat) :
    readBasic (.digits due value) (digits ++ rest) =
      prepend character (readBasic .outside rest) := by
  induction digits generalizing due value with
  | nil => cases many
  | cons digit digits inductionHypothesis =>
      rw [hexNumber] at number
      cases isDigit : hexValue digit with
      | none =>
          rw [isDigit] at number
          cases number
      | some next =>
          rw [isDigit] at number
          rw [List.cons_append, readBasic, isDigit]
          cases due with
          | zero =>
              obtain rfl : digits = [] := List.eq_nil_of_length_eq_zero (Nat.succ.inj many)
              obtain same : 16 * value + next = character.toNat := Option.some.inj number
              simp only [same, characterOf_toNat]
              rfl
          | succ due => exact inductionHypothesis (Nat.succ.inj many) number

theorem readBasic_character {character : Char} {written : List Char}
    (spelling : CharSpelling character written) (rest : List Char) :
    readBasic .outside (written ++ rest) = prepend character (readBasic .outside rest) := by
  cases spelling with
  | itself noQuote noBackslash allowed =>
      have isText : isTextChar character = true := by
        rcases allowed with rfl | ⟨low, noDelete⟩
        · rfl
        · simp only [isTextChar, low, bne_iff_ne.mpr noDelete, decide_true, Bool.and_self,
            Bool.or_true]
      simp only [List.singleton_append, readBasic, noQuote, noBackslash, isText, if_false, if_true]
  | letter letter stands => exact readBasic_letter stands rest
  | short digits four number => exact readBasic_digits digits rest four number
  | long digits eight number => exact readBasic_digits digits rest eight number

/-- What stands between the quotes is read as the text, however its characters are
written. -/
theorem readBasic_spelling {characters written : List Char}
    (spelling : TextSpelling characters written) (rest : List Char) :
    readBasic .outside (written ++ '"' :: rest) = some (characters, rest) := by
  induction spelling with
  | nothing => rfl
  | cons spelling others inductionHypothesis =>
      rw [List.append_assoc, readBasic_character spelling, inductionHypothesis]
      rfl

/-- A basic text on one line is not taken for one on several, which opens with three
quotes. -/
theorem TextSpelling.opens_no_block {characters written rest : List Char}
    (spelling : TextSpelling characters written) (ends : EndsLine rest) (tail : List Char) :
    written ++ '"' :: rest ≠ '"' :: '"' :: tail := by
  intro same
  cases spelling with
  | nothing =>
      obtain rfl : rest = '"' :: tail := List.tail_eq_of_cons_eq same
      cases ends
  | cons spelling others =>
      cases spelling with
      | itself noQuote => exact noQuote (List.head_eq_of_cons_eq same)
      | letter letter => cases List.head_eq_of_cons_eq same
      | short digits => cases List.head_eq_of_cons_eq same
      | long digits => cases List.head_eq_of_cons_eq same

theorem readText_spelling {characters written rest : List Char}
    (spelling : TextSpelling characters written) (ends : EndsLine rest) :
    readText ('"' :: (written ++ '"' :: rest)) = some (String.ofList characters, rest) := by
  rw [readText, readBasic_spelling spelling]
  · rfl
  · exact fun tail same => spelling.opens_no_block ends tail same

/-! ### Digits -/

section Digits

variable {radix : Nat} {digits written rest : List Char}

/-- Only hexadecimal digits are digits of a radix of at most sixteen. -/
theorem ne_of_digitIn (small : radix ≤ 16) {digit other : Char}
    (isDigit : digitIn radix digit = true) (noDigit : digitIn 16 other = false) :
    digit ≠ other := by
  rintro rfl
  simp only [digitIn, decide_eq_true_eq, decide_eq_false_iff_not] at isDigit noDigit
  omega

theorem isDecimalDigit_of_digitIn {digit : Char} (isDigit : digitIn 10 digit = true) :
    isDecimalDigit digit = true := by
  by_cases isDecimal : isDecimalDigit digit = true
  · exact isDecimal
  · simp only [digitIn, isDecimal, decide_eq_true_eq, Bool.false_eq_true, if_false] at isDigit
    split at isDigit
    · next lower =>
        have low : 0x61 ≤ digit.toNat := lower.1
        omega
    · split at isDigit
      · next upper =>
          have low : 0x41 ≤ digit.toNat := upper.1
          omega
      · omega

theorem readMoreDigits_digit (small : radix ≤ 16) {digit : Char}
    (isDigit : digitIn radix digit = true) (rest : List Char) :
    readMoreDigits radix (digit :: rest) = prependDigit digit (readMoreDigits radix rest) := by
  have noUnderscore : digit ≠ '_' := ne_of_digitIn small isDigit (by decide)
  rw [readMoreDigits, if_pos isDigit]
  · rintro rfl rfl
    exact noUnderscore rfl
  · rintro next tail rfl rfl
    exact noUnderscore rfl

theorem readMoreDigits_ends (small : radix ≤ 16) (ends : EndsLine rest) :
    readMoreDigits radix rest = some ([], rest) := by
  have noDigit : ∀ {other : Char}, digitIn 16 other = false → ¬ digitIn radix other = true :=
    fun none isDigit => ne_of_digitIn small isDigit none rfl
  cases ends with
  | document => rfl
  | lineFeed rest =>
      rw [readMoreDigits, if_neg (noDigit (by decide))]
      · exact fun mark => nomatch mark
      · exact fun next tail mark => nomatch mark
  | carriageReturn rest =>
      rw [readMoreDigits, if_neg (noDigit (by decide))]
      · exact fun mark => nomatch mark
      · exact fun next tail mark => nomatch mark

namespace DigitSpelling

theorem exists_cons (spelling : DigitSpelling radix digits written) :
    ∃ digit others more, digitIn radix digit = true ∧ digits = digit :: others ∧
      written = digit :: more := by
  cases spelling with
  | one isDigit => exact ⟨_, _, _, isDigit, rfl, rfl⟩
  | cons isDigit others => exact ⟨_, _, _, isDigit, rfl, rfl⟩
  | apart isDigit others => exact ⟨_, _, _, isDigit, rfl, rfl⟩

theorem ne_nil (spelling : DigitSpelling radix digits written) : digits ≠ [] := by
  obtain ⟨digit, others, more, -, rfl, -⟩ := spelling.exists_cons
  exact List.cons_ne_nil digit others

theorem mem_written (spelling : DigitSpelling radix digits written) :
    ∀ character ∈ written, character = '_' ∨ digitIn radix character = true := by
  induction spelling with
  | one isDigit => simp [isDigit]
  | cons isDigit others inductionHypothesis =>
      exact List.forall_mem_cons.mpr ⟨.inr isDigit, inductionHypothesis⟩
  | apart isDigit others inductionHypothesis =>
      exact List.forall_mem_cons.mpr
        ⟨.inr isDigit, List.forall_mem_cons.mpr ⟨.inl rfl, inductionHypothesis⟩⟩

/-- Digits are read up to the end of the line, whichever underscores stand between them. -/
theorem readMoreDigits (spelling : DigitSpelling radix digits written) (small : radix ≤ 16)
    (ends : EndsLine rest) :
    readMoreDigits radix (written ++ rest) = some (digits, rest) := by
  induction spelling with
  | one isDigit =>
      rw [List.singleton_append, readMoreDigits_digit small isDigit, readMoreDigits_ends small ends]
      rfl
  | cons isDigit others inductionHypothesis =>
      rw [List.cons_append, readMoreDigits_digit small isDigit, inductionHypothesis]
      rfl
  | apart isDigit others inductionHypothesis =>
      obtain ⟨next, further, more, isNext, rfl, rfl⟩ := others.exists_cons
      rw [List.cons_append, readMoreDigits_digit small isDigit, List.cons_append, List.cons_append,
        Toml.readMoreDigits, if_pos isNext, ← readMoreDigits_digit small isNext,
        ← List.cons_append, inductionHypothesis]
      rfl

theorem readDigits (spelling : DigitSpelling radix digits written) (small : radix ≤ 16)
    (ends : EndsLine rest) : readDigits radix (written ++ rest) = some (digits, rest) := by
  have read := spelling.readMoreDigits small ends
  obtain ⟨digit, others, more, isDigit, rfl, rfl⟩ := spelling.exists_cons
  rw [List.cons_append, readMoreDigits_digit small isDigit] at read
  rw [List.cons_append, Toml.readDigits, if_pos isDigit, read]

/-- A decimal integer is a zero alone, or its first digit is none. -/
theorem readWhole (spelling : DigitSpelling 10 digits written)
    (noZero : digits = ['0'] ∨ digits.head? ≠ some '0') (ends : EndsLine rest) :
    readWhole (written ++ rest) = some (digits, rest) := by
  have read := spelling.readMoreDigits (by decide) ends
  obtain ⟨digit, others, more, isDigit, rfl, rfl⟩ := spelling.exists_cons
  by_cases zero : digit = '0'
  · subst zero
    obtain rfl : others = [] := by
      rcases noZero with alone | other
      · exact List.tail_eq_of_cons_eq alone
      · exact absurd rfl other
    cases spelling with
    | one => rfl
    | cons isDigit none => exact absurd rfl none.ne_nil
    | apart isDigit none => exact absurd rfl none.ne_nil
  · rw [List.cons_append, readMoreDigits_digit (by decide) isDigit] at read
    rw [List.cons_append, Toml.readWhole, if_neg zero, if_pos (isDecimalDigit_of_digitIn isDigit),
      read]

end DigitSpelling

end Digits

/-! ### Integers are no dates or times -/

theorem readFixed_eq_some {due value number : Nat} {characters rest : List Char}
    (read : readFixed due value characters = some (number, rest)) :
    ∃ digits, characters = digits ++ rest ∧ digits.length = due ∧
      ∀ digit ∈ digits, isDecimalDigit digit = true := by
  induction due generalizing value characters with
  | zero =>
      obtain ⟨-, rfl⟩ := Prod.mk.inj (Option.some.inj read)
      exact ⟨[], rfl, rfl, fun _ none => nomatch none⟩
  | succ due inductionHypothesis =>
      cases characters with
      | nil => cases read
      | cons digit characters =>
          rw [readFixed] at read
          split at read
          · next isDigit =>
              obtain ⟨digits, rfl, count, areDigits⟩ := inductionHypothesis read
              exact ⟨digit :: digits, rfl, congrArg (· + 1) count,
                List.forall_mem_cons.mpr ⟨isDigit, areDigits⟩⟩
          · cases read

/-- A fixed number of digits with a mark behind them are all digits that stand in front. -/
theorem dropWhile_of_readFixed {due value number : Nat} {characters behind : List Char}
    {mark : Char} (positive : due ≠ 0)
    (read : readFixed due value characters = some (number, mark :: behind))
    (noDigit : isDecimalDigit mark = false) :
    characters.dropWhile isDecimalDigit = mark :: behind ∧ characters ≠ mark :: behind := by
  obtain ⟨digits, rfl, count, areDigits⟩ := readFixed_eq_some read
  constructor
  · rw [List.dropWhile_append_of_pos areDigits,
      List.dropWhile_cons_of_neg (by simp only [noDigit, Bool.false_eq_true, not_false_eq_true])]
  · intro same
    have shorter := congrArg List.length same
    rw [List.length_append] at shorter
    omega

theorem readMark_eq_some {mark : Char} {characters rest : List Char}
    (read : readMark mark characters = some rest) : characters = mark :: rest := by
  cases characters with
  | nil => cases read
  | cons character characters =>
      rw [readMark] at read
      split at read
      · next same =>
          rw [same, Option.some.inj read]
      · cases read

theorem readFixed_of_readPair {low high number : Nat} {characters rest : List Char}
    (read : readPair low high characters = some (number, rest)) :
    readFixed 2 0 characters = some (number, rest) := by
  unfold readPair at read
  split at read
  · cases read
  · next equal =>
      split at read
      · rw [equal, read]
      · cases read

/-- A date has a hyphen behind its first digits, and a time has a colon there. -/
theorem readMoment_eq_none {characters : List Char}
    (unmarked : ∀ mark behind, characters.dropWhile isDecimalDigit = mark :: behind →
      characters ≠ mark :: behind → mark ≠ '-' ∧ mark ≠ ':') :
    readMoment characters = none := by
  have noDate : readDate characters = none := by
    rw [Option.eq_none_iff_forall_ne_some]
    intro date read
    obtain ⟨⟨year, rest⟩, yearRead, read⟩ := Option.bind_eq_some_iff.mp read
    obtain ⟨behind, hyphen, -⟩ := Option.bind_eq_some_iff.mp read
    rw [readMark_eq_some hyphen] at yearRead
    obtain ⟨dropped, others⟩ := dropWhile_of_readFixed (by decide) yearRead (by decide)
    exact (unmarked _ _ dropped others).1 rfl
  have noTime : readTime characters = none := by
    rw [Option.eq_none_iff_forall_ne_some]
    intro time read
    obtain ⟨⟨hour, rest⟩, hourRead, read⟩ := Option.bind_eq_some_iff.mp read
    obtain ⟨behind, colon, -⟩ := Option.bind_eq_some_iff.mp read
    rw [readMark_eq_some colon] at hourRead
    obtain ⟨dropped, others⟩ :=
      dropWhile_of_readFixed (by decide) (readFixed_of_readPair hourRead) (by decide)
    exact (unmarked _ _ dropped others).2 rfl
  simp only [readMoment, noDate, noTime, Option.map_none]

theorem readMoment_signed {sign : Char} (noDigit : isDecimalDigit sign = false)
    (rest : List Char) : readMoment (sign :: rest) = none := by
  apply readMoment_eq_none
  intro mark behind dropped others
  rw [List.dropWhile_cons_of_neg (by simp only [noDigit, Bool.false_eq_true, not_false_eq_true])]
    at dropped
  exact absurd dropped others

theorem dropWhile_of_endsLine {rest : List Char} (ends : EndsLine rest) :
    rest.dropWhile isDecimalDigit = rest := by
  cases ends <;> rfl

theorem readMoment_unmarked {written rest : List Char} (ends : EndsLine rest)
    (unmarked : ∀ character ∈ written, character ≠ '-' ∧ character ≠ ':') :
    readMoment (written ++ rest) = none := by
  apply readMoment_eq_none
  intro mark behind dropped _
  rw [List.dropWhile_append] at dropped
  split at dropped
  · rw [dropWhile_of_endsLine ends] at dropped
    subst dropped
    cases ends <;> decide
  · next filled =>
      cases front : written.dropWhile isDecimalDigit with
      | nil => exact absurd (by rw [front]; rfl) filled
      | cons first others =>
          rw [front] at dropped
          obtain rfl : first = mark := List.head_eq_of_cons_eq dropped
          have inWritten : first ∈ written := by
            apply (List.dropWhile_sublist isDecimalDigit).subset
            rw [front]
            exact List.mem_cons_self
          exact unmarked first inWritten

/-! ### Integers -/

section Integers

variable {radix : Nat} {digits written rest : List Char} {value : Int}

theorem DigitSpelling.unmarked (spelling : DigitSpelling radix digits written)
    (small : radix ≤ 16) : ∀ character ∈ written, character ≠ '-' ∧ character ≠ ':' := by
  intro character member
  rcases spelling.mem_written character member with rfl | isDigit
  · decide
  · exact ⟨ne_of_digitIn small isDigit (by decide), ne_of_digitIn small isDigit (by decide)⟩

theorem RadixLetter.small {letter : Char} (isRadix : RadixLetter letter radix) : radix ≤ 16 := by
  cases isRadix <;> decide

theorem IntegerSpelling.readMoment (spelling : IntegerSpelling value written)
    (ends : EndsLine rest) : readMoment (written ++ rest) = none := by
  cases spelling with
  | decimal isSign spelling =>
      cases isSign with
      | none => exact readMoment_unmarked ends (spelling.unmarked (by decide))
      | plus => exact readMoment_signed (by decide) _
      | minus => exact readMoment_signed (by decide) _
  | @radix letter radix isRadix digits written spelling =>
      have isLetter : letter ≠ '-' ∧ letter ≠ ':' := by
        cases isRadix <;> decide
      apply readMoment_unmarked ends
      exact List.forall_mem_cons.mpr ⟨by decide, List.forall_mem_cons.mpr
        ⟨isLetter, spelling.unmarked isRadix.small⟩⟩

theorem boundedInteger_eq_some {negative : Bool} {magnitude : Nat}
    (number : value = if negative then -(magnitude : Int) else magnitude)
    (bounded : InSixtyFourBits value) : boundedInteger negative magnitude = some value := by
  have limit : Nat.pow 2 63 = 0x8000000000000000 := rfl
  obtain ⟨low, high⟩ := bounded
  cases negative with
  | true =>
      rw [if_pos rfl] at number
      rw [boundedInteger, if_pos rfl, if_pos (by omega), number]
  | false =>
      rw [if_neg Bool.false_ne_true] at number
      rw [boundedInteger, if_neg Bool.false_ne_true, if_pos (by omega), number]

/-- What stands behind the sign of a decimal integer. -/
theorem readSigned_spelling (spelling : DigitSpelling 10 digits written)
    (noZero : digits = ['0'] ∨ digits.head? ≠ some '0') (ends : EndsLine rest) {negative : Bool}
    (number : value = if negative then -(digitsValue 10 digits : Int) else digitsValue 10 digits)
    (bounded : InSixtyFourBits value) :
    readSigned negative (written ++ rest) = some (.integer value, rest) := by
  have whole := spelling.readWhole noZero ends
  have isValue := boundedInteger_eq_some number bounded
  obtain ⟨digit, others, more, isDigit, rfl, rfl⟩ := spelling.exists_cons
  have noLetter : ∀ {letter : Char} {tail : List Char}, digitIn 16 letter = false →
      digit :: (more ++ rest) ≠ letter :: tail :=
    fun none same => ne_of_digitIn (by decide) isDigit none (List.head_eq_of_cons_eq same)
  rw [List.cons_append] at whole ⊢
  rw [readSigned, whole]
  · cases ends <;> simp [isValue]
  · exact fun tail same => noLetter (by decide) same
  · exact fun tail same => noLetter (by decide) same

/-- No letter stands behind a zero in front of a decimal integer. -/
theorem DigitSpelling.no_letter (spelling : DigitSpelling 10 digits written)
    (noZero : digits = ['0'] ∨ digits.head? ≠ some '0') (ends : EndsLine rest) {letter : Char}
    (noEnd : letter ≠ '\n' ∧ letter ≠ '\r') (tail : List Char) :
    written ++ rest ≠ '0' :: letter :: tail := by
  intro same
  have read := spelling.readWhole noZero ends
  rw [same] at read
  obtain rfl : letter :: tail = rest := (Prod.mk.inj (Option.some.inj read)).2
  cases ends with
  | lineFeed => exact noEnd.1 rfl
  | carriageReturn => exact noEnd.2 rfl

theorem DigitSpelling.readSign (spelling : DigitSpelling 10 digits written) (rest : List Char) :
    readSign (written ++ rest) = (false, written ++ rest) := by
  obtain ⟨digit, others, more, isDigit, rfl, rfl⟩ := spelling.exists_cons
  have noSign : ∀ {sign : Char} {tail : List Char}, digitIn 16 sign = false →
      digit :: (more ++ rest) ≠ sign :: tail :=
    fun none same => ne_of_digitIn (by decide) isDigit none (List.head_eq_of_cons_eq same)
  rw [List.cons_append, Toml.readSign]
  · exact fun tail same => noSign (by decide) same
  · exact fun tail same => noSign (by decide) same

theorem IntegerSpelling.readNumber (spelling : IntegerSpelling value written)
    (ends : EndsLine rest) : readNumber (written ++ rest) = some (.integer value, rest) := by
  cases spelling with
  | decimal isSign spelling noZero number bounded =>
      have read := readSigned_spelling spelling noZero ends number bounded
      cases isSign with
      | none =>
          rw [List.nil_append, Toml.readNumber]
          · simp only [spelling.readSign, read]
          · exact fun tail same => spelling.no_letter noZero ends (by decide) tail same
          · exact fun tail same => spelling.no_letter noZero ends (by decide) tail same
          · exact fun tail same => spelling.no_letter noZero ends (by decide) tail same
      | plus => exact read
      | minus => exact read
  | @radix letter radix isRadix digits written spelling _ number bounded =>
      have read := spelling.readDigits isRadix.small ends
      have isValue : boundedInteger false (digitsValue radix digits) = some value :=
        boundedInteger_eq_some number bounded
      have inRadix : readRadix radix (written ++ rest) = some (.integer value, rest) := by
        rw [readRadix, read]
        simp only [isValue, Option.map_some]
      cases isRadix <;> exact inRadix

/-- An integer is written from a digit or a sign on. -/
theorem IntegerSpelling.starts (spelling : IntegerSpelling value written) :
    ∃ head tail, written = head :: tail ∧
      ∀ other, isDecimalDigit other = false → other ≠ '+' ∧ other ≠ '-' → head ≠ other := by
  have noOther : ∀ {digit other : Char}, digitIn 10 digit = true → isDecimalDigit other = false →
      digit ≠ other := by
    rintro digit other isDigit noDigit rfl
    cases noDigit.symm.trans (isDecimalDigit_of_digitIn isDigit)
  cases spelling with
  | decimal isSign spelling =>
      cases isSign with
      | none =>
          obtain ⟨digit, others, more, isDigit, rfl, rfl⟩ := spelling.exists_cons
          exact ⟨digit, more, rfl, fun other noDigit _ => noOther isDigit noDigit⟩
      | plus => exact ⟨_, _, rfl, fun other _ noSign => noSign.1.symm⟩
      | minus => exact ⟨_, _, rfl, fun other _ noSign => noSign.2.symm⟩
  | radix => exact ⟨_, _, rfl, fun other noDigit _ => noOther (by decide) noDigit⟩

end Integers

/-! ### Values -/

section Values

variable {value : Value} {written rest : List Char}

theorem IntegerSpelling.readScalar {value : Int} (spelling : IntegerSpelling value written)
    (ends : EndsLine rest) : readScalar (written ++ rest) = some (.integer value, rest) := by
  have moment := spelling.readMoment ends
  have number := spelling.readNumber ends
  obtain ⟨head, tail, rfl, starts⟩ := spelling.starts
  rw [List.cons_append] at moment number ⊢
  rw [Toml.readScalar, moment, number]
  all_goals
    exact fun more same => starts _ (by decide) (by decide) (List.head_eq_of_cons_eq same)

/-- A value of one line is read as what it spells, up to the end of the line. -/
theorem Spelling.readScalar (spelling : Spelling value written) (ends : EndsLine rest) :
    readScalar (written ++ rest) = some (value, rest) := by
  cases spelling with
  | @text text written spelling =>
      have read := readText_spelling spelling ends
      rw [String.ofList_toList] at read
      simp only [List.cons_append, List.append_assoc, List.nil_append, Toml.readScalar, read,
        Option.map_some]
  | integer spelling => exact spelling.readScalar ends
  | yes => rfl
  | no => rfl

/-- No bracket and no blank stands in front of a value of one line. -/
theorem Spelling.starts (spelling : Spelling value written) :
    ∃ head tail, written = head :: tail ∧ head ≠ '[' ∧ head ≠ '\x7b' ∧ isBlank head = false := by
  cases spelling with
  | text => exact ⟨_, _, rfl, by decide, by decide, rfl⟩
  | yes => exact ⟨_, _, rfl, by decide, by decide, rfl⟩
  | no => exact ⟨_, _, rfl, by decide, by decide, rfl⟩
  | integer spelling =>
      obtain ⟨head, tail, rfl, starts⟩ := spelling.starts
      have noBlank : isBlank head = false := by
        simp only [isBlank, starts ' ' (by decide) (by decide), starts '\t' (by decide) (by decide),
          decide_false, Bool.or_self]
      exact ⟨head, tail, rfl, starts '[' (by decide) (by decide),
        starts '\x7b' (by decide) (by decide), noBlank⟩

theorem Spelling.readValue (spelling : Spelling value written) (ends : EndsLine rest)
    (levels : Nat) : readValue levels (written ++ rest) = some (value, rest) := by
  have read := spelling.readScalar ends
  obtain ⟨head, tail, rfl, noArray, noTable, -⟩ := spelling.starts
  rw [List.cons_append] at read ⊢
  rw [Toml.readValue, read]
  · exact fun more _ same => noArray (List.head_eq_of_cons_eq same)
  · exact fun more _ same => noTable (List.head_eq_of_cons_eq same)
  · exact fun more _ _ same => noArray (List.head_eq_of_cons_eq same)
  · exact fun more _ _ same => noTable (List.head_eq_of_cons_eq same)

end Values

/-! ### Every text has a spelling -/

theorem hexNumber_control {character : Char} (control : character.toNat < 0x80) :
    hexNumber 0 ['0', '0', hexDigit (character.toNat / 16), hexDigit (character.toNat % 16)] =
      some character.toNat := by
  have zero : hexValue '0' = some 0 := by decide
  have high : hexValue (hexDigit (character.toNat / 16)) = some (character.toNat / 16) :=
    hexValue_hexDigit (by omega)
  have low : hexValue (hexDigit (character.toNat % 16)) = some (character.toNat % 16) :=
    hexValue_hexDigit (by omega)
  simp only [hexNumber, zero, high, low, Option.some.injEq]
  omega

theorem charSpelling_escapedChar (character : Char) :
    CharSpelling character (escapedChar character) := by
  fun_cases escapedChar character with
  | case1 isQuote => exact .letter '"' (by rw [isQuote]; decide)
  | case2 _ isBackslash => exact .letter '\\' (by rw [isBackslash]; decide)
  | case3 _ _ isBackspace => exact .letter 'b' (by rw [isBackspace]; decide)
  | case4 _ _ _ isTab => exact .letter 't' (by rw [isTab]; decide)
  | case5 _ _ _ _ isLineFeed => exact .letter 'n' (by rw [isLineFeed]; decide)
  | case6 _ _ _ _ _ isFormFeed => exact .letter 'f' (by rw [isFormFeed]; decide)
  | case7 _ _ _ _ _ _ isReturn => exact .letter 'r' (by rw [isReturn]; decide)
  | case8 _ _ _ _ _ _ _ control => exact .short _ rfl (hexNumber_control (by omega))
  | case9 noQuote noBackslash _ _ _ _ _ noControl =>
      exact .itself noQuote noBackslash (.inr (by omega))

theorem textSpelling_escaped (characters : List Char) :
    TextSpelling characters (characters.flatMap escapedChar) := by
  induction characters with
  | nil => exact .nothing
  | cons character others inductionHypothesis =>
      exact .cons (charSpelling_escapedChar character) inductionHypothesis

end KernelForge.Toml
