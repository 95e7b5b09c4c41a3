import KernelForge.Json.Printer
import KernelForge.Proofs.JsonReading

/-!
Contract: written JSON documents are read back.

Owns: texts behind their escapes, integers behind their digits, what stands between brackets
part by part, and values on any level.

What follows a value must not go on with it. That matters for integers only, and a document
has a comma, a line end or nothing there.

Does not own: which documents the program writes.
-/

namespace KernelForge.Json

open KernelForge.Toml (hexValue prepend hexValue_hexDigit characterOf_toNat)

/-! ### Texts -/

theorem readCharacters_plain {character : Char} (noQuote : character ≠ '"')
    (noBackslash : character ≠ '\\') (noControl : ¬ character.toNat < 0x20) (rest : List Char) :
    readCharacters .outside (character :: rest) =
      prepend character (readCharacters .outside rest) := by
  rw [readCharacters, if_neg noQuote, if_neg noBackslash, if_neg noControl]

/-- A letter behind a backslash is the character that it stands for. -/
theorem readCharacters_letter {letter escaped : Char}
    (isEscape : letterEscape letter = some escaped) (noUnit : letter ≠ 'u') (rest : List Char) :
    readCharacters .outside ('\\' :: letter :: rest) =
      prepend escaped (readCharacters .outside rest) := by
  simp only [readCharacters, noUnit, isEscape, Char.reduceEq, if_false, if_true]

/-- Four hexadecimal digits behind a backslash and the letter u are a control character. -/
theorem readCharacters_unit {character : Char} (control : character.toNat < 0x20)
    (rest : List Char) :
    readCharacters .outside
        ('\\' :: 'u' :: '0' :: '0' :: hexDigit (character.toNat / 16) ::
          hexDigit (character.toNat % 16) :: rest) =
      prepend character (readCharacters .outside rest) := by
  have zero : hexValue '0' = some 0 := by decide
  have high : hexValue (hexDigit (character.toNat / 16)) = some (character.toNat / 16) :=
    hexValue_hexDigit (by omega)
  have low : hexValue (hexDigit (character.toNat % 16)) = some (character.toNat % 16) :=
    hexValue_hexDigit (by omega)
  have value : 16 * (16 * (16 * (16 * 0 + 0) + 0) + character.toNat / 16) + character.toNat % 16 =
      character.toNat := by omega
  have noSurrogate : isHighSurrogate character.toNat = false := by
    simp only [isHighSurrogate, Bool.and_eq_false_iff, decide_eq_false_iff_not]
    omega
  simp only [readCharacters, Char.reduceEq, if_false, if_true, zero, high, low, value, noSurrogate,
    characterOf_toNat, Bool.false_eq_true]

theorem readCharacters_escapedChar (character : Char) (rest : List Char) :
    readCharacters .outside (escapedChar character ++ rest) =
      prepend character (readCharacters .outside rest) := by
  fun_cases escapedChar character with
  | case1 isQuote =>
      rw [isQuote]
      exact readCharacters_letter rfl (by decide) rest
  | case2 _ isBackslash =>
      rw [isBackslash]
      exact readCharacters_letter rfl (by decide) rest
  | case3 _ _ isBackspace =>
      rw [isBackspace]
      exact readCharacters_letter rfl (by decide) rest
  | case4 _ _ _ isFormFeed =>
      rw [isFormFeed]
      exact readCharacters_letter rfl (by decide) rest
  | case5 _ _ _ _ isLineFeed =>
      rw [isLineFeed]
      exact readCharacters_letter rfl (by decide) rest
  | case6 _ _ _ _ _ isReturn =>
      rw [isReturn]
      exact readCharacters_letter rfl (by decide) rest
  | case7 _ _ _ _ _ _ isTab =>
      rw [isTab]
      exact readCharacters_letter rfl (by decide) rest
  | case8 _ _ _ _ _ _ _ control => exact readCharacters_unit control rest
  | case9 noQuote noBackslash _ _ _ _ _ noControl =>
      exact readCharacters_plain noQuote noBackslash noControl rest

/-- What stands between the quotes is read back, whatever its characters are. -/
theorem readCharacters_escaped (characters rest : List Char) :
    readCharacters .outside (characters.flatMap escapedChar ++ '"' :: rest) =
      some (characters, rest) := by
  induction characters with
  | nil => rfl
  | cons character others inductionHypothesis =>
      rw [List.flatMap_cons, List.append_assoc, readCharacters_escapedChar, inductionHypothesis]
      rfl

theorem readText_textChars (text : String) (rest : List Char) :
    readText (textChars text ++ rest) = some (text, rest) := by
  have read := readCharacters_escaped text.toList rest
  simp only [textChars, List.cons_append, List.append_assoc, List.nil_append, readText, read,
    Option.map_some, String.ofList_toList]

/-! ### Integers -/

/-- Characters that do not go on with a number that stands in front of them. -/
structure EndsNumber (rest : List Char) : Prop where
  noDigit : rest.takeWhile Char.isDigit = []
  allRest : rest.dropWhile Char.isDigit = rest
  noFraction : continuesNumber rest = false

/-- What follows a value in a document. -/
inductive Follows : List Char → Prop
  | nothing : Follows []
  | comma (rest : List Char) : Follows (',' :: rest)
  | lineEnd (rest : List Char) : Follows ('\n' :: rest)

theorem Follows.endsNumber {rest : List Char} (follows : Follows rest) : EndsNumber rest := by
  cases follows with
  | nothing => exact ⟨rfl, rfl, rfl⟩
  | comma rest => exact ⟨rfl, rfl, rfl⟩
  | lineEnd rest => exact ⟨rfl, rfl, rfl⟩

/-- A number is written without a zero in front. -/
theorem head?_toDigits {magnitude : Nat} (positive : 0 < magnitude) :
    (Nat.toDigits 10 magnitude).head? ≠ some '0' := by
  induction magnitude using Nat.strongRecOn with
  | ind magnitude inductionHypothesis =>
      by_cases one : magnitude < 10
      · rw [Nat.toDigits_of_lt_base one]
        have noZero : ∀ digit : Fin 10, 0 < digit.val → [Nat.digitChar digit].head? ≠ some '0' := by
          decide
        exact noZero ⟨magnitude, one⟩ positive
      · have several : 10 ≤ magnitude := by omega
        have leading := inductionHypothesis (magnitude / 10) (by omega) (by omega)
        rw [List.head?_eq_some_head Nat.toDigits_ne_nil] at leading
        rw [Nat.toDigits_of_base_le (by decide) several, List.head?_append,
          List.head?_eq_some_head Nat.toDigits_ne_nil, Option.some_or]
        exact leading

theorem readMagnitude_toDigits (magnitude : Nat) {rest : List Char} (ends : EndsNumber rest) :
    readMagnitude (Nat.toDigits 10 magnitude ++ rest) = some (magnitude, rest) := by
  have digits : ∀ digit ∈ Nat.toDigits 10 magnitude, digit.isDigit = true :=
    fun digit member => Nat.isDigit_of_mem_toDigits (by decide) (by decide) member
  have taken : (Nat.toDigits 10 magnitude ++ rest).takeWhile Char.isDigit =
      Nat.toDigits 10 magnitude := by
    rw [List.takeWhile_append_of_pos digits, ends.noDigit, List.append_nil]
  have dropped : (Nat.toDigits 10 magnitude ++ rest).dropWhile Char.isDigit = rest := by
    rw [List.dropWhile_append_of_pos digits, ends.allRest]
  have noLeadingZero : ¬((Nat.toDigits 10 magnitude).head? = some '0' ∧
      Nat.toDigits 10 magnitude ≠ ['0']) := by
    rintro ⟨leading, more⟩
    by_cases positive : 0 < magnitude
    · exact head?_toDigits positive leading
    · obtain rfl : magnitude = 0 := by omega
      exact more (Nat.toDigits_zero 10)
  rw [readMagnitude, taken, dropped, if_neg, Nat.ofDigitChars_ten_toDigits]
  simp only [Nat.toDigits_ne_nil, noLeadingZero, ends.noFraction, Bool.false_eq_true, or_self,
    not_false_eq_true]

theorem toList_ofNat (magnitude : Nat) :
    (toString (Int.ofNat magnitude)).toList = Nat.toDigits 10 magnitude := by
  rw [show toString (Int.ofNat magnitude) = Nat.repr magnitude from rfl,
    Nat.repr_eq_ofList_toDigits, String.toList_ofList]

theorem toList_negSucc (magnitude : Nat) :
    (toString (Int.negSucc magnitude)).toList = '-' :: Nat.toDigits 10 (magnitude + 1) := by
  rw [show toString (Int.negSucc magnitude) = "-" ++ Nat.repr (magnitude + 1) from rfl,
    String.toList_append, Nat.repr_eq_ofList_toDigits, String.toList_ofList, String.toList_ofList]
  exact List.singleton_append

theorem exists_digit_toDigits (magnitude : Nat) :
    ∃ digit more, Nat.toDigits 10 magnitude = digit :: more ∧ digit.isDigit = true := by
  obtain ⟨digit, more, equal⟩ := List.exists_cons_of_ne_nil
    (Nat.toDigits_ne_nil (n := magnitude) (b := 10))
  have member : digit ∈ Nat.toDigits 10 magnitude := by
    rw [equal]
    exact List.mem_cons_self
  exact ⟨digit, more, equal, Nat.isDigit_of_mem_toDigits (by decide) (by decide) member⟩

/-- An integer is written from a digit or a sign on. -/
theorem toString_starts (value : Int) :
    ∃ head tail, (toString value).toList = head :: tail ∧ (head.isDigit = true ∨ head = '-') := by
  cases value with
  | ofNat magnitude =>
      obtain ⟨digit, more, equal, isDigit⟩ := exists_digit_toDigits magnitude
      exact ⟨digit, more, (toList_ofNat magnitude).trans equal, .inl isDigit⟩
  | negSucc magnitude => exact ⟨_, _, toList_negSucc magnitude, .inr rfl⟩

theorem isBlank_of_isDigit {character : Char} (isDigit : character.isDigit = true) :
    isBlank character = false := by
  have noBlank : ∀ blank : Char, blank.isDigit = false → character ≠ blank := by
    rintro blank noDigit rfl
    cases noDigit.symm.trans isDigit
  simp only [isBlank, noBlank ' ' rfl, noBlank '\t' rfl, noBlank '\n' rfl, noBlank '\r' rfl,
    decide_false, Bool.or_self]

theorem readInteger_toString (value : Int) {rest : List Char} (follows : Follows rest) :
    readInteger ((toString value).toList ++ rest) = some (value, rest) := by
  cases value with
  | ofNat magnitude =>
      obtain ⟨digit, more, equal, isDigit⟩ := exists_digit_toDigits magnitude
      have noSign : digit ≠ '-' := by
        rintro rfl
        cases isDigit
      have read := readMagnitude_toDigits magnitude follows.endsNumber
      rw [toList_ofNat, equal, List.cons_append] at *
      rw [readInteger, read]
      · rfl
      · intro behind isSign
        exact noSign (List.cons.inj isSign).1
  | negSucc magnitude =>
      rw [toList_negSucc, List.cons_append, readInteger,
        readMagnitude_toDigits _ follows.endsNumber]
      rfl

/-! ### Values in brackets -/

theorem isBlank_newLine (level : Nat) : ∀ character ∈ newLine level, isBlank character = true := by
  intro character member
  rcases List.mem_cons.mp member with rfl | space
  · rfl
  · rw [List.eq_of_mem_replicate space]
    rfl

theorem skipBlanks_newLine (level : Nat) (rest : List Char) :
    skipBlanks (newLine level ++ rest) = skipBlanks rest :=
  List.dropWhile_append_of_pos (isBlank_newLine level)

theorem skipBlanks_of_head {head : Char} (noBlank : isBlank head = false) (rest : List Char) :
    skipBlanks (head :: rest) = head :: rest :=
  List.dropWhile_cons_of_neg (by simp only [noBlank, Bool.false_eq_true, not_false_eq_true])

theorem follows_newLine (level : Nat) (rest : List Char) : Follows (newLine level ++ rest) :=
  .lineEnd _

section Parts

variable {Part : Type} {closing : Char} {readPart : List Char → Option (Part × List Char)}
  {write : Part → List Char} {part : Part} {rest : List Char}

/-- A part is written so that it is read back, and neither as nothing nor as the end. -/
structure ReadBack (closing : Char) (readPart : List Char → Option (Part × List Char))
    (written : List Char) (part : Part) : Prop where
  starts : ∃ head tail, written = head :: tail ∧ isBlank head = false ∧ head ≠ closing
  reads : ∀ rest, Follows rest → readPart (written ++ rest) = some (part, rest)

theorem ReadBack.skipBlanks {written : List Char} (back : ReadBack closing readPart written part)
    (rest : List Char) : skipBlanks (written ++ rest) = written ++ rest := by
  obtain ⟨head, tail, rfl, noBlank, -⟩ := back.starts
  exact skipBlanks_of_head noBlank _

theorem readParts_newLine (allowance level : Nat) (characters : List Char) :
    readParts closing readPart allowance (newLine level ++ characters) =
      readParts closing readPart allowance characters := by
  cases allowance with
  | zero => rfl
  | succ allowance => rw [readParts, readParts, skipBlanks_newLine]

/-- What is written behind a part: the other parts, each behind a comma on a line of its
own, and the closing bracket. -/
def behindPart (closing : Char) (write : Part → List Char) (level outer : Nat) (parts : List Part)
    (rest : List Char) : List Char :=
  (parts.flatMap fun part => ',' :: newLine level ++ write part) ++ newLine outer ++ closing :: rest

theorem behindPart_cons (closing : Char) (write : Part → List Char) (level outer : Nat)
    (part : Part) (parts : List Part) (rest : List Char) :
    behindPart closing write level outer (part :: parts) rest =
      ',' :: (newLine level ++
        (write part ++ behindPart closing write level outer parts rest)) := by
  simp only [behindPart, List.flatMap_cons, List.cons_append, List.append_assoc]

theorem length_lt_behindPart (closing : Char) (write : Part → List Char) (level outer : Nat)
    (parts : List Part) (rest : List Char) :
    parts.length < (behindPart closing write level outer parts rest).length := by
  induction parts with
  | nil => exact Nat.zero_lt_succ _
  | cons part parts inductionHypothesis =>
      rw [behindPart_cons]
      simp only [List.length_cons, List.length_append]
      omega

theorem length_write_lt_behindPart (closing : Char) (write : Part → List Char) (level outer : Nat)
    {parts : List Part} (member : part ∈ parts) (rest : List Char) :
    (write part).length < (behindPart closing write level outer parts rest).length := by
  induction parts with
  | nil => cases member
  | cons first parts inductionHypothesis =>
      rw [behindPart_cons]
      simp only [List.length_cons, List.length_append]
      rcases List.mem_cons.mp member with rfl | further
      · omega
      · have shorter := inductionHypothesis further
        omega

/-- A part with the closing bracket on the line behind it is the last one. -/
theorem readParts_last (noBlank : isBlank closing = false) {written : List Char}
    (back : ReadBack closing readPart written part) (allowance outer : Nat) :
    readParts closing readPart (allowance + 1) (written ++ (newLine outer ++ closing :: rest)) =
      some ([part], rest) := by
  rw [readParts, back.skipBlanks, back.reads _ (follows_newLine outer _)]
  simp only [skipBlanks_newLine, skipBlanks_of_head noBlank, if_true]

theorem readParts_more (noComma : ',' ≠ closing) {written : List Char}
    (back : ReadBack closing readPart written part) (allowance : Nat) :
    readParts closing readPart (allowance + 1) (written ++ ',' :: rest) =
      (readParts closing readPart allowance rest).map fun result =>
        (part :: result.1, result.2) := by
  have comma : isBlank ',' = false := rfl
  rw [readParts, back.skipBlanks, back.reads _ (.comma _)]
  simp only [skipBlanks_of_head comma, noComma, if_false, if_true]

theorem readParts_written (noComma : ',' ≠ closing) (noBlank : isBlank closing = false)
    (level outer : Nat) (parts : List Part) {allowance : Nat} (enough : parts.length < allowance)
    (back : ∀ other ∈ part :: parts, ReadBack closing readPart (write other) other) :
    readParts closing readPart allowance
        (write part ++ behindPart closing write level outer parts rest) =
      some (part :: parts, rest) := by
  induction parts generalizing part allowance with
  | nil =>
      obtain ⟨allowance, rfl⟩ := Nat.exists_eq_add_of_lt enough
      exact readParts_last noBlank (back part List.mem_cons_self) _ outer
  | cons next parts inductionHypothesis =>
      obtain ⟨allowance, rfl⟩ := Nat.exists_eq_add_of_lt enough
      have fewer : parts.length < (next :: parts).length + allowance := by
        rw [List.length_cons]
        omega
      rw [behindPart_cons, readParts_more noComma (back part List.mem_cons_self), readParts_newLine,
        inductionHypothesis fewer fun other member => back other (List.mem_cons_of_mem part member)]
      rfl

theorem readBracketed_written (noComma : ',' ≠ closing) (noBlank : isBlank closing = false)
    (level outer : Nat) (parts : List Part)
    (back : ∀ other ∈ part :: parts, ReadBack closing readPart (write other) other) :
    readBracketed closing readPart
        (newLine level ++ write part ++ behindPart closing write level outer parts rest) =
      some (part :: parts, rest) := by
  have here := back part List.mem_cons_self
  obtain ⟨head, tail, equal, -, noClosing⟩ := here.starts
  have enough : parts.length <
      (tail ++ behindPart closing write level outer parts rest).length + 1 := by
    have counted := length_lt_behindPart closing write level outer parts rest
    rw [List.length_append]
    omega
  have read : readParts closing readPart _ (write part ++ behindPart closing write level outer parts
      rest) = some (part :: parts, rest) :=
    readParts_written noComma noBlank level outer parts enough back
  rw [equal, List.cons_append] at read
  rw [readBracketed, List.append_assoc, skipBlanks_newLine, here.skipBlanks, equal,
    List.cons_append]
  simp only [noClosing, if_false, read]

end Parts

/-! ### Values -/

theorem inductionOnParts {motive : Json → Prop} (null : motive .null)
    (boolean : ∀ value, motive (.boolean value)) (integer : ∀ value, motive (.integer value))
    (text : ∀ value, motive (.text value))
    (array : ∀ items, (∀ item ∈ items, motive item) → motive (.array items))
    (object : ∀ members, (∀ member ∈ members, motive member.2) → motive (.object members))
    (value : Json) : motive value :=
  @Json.rec motive (fun items => ∀ item ∈ items, motive item)
    (fun members => ∀ member ∈ members, motive member.2) (fun member => motive member.2)
    null boolean integer text array object
    (fun _ member => nomatch member)
    (fun _ _ head tail => List.forall_mem_cons.mpr ⟨head, tail⟩)
    (fun _ member => nomatch member)
    (fun _ _ head tail => List.forall_mem_cons.mpr ⟨head, tail⟩)
    (fun _ _ value => value) value

/-- The text of a member whose value closes at a level. -/
def writtenMember (level : Nat) (member : String × Json) : List Char :=
  textChars member.1 ++ [':', ' '] ++ chars level member.2

theorem itemChars_eq (level : Nat) (items : List Json) :
    itemChars level items = items.flatMap fun item => ',' :: newLine level ++ chars level item := by
  induction items with
  | nil => rfl
  | cons item items inductionHypothesis =>
      rw [itemChars, inductionHypothesis, List.flatMap_cons]

theorem memberChars_eq (level : Nat) (members : List (String × Json)) :
    memberChars level members =
      members.flatMap fun member => ',' :: newLine level ++ writtenMember level member := by
  induction members with
  | nil => rfl
  | cons member members inductionHypothesis =>
      obtain ⟨key, value⟩ := member
      rw [memberChars, inductionHypothesis, List.flatMap_cons]
      simp only [writtenMember, List.append_assoc]

theorem chars_array (level : Nat) (item : Json) (items : List Json) (rest : List Char) :
    chars level (.array (item :: items)) ++ rest =
      '[' :: (newLine (level + 1) ++ chars (level + 1) item ++
        behindPart ']' (chars (level + 1)) (level + 1) level items rest) := by
  simp only [chars, itemChars_eq, behindPart, List.cons_append, List.append_assoc,
    List.nil_append]

theorem chars_object (level : Nat) (member : String × Json) (members : List (String × Json))
    (rest : List Char) :
    chars level (.object (member :: members)) ++ rest =
      '\x7b' :: (newLine (level + 1) ++ writtenMember (level + 1) member ++
        behindPart '\x7d' (writtenMember (level + 1)) (level + 1) level members rest) := by
  obtain ⟨key, value⟩ := member
  simp only [chars, memberChars_eq, writtenMember, behindPart, List.cons_append,
    List.append_assoc, List.nil_append]

theorem chars_starts (level : Nat) (value : Json) :
    ∃ head tail, chars level value = head :: tail ∧ isBlank head = false ∧ head ≠ ']' := by
  cases value with
  | null => exact ⟨_, _, rfl, rfl, by decide⟩
  | boolean value => cases value <;> exact ⟨_, _, rfl, rfl, by decide⟩
  | text value => exact ⟨_, _, rfl, rfl, by decide⟩
  | array items => cases items <;> exact ⟨_, _, rfl, rfl, by decide⟩
  | object members => cases members <;> exact ⟨_, _, rfl, rfl, by decide⟩
  | integer value =>
      cases value with
      | ofNat magnitude =>
          obtain ⟨digit, more, equal, isDigit⟩ := exists_digit_toDigits magnitude
          refine ⟨digit, more, (toList_ofNat magnitude).trans equal, ?_, ?_⟩
          · exact isBlank_of_isDigit isDigit
          · rintro rfl
            cases isDigit
      | negSucc magnitude => exact ⟨_, _, toList_negSucc magnitude, rfl, by decide⟩

theorem length_item_lt (level : Nat) {item other : Json} {items : List Json}
    (member : other ∈ item :: items) :
    (chars (level + 1) other).length < (chars level (.array (item :: items))).length := by
  rw [← List.append_nil (chars level (.array (item :: items))), chars_array]
  simp only [List.length_cons, List.length_append]
  rcases List.mem_cons.mp member with rfl | further
  · omega
  · have shorter := length_write_lt_behindPart ']' (chars (level + 1)) (level + 1) level further []
    omega

theorem length_member_lt (level : Nat) {member other : String × Json}
    {members : List (String × Json)} (isMember : other ∈ member :: members) :
    (chars (level + 1) other.2).length < (chars level (.object (member :: members))).length := by
  have inMember :
      (chars (level + 1) other.2).length ≤ (writtenMember (level + 1) other).length := by
    simp only [writtenMember, List.length_append]
    omega
  rw [← List.append_nil (chars level (.object (member :: members))), chars_object]
  simp only [List.length_cons, List.length_append]
  rcases List.mem_cons.mp isMember with rfl | further
  · omega
  · have shorter := length_write_lt_behindPart '\x7d' (writtenMember (level + 1)) (level + 1) level
      further []
    omega

theorem readBack_member {level levels : Nat} {member : String × Json}
    (read : ∀ rest, Follows rest →
      readValue levels (chars level member.2 ++ rest) = some (member.2, rest)) :
    ReadBack '\x7d' (readMember (readValue levels)) (writtenMember level member) member := by
  constructor
  · exact ⟨_, _, rfl, rfl, by decide⟩
  · intro rest follows
    obtain ⟨head, tail, equal, noBlank, -⟩ := chars_starts level member.2
    have value := read rest follows
    have colon : isBlank ':' = false := rfl
    have space : skipBlanks (' ' :: (head :: tail ++ rest)) = head :: tail ++ rest :=
      skipBlanks_of_head noBlank _
    rw [equal] at value
    rw [writtenMember, List.append_assoc, List.append_assoc, readMember, readText_textChars, equal]
    simp only [List.cons_append, List.nil_append, skipBlanks_of_head colon] at space ⊢
    rw [space, ← List.cons_append, value]
    rfl

theorem readValue_number (levels : Nat) {head : Char} (rest : List Char)
    (starts : head.isDigit = true ∨ head = '-') :
    readValue (levels + 1) (head :: rest) =
      (readInteger (head :: rest)).map fun result => (.integer result.1, result.2) := by
  have noNumber : ∀ (other : Char) (tail : List Char), other.isDigit = false → other ≠ '-' →
      head :: rest ≠ other :: tail := by
    intro other tail noDigit noSign equal
    obtain ⟨rfl, -⟩ := List.cons.inj equal
    rcases starts with isDigit | isSign
    · cases noDigit.symm.trans isDigit
    · exact noSign isSign
  rw [readValue]
  all_goals
    intro tail equal
    exact noNumber _ _ rfl (by decide) equal

/-- A value is read back from its text, whatever stands behind that in a document. -/
theorem readValue_chars (value : Json) (level levels : Nat) (rest : List Char)
    (enough : (chars level value).length < levels) (follows : Follows rest) :
    readValue levels (chars level value ++ rest) = some (value, rest) := by
  induction value using inductionOnParts generalizing level levels rest with
  | null =>
      obtain ⟨levels, rfl⟩ := Nat.exists_eq_add_of_lt enough
      rfl
  | boolean value =>
      obtain ⟨levels, rfl⟩ := Nat.exists_eq_add_of_lt enough
      cases value <;> rfl
  | integer value =>
      obtain ⟨levels, rfl⟩ := Nat.exists_eq_add_of_lt enough
      obtain ⟨head, tail, equal, starts⟩ := toString_starts value
      have read := readInteger_toString value follows
      rw [equal] at read
      rw [chars, equal, List.cons_append, readValue_number _ _ starts, ← List.cons_append, read]
      rfl
  | text value =>
      obtain ⟨levels, rfl⟩ := Nat.exists_eq_add_of_lt enough
      have read := readText_textChars value rest
      rw [textChars, List.cons_append, List.cons_append] at read
      rw [chars, textChars, List.cons_append, List.cons_append, readValue, read]
      rfl
  | array items inductionHypothesis =>
      obtain ⟨levels, rfl⟩ := Nat.exists_eq_succ_of_ne_zero (Nat.ne_zero_of_lt enough)
      cases items with
      | nil => rfl
      | cons item items =>
          have back : ∀ other ∈ item :: items,
              ReadBack ']' (readValue levels) (chars (level + 1) other) other := by
            intro other member
            refine ⟨chars_starts (level + 1) other, fun rest follows => ?_⟩
            have shorter := length_item_lt level member
            exact inductionHypothesis other member (level + 1) levels rest (by omega) follows
          rw [chars_array, readValue, readBracketed_written (by decide) rfl _ _ _ back]
          rfl
  | object members inductionHypothesis =>
      obtain ⟨levels, rfl⟩ := Nat.exists_eq_succ_of_ne_zero (Nat.ne_zero_of_lt enough)
      cases members with
      | nil => rfl
      | cons member members =>
          have back : ∀ other ∈ member :: members, ReadBack '\x7d' (readMember (readValue levels))
              (writtenMember (level + 1) other) other := by
            intro other isMember
            refine readBack_member fun rest follows => ?_
            have shorter := length_member_lt level isMember
            exact inductionHypothesis other isMember (level + 1) levels rest (by omega) follows
          rw [chars_object, readValue, readBracketed_written (by decide) rfl _ _ _ back]
          rfl

theorem read?_chars (document : Json) {behind : List Char} (follows : Follows behind)
    (blank : skipBlanks behind = []) :
    read? (String.ofList (document.chars 0 ++ behind)) = some document := by
  obtain ⟨head, tail, equal, noBlank, -⟩ := chars_starts 0 document
  have start : skipBlanks (chars 0 document ++ behind) = chars 0 document ++ behind := by
    rw [equal]
    exact skipBlanks_of_head noBlank _
  have enough : (chars 0 document).length < (chars 0 document ++ behind).length + 1 := by
    rw [List.length_append]
    omega
  simp only [read?, String.toList_ofList, start, readValue_chars document 0 _ behind enough follows,
    blank, if_true]

/-- **A written document is read back.** Whatever texts and numbers stand in it, and however
deep its brackets nest. -/
theorem read?_pretty (document : Json) : read? document.pretty = some document := by
  have read := read?_chars document .nothing rfl
  rw [List.append_nil] at read
  exact read

/-- A line end behind a document changes nothing. -/
theorem read?_pretty_line (document : Json) : read? (document.pretty ++ "\n") = some document := by
  have read := read?_chars document (.lineEnd []) rfl
  rw [String.ofList_append] at read
  exact read

end KernelForge.Json
