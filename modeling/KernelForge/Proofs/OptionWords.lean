import KernelForge.Proofs.OptionTexts

/-!
Contract: a reader of the internal options sees each enabled flag once and in order.

Owns: cutting a text into words at the spaces outside quotes, when a text can be cut off
without the reader noticing, and the words of the internal options.

The reader carries two things over from one character to the next: whether it is inside
quotes, and the word that it is in. `Balanced` texts give the first back as they found it,
and the space in front of each part ends the second, so the parts are read one by one,
whatever the configured text says.

Does not own: quotes and spaces in a text that is taken to be a single word.
-/

namespace KernelForge

/-! ### Reading words -/

/-- A reader in the middle of a text: whether it is inside quotes, the word that it is in,
and the words before. -/
structure WordReader where
  quoted : Bool
  word : List Char
  words : List String
deriving DecidableEq, Repr

namespace WordReader

def start : WordReader := ⟨false, [], []⟩

/-- The words with the last one, which is dropped if it is empty. -/
def finished (reader : WordReader) : List String :=
  if reader.word = [] then reader.words else reader.words ++ [String.ofList reader.word]

/-- A space outside quotes ends the word. Any other character belongs to it, also a quote,
which begins or ends the quotes. -/
def step (reader : WordReader) (character : Char) : WordReader :=
  if character = ' ' ∧ reader.quoted = false then ⟨false, [], reader.finished⟩
  else ⟨reader.quoted ^^ (character == backendQuote), reader.word ++ [character], reader.words⟩

def read (reader : WordReader) (characters : List Char) : WordReader :=
  characters.foldl step reader

/-- The reader with other words in front of its own. -/
def behind (reader : WordReader) (earlier : List String) : WordReader :=
  ⟨reader.quoted, reader.word, earlier ++ reader.words⟩

theorem finished_behind (reader : WordReader) (earlier : List String) :
    (reader.behind earlier).finished = earlier ++ reader.finished := by
  unfold finished behind
  by_cases empty : reader.word = []
  · rw [if_pos empty, if_pos empty]
  · rw [if_neg empty, if_neg empty, List.append_assoc]

theorem step_cut {reader : WordReader} (outside : reader.quoted = false) :
    reader.step ' ' = ⟨false, [], reader.finished⟩ :=
  if_pos ⟨rfl, outside⟩

theorem step_other {reader : WordReader} {character : Char}
    (notCut : ¬ (character = ' ' ∧ reader.quoted = false)) :
    reader.step character =
      ⟨reader.quoted ^^ (character == backendQuote), reader.word ++ [character],
        reader.words⟩ :=
  if_neg notCut

theorem step_behind (reader : WordReader) (earlier : List String) (character : Char) :
    (reader.behind earlier).step character = (reader.step character).behind earlier := by
  by_cases cut : character = ' ' ∧ reader.quoted = false
  · obtain ⟨rfl, outside⟩ := cut
    have behindOutside : (reader.behind earlier).quoted = false := outside
    rw [step_cut outside, step_cut behindOutside, finished_behind]
    rfl
  · have behindNotCut : ¬ (character = ' ' ∧ (reader.behind earlier).quoted = false) := cut
    rw [step_other cut, step_other behindNotCut]
    rfl

/-- The words before do not change what is read. -/
theorem read_behind (reader : WordReader) (earlier : List String) (characters : List Char) :
    (reader.behind earlier).read characters = (reader.read characters).behind earlier := by
  induction characters generalizing reader with
  | nil => rfl
  | cons character rest inductionHypothesis =>
      show ((reader.behind earlier).step character).read rest = _
      rw [step_behind, inductionHypothesis]
      rfl

theorem read_append (reader : WordReader) (first second : List Char) :
    reader.read (first ++ second) = (reader.read first).read second :=
  List.foldl_append

/-- Characters that neither quote nor cut become part of the word. -/
theorem read_of_plain (reader : WordReader) {characters : List Char}
    (unquoted : backendQuote ∉ characters)
    (uncut : reader.quoted = false → ' ' ∉ characters) :
    reader.read characters = ⟨reader.quoted, reader.word ++ characters, reader.words⟩ := by
  induction characters generalizing reader with
  | nil => simp [read]
  | cons character rest inductionHypothesis =>
      have notQuote : (character == backendQuote) = false := by
        apply beq_false_of_ne
        rintro rfl
        exact unquoted List.mem_cons_self
      have notCut : ¬ (character = ' ' ∧ reader.quoted = false) := by
        rintro ⟨rfl, outside⟩
        exact uncut outside List.mem_cons_self
      have stepped : reader.step character =
          ⟨reader.quoted, reader.word ++ [character], reader.words⟩ := by
        rw [step_other notCut, notQuote, Bool.xor_false]
      show (reader.step character).read rest = _
      rw [stepped, inductionHypothesis]
      · simp
      · exact fun member => unquoted (List.mem_cons_of_mem character member)
      · exact fun outside member => uncut outside (List.mem_cons_of_mem character member)

theorem step_quote (reader : WordReader) :
    reader.step backendQuote =
      ⟨!reader.quoted, reader.word ++ [backendQuote], reader.words⟩ := by
  have notCut : ¬ (backendQuote = ' ' ∧ reader.quoted = false) := by
    rintro ⟨isSpace, -⟩
    exact absurd isSpace (by decide)
  rw [step_other notCut, beq_self_eq_true, Bool.xor_true]

/-- Each quote turns the reader in or out, and nothing else does. -/
theorem quoted_step (reader : WordReader) (character : Char) :
    (reader.step character).quoted = (reader.quoted ^^ (character == backendQuote)) := by
  by_cases cut : character = ' ' ∧ reader.quoted = false
  · obtain ⟨rfl, outside⟩ := cut
    rw [step_cut outside, outside]
    rfl
  · rw [step_other cut]

theorem quoted_read (reader : WordReader) (characters : List Char) :
    (reader.read characters).quoted =
      (reader.quoted ^^ decide (characters.count backendQuote % 2 = 1)) := by
  induction characters generalizing reader with
  | nil => simp [read]
  | cons character rest inductionHypothesis =>
      show ((reader.step character).read rest).quoted = _
      rw [inductionHypothesis, quoted_step, Bool.xor_assoc, List.count_cons]
      congr 1
      cases character == backendQuote with
      | false => simp
      | true =>
          rw [if_pos rfl, Bool.true_xor, ← decide_not]
          apply decide_eq_decide.mpr
          omega

end WordReader

open WordReader

/-- The words of a text: it is cut at the spaces outside quotes, and empty words are
dropped. The quotes stay. -/
def quotedWords (text : String) : List String :=
  (start.read text.toList).finished

/-- Quotes that are opened in a text are closed in it. -/
def Balanced (text : String) : Prop :=
  text.toList.count backendQuote % 2 = 0

instance (text : String) : Decidable (Balanced text) :=
  inferInstanceAs (Decidable (_ = _))

theorem Balanced.append {first second : String} (firstBalanced : Balanced first)
    (secondBalanced : Balanced second) : Balanced (first ++ second) := by
  unfold Balanced at *
  rw [String.toList_append, List.count_append]
  omega

theorem balanced_of_unquoted {text : String} (unquoted : backendQuote ∉ text.toList) :
    Balanced text := by
  rw [Balanced, List.count_eq_zero.mpr unquoted]

/-- What follows a balanced text and begins with a space, or is empty, is read on its own. -/
theorem quotedWords_append {front text : String} (balanced : Balanced front)
    (opens : OpensWith ' ' text) :
    quotedWords (front ++ text) = quotedWords front ++ quotedWords text := by
  have outside : (start.read front.toList).quoted = false := by
    rw [quoted_read, decide_eq_false]
    · rfl
    · rw [balanced]
      decide
  unfold quotedWords
  rw [String.toList_append, read_append]
  cases characters : text.toList with
  | nil => exact (List.append_nil _).symm
  | cons character rest =>
      obtain rfl : character = ' ' := opens character (by rw [characters]; rfl)
      have cut : (start.read front.toList).step ' ' =
          start.behind (start.read front.toList).finished := by
        rw [step_cut outside]
        simp [behind, start]
      show (((start.read front.toList).step ' ').read rest).finished = _
      rw [cut, read_behind, finished_behind]
      rfl

/-- A space in front of a text is no word. -/
theorem quotedWords_space (text : String) : quotedWords (" " ++ text) = quotedWords text := by
  unfold quotedWords
  rw [String.toList_append]
  rfl

/-- A text without spaces and quotes is a single word. -/
theorem quotedWords_of_plain {text : String} (someText : text ≠ "") (uncut : ' ' ∉ text.toList)
    (unquoted : backendQuote ∉ text.toList) : quotedWords text = [text] := by
  have nonempty : text.toList ≠ [] := by
    intro empty
    exact someText (String.toList_eq_nil_iff.mp empty)
  rw [quotedWords, read_of_plain start unquoted fun _ => uncut]
  simp [finished, start, nonempty]

/-- A text that ends in quotes is a single word, whatever spaces stand between them. -/
theorem quotedWords_of_quotes {front inside : String} (uncut : ' ' ∉ front.toList)
    (unquoted : backendQuote ∉ front.toList) (insideUnquoted : backendQuote ∉ inside.toList) :
    quotedWords (front ++ "'" ++ inside ++ "'") = [front ++ "'" ++ inside ++ "'"] := by
  have characters : (front ++ "'" ++ inside ++ "'").toList =
      front.toList ++ ([backendQuote] ++ (inside.toList ++ [backendQuote])) := by
    simp only [String.toList_append, List.append_assoc]
    rfl
  have opened : (start.read front.toList).read [backendQuote] =
      ⟨true, front.toList ++ [backendQuote], []⟩ := by
    rw [read_of_plain start unquoted fun _ => uncut]
    exact step_quote _
  have closed : (WordReader.read ⟨true, front.toList ++ [backendQuote], []⟩
      inside.toList).read [backendQuote] =
        ⟨false, front.toList ++ [backendQuote] ++ inside.toList ++ [backendQuote], []⟩ := by
    rw [read_of_plain _ insideUnquoted fun outside => Bool.noConfusion outside]
    exact step_quote _
  have word : front.toList ++ [backendQuote] ++ inside.toList ++ [backendQuote] =
      (front ++ "'" ++ inside ++ "'").toList := by
    simp only [characters, List.append_assoc]
  rw [quotedWords, characters, read_append, read_append, opened, read_append, closed, word]
  simp [finished, String.append_assoc]

/-! ### The parts of the internal options -/

section Parts

variable {text : String} {backendOptions : List String}

/-- A flag with its value, with a space in front, is a single word if the value is. -/
theorem quotedWords_flag {flag value : String} (someFlag : flag ≠ "")
    (flagPlain : ' ' ∉ flag.toList ∧ backendQuote ∉ flag.toList)
    (valuePlain : ' ' ∉ value.toList ∧ backendQuote ∉ value.toList) :
    quotedWords (" " ++ (flag ++ value)) = [flag ++ value] := by
  rw [quotedWords_space]
  apply quotedWords_of_plain
  · intro empty
    exact someFlag (String.append_eq_empty_iff.mp empty).1
  · rw [String.toList_append, List.mem_append, not_or]
    exact ⟨flagPlain.1, valuePlain.1⟩
  · rw [String.toList_append, List.mem_append, not_or]
    exact ⟨flagPlain.2, valuePlain.2⟩

theorem quotedWords_formatPart (plain : ' ' ∉ text.toList ∧ backendQuote ∉ text.toList) :
    quotedWords (" -binary-format=" ++ text) = ["-binary-format=" ++ text] := by
  have flag : " -binary-format=" ++ text = " " ++ ("-binary-format=" ++ text) := by
    rw [← String.append_assoc]
    rfl
  rw [flag]
  exact quotedWords_flag (by decide) (by decide) plain

theorem quotedWords_backendPart
    (unquoted : ∀ option ∈ backendOptions, backendQuote ∉ option.toList) :
    quotedWords (backendPart backendOptions) =
      if backendOptions = [] then []
      else ["-llvm-options='" ++ String.intercalate " " backendOptions ++ "'"] := by
  by_cases noOptions : backendOptions = []
  · rw [backendPart, if_pos noOptions, if_pos noOptions]
    rfl
  · have flag : " -llvm-options='" = " " ++ ("-llvm-options=" ++ "'") := rfl
    have word : "-llvm-options='" = "-llvm-options=" ++ "'" := rfl
    have joined : backendQuote ∉ (String.intercalate " " backendOptions).toList :=
      not_mem_toList_intercalate (by decide) unquoted
    rw [backendPart, if_neg noOptions, if_neg noOptions, flag, word, String.append_assoc,
      String.append_assoc, quotedWords_space, ← String.append_assoc]
    exact quotedWords_of_quotes (by decide) (by decide) joined

theorem quotedWords_featuresPart (plain : ' ' ∉ text.toList ∧ backendQuote ∉ text.toList) :
    quotedWords (featuresPart text) = if text = "" then [] else ["-target-features=" ++ text] := by
  by_cases noFeatures : text = ""
  · rw [featuresPart, if_pos noFeatures, if_pos noFeatures]
    rfl
  · have flag : " -target-features=" ++ text = " " ++ ("-target-features=" ++ text) := by
      rw [← String.append_assoc]
      rfl
    rw [featuresPart, if_neg noFeatures, if_neg noFeatures, flag]
    exact quotedWords_flag (by decide) (by decide) plain

theorem quotedWords_configuredPart (configured : Option String) :
    quotedWords (configuredPart configured) = (configured.map quotedWords).getD [] := by
  cases configured with
  | none => rfl
  | some text => exact quotedWords_space text

theorem quotedWords_timePart (timePasses : Bool) :
    quotedWords (timePart timePasses) = if timePasses then ["-ftime-report"] else [] := by
  cases timePasses with
  | false => rfl
  | true =>
      show quotedWords (" " ++ timeReportFlag) = [timeReportFlag]
      rw [quotedWords_space]
      exact quotedWords_of_plain (by decide) (by decide) (by decide)

/-- The quotes around the backend options are the only ones in their part. -/
theorem balanced_backendPart
    (unquoted : ∀ option ∈ backendOptions, backendQuote ∉ option.toList) :
    Balanced (backendPart backendOptions) := by
  by_cases noOptions : backendOptions = []
  · rw [backendPart, if_pos noOptions]
    rfl
  · have joined : (String.intercalate " " backendOptions).toList.count backendQuote = 0 :=
      List.count_eq_zero.mpr (not_mem_toList_intercalate (by decide) unquoted)
    have front : " -llvm-options='".toList.count backendQuote = 1 := by decide
    have back : "'".toList.count backendQuote = 1 := by decide
    rw [Balanced, backendPart_of_ne_nil noOptions, String.toList_append, String.toList_append,
      List.count_append, List.count_append, front, joined, back]

theorem balanced_featuresPart (unquoted : backendQuote ∉ text.toList) :
    Balanced (featuresPart text) := by
  by_cases noFeatures : text = ""
  · rw [featuresPart, if_pos noFeatures]
    rfl
  · rw [featuresPart, if_neg noFeatures]
    exact Balanced.append (by decide) (balanced_of_unquoted unquoted)

theorem balanced_configuredPart {configured : Option String}
    (balanced : ∀ text, configured = some text → Balanced text) :
    Balanced (configuredPart configured) := by
  cases configured with
  | none => rfl
  | some text => exact Balanced.append (by decide) (balanced text rfl)

end Parts

/-- **A reader of the internal options sees each enabled flag once and in order.** The
configured text is read on its own between its neighbours: it adds its own words and changes
none of theirs, as long as it closes the quotes that it opens. -/
theorem quotedWords_composeInternalOptions (configuration : Configuration)
    (binaryFormat : String) (backendOptions : List String) (features : String)
    (timePasses : Bool)
    (formatPlain : ' ' ∉ binaryFormat.toList ∧ backendQuote ∉ binaryFormat.toList)
    (featuresPlain : ' ' ∉ features.toList ∧ backendQuote ∉ features.toList)
    (unquoted : ∀ option ∈ backendOptions, backendQuote ∉ option.toList)
    (balanced : ∀ text, configuration.internalOptions = some text → Balanced text) :
    quotedWords (composeInternalOptions configuration binaryFormat backendOptions features
        timePasses) =
      ["-binary-format=" ++ binaryFormat] ++
        (if backendOptions = [] then []
          else ["-llvm-options='" ++ String.intercalate " " backendOptions ++ "'"]) ++
        (if features = "" then [] else ["-target-features=" ++ features]) ++
        (configuration.internalOptions.map quotedWords).getD [] ++
        (if timePasses then ["-ftime-report"] else []) := by
  have timeOpens := opensWith_timePart timePasses
  have configuredOpens :=
    (opensWith_configuredPart configuration.internalOptions).append timeOpens
  have featuresOpens := (opensWith_featuresPart features).append configuredOpens
  have backendOpens := (opensWith_backendPart backendOptions).append featuresOpens
  have formatBalanced : Balanced (" -binary-format=" ++ binaryFormat) :=
    Balanced.append (by decide) (balanced_of_unquoted formatPlain.2)
  rw [composeInternalOptions_eq, ← String.append_assoc,
    quotedWords_append formatBalanced backendOpens,
    quotedWords_append (balanced_backendPart unquoted) featuresOpens,
    quotedWords_append (balanced_featuresPart featuresPlain.2) configuredOpens,
    quotedWords_append (balanced_configuredPart balanced) timeOpens,
    quotedWords_formatPart formatPlain, quotedWords_backendPart unquoted,
    quotedWords_featuresPart featuresPlain, quotedWords_configuredPart, quotedWords_timePart]
  simp only [List.append_assoc]

/-- The configured text begins and ends with spaces, has some between quotes, and looks like
the flags around it. -/
theorem quotedWords_composeInternalOptions_around_lookalike :
    let configured := " -ftime-report -x='a  b'c ' -target-features=' "
    let configuration : Configuration := { Configuration.initial with
      internalOptions := some configured }
    let backendOptions := ["-a  -b", "", "-target-features=no"]
    (' ' ∉ "cm".toList ∧ backendQuote ∉ "cm".toList) ∧
      (' ' ∉ "+f".toList ∧ backendQuote ∉ "+f".toList) ∧
      (∀ option ∈ backendOptions, backendQuote ∉ option.toList) ∧ Balanced configured ∧
      quotedWords (composeInternalOptions configuration "cm" backendOptions "+f" true) =
        ["-binary-format=cm", "-llvm-options='-a  -b  -target-features=no'",
          "-target-features=+f", "-ftime-report", "-x='a  b'c", "' -target-features='",
          "-ftime-report"] := by
  intro configured configuration backendOptions
  have formatPlain : ' ' ∉ "cm".toList ∧ backendQuote ∉ "cm".toList := by decide
  have featuresPlain : ' ' ∉ "+f".toList ∧ backendQuote ∉ "+f".toList := by decide
  have unquoted : ∀ option ∈ backendOptions, backendQuote ∉ option.toList := by decide
  have balanced : Balanced configured := by decide
  have configuredBalanced :
      ∀ text, configuration.internalOptions = some text → Balanced text := by
    rintro text ⟨⟩
    exact balanced
  have words := quotedWords_composeInternalOptions configuration "cm" backendOptions "+f" true
    formatPlain featuresPlain unquoted configuredBalanced
  refine ⟨formatPlain, featuresPlain, unquoted, balanced, words.trans ?_⟩
  decide +kernel

/-- A quote that the configured text leaves open absorbs the flag behind it. -/
example :
    let configuration : Configuration := { Configuration.initial with
      internalOptions := some "-x='a" }
    quotedWords (composeInternalOptions configuration "cm" [] "" true) =
      ["-binary-format=cm", "-x='a -ftime-report"] := by
  decide +kernel

end KernelForge
