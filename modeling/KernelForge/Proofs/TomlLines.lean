import KernelForge.Proofs.TomlSpellings

/-!
Contract: documents that give names values line by line.

Owns: a line with a bare key and a value, documents of such lines, and what is read from
them: the lines as entries in their order, unless a key is there twice.

A line ends with a line feed, with or without a carriage return in front of it; behind the
last line there may be nothing.

Does not own: headings, dotted keys, and values with brackets.
-/

namespace KernelForge.Toml

/-! ### Lines and documents of lines -/

/-- The ways to write a line that gives a bare key a value. -/
inductive Line : String × Value → List Char → Prop
  | pair {key : String} (filled : key.toList ≠ [])
      (bare : key.toList.all isBareKeyChar = true) {value : Value}
      {written : List Char} (spelling : Spelling value written) :
      Line (key, value) (key.toList ++ ' ' :: '=' :: ' ' :: written)

/-- The marks between lines. -/
inductive LineEnd : List Char → Prop
  | lineFeed : LineEnd ['\n']
  | carriageReturn : LineEnd ['\r', '\n']

/-- The ways to write entries line by line. -/
inductive Lines : Entries → List Char → Prop
  | nothing : Lines [] []
  | last {entry : String × Value} {written : List Char} (line : Line entry written) :
      Lines [entry] written
  | cons {entry : String × Value} {written mark rest : List Char} {entries : Entries}
      (line : Line entry written) (lineEnd : LineEnd mark) (others : Lines entries rest) :
      Lines (entry :: entries) (written ++ (mark ++ rest))

theorem LineEnd.endsLine {mark : List Char} (lineEnd : LineEnd mark) (rest : List Char) :
    EndsLine (mark ++ rest) := by
  cases lineEnd with
  | lineFeed => exact .lineFeed rest
  | carriageReturn => exact .carriageReturn rest

theorem LineEnd.finishLine {mark : List Char} (lineEnd : LineEnd mark) (rest : List Char) :
    finishLine (mark ++ rest) = some rest := by
  cases lineEnd <;> rfl

theorem ne_of_isBareKeyChar {character other : Char} (bare : isBareKeyChar character = true)
    (noBare : isBareKeyChar other = false) : character ≠ other := by
  rintro rfl
  cases noBare.symm.trans bare

theorem skipBlanks_of_head {head : Char} (noBlank : isBlank head = false) (rest : List Char) :
    skipBlanks (head :: rest) = head :: rest :=
  List.dropWhile_cons_of_neg (by simp only [noBlank, Bool.false_eq_true, not_false_eq_true])

theorem isBlank_of_isBareKeyChar {character : Char} (bare : isBareKeyChar character = true) :
    isBlank character = false := by
  have noSpace : character ≠ ' ' := ne_of_isBareKeyChar bare (by decide)
  have noTab : character ≠ '\t' := ne_of_isBareKeyChar bare (by decide)
  simp only [isBlank, noSpace, noTab, decide_false, Bool.or_self]

/-! ### One line -/

section OneLine

variable {key : String} {value : Value} {entry : String × Value} {written rest : List Char}

theorem exists_bare_cons (filled : key.toList ≠ [])
    (bare : key.toList.all isBareKeyChar = true) :
    ∃ first others, key.toList = first :: others ∧ isBareKeyChar first = true := by
  obtain ⟨first, others, equal⟩ := List.exists_cons_of_ne_nil filled
  rw [equal] at bare
  exact ⟨first, others, equal, List.all_eq_true.mp bare first List.mem_cons_self⟩

/-- A bare key ends where a blank stands. -/
theorem readKeyPart_bare (filled : key.toList ≠ [])
    (bare : key.toList.all isBareKeyChar = true) (rest : List Char) :
    readKeyPart (key.toList ++ ' ' :: rest) = some (key, ' ' :: rest) := by
  have isBare := List.all_eq_true.mp bare
  have taken : (key.toList ++ ' ' :: rest).takeWhile isBareKeyChar = key.toList := by
    rw [List.takeWhile_append_of_pos isBare, List.takeWhile_cons_of_neg (by decide),
      List.append_nil]
  have dropped : (key.toList ++ ' ' :: rest).dropWhile isBareKeyChar = ' ' :: rest := by
    rw [List.dropWhile_append_of_pos isBare, List.dropWhile_cons_of_neg (by decide)]
  have noQuote : ∀ {quote : Char} {tail : List Char}, isBareKeyChar quote = false →
      key.toList ++ ' ' :: rest ≠ quote :: tail := by
    intro quote tail noBare same
    obtain ⟨first, others, equal, firstBare⟩ := exists_bare_cons filled bare
    rw [equal] at same
    exact ne_of_isBareKeyChar firstBare noBare (List.head_eq_of_cons_eq same)
  rw [readKeyPart, taken, dropped]
  · split
    · next empty => exact absurd empty filled
    · rw [String.ofList_toList]
  · exact fun tail same => noQuote (by decide) same
  · exact fun tail same => noQuote (by decide) same

theorem readKey_bare (filled : key.toList ≠ [])
    (bare : key.toList.all isBareKeyChar = true) (rest : List Char) :
    readKey (key.toList ++ ' ' :: '=' :: rest) = some (([], key), '=' :: rest) := by
  have start :
      skipBlanks (key.toList ++ ' ' :: '=' :: rest) = key.toList ++ ' ' :: '=' :: rest := by
    obtain ⟨first, others, equal, isBare⟩ := exists_bare_cons filled bare
    rw [equal]
    exact skipBlanks_of_head (isBlank_of_isBareKeyChar isBare) _
  have parts : readKeyParts keyPartLimit (key.toList ++ ' ' :: '=' :: rest) =
      some ([key], '=' :: rest) := by
    rw [show keyPartLimit = 78 + 1 from rfl, readKeyParts, start, readKeyPart_bare filled bare]
    rfl
  rw [readKey, parts]
  rfl

theorem Line.starts (line : Line entry written) :
    ∃ first others, written = first :: others ∧ isBareKeyChar first = true := by
  cases line with
  | pair filled bare spelling =>
      obtain ⟨first, others, equal, isBare⟩ := exists_bare_cons filled bare
      exact ⟨first, _, by rw [equal]; rfl, isBare⟩

theorem Line.readPair? (line : Line entry written) (ends : EndsLine rest) (levels : Nat) :
    readPair? (readValue levels) (written ++ rest) = some (([], entry.1), entry.2, rest) := by
  cases line with
  | pair filled bare spelling =>
      obtain ⟨head, tail, rfl, -, -, noBlank⟩ := spelling.starts
      have value := spelling.readValue ends levels
      have start : skipBlanks (' ' :: (head :: tail ++ rest)) = head :: tail ++ rest :=
        skipBlanks_of_head noBlank _
      simp only [List.append_assoc, List.cons_append, Toml.readPair?, readKey_bare filled bare]
        at start value ⊢
      rw [start, value]
      rfl

/-- A line at the root of a document adds its entry. -/
theorem Line.readStatement (line : Line entry written) (ends : EndsLine rest) (root : Entries) :
    readStatement ⟨root, []⟩ (written ++ rest) =
      (addEntry entry.1 entry.2 root).map fun root => (⟨root, []⟩, rest) := by
  have pair := line.readPair? ends nestingLimit
  obtain ⟨first, others, rfl, bare⟩ := line.starts
  have noMark : ∀ {mark : Char} {tail : List Char}, isBareKeyChar mark = false →
      first :: (others ++ rest) ≠ mark :: tail :=
    fun noBare same => ne_of_isBareKeyChar bare noBare (List.head_eq_of_cons_eq same)
  rw [List.cons_append] at pair ⊢
  rw [Toml.readStatement, readEntry, pair]
  · rfl
  all_goals exact fun tail same => noMark (by decide) same

end OneLine

/-! ### Lines one after the other -/

/-- A document of lines starts with a key. -/
theorem Lines.isBareKeyChar {entries : Entries} {first : Char} {others : List Char}
    (lines : Lines entries (first :: others)) : isBareKeyChar first = true := by
  generalize same : first :: others = written at lines
  cases lines with
  | nothing => cases same
  | last line =>
      obtain ⟨head, more, rfl, bare⟩ := line.starts
      rw [List.head_eq_of_cons_eq same]
      exact bare
  | cons line lineEnd others =>
      obtain ⟨head, more, rfl, bare⟩ := line.starts
      rw [List.head_eq_of_cons_eq same]
      exact bare

theorem Lines.length_le {entries : Entries} {written : List Char}
    (lines : Lines entries written) : entries.length ≤ written.length := by
  induction lines with
  | nothing => exact Nat.le_refl 0
  | last line =>
      obtain ⟨first, others, rfl, -⟩ := line.starts
      exact Nat.succ_le_succ (Nat.zero_le _)
  | cons line lineEnd others inductionHypothesis =>
      obtain ⟨first, more, rfl, -⟩ := line.starts
      simp only [List.length_cons, List.length_append]
      omega

/-- A line is read, and reading goes on behind its end. -/
theorem Line.readLines {entry : String × Value} {written rest behind : List Char}
    (line : Line entry written) (ends : EndsLine rest) (finished : finishLine rest = some behind)
    (allowance : Nat) (root : Entries) :
    readLines (allowance + 1) ⟨root, []⟩ (written ++ rest) =
      (addEntry entry.1 entry.2 root).bind fun next => readLines allowance ⟨next, []⟩ behind := by
  have statement := line.readStatement ends root
  obtain ⟨first, others, rfl, bare⟩ := line.starts
  rw [List.cons_append] at statement ⊢
  rw [Toml.readLines, skipBlanks_of_head (isBlank_of_isBareKeyChar bare)]
  simp only [statement]
  cases addEntry entry.1 entry.2 root with
  | none => rfl
  | some next => simp only [Option.map_some, finished, Option.bind_some]

/-- Adds entries one after the other. -/
def addEntries (entries root : Entries) : Option Entries :=
  entries.foldlM (fun root entry => addEntry entry.1 entry.2 root) root

/-- Reading lines adds their entries in their order. -/
theorem Lines.readLines {entries : Entries} {written : List Char}
    (lines : Lines entries written) {allowance : Nat} (enough : entries.length < allowance)
    (root : Entries) :
    readLines allowance ⟨root, []⟩ written =
      (addEntries entries root).map fun root => ⟨root, []⟩ := by
  induction lines generalizing allowance root with
  | nothing =>
      obtain ⟨allowance, rfl⟩ := Nat.exists_eq_succ_of_ne_zero (Nat.ne_zero_of_lt enough)
      rfl
  | @last entry written line =>
      obtain ⟨more, rfl⟩ : ∃ more, allowance = more + 1 + 1 :=
        ⟨allowance - 2, by rw [List.length_singleton] at enough; omega⟩
      have read := line.readLines .document rfl (more + 1) root
      rw [List.append_nil] at read
      rw [read, addEntries, List.foldlM_cons]
      cases addEntry entry.1 entry.2 root <;> rfl
  | @cons entry written mark rest entries line lineEnd others inductionHypothesis =>
      obtain ⟨allowance, rfl⟩ := Nat.exists_eq_succ_of_ne_zero (Nat.ne_zero_of_lt enough)
      rw [line.readLines (lineEnd.endsLine rest) (lineEnd.finishLine rest), addEntries,
        List.foldlM_cons]
      cases addEntry entry.1 entry.2 root with
      | none => rfl
      | some next => exact inductionHypothesis (Nat.lt_of_succ_lt_succ enough) next

theorem addEntry_eq (key : String) (value : Value) (root : Entries) :
    addEntry key value root =
      if key ∈ root.map Prod.fst then none else some (root ++ [(key, value)]) := by
  unfold addEntry
  by_cases there : key ∈ root.map Prod.fst
  · have found : root.lookup key ≠ none := by
      intro missing
      obtain ⟨entry, member, rfl⟩ := List.mem_map.mp there
      exact absurd (List.lookup_eq_none_iff.mp missing entry member) (by simp)
    rw [if_pos there]
    split
    · rfl
    · next missing => exact absurd missing found
  · have missing : root.lookup key = none := by
      rw [List.lookup_eq_none_iff]
      intro entry member
      rw [bne_iff_ne]
      rintro rfl
      exact there (List.mem_map_of_mem member)
    rw [if_neg there, missing]

/-- Entries are all added if no key is there twice, and otherwise refused. -/
theorem addEntries_eq (entries root : Entries) (distinct : (root.map Prod.fst).Nodup) :
    addEntries entries root =
      if ((root ++ entries).map Prod.fst).Nodup then some (root ++ entries) else none := by
  induction entries generalizing root with
  | nil =>
      rw [List.append_nil, if_pos distinct]
      rfl
  | cons entry entries inductionHypothesis =>
      rw [addEntries, List.foldlM_cons, addEntry_eq]
      by_cases there : entry.1 ∈ root.map Prod.fst
      · have repeated : ¬ ((root ++ entry :: entries).map Prod.fst).Nodup := by
          rw [List.map_append, List.map_cons, List.nodup_append]
          intro nodup
          exact nodup.2.2 _ there _ List.mem_cons_self rfl
        rw [if_pos there, if_neg repeated]
        rfl
      · have extended : ((root ++ [entry]).map Prod.fst).Nodup := by
          rw [List.map_append, List.nodup_append]
          refine ⟨distinct, List.pairwise_singleton _ _, ?_⟩
          rintro key member other isOther rfl
          rw [List.map_singleton, List.mem_singleton] at isOther
          exact there (isOther ▸ member)
        have added := inductionHypothesis (root ++ [entry]) extended
        rw [List.append_assoc, List.singleton_append] at added
        rw [if_neg there]
        exact added

/-- **A document of lines is read as its entries**, in their order and whatever their
spelling, if no key is there twice; otherwise it is no document. -/
theorem parse?_lines {entries : Entries} {document : String}
    (lines : Lines entries document.toList) :
    parse? document = if (entries.map Prod.fst).Nodup then some entries else none := by
  have noMark : skipByteOrderMark document.toList = document.toList := by
    cases written : document.toList with
    | nil => rfl
    | cons first others =>
        rw [written] at lines
        have bare := lines.isBareKeyChar
        rw [skipByteOrderMark]
        exact fun rest same =>
          ne_of_isBareKeyChar bare (by decide) (List.head_eq_of_cons_eq same)
  have enough : entries.length < document.toList.length + 1 := Nat.lt_succ_of_le lines.length_le
  simp only [parse?, noMark, Reading.start]
  rw [lines.readLines enough, addEntries_eq entries [] List.nodup_nil, List.nil_append]
  split <;> rfl

end KernelForge.Toml
