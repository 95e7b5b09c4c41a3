import KernelForge.Configuration.Document
import KernelForge.Proofs.TomlLines

/-!
Contract: settings that are written line by line are read back.

Owns: the entries that describe settings, in any order and among others; what is found under
a key where no key is there twice; and the ways in which such a document is refused.

The crux is that the order of the lines cannot matter: where keys are distinct, what a key
leads to is settled by membership alone.

Does not own: how a line is written; that is `KernelForge.Proofs.TomlLines`.
-/

namespace KernelForge.Configuration

/-! ### Entries for settings -/

/-- The keys of the settings that are texts. -/
def textKeys : List String :=
  ["ocloc-dir", "vc-api-options", "internal-options"]

/-- The keys that mean something. -/
def keys : List String :=
  textKeys ++ ["debug"]

/-- The texts among the settings, by their keys, given the text of the directory. -/
def texts (configuration : Configuration) (directory : Option String) :
    List (String × Option String) :=
  [("ocloc-dir", directory), ("vc-api-options", configuration.apiOptions),
    ("internal-options", configuration.internalOptions)]

/-- The entry for a text that is set. -/
def textEntry (key : String) (setting : Option String) : Toml.Entries :=
  (setting.map fun text => (key, .text text)).toList

def textEntries (configuration : Configuration) (directory : Option String) : Toml.Entries :=
  (configuration.texts directory).flatMap fun text => textEntry text.1 text.2

/-- Entries for all texts that are set and for the debug mode, and any others, in any order.
The directory is unset or a text. The debug mode needs no entry while it is off. -/
structure Describes (entries : Toml.Entries) (configuration : Configuration)
    (directory : Option String) (others : Toml.Entries) : Prop where
  spelled : configuration.libraryDirectory = directory.map Path.ofText
  order :
    entries.Perm (configuration.textEntries directory ++
      ("debug", .boolean configuration.debug) :: others) ∨
    configuration.debug = false ∧ entries.Perm (configuration.textEntries directory ++ others)
  distinct : (others.map Prod.fst).Nodup
  foreign : ∀ other ∈ others, other.1 ∉ keys

/-- An entry whose key wants a value of another kind. -/
inductive WrongKind : String × Toml.Value → Prop
  | text {key : String} (isText : key ∈ textKeys) {value : Toml.Value}
      (noText : ∀ text, value ≠ .text text) : WrongKind (key, value)
  | flag {value : Toml.Value} (noFlag : ∀ flag, value ≠ .boolean flag) :
      WrongKind ("debug", value)

/-! ### What stands under a key -/

/-- Where keys are distinct, a key leads to whatever stands beside it. -/
theorem lookup_of_mem {Value : Type} {entries : List (String × Value)} {key : String}
    {value : Value} (distinct : (entries.map Prod.fst).Nodup)
    (member : (key, value) ∈ entries) : entries.lookup key = some value := by
  induction entries with
  | nil => cases member
  | cons entry entries inductionHypothesis =>
      obtain ⟨absent, others⟩ := List.nodup_cons.mp distinct
      rcases List.mem_cons.mp member with rfl | further
      · exact List.lookup_cons_self
      · have different : key ≠ entry.1 := by
          rintro rfl
          exact absent (List.mem_map.mpr ⟨_, further, rfl⟩)
        rw [List.lookup_cons, beq_false_of_ne different]
        exact inductionHypothesis others further

section UnderKey

variable {entries : Toml.Entries} {key : String}

theorem lookup_of_forall_not_mem (missing : ∀ value, (key, value) ∉ entries) :
    entries.lookup key = none := by
  rw [List.lookup_eq_none_iff]
  rintro ⟨other, value⟩ member
  rw [bne_iff_ne]
  rintro rfl
  exact missing value member

/-- A text setting is what stands under its key, if that is all that stands there. -/
theorem textSetting_of_mem_iff {setting : Option String}
    (distinct : (entries.map Prod.fst).Nodup)
    (only : ∀ value, (key, value) ∈ entries ↔ (key, value) ∈ textEntry key setting) :
    textSetting entries key = .ok setting := by
  cases setting with
  | none =>
      have missing := lookup_of_forall_not_mem fun value member => nomatch (only value).mp member
      rw [textSetting, missing]
  | some text =>
      have found := lookup_of_mem distinct ((only (.text text)).mpr List.mem_cons_self)
      rw [textSetting, found]

theorem textSetting_of_wrongKind {value : Toml.Value} (distinct : (entries.map Prod.fst).Nodup)
    (member : (key, value) ∈ entries) (noText : ∀ text, value ≠ .text text) :
    textSetting entries key = .error (.wrongKind key) := by
  rw [textSetting, lookup_of_mem distinct member]
  cases value with
  | text text => exact absurd rfl (noText text)
  | _ => rfl

theorem flagSetting_of_mem {flag : Bool} (distinct : (entries.map Prod.fst).Nodup)
    (member : (key, .boolean flag) ∈ entries) : flagSetting entries key = .ok flag := by
  rw [flagSetting, lookup_of_mem distinct member]

theorem flagSetting_of_wrongKind {value : Toml.Value} (distinct : (entries.map Prod.fst).Nodup)
    (member : (key, value) ∈ entries) (noFlag : ∀ flag, value ≠ .boolean flag) :
    flagSetting entries key = .error (.wrongKind key) := by
  rw [flagSetting, lookup_of_mem distinct member]
  cases value with
  | boolean flag => exact absurd rfl (noFlag flag)
  | _ => rfl

end UnderKey

/-! ### Entries that describe settings -/

section Describes

variable {entries others : Toml.Entries} {configuration : Configuration} {key : String}
  {directory setting : Option String}

theorem key_of_mem_textEntry {entry : String × Toml.Value}
    (member : entry ∈ textEntry key setting) : entry.1 = key := by
  cases setting with
  | none => cases member
  | some text => rw [List.mem_singleton.mp member]

theorem mem_textEntries_iff (isText : (key, setting) ∈ configuration.texts directory)
    {value : Toml.Value} :
    (key, value) ∈ configuration.textEntries directory ↔ (key, value) ∈ textEntry key setting := by
  constructor
  · intro member
    obtain ⟨⟨other, otherSetting⟩, isOther, member⟩ := List.mem_flatMap.mp member
    obtain rfl : key = other := key_of_mem_textEntry member
    have distinct : ((configuration.texts directory).map Prod.fst).Nodup :=
      (by decide : textKeys.Nodup)
    obtain rfl : setting = otherSetting :=
      Option.some.inj ((lookup_of_mem distinct isText).symm.trans (lookup_of_mem distinct isOther))
    exact member
  · exact fun member => List.mem_flatMap.mpr ⟨_, isText, member⟩

theorem keys_of_textEntry (texts : List (String × Option String)) :
    ((texts.flatMap fun text => textEntry text.1 text.2).map Prod.fst).Sublist
      (texts.map Prod.fst) := by
  induction texts with
  | nil => exact List.Sublist.refl []
  | cons text texts inductionHypothesis =>
      obtain ⟨key, setting⟩ := text
      rw [List.flatMap_cons, List.map_append, List.map_cons]
      cases setting with
      | none => exact inductionHypothesis.cons key
      | some text => exact inductionHypothesis.cons_cons key

namespace Describes

theorem nodup (describes : Describes entries configuration directory others) :
    (entries.map Prod.fst).Nodup := by
  have ownKeys : ((configuration.textEntries directory).map Prod.fst ++ ["debug"]).Sublist keys :=
    (keys_of_textEntry (configuration.texts directory)).append (List.Sublist.refl ["debug"])
  have whole : ((configuration.textEntries directory ++
      ("debug", .boolean configuration.debug) :: others).map Prod.fst).Nodup := by
    rw [List.map_append, List.map_cons, ← List.singleton_append, ← List.append_assoc,
      List.nodup_append]
    refine ⟨ownKeys.nodup (by decide), describes.distinct, ?_⟩
    rintro key isOwn other isOther rfl
    obtain ⟨entry, member, rfl⟩ := List.mem_map.mp isOther
    exact describes.foreign entry member (ownKeys.subset isOwn)
  rcases describes.order with order | ⟨-, order⟩
  · exact (order.map Prod.fst).nodup_iff.mpr whole
  · have shorter : (configuration.textEntries directory ++ others).Sublist
        (configuration.textEntries directory ++
          ("debug", .boolean configuration.debug) :: others) :=
      (List.Sublist.refl _).append (List.sublist_cons_self _ _)
    exact (order.map Prod.fst).nodup_iff.mpr ((shorter.map Prod.fst).nodup whole)

/-- Only the entries of the settings themselves stand under the keys of texts. -/
theorem mem_iff (describes : Describes entries configuration directory others)
    {entry : String × Toml.Value} (isText : entry.1 ∈ textKeys) :
    entry ∈ entries ↔ entry ∈ configuration.textEntries directory := by
  have noOther : entry ∉ others := fun member =>
    describes.foreign entry member (List.mem_append_left ["debug"] isText)
  have noFlag : entry ≠ ("debug", .boolean configuration.debug) := by
    rintro rfl
    exact absurd isText (by decide : "debug" ∉ textKeys)
  rcases describes.order with order | ⟨-, order⟩
  · rw [order.mem_iff, List.mem_append, List.mem_cons]
    simp only [noFlag, noOther, or_false]
  · rw [order.mem_iff, List.mem_append]
    simp only [noOther, or_false]

theorem textSetting (describes : Describes entries configuration directory others)
    (isText : (key, setting) ∈ configuration.texts directory) :
    textSetting entries key = .ok setting := by
  apply textSetting_of_mem_iff describes.nodup
  intro value
  have isKey : key ∈ (configuration.texts directory).map Prod.fst := List.mem_map_of_mem isText
  rw [describes.mem_iff isKey, mem_textEntries_iff isText]

theorem flagSetting (describes : Describes entries configuration directory others) :
    flagSetting entries debugKey = .ok configuration.debug := by
  rcases describes.order with order | ⟨isOff, order⟩
  · apply flagSetting_of_mem describes.nodup
    exact order.mem_iff.mpr (List.mem_append_right _ List.mem_cons_self)
  · have missing : entries.lookup debugKey = none := by
      apply lookup_of_forall_not_mem
      intro value member
      rcases List.mem_append.mp (order.mem_iff.mp member) with own | other
      · have isText :=
          (keys_of_textEntry (configuration.texts directory)).subset (List.mem_map_of_mem own)
        exact absurd isText (by decide : "debug" ∉ textKeys)
      · exact describes.foreign _ other (by decide : "debug" ∈ keys)
    rw [Configuration.flagSetting, missing, isOff]

theorem ofEntries (describes : Describes entries configuration directory others) :
    ofEntries entries = .ok configuration := by
  have directoryText : Configuration.textSetting entries directoryKey = .ok directory :=
    describes.textSetting (by simp [texts, directoryKey])
  have apiOptions : Configuration.textSetting entries apiOptionsKey =
      .ok configuration.apiOptions := describes.textSetting (by simp [texts, apiOptionsKey])
  have internalOptions : Configuration.textSetting entries internalOptionsKey =
      .ok configuration.internalOptions :=
    describes.textSetting (by simp [texts, internalOptionsKey])
  rw [Configuration.ofEntries, directoryText, apiOptions, internalOptions, describes.flagSetting]
  simp only [bind, Except.bind, ← describes.spelled]

end Describes

/-! ### Entries that are refused -/

theorem exists_ok_of_bind {Value Other : Type} {first : Except DocumentError Value}
    {next : Value → Except DocumentError Other} {other : Other}
    (read : first.bind next = .ok other) : ∃ value, first = .ok value ∧ next value = .ok other := by
  cases first with
  | error cause => cases read
  | ok value => exact ⟨value, rfl, read⟩

/-- Settings are read only from entries of their kinds. -/
theorem settings_of_ofEntries (read : ofEntries entries = .ok configuration) :
    (∀ key ∈ textKeys, ∃ setting, textSetting entries key = .ok setting) ∧
      ∃ flag, flagSetting entries debugKey = .ok flag := by
  obtain ⟨libraryDirectory, directory, read⟩ := exists_ok_of_bind read
  obtain ⟨apiOptions, api, read⟩ := exists_ok_of_bind read
  obtain ⟨internalOptions, internal, read⟩ := exists_ok_of_bind read
  obtain ⟨flag, debug, read⟩ := exists_ok_of_bind read
  refine ⟨?_, flag, debug⟩
  intro key isText
  simp only [textKeys, List.mem_cons, List.not_mem_nil, or_false] at isText
  rcases isText with rfl | rfl | rfl
  · exact ⟨libraryDirectory, directory⟩
  · exact ⟨apiOptions, api⟩
  · exact ⟨internalOptions, internal⟩

theorem exists_error_of_wrongKind {entry : String × Toml.Value}
    (distinct : (entries.map Prod.fst).Nodup) (member : entry ∈ entries)
    (wrong : WrongKind entry) : ∃ cause, ofEntries entries = .error cause := by
  cases read : ofEntries entries with
  | error cause => exact ⟨cause, rfl⟩
  | ok configuration =>
      obtain ⟨texts, flag, flagRead⟩ := settings_of_ofEntries read
      cases wrong with
      | text isText noText =>
          obtain ⟨setting, textRead⟩ := texts _ isText
          cases (textSetting_of_wrongKind distinct member noText).symm.trans textRead
      | flag noFlag =>
          cases (flagSetting_of_wrongKind distinct member noFlag).symm.trans flagRead

end Describes

/-! ### Documents -/

/-- **Settings written line by line are read back.** A document of lines that describe
settings is read as exactly these settings, whatever the order of the lines, the spelling of
the values and the other lines are. A document of lines with a key that is there twice, or
with a value of the wrong kind under a key that means something, is refused, whatever the
other lines are. -/
theorem settings_read_back :
    (∀ configuration entries directory others document,
      Describes entries configuration directory others →
      Toml.Lines entries document.toList → parse document = .ok configuration) ∧
    (∀ entries document, Toml.Lines entries document.toList → ¬ (entries.map Prod.fst).Nodup →
      parse document = .error (.document .malformed)) ∧
    ∀ entries document, Toml.Lines entries document.toList →
      (∃ entry ∈ entries, WrongKind entry) →
      ∃ cause, parse document = .error (.document cause) := by
  have repeated : ∀ entries document, Toml.Lines entries document.toList →
      ¬ (entries.map Prod.fst).Nodup → parse document = .error (.document .malformed) := by
    intro entries document lines notDistinct
    rw [parse, Toml.parse?_lines lines, if_neg notDistinct]
  refine ⟨?_, repeated, ?_⟩
  · intro configuration entries directory others document describes lines
    rw [parse, Toml.parse?_lines lines, if_pos describes.nodup]
    simp only [describes.ofEntries]
  · rintro entries document lines ⟨entry, member, wrong⟩
    by_cases distinct : (entries.map Prod.fst).Nodup
    · obtain ⟨cause, refused⟩ := exists_error_of_wrongKind distinct member wrong
      rw [parse, Toml.parse?_lines lines, if_pos distinct]
      simp only [refused]
      exact ⟨cause, rfl⟩
    · exact ⟨.malformed, repeated entries document lines distinct⟩

/-- Settings whose texts need escapes, and whose debug mode is off. -/
def escapedSettings : Configuration :=
  ⟨some (Path.ofText "o\"\\é"), some "a\n\x01\x7f", none, false⟩

/-- The entries of a document of these settings and two others. -/
def escapedEntries : Toml.Entries :=
  [("x-1", .integer (-42)), ("ocloc-dir", .text "o\"\\é"),
    ("vc-api-options", .text "a\n\x01\x7f"), ("_n", .integer 255)]

def escapedDocument : String :=
  "x-1 = -4_2\r\nocloc-dir = \"o\\\"\\\\\\u00e9\"\n" ++
    "vc-api-options = \"a\\n\\u0001\\u007f\"\n_n = 0xFf"

/-- Quotes, backslashes, control characters and escapes that are not needed are read back, and a
second line for a key or a number for a text is refused. -/
theorem settings_read_back_of_escaped :
    parse escapedDocument = .ok escapedSettings ∧
      parse "debug = true\ndebug = true" = .error (.document .malformed) ∧
      ∃ cause, parse "ocloc-dir = 1" = .error (.document cause) := by
  have describes : Describes escapedEntries escapedSettings (some "o\"\\é")
      [("x-1", .integer (-42)), ("_n", .integer 255)] := by
    refine ⟨rfl, .inr ⟨rfl, ?_⟩, by decide, by decide⟩
    show List.Perm (("x-1", .integer (-42)) :: (escapedSettings.textEntries (some "o\"\\é") ++
      [("_n", .integer 255)])) _
    exact List.perm_middle.symm
  have number : Toml.Line ("x-1", .integer (-42)) "x-1 = -4_2".toList :=
    .pair (by decide) (by decide)
      (.integer (.decimal .minus (.apart rfl (.one rfl)) (.inr (by decide)) rfl
        ⟨by decide, by decide⟩))
  have directory : Toml.Line ("ocloc-dir", .text "o\"\\é")
      "ocloc-dir = \"o\\\"\\\\\\u00e9\"".toList := by
    have written : Toml.TextSpelling "o\"\\é".toList "o\\\"\\\\\\u00e9".toList :=
      .cons (.itself (by decide) (by decide) (.inr (by decide)))
        (.cons (.letter '"' (by decide)) (.cons (.letter '\\' (by decide))
          (.cons (.short "00e9".toList (by decide) (by decide)) .nothing)))
    exact .pair (by decide) (by decide) (.text written)
  have apiOptions : Toml.Line ("vc-api-options", .text "a\n\x01\x7f")
      "vc-api-options = \"a\\n\\u0001\\u007f\"".toList :=
    .pair (by decide) (by decide) (.text (Toml.textSpelling_escaped _))
  have radix : Toml.Line ("_n", .integer 255) "_n = 0xFf".toList :=
    .pair (by decide) (by decide)
      (.integer (.radix .hexadecimal (.cons rfl (.one rfl)) rfl ⟨by decide, by decide⟩))
  have lines : Toml.Lines escapedEntries escapedDocument.toList :=
    .cons number .carriageReturn
      (.cons directory .lineFeed (.cons apiOptions .lineFeed (.last radix)))
  have flag : Toml.Line ("debug", .boolean true) "debug = true".toList :=
    .pair (by decide) (by decide) .yes
  have one : Toml.Line ("ocloc-dir", .integer 1) "ocloc-dir = 1".toList :=
    .pair (by decide) (by decide)
      (.integer (.decimal .none (.one rfl) (.inr (by decide)) rfl ⟨by decide, by decide⟩))
  refine ⟨settings_read_back.1 _ _ _ _ _ describes lines, ?_, ?_⟩
  · exact settings_read_back.2.1 _ _ (.cons flag .lineFeed (.last flag)) (by decide)
  · exact settings_read_back.2.2 _ _ (.last one)
      ⟨_, List.mem_cons_self, .text (by decide) fun _ same => nomatch same⟩

end KernelForge.Configuration
