import KernelForge.Options

/-!
Contract: the two option texts determine their parts.

Owns: cutting a text where a separating character comes first, the public options and the
configured text in them, and the parts of the internal options, cut off from the front.

The configured text is arbitrary and stands in front of the timing flag, so it may repeat
any flag. What carries the argument is `length_le_of_configured`: where the configured
text is the same on both sides, a text in front of it on one side only is no longer than
the timing flag, and every other flag is longer.

Does not own: where the two texts stand in the argument list.
-/

namespace KernelForge

/-! ### Cutting a text -/

/-- The text is empty or begins with the character. -/
def OpensWith (separator : Char) (text : String) : Prop :=
  ∀ character, text.toList.head? = some character → character = separator

theorem opensWith_empty (separator : Char) : OpensWith separator "" := by
  intro character atHead
  cases atHead

/-- A text whose first character is known. -/
theorem opensWith_append {separator : Char} {front : String}
    (atHead : front.toList.head? = some separator) (text : String) :
    OpensWith separator (front ++ text) := by
  intro character first
  rw [String.toList_append, List.head?_append, atHead, Option.some_or] at first
  exact (Option.some.inj first).symm

theorem OpensWith.append {separator : Char} {front text : String}
    (frontOpens : OpensWith separator front) (textOpens : OpensWith separator text) :
    OpensWith separator (front ++ text) := by
  cases atHead : front.toList.head? with
  | none =>
      have noFront : front = "" :=
        String.toList_eq_nil_iff.mp (List.head?_eq_none_iff.mp atHead)
      rw [noFront, String.empty_append]
      exact textOpens
  | some character =>
      obtain rfl := frontOpens character atHead
      exact opensWith_append atHead text

theorem takeWhile_append_of_opensWith {separator : Char} {front text : String}
    (free : separator ∉ front.toList) (opens : OpensWith separator text) :
    (front ++ text).toList.takeWhile (· != separator) = front.toList := by
  have frontTaken : ∀ character ∈ front.toList, (character != separator) = true := by
    intro character member
    simp only [bne_iff_ne, ne_eq]
    rintro rfl
    exact free member
  have textLeft : text.toList.takeWhile (· != separator) = [] := by
    cases characters : text.toList with
    | nil => rfl
    | cons character rest =>
        obtain rfl : character = separator := opens character (by rw [characters]; rfl)
        simp only [List.takeWhile_cons, bne_self_eq_false, Bool.false_eq_true, if_false]
  rw [String.toList_append, List.takeWhile_append_of_pos frontTaken, textLeft, List.append_nil]

/-- A text is cut in one way in front of the first separator. -/
theorem append_inj_of_opensWith {separator : Char} {front text otherFront otherText : String}
    (free : separator ∉ front.toList) (otherFree : separator ∉ otherFront.toList)
    (opens : OpensWith separator text) (otherOpens : OpensWith separator otherText)
    (same : front ++ text = otherFront ++ otherText) :
    front = otherFront ∧ text = otherText := by
  have sameFront : front = otherFront := by
    rw [← String.toList_inj, ← takeWhile_append_of_opensWith free opens, same,
      takeWhile_append_of_opensWith otherFree otherOpens]
  refine ⟨sameFront, ?_⟩
  rw [sameFront] at same
  exact (String.append_right_inj otherFront).mp same

/-! ### The public options -/

/-- The text that is added to the public options; an empty one counts as none. -/
def Configuration.effectiveApiOptions (configuration : Configuration) : Option String :=
  configuration.apiOptions.filter (· != "")

/-- An added text stands in the public options as the configured text stands in the
internal ones. -/
theorem composeOptions_eq (configuration : Configuration) :
    composeOptions configuration =
      codegenFlag ++ configuredPart configuration.effectiveApiOptions := by
  unfold composeOptions Configuration.effectiveApiOptions
  cases configuration.apiOptions with
  | none => exact (String.append_empty).symm
  | some text =>
      by_cases empty : text = ""
      · rw [empty]
        rfl
      · simp only [empty, if_false, Option.filter_some, bne_iff_ne, ne_eq, not_false_eq_true,
          if_true, configuredPart, String.append_assoc]

theorem configuredPart_some_ne_empty (text : String) : configuredPart (some text) ≠ "" := by
  intro empty
  exact absurd (String.append_eq_empty_iff.mp empty).1 (by decide)

theorem configuredPart_inj {first second : Option String} :
    configuredPart first = configuredPart second ↔ first = second := by
  constructor
  · intro same
    cases first with
    | none =>
        cases second with
        | none => rfl
        | some text => exact absurd same.symm (configuredPart_some_ne_empty text)
    | some text =>
        cases second with
        | none => exact absurd same (configuredPart_some_ne_empty text)
        | some other => exact congrArg some ((String.append_right_inj " ").mp same)
  · rintro rfl
    rfl

theorem composeOptions_inj {first second : Configuration} :
    composeOptions first = composeOptions second ↔
      first.effectiveApiOptions = second.effectiveApiOptions := by
  rw [composeOptions_eq, composeOptions_eq, String.append_right_inj, configuredPart_inj]

/-! ### Joined backend options -/

/-- The character around the backend options. -/
def backendQuote : Char := '\x27'

/-- Joining adds spaces and nothing else. -/
theorem mem_toList_intercalate_iff {character : Char} (notSpace : character ≠ ' ')
    (options : List String) :
    character ∈ (String.intercalate " " options).toList ↔
      ∃ option ∈ options, character ∈ option.toList := by
  induction options with
  | nil => simp
  | cons option rest inductionHypothesis =>
      cases rest with
      | nil => simp
      | cons next others =>
          rw [String.intercalate_cons_cons, String.toList_append, String.toList_append,
            List.mem_append, List.mem_append, inductionHypothesis]
          have noSpace : character ∉ " ".toList := fun member =>
            notSpace (List.mem_singleton.mp member)
          simp only [noSpace, or_false, List.mem_cons, exists_eq_or_imp]

theorem not_mem_toList_intercalate {character : Char} (notSpace : character ≠ ' ')
    {options : List String} (free : ∀ option ∈ options, character ∉ option.toList) :
    character ∉ (String.intercalate " " options).toList := by
  intro member
  obtain ⟨option, isOption, inOption⟩ := (mem_toList_intercalate_iff notSpace options).mp member
  exact free option isOption inOption

/-- Lists that are not empty are told apart by their joined texts. An empty list and a
list of one empty text join alike. -/
theorem intercalate_inj {first second : List String}
    (firstSpaceless : ∀ option ∈ first, ' ' ∉ option.toList)
    (secondSpaceless : ∀ option ∈ second, ' ' ∉ option.toList)
    (firstSome : first ≠ []) (secondSome : second ≠ [])
    (same : String.intercalate " " first = String.intercalate " " second) : first = second := by
  have splits : ∀ options : List String, (∀ option ∈ options, ' ' ∉ option.toList) →
      options ≠ [] →
        (String.intercalate " " options).toList.splitOn ' ' = options.map String.toList := by
    intro options spaceless someOptions
    rw [String.toList_intercalate]
    apply List.splitOn_intercalate
    · intro characters member
      obtain ⟨option, isOption, rfl⟩ := List.mem_map.mp member
      exact spaceless option isOption
    · simpa using someOptions
  have mapped : first.map String.toList = second.map String.toList := by
    rw [← splits first firstSpaceless firstSome, same, splits second secondSpaceless secondSome]
  have injective : ∀ text other : String, text.toList = other.toList → text = other :=
    fun _ _ => String.toList_inj.mp
  exact (List.map_inj_right injective).mp mapped

/-! ### The parts of the internal options -/

theorem composeInternalOptions_eq (configuration : Configuration) (binaryFormat : String)
    (backendOptions : List String) (features : String) (timePasses : Bool) :
    composeInternalOptions configuration binaryFormat backendOptions features timePasses =
      " -binary-format=" ++ (binaryFormat ++ (backendPart backendOptions ++
        (featuresPart features ++
          (configuredPart configuration.internalOptions ++ timePart timePasses)))) := by
  unfold composeInternalOptions
  rw [String.append_assoc, String.append_assoc, String.append_assoc, String.append_assoc]

theorem backendPart_of_ne_nil {backendOptions : List String} (someOptions : backendOptions ≠ []) :
    backendPart backendOptions =
      " -llvm-options='" ++ (String.intercalate " " backendOptions ++ "'") := by
  unfold backendPart
  rw [if_neg someOptions]
  exact String.append_assoc

theorem featuresPart_of_ne_empty {features : String} (someFeatures : features ≠ "") :
    featuresPart features = " -target-features=" ++ features :=
  if_neg someFeatures

theorem opensWith_backendPart (backendOptions : List String) :
    OpensWith ' ' (backendPart backendOptions) := by
  by_cases noOptions : backendOptions = []
  · rw [noOptions]
    exact opensWith_empty ' '
  · rw [backendPart_of_ne_nil noOptions]
    exact opensWith_append rfl _

theorem opensWith_featuresPart (features : String) : OpensWith ' ' (featuresPart features) := by
  by_cases noFeatures : features = ""
  · rw [noFeatures]
    exact opensWith_empty ' '
  · rw [featuresPart_of_ne_empty noFeatures]
    exact opensWith_append rfl features

theorem opensWith_configuredPart (configured : Option String) :
    OpensWith ' ' (configuredPart configured) := by
  cases configured with
  | none => exact opensWith_empty ' '
  | some text => exact opensWith_append rfl text

theorem opensWith_timePart (timePasses : Bool) : OpensWith ' ' (timePart timePasses) := by
  cases timePasses with
  | false => exact opensWith_empty ' '
  | true => exact opensWith_append rfl timeReportFlag

theorem length_timePart_le (timePasses : Bool) : (timePart timePasses).length ≤ 14 := by
  cases timePasses <;> decide

theorem timePart_inj {first second : Bool} (same : timePart first = timePart second) :
    first = second := by
  cases first <;> cases second
  · rfl
  · exact absurd same (by decide)
  · exact absurd same (by decide)
  · rfl

section FrontOfConfigured

variable {configured : String} {timePasses otherTimePasses : Bool}

/-- What stands in front of the configured text on one side only is no longer than the
timing flag. -/
theorem length_le_of_configured {front : String}
    (same : configured ++ timePart timePasses =
      front ++ (configured ++ timePart otherTimePasses)) :
    front.length ≤ 14 := by
  have lengths := congrArg String.length same
  simp only [String.length_append] at lengths
  have bound := length_timePart_le timePasses
  omega

/-- No configured text stands in for target features. -/
theorem featuresPart_not_configured {features : String} (someFeatures : features ≠ "") :
    configured ++ timePart timePasses ≠
      featuresPart features ++ (configured ++ timePart otherTimePasses) := by
  intro same
  have short := length_le_of_configured same
  rw [featuresPart_of_ne_empty someFeatures, String.length_append] at short
  have flagLength : " -target-features=".length = 18 := rfl
  omega

/-- Neither target features nor a configured text stand in for backend options. -/
theorem backendPart_not_configured {backendOptions : List String}
    (someOptions : backendOptions ≠ []) (features otherFeatures : String) :
    featuresPart features ++ (configured ++ timePart timePasses) ≠
      backendPart backendOptions ++
        (featuresPart otherFeatures ++ (configured ++ timePart otherTimePasses)) := by
  intro same
  rw [backendPart_of_ne_nil someOptions] at same
  by_cases noFeatures : features = ""
  · have noPart : featuresPart "" = "" := rfl
    rw [noFeatures, noPart, String.empty_append, ← String.append_assoc] at same
    have short := length_le_of_configured same
    simp only [String.length_append] at short
    have flagLength : " -llvm-options='".length = 16 := rfl
    omega
  · -- The two flags differ in the letter behind their hyphens.
    rw [featuresPart_of_ne_empty noFeatures] at same
    have letters := congrArg (fun text => text.toList[2]?) same
    simp only [String.toList_append, List.append_assoc] at letters
    have clash : some 't' = some 'l' := letters
    exact absurd clash (by decide)

theorem featuresPart_inj {first second : String} (firstSpaceless : ' ' ∉ first.toList)
    (secondSpaceless : ' ' ∉ second.toList) (configuredOpens : OpensWith ' ' configured)
    (same : featuresPart first ++ (configured ++ timePart timePasses) =
      featuresPart second ++ (configured ++ timePart otherTimePasses)) :
    first = second := by
  by_cases noFirst : first = ""
  · by_cases noSecond : second = ""
    · rw [noFirst, noSecond]
    · rw [noFirst] at same
      exact absurd same (featuresPart_not_configured noSecond)
  · by_cases noSecond : second = ""
    · rw [noSecond] at same
      exact absurd same.symm (featuresPart_not_configured noFirst)
    · rw [featuresPart_of_ne_empty noFirst, featuresPart_of_ne_empty noSecond,
        String.append_assoc, String.append_assoc, String.append_right_inj] at same
      exact (append_inj_of_opensWith firstSpaceless secondSpaceless
        (configuredOpens.append (opensWith_timePart timePasses))
        (configuredOpens.append (opensWith_timePart otherTimePasses)) same).1

/-- The quotes around the joined text are the only ones in it. -/
theorem backendPart_inj {first second : List String}
    (firstFormed : ∀ option ∈ first, ' ' ∉ option.toList ∧ backendQuote ∉ option.toList)
    (secondFormed : ∀ option ∈ second, ' ' ∉ option.toList ∧ backendQuote ∉ option.toList)
    {features otherFeatures : String}
    (same : backendPart first ++ (featuresPart features ++ (configured ++ timePart timePasses)) =
      backendPart second ++
        (featuresPart otherFeatures ++ (configured ++ timePart otherTimePasses))) :
    first = second := by
  by_cases noFirst : first = []
  · by_cases noSecond : second = []
    · rw [noFirst, noSecond]
    · rw [noFirst] at same
      exact absurd same (backendPart_not_configured noSecond features otherFeatures)
  · by_cases noSecond : second = []
    · rw [noSecond] at same
      exact absurd same.symm (backendPart_not_configured noFirst otherFeatures features)
    · have unquoted : ∀ options : List String,
          (∀ option ∈ options, ' ' ∉ option.toList ∧ backendQuote ∉ option.toList) →
            backendQuote ∉ (String.intercalate " " options).toList := fun options formed =>
        not_mem_toList_intercalate (by decide) fun option member => (formed option member).2
      rw [backendPart_of_ne_nil noFirst, backendPart_of_ne_nil noSecond] at same
      simp only [String.append_assoc, String.append_right_inj] at same
      have closes : ∀ rest, OpensWith backendQuote ("'" ++ rest) := opensWith_append rfl
      have sameJoined := (append_inj_of_opensWith (unquoted first firstFormed)
        (unquoted second secondFormed) (closes _) (closes _) same).1
      exact intercalate_inj (fun option member => (firstFormed option member).1)
        (fun option member => (secondFormed option member).1) noFirst noSecond sameJoined

end FrontOfConfigured

end KernelForge
