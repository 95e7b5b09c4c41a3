import KernelForge.Job
import KernelForge.Proofs.Utf8Reading

/-!
Contract: layers of variables over settings.

Owns: how one layer settles each setting, the settings after any number of layers, the laws
of two layers, and the variables of a process whose bytes are no text.

All four settings follow one rule, `Settles`, with a variable and a reading of its text of
their own. The rule speaks about whether the variable is set, and never about what it says.

Does not own: settings that a document makes.
-/

namespace KernelForge

/-- A lookup that asks a second one only for what the first leaves unset. -/
def Variables.orElse (preferred fallback : Variables) : Variables :=
  fun name => (preferred name).or (fallback name)

namespace Configuration

/-! ### One layer -/

/-- A layer settles the setting by the text of a variable, and leaves it alone where the
variable is unset. -/
def Settles {α : Type} (name : String) (setting : Configuration → α) (read : String → α) : Prop :=
  ∀ (configuration : Configuration) (layer : Variables),
    setting (configuration.overriddenBy layer) =
      ((layer name).map read).getD (setting configuration)

/-- A directory is the path that the text of its variable spells. -/
def directoryOf (text : String) : Option Path :=
  some (Path.ofText text)

theorem settles_libraryDirectory : Settles directoryVariable libraryDirectory directoryOf := by
  intro configuration layer
  simp only [overriddenBy, ofVariables]
  cases layer directoryVariable <;> rfl

theorem settles_apiOptions : Settles apiOptionsVariable apiOptions some := by
  intro configuration layer
  simp only [overriddenBy, ofVariables]
  cases layer apiOptionsVariable <;> rfl

theorem settles_internalOptions : Settles internalOptionsVariable internalOptions some := by
  intro configuration layer
  simp only [overriddenBy, ofVariables]
  cases layer internalOptionsVariable <;> rfl

theorem settles_debug : Settles debugVariable debug flagEnabled := by
  intro configuration layer
  simp only [overriddenBy, ofVariables]
  cases layer debugVariable <;> rfl

theorem flagEnabled_iff (text : String) :
    flagEnabled text = true ↔ text ∉ ["", "0", "false"] := by
  simp [flagEnabled, and_assoc]

theorem ext_settings {first second : Configuration}
    (directory : first.libraryDirectory = second.libraryDirectory)
    (api : first.apiOptions = second.apiOptions)
    (internal : first.internalOptions = second.internalOptions)
    (debug : first.debug = second.debug) : first = second := by
  cases first
  cases second
  simp only [mk.injEq]
  exact ⟨directory, api, internal, debug⟩

/-! ### Any number of layers -/

/-- What a setting is after layers that read it from a variable: what the last of them that
sets the variable says, or what it was before if none does. -/
inductive FollowsLast {α : Type} (layers : List Variables) (name : String) (read : String → α)
    (before : α) : α → Prop
  | set (earlier : List Variables) (layer : Variables) (later : List Variables) (text : String)
      (position : layers = earlier ++ layer :: later) (sets : layer name = some text)
      (unset : ∀ other ∈ later, other name = none) :
      FollowsLast layers name read before (read text)
  | kept (unset : ∀ layer ∈ layers, layer name = none) :
      FollowsLast layers name read before before

theorem Settles.followsLast {α : Type} {name : String} {setting : Configuration → α}
    {read : String → α} (settles : Settles name setting read) (start : Configuration)
    (layers : List Variables) :
    FollowsLast layers name read (setting start) (setting (layers.foldl overriddenBy start)) := by
  induction layers generalizing start with
  | nil => exact .kept (by simp)
  | cons first rest inductionHypothesis =>
      have following := inductionHypothesis (start.overriddenBy first)
      rw [List.foldl_cons]
      -- The first layer counts only where no later one sets the variable.
      generalize setting (rest.foldl overriddenBy (start.overriddenBy first)) = after at following ⊢
      cases following with
      | set earlier layer later text position sets unset =>
          have fromFirst : first :: rest = (first :: earlier) ++ layer :: later := by
            rw [position, List.cons_append]
          exact .set (first :: earlier) layer later text fromFirst sets unset
      | kept unset =>
          rw [settles]
          cases said : first name with
          | none =>
              apply FollowsLast.kept
              simpa [said] using unset
          | some text => exact .set [] first rest text rfl said unset

/-! ### Two layers -/

theorem Settles.twice {α : Type} {name : String} {setting : Configuration → α}
    {read : String → α} (settles : Settles name setting read) (configuration : Configuration)
    (first second : Variables) :
    setting ((configuration.overriddenBy first).overriddenBy second) =
      setting (configuration.overriddenBy (second.orElse first)) := by
  rw [settles, settles, settles]
  unfold Variables.orElse
  cases second name <;> rfl

theorem overriddenBy_overriddenBy (configuration : Configuration) (first second : Variables) :
    (configuration.overriddenBy first).overriddenBy second =
      configuration.overriddenBy (second.orElse first) := by
  apply ext_settings
  · exact settles_libraryDirectory.twice configuration first second
  · exact settles_apiOptions.twice configuration first second
  · exact settles_internalOptions.twice configuration first second
  · exact settles_debug.twice configuration first second

theorem orElse_self (layer : Variables) : layer.orElse layer = layer := by
  funext name
  unfold Variables.orElse
  cases layer name <;> rfl

/-- Over the initial settings a layer leaves nothing of them but what is unset. -/
theorem ofVariables_eq (layer : Variables) : ofVariables layer = initial.overriddenBy layer := by
  unfold overriddenBy
  cases said : layer debugVariable <;> simp [ofVariables, initial, said]

end Configuration

/-! ### The variables of a process -/

namespace Environment

/-- The variables without one of them. -/
def without (environment : Environment) (name : String) : Environment :=
  environment.filter fun entry => entry.1 != name

theorem lookup_without_same (environment : Environment) (name : String) :
    (environment.without name).lookup name = none := by
  apply List.lookup_eq_none_iff.mpr
  intro entry member
  rw [bne_comm]
  exact (List.mem_filter.mp member).2

theorem lookup_without_other (environment : Environment) {name other : String}
    (different : other ≠ name) :
    (environment.without name).lookup other = environment.lookup other := by
  unfold without
  induction environment with
  | nil => rfl
  | cons entry rest inductionHypothesis =>
      by_cases isName : entry.1 = name
      · have notOther : (other == entry.1) = false := by simp [isName, different]
        rw [List.filter_cons_of_neg (by simp [isName]), inductionHypothesis, List.lookup_cons,
          notOther]
      · rw [List.filter_cons_of_pos (by simp [isName]), List.lookup_cons, List.lookup_cons,
          inductionHypothesis]

theorem texts_eq_none {environment : Environment} {name : String} {value : Bytes}
    (found : environment.lookup name = some value)
    (noText : ∀ text, Text.Utf8.encode text ≠ value) : environment.texts name = none := by
  unfold texts
  rw [found]
  exact Text.Utf8.decode?_eq_none_iff.mpr noText

/-- A variable whose bytes are no text is as good as not there. -/
theorem texts_without {environment : Environment} {name : String} {value : Bytes}
    (found : environment.lookup name = some value)
    (noText : ∀ text, Text.Utf8.encode text ≠ value) :
    environment.texts = (environment.without name).texts := by
  funext other
  by_cases same : other = name
  · rw [same, texts_eq_none found noText, texts, lookup_without_same]
    rfl
  · rw [texts, texts, lookup_without_other environment same]

end Environment

namespace Configuration

theorem Settles.survives {α : Type} {name : String} {setting : Configuration → α}
    {read : String → α} (settles : Settles name setting read) (configuration : Configuration)
    {layer : Variables} (unset : layer name = none) :
    setting (configuration.overriddenBy layer) = setting configuration := by
  rw [settles, unset]
  rfl

/-- **The last layer that sets a variable settles its setting.** Under any number of layers a
setting is what the last one that sets its variable says, also where that is the empty text
or switches the debug mode off, and what it was before if none does. Two layers make one
that asks the later first, a layer twice is a layer once, and settings of variables alone lie
over the initial ones. A process variable whose bytes are no text is as good as not there,
so the setting below it survives. -/
theorem layers_follow_last (start : Configuration) (layers : List Variables) :
    let settled := layers.foldl overriddenBy start
    FollowsLast layers directoryVariable directoryOf start.libraryDirectory
      settled.libraryDirectory ∧
    FollowsLast layers apiOptionsVariable some start.apiOptions settled.apiOptions ∧
    FollowsLast layers internalOptionsVariable some start.internalOptions
      settled.internalOptions ∧
    FollowsLast layers debugVariable flagEnabled start.debug settled.debug ∧
    (∀ text, flagEnabled text = true ↔ text ∉ ["", "0", "false"]) ∧
    (∀ first second, (start.overriddenBy first).overriddenBy second =
      start.overriddenBy (second.orElse first)) ∧
    (∀ layer, (start.overriddenBy layer).overriddenBy layer = start.overriddenBy layer) ∧
    (∀ layer, ofVariables layer = initial.overriddenBy layer) ∧
    ∀ (environment : Environment) (name : String) (value : Bytes),
      environment.lookup name = some value → (∀ text, Text.Utf8.encode text ≠ value) →
        let layered := start.overriddenBy environment.texts
        ofVariables environment.texts = ofVariables (environment.without name).texts ∧
        layered = start.overriddenBy (environment.without name).texts ∧
        (name = directoryVariable → layered.libraryDirectory = start.libraryDirectory) ∧
        (name = apiOptionsVariable → layered.apiOptions = start.apiOptions) ∧
        (name = internalOptionsVariable → layered.internalOptions = start.internalOptions) ∧
        (name = debugVariable → layered.debug = start.debug) := by
  intro settled
  refine ⟨settles_libraryDirectory.followsLast start layers,
    settles_apiOptions.followsLast start layers, settles_internalOptions.followsLast start layers,
    settles_debug.followsLast start layers, flagEnabled_iff, start.overriddenBy_overriddenBy, ?_,
    ofVariables_eq, ?_⟩
  · intro layer
    rw [overriddenBy_overriddenBy, orElse_self]
  · intro environment name value found noText layered
    have unset : environment.texts name = none := Environment.texts_eq_none found noText
    have sameTexts := Environment.texts_without found noText
    refine ⟨congrArg ofVariables sameTexts, congrArg start.overriddenBy sameTexts, ?_, ?_, ?_, ?_⟩
    · rintro rfl
      exact settles_libraryDirectory.survives start unset
    · rintro rfl
      exact settles_apiOptions.survives start unset
    · rintro rfl
      exact settles_internalOptions.survives start unset
    · rintro rfl
      exact settles_debug.survives start unset

/-- A directory, be it a text or not, survives a variable whose only byte begins no
character. -/
theorem layers_follow_last_over_stray_byte :
    let start : Configuration := ⟨some ⟨[Path.separator, 0xFE]⟩, none, none, true⟩
    let environment : Environment := [(directoryVariable, [0xFF]), (debugVariable, [0x30])]
    (∀ text, Text.Utf8.encode text ≠ [0xFF]) ∧
      (start.overriddenBy environment.texts).libraryDirectory = some ⟨[Path.separator, 0xFE]⟩ ∧
      (start.overriddenBy environment.texts).debug = false := by
  intro start environment
  have noText : ∀ text, Text.Utf8.encode text ≠ [0xFF] := Text.Utf8.decode?_eq_none_iff.mp rfl
  have laws := layers_follow_last start [environment.texts]
  obtain ⟨-, -, survives, -⟩ := laws.2.2.2.2.2.2.2.2 environment directoryVariable [0xFF] rfl noText
  exact ⟨noText, survives rfl, by decide⟩

/-- A later layer switches the debug mode off again. -/
example :
    ([fun _ => some "1", fun _ => none, fun _ => some "0"].foldl overriddenBy initial).debug =
      false := by
  decide

end Configuration

end KernelForge
