import KernelForge.CommandLine.Arguments

/-!
Contract: reading an argument as a list of moves.

Owns: the moves that an argument makes, which depend on the job and on what is expected
but not on what was settled before, and the equation between them and the reader.

Does not own: what a whole list of arguments settles.
-/

namespace KernelForge.CommandLine

/-- One thing that an argument does to the progress. -/
inductive Move where
  /-- Ends the reading. -/
  | stop (reason : Halt)
  /-- Says what may come next. -/
  | expect (next : Expectation)
  /-- Settles something by an option. -/
  | settle (rule : OptionRule) (setting : Setting)
  /-- Names the job. -/
  | enter (job : JobName)

/-- Makes a move. -/
def Progress.make (progress : Progress) : Move → Except Halt Progress
  | .stop reason => .error reason
  | .expect next => .ok { progress with expects := next }
  | .settle rule setting => progress.settle rule setting
  | .enter job => .ok { progress with job := some job, expects := .anything, given := [] }

/-! ### The moves of an argument -/

namespace OptionRule

/-- The move of an option without a value of its own. -/
def nameMove (rule : OptionRule) : Move :=
  match rule.form with
  | .flag setting => .settle rule setting
  | .halt reason => .stop reason
  | _ => .expect (.value rule)

/-- The move of an option that takes its value. -/
def valueMove (rule : OptionRule) (value : Bytes) : Move :=
  match rule.form with
  | .text setting =>
      match Text.Utf8.decode? value with
      | some text => .settle rule (setting text)
      | none => .stop .refused
  | .path setting => if value = [] then .stop .refused else .settle rule (setting ⟨value⟩)
  | _ => .stop .refused

end OptionRule

namespace Move

/-- The move of what follows two hyphens. -/
def ofLong (job : Option JobName) (body : Bytes) : Move :=
  match (rules job).find? fun rule =>
      Text.Utf8.encode rule.name == body.takeWhile (· ≠ 0x3D) with
  | none => .stop .refused
  | some rule =>
      match body.dropWhile (· ≠ 0x3D) with
      | [] => rule.nameMove
      | _ :: value => rule.valueMove value

/-- The move of a letter behind one hyphen. -/
def ofLetter (job : Option JobName) (letter : UInt8) : Move :=
  match (rules job).find? fun rule => rule.letter == some letter with
  | none => .stop .refused
  | some rule => rule.nameMove

/-- The move of a word. -/
def ofWord (job : Option JobName) (word : Bytes) : Move :=
  match job with
  | some _ => .stop .refused
  | none =>
      match JobName.ofWord? word with
      | some named => .enter named
      | none => if word = Text.Utf8.encode "help" then .expect (.topic false) else .stop .refused

/-- The moves of an argument where anything may come. -/
def ofFree (job : Option JobName) : Bytes → List Move
  | [0x2D, 0x2D] => [.expect .nothing]
  | 0x2D :: 0x2D :: body => [ofLong job body]
  | 0x2D :: letter :: letters => (letter :: letters).map (ofLetter job)
  | word => [ofWord job word]

/-- The moves of an argument. -/
def ofArgument (job : Option JobName) (expects : Expectation) (argument : Bytes) : List Move :=
  match expects with
  | .nothing => [.stop .refused]
  | .topic given =>
      [if given = false ∧
          ((JobName.ofWord? argument).isSome ∨ argument = Text.Utf8.encode "help") then
        .expect (.topic true)
      else .stop .refused]
  | .value rule =>
      [if Progress.canBeValue rule argument then rule.valueMove argument else .stop .refused]
  | .anything => ofFree job argument

end Move

/-! ### The reader makes these moves -/

namespace Progress

theorem foldlM_make_singleton (progress : Progress) (move : Move) :
    [move].foldlM make progress = progress.make move := by
  simp only [List.foldlM_cons, List.foldlM_nil]
  cases progress.make move <;> rfl

theorem takeName_eq_make (progress : Progress) (rule : OptionRule) :
    progress.takeName rule = progress.make rule.nameMove := by
  unfold takeName OptionRule.nameMove
  cases rule.form <;> rfl

theorem takeValue_eq_make (progress : Progress) (rule : OptionRule) (value : Bytes) :
    progress.takeValue rule value = progress.make (rule.valueMove value) := by
  unfold takeValue OptionRule.valueMove
  cases rule.form with
  | flag setting => rfl
  | text setting => cases Text.Utf8.decode? value <;> rfl
  | path setting => by_cases empty : value = [] <;> simp [empty, make]
  | halt reason => rfl

theorem readLong_eq_make (progress : Progress) (body : Bytes) :
    progress.readLong body = progress.make (.ofLong progress.job body) := by
  simp only [readLong, Move.ofLong]
  cases (rules progress.job).find? fun rule =>
      Text.Utf8.encode rule.name == body.takeWhile (· ≠ 0x3D) with
  | none => rfl
  | some rule =>
      cases body.dropWhile (· ≠ 0x3D) with
      | nil => exact progress.takeName_eq_make rule
      | cons sign value => exact progress.takeValue_eq_make rule value

theorem make_nameMove_job {progress next : Progress} {rule : OptionRule}
    (made : progress.make rule.nameMove = .ok next) : next.job = progress.job := by
  unfold OptionRule.nameMove at made
  cases form : rule.form with
  | flag setting =>
      simp only [form, make, settle] at made
      split at made
      · cases made
      · cases made
        rfl
  | halt reason =>
      simp only [form, make] at made
      cases made
  | text setting =>
      simp only [form, make] at made
      cases made
      rfl
  | path setting =>
      simp only [form, make] at made
      cases made
      rfl

/-- No letter changes the job, so the moves of all letters can be told beforehand. -/
theorem readLetters_eq_make (progress : Progress) (letters : Bytes) :
    progress.readLetters letters =
      (letters.map (Move.ofLetter progress.job)).foldlM make progress := by
  induction letters generalizing progress with
  | nil => rfl
  | cons letter rest inductionHypothesis =>
      rw [List.map_cons, List.foldlM_cons, readLetters, Move.ofLetter]
      cases (rules progress.job).find? fun rule => rule.letter == some letter with
      | none => rfl
      | some rule =>
          simp only [takeName_eq_make]
          cases made : progress.make rule.nameMove with
          | error reason => rfl
          | ok next =>
              have sameJob : next.job = progress.job := make_nameMove_job made
              have restRead := inductionHypothesis next
              rw [sameJob] at restRead
              exact restRead

theorem readWord_eq_make {progress : Progress} (free : progress.expects = .anything)
    (word : Bytes) : progress.readWord word = progress.make (.ofWord progress.job word) := by
  unfold readWord Move.ofWord
  cases jobNamed : progress.job with
  | some job => rfl
  | none =>
      cases JobName.ofWord? word with
      | some job => simp only [make, free]
      | none => by_cases help : word = Text.Utf8.encode "help" <;> simp [help, make, jobNamed]

/-- **Reading an argument is making its moves.** -/
theorem advance_eq_make (progress : Progress) (argument : Bytes) :
    progress.advance argument =
      (Move.ofArgument progress.job progress.expects argument).foldlM make progress := by
  unfold advance Move.ofArgument
  cases expected : progress.expects with
  | nothing => rfl
  | topic given =>
      simp only [foldlM_make_singleton]
      split <;> rfl
  | value rule =>
      simp only [foldlM_make_singleton]
      split
      · exact progress.takeValue_eq_make rule argument
      · rfl
  | anything =>
      simp only
      split
      · rfl
      · next body _ =>
          simp only [Move.ofFree, foldlM_make_singleton, readLong_eq_make]
      · next letter letters _ _ =>
          simp only [Move.ofFree, readLetters_eq_make]
      · next word notLast notLong notLetters =>
          rw [Move.ofFree, foldlM_make_singleton, readWord_eq_make expected]
          · exact notLast
          · exact notLong
          · exact notLetters

end Progress

end KernelForge.CommandLine
