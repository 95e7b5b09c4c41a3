/-!
Contract: cutting a list into fields.

Owns: the fields between the separators of a list. There is one field more than
there are separators, and none of them holds one.

Does not own: what a field means, and whether an empty one counts.
-/

namespace KernelForge

/-- The fields of a list, which its separators keep apart. -/
def fields {α : Type} (separates : α → Bool) : List α → List (List α)
  | [] => [[]]
  | head :: rest =>
      if separates head then [] :: fields separates rest
      else
        match fields separates rest with
        | [] => [[head]]
        | field :: others => (head :: field) :: others

theorem length_fields {α : Type} (separates : α → Bool) (list : List α) :
    (fields separates list).length = list.countP separates + 1 := by
  induction list with
  | nil => rfl
  | cons head rest inductionHypothesis =>
      by_cases separator : separates head = true
      · simp [fields, separator, inductionHypothesis]
      · cases cut : fields separates rest with
        | nil => simp [cut] at inductionHypothesis
        | cons field others =>
            simp only [cut, List.length_cons] at inductionHypothesis
            simp [fields, separator, cut, inductionHypothesis]

end KernelForge
