import KernelForge.Fields
import KernelForge.Path

/-!
Contract: the parts of a path, and what another extension changes in it.

Owns: a path as what stands in front of its last name, the name, and what trails behind it;
the stem and the extension of a name; the path with another extension, byte for byte; and the
components of a path, which say when two paths name the same.

What trails a name takes part when an extension is replaced, because as many bytes as the old
extension has are cut from the very end. A name that keeps nothing but two dots is the one that
this cut destroys.

Does not own: what a path leads to.
-/

namespace KernelForge

/-! ### Fields -/

section Fields

variable {α : Type} {separates : α → Bool}

theorem fields_ne_nil (list : List α) : fields separates list ≠ [] := by
  intro none
  have counted := length_fields separates list
  rw [none] at counted
  simp at counted

theorem fields_append_separator {mark : α} (separator : separates mark = true)
    (first second : List α) :
    fields separates (first ++ mark :: second) =
      fields separates first ++ fields separates second := by
  induction first with
  | nil => simp [fields, separator]
  | cons head rest inductionHypothesis =>
      by_cases ends : separates head = true
      · simp [fields, ends, inductionHypothesis]
      · cases cut : fields separates rest with
        | nil => exact absurd cut (fields_ne_nil rest)
        | cons field others => simp [fields, ends, inductionHypothesis, cut]

theorem fields_of_plain {list : List α} (plain : ∀ item ∈ list, separates item = false) :
    fields separates list = [list] := by
  induction list with
  | nil => rfl
  | cons head rest inductionHypothesis =>
      obtain ⟨headPlain, restPlain⟩ := List.forall_mem_cons.mp plain
      simp [fields, headPlain, inductionHypothesis restPlain]

end Fields

namespace Path

/-! ### The end of a path -/

/-- What may stand behind the last name of a path: separators, and `.` components. -/
inductive Trails : Bytes → Prop
  | nothing : Trails []
  | separator {trail : Bytes} (earlier : Trails trail) : Trails (trail ++ [Path.separator])
  | dot {trail : Bytes} (earlier : Trails trail) : Trails (trail ++ [Path.separator, Path.dot])

theorem Trails.take {trail : Bytes} (trails : Trails trail) (count : Nat) :
    Trails (trail.take count) := by
  induction trails with
  | nothing =>
      rw [List.take_nil]
      exact .nothing
  | @separator trail earlier inductionHypothesis =>
      rw [List.take_append]
      by_cases inside : count ≤ trail.length
      · rw [Nat.sub_eq_zero_of_le inside, List.take_zero, List.append_nil]
        exact inductionHypothesis
      · rw [List.take_of_length_le (by omega), List.take_of_length_le (by simp; omega)]
        exact .separator earlier
  | @dot trail earlier inductionHypothesis =>
      rw [List.take_append]
      by_cases inside : count ≤ trail.length
      · rw [Nat.sub_eq_zero_of_le inside, List.take_zero, List.append_nil]
        exact inductionHypothesis
      · rw [List.take_of_length_le (by omega)]
        by_cases half : count = trail.length + 1
        · rw [half, Nat.add_sub_cancel_left]
          exact .separator earlier
        · rw [List.take_of_length_le (by simp; omega)]
          exact .dot earlier

theorem dropTrailing_separator (rest : Bytes) :
    dropTrailing (separator :: rest) = dropTrailing rest := by
  cases rest with
  | nil => rfl
  | cons next others => rw [dropTrailing, if_pos rfl]

theorem dropTrailing_dot (rest : Bytes) :
    dropTrailing (dot :: separator :: rest) = dropTrailing rest := by
  rw [dropTrailing, if_neg (by decide), if_pos ⟨rfl, rfl⟩, dropTrailing_separator]

/-- A path in reverse starts with a name: neither with a separator nor with a `.` component. -/
def NameFirst (reversed : Bytes) : Prop :=
  reversed.head? ≠ some separator ∧ ∀ rest, reversed ≠ dot :: separator :: rest

theorem dropTrailing_of_nameFirst {reversed : Bytes} (nameFirst : NameFirst reversed) :
    dropTrailing reversed = reversed := by
  fun_cases dropTrailing reversed with
  | case1 => rfl
  | case2 => exact absurd rfl nameFirst.1
  | case3 byte different => rfl
  | case4 second rest => exact absurd rfl nameFirst.1
  | case5 first second rest different isDot =>
      rw [isDot.1, isDot.2] at nameFirst
      exact absurd rfl (nameFirst.2 rest)
  | case6 first second rest different noDot => rfl

theorem Trails.dropTrailing {trail : Bytes} (trails : Trails trail) (reversed : Bytes) :
    dropTrailing (trail.reverse ++ reversed) = dropTrailing reversed := by
  induction trails with
  | nothing => rfl
  | separator earlier inductionHypothesis =>
      rw [List.reverse_append]
      exact (dropTrailing_separator _).trans inductionHypothesis
  | dot earlier inductionHypothesis =>
      rw [List.reverse_append]
      exact (dropTrailing_dot _).trans inductionHypothesis

/-- Every path ends in a trail, in front of which a name stands. -/
theorem exists_trails (reversed : Bytes) :
    ∃ trail kept, Trails trail ∧ NameFirst kept ∧ reversed = trail.reverse ++ kept := by
  induction size : reversed.length using Nat.strongRecOn generalizing reversed with
  | ind size inductionHypothesis =>
      by_cases separated : reversed.head? = some separator
      · obtain ⟨rest, rfl⟩ := List.head?_eq_some_iff.mp separated
        have shorter : rest.length < (separator :: rest).length := Nat.lt_succ_self _
        obtain ⟨trail, kept, trails, nameFirst, rfl⟩ :=
          inductionHypothesis rest.length (size ▸ shorter) rest rfl
        exact ⟨trail ++ [separator], kept, .separator trails, nameFirst, by simp⟩
      by_cases dotted : ∃ rest, reversed = dot :: separator :: rest
      · obtain ⟨rest, rfl⟩ := dotted
        have shorter : rest.length < (dot :: separator :: rest).length := by
          simp only [List.length_cons]
          omega
        obtain ⟨trail, kept, trails, nameFirst, rfl⟩ :=
          inductionHypothesis rest.length (size ▸ shorter) rest rfl
        exact ⟨trail ++ [separator, dot], kept, .dot trails, nameFirst, by simp⟩
      · exact ⟨[], reversed, .nothing, ⟨separated, fun rest isDot => dotted ⟨rest, isDot⟩⟩, rfl⟩

/-- A path that ends in a name: what stands in front of the name, the name, and what trails
behind it. -/
structure EndsIn (path : Path) (front name trail : Bytes) : Prop where
  bytes_eq : path.bytes = front ++ name ++ trail
  named : isName name = true
  plain : separator ∉ name
  opens : front = [] ∨ ∃ directory, front = directory ++ [separator]
  trails : Trails trail

theorem isName_iff {component : Bytes} :
    isName component = true ↔ component ≠ [] ∧ component ≠ [dot] ∧ component ≠ [dot, dot] := by
  simp [isName, and_assoc]

section EndsIn

variable {path : Path} {front name trail : Bytes}

theorem EndsIn.nameFirst (ends : EndsIn path front name trail) :
    NameFirst (name.reverse ++ front.reverse) := by
  obtain ⟨notEmpty, notDot, -⟩ := isName_iff.mp ends.named
  have plain : separator ∉ name.reverse := fun member => ends.plain (List.mem_reverse.mp member)
  cases reversed : name.reverse with
  | nil => exact absurd (List.reverse_eq_nil_iff.mp reversed) notEmpty
  | cons last earlier =>
      rw [reversed] at plain
      constructor
      · intro separated
        exact plain (by simp [Option.some.inj separated])
      · intro rest dotted
        cases earlier with
        | nil =>
            have onlyDot : name = [dot] := by
              rw [← List.reverse_reverse name, reversed, (List.cons.inj dotted).1]
              rfl
            exact notDot onlyDot
        | cons next others =>
            have isSeparator : next = separator := (List.cons.inj (List.cons.inj dotted).2).1
            exact plain (by simp [isSeparator])

/-- The name that is found behind which only a trail stands. -/
theorem EndsIn.splitLastName (ends : EndsIn path front name trail) :
    path.splitLastName = some (front, name) := by
  have reversed : dropTrailing path.bytes.reverse = name.reverse ++ front.reverse := by
    rw [ends.bytes_eq, List.reverse_append, ends.trails.dropTrailing, List.reverse_append,
      dropTrailing_of_nameFirst ends.nameFirst]
  have plain : ∀ byte ∈ name.reverse, decide (byte ≠ separator) = true := by
    intro byte member
    have different : byte ≠ separator := fun isSeparator =>
      ends.plain (isSeparator ▸ List.mem_reverse.mp member)
    exact decide_eq_true different
  have taken : (name.reverse ++ front.reverse).takeWhile (· ≠ separator) = name.reverse := by
    rw [List.takeWhile_append_of_pos plain]
    rcases ends.opens with rfl | ⟨directory, rfl⟩ <;> simp
  have dropped : (name.reverse ++ front.reverse).dropWhile (· ≠ separator) = front.reverse := by
    rw [List.dropWhile_append_of_pos plain]
    rcases ends.opens with rfl | ⟨directory, rfl⟩ <;> simp
  simp only [Path.splitLastName, reversed, taken, dropped, List.reverse_reverse, ends.named,
    if_true]

theorem endsIn_of_splitLastName (found : path.splitLastName = some (front, name)) :
    ∃ trail, EndsIn path front name trail := by
  obtain ⟨trail, kept, trails, nameFirst, reversed⟩ := exists_trails path.bytes.reverse
  have cut : dropTrailing path.bytes.reverse = kept := by
    rw [reversed, trails.dropTrailing, dropTrailing_of_nameFirst nameFirst]
  simp only [Path.splitLastName, cut] at found
  split at found
  · next named =>
      cases found
      refine ⟨trail, ?_, named, ?_, ?_, trails⟩
      · rw [← List.reverse_append, List.takeWhile_append_dropWhile,
          ← List.reverse_reverse path.bytes, reversed, List.reverse_append, List.reverse_reverse]
      · intro member
        have stays := List.all_eq_true.mp List.all_takeWhile _ (List.mem_reverse.mp member)
        simp at stays
      · cases behind : kept.dropWhile (· ≠ separator) with
        | nil => exact .inl rfl
        | cons first rest =>
            have isSeparator : first = separator := by
              have stops := List.head?_dropWhile_not (· ≠ separator) kept
              rw [behind] at stops
              simpa using stops
            exact .inr ⟨rest.reverse, by simp [isSeparator]⟩
  · cases found

/-- A path that has a last name ends in it. -/
theorem splitLastName_eq_some_iff :
    path.splitLastName = some (front, name) ↔ ∃ trail, EndsIn path front name trail :=
  ⟨endsIn_of_splitLastName, fun ⟨_, ends⟩ => ends.splitLastName⟩

end EndsIn

/-! ### Names with another extension -/

theorem splitExtension_of_dot {before after : Bytes} (filled : before ≠ [])
    (undotted : dot ∉ after) :
    splitExtension (before ++ dot :: after) = (before, some after) := by
  have plain : ∀ byte ∈ after.reverse, decide (byte ≠ dot) = true := by
    intro byte member
    have different : byte ≠ dot := fun isDot => undotted (isDot ▸ List.mem_reverse.mp member)
    exact decide_eq_true different
  have reversed : (before ++ dot :: after).reverse = after.reverse ++ dot :: before.reverse := by
    simp
  have taken : (before ++ dot :: after).reverse.takeWhile (· ≠ dot) = after.reverse := by
    rw [reversed, List.takeWhile_append_of_pos plain]
    simp
  have dropped : (before ++ dot :: after).reverse.dropWhile (· ≠ dot) = dot :: before.reverse := by
    rw [reversed, List.dropWhile_append_of_pos plain]
    simp
  simp only [splitExtension, taken, dropped, List.reverse_eq_nil_iff, filled, if_false,
    List.reverse_reverse]

/-- A name has no extension, or it is cut at its last dot, which is not its first byte. -/
theorem splitExtension_cases (name : Bytes) :
    splitExtension name = (name, none) ∨
      ∃ before after, before ≠ [] ∧ dot ∉ after ∧ name = before ++ dot :: after ∧
        splitExtension name = (before, some after) := by
  cases dropped : name.reverse.dropWhile (· ≠ dot) with
  | nil =>
      left
      simp only [splitExtension, dropped]
  | cons first before =>
      by_cases empty : before = []
      · left
        simp only [splitExtension, dropped, empty, if_true]
      · right
        have isDot : first = dot := by
          have stops := List.head?_dropWhile_not (· ≠ dot) name.reverse
          rw [dropped] at stops
          simpa using stops
        have whole := List.takeWhile_append_dropWhile (p := (· ≠ dot)) (l := name.reverse)
        have undotted : dot ∉ name.reverse.takeWhile (· ≠ dot) := by
          intro member
          have stays := List.all_eq_true.mp List.all_takeWhile _ member
          simp at stays
        generalize name.reverse.takeWhile (· ≠ dot) = after at whole undotted
        rw [dropped, isDot] at whole
        have shape : name = before.reverse ++ dot :: after.reverse := by
          rw [← List.reverse_reverse name, ← whole]
          simp
        have filled : before.reverse ≠ [] := by simpa using empty
        have stillUndotted : dot ∉ after.reverse := by simpa using undotted
        refine ⟨before.reverse, after.reverse, filled, stillUndotted, shape, ?_⟩
        rw [shape]
        exact splitExtension_of_dot filled stillUndotted

/-- The stem of a name. -/
def stemOf (name : Bytes) : Bytes :=
  (splitExtension name).1

theorem stemOf_ne_nil {name : Bytes} (named : name ≠ []) : stemOf name ≠ [] := by
  unfold stemOf
  rcases splitExtension_cases name with whole | ⟨before, after, filled, -, -, cut⟩
  · rw [whole]
    exact named
  · rw [cut]
    exact filled

/-- A name has an extension exactly if it is its stem, a dot, and that extension. -/
theorem extensionOf_eq_some_iff {name new : Bytes} (named : name ≠ []) (undotted : dot ∉ new) :
    (splitExtension name).2 = some new ↔ name = stemOf name ++ dot :: new := by
  constructor
  · intro isNew
    rcases splitExtension_cases name with whole | ⟨before, after, -, -, shape, cut⟩
    · rw [whole] at isNew
      cases isNew
    · rw [cut] at isNew
      rw [stemOf, cut, ← Option.some.inj isNew]
      exact shape
  · intro shape
    rw [shape, splitExtension_of_dot (stemOf_ne_nil named) undotted]

theorem isName_dotted {before after : Bytes} (filled : before ≠ [])
    (notDots : before ≠ [dot] ∨ after ≠ []) : isName (before ++ dot :: after) = true := by
  cases before with
  | nil => exact absurd rfl filled
  | cons first rest =>
      cases rest with
      | nil =>
          cases after with
          | nil => simpa [isName] using notDots
          | cons => simp [isName]
      | cons => simp [isName]

/-! ### Paths with another extension -/

section Extension

variable {path : Path} {front name trail new : Bytes}

theorem EndsIn.fileName (ends : EndsIn path front name trail) : path.fileName = some name := by
  simp only [Path.fileName, ends.splitLastName, Option.map_some]

theorem EndsIn.stem (ends : EndsIn path front name trail) : path.stem = some (stemOf name) := by
  simp only [Path.stem, ends.fileName, Option.map_some, stemOf]

theorem EndsIn.extension (ends : EndsIn path front name trail) :
    path.extension = (splitExtension name).2 := by
  simp only [Path.extension, ends.fileName, Option.bind_some]

/-- A path that has a file name ends in it. -/
theorem exists_endsIn (named : path.fileName ≠ none) :
    ∃ front name trail, EndsIn path front name trail := by
  obtain ⟨name, isName⟩ := Option.ne_none_iff_exists'.mp named
  obtain ⟨⟨front, last⟩, split, -⟩ := Option.map_eq_some_iff.mp isName
  obtain ⟨trail, ends⟩ := splitLastName_eq_some_iff.mp split
  exact ⟨front, last, trail, ends⟩

theorem EndsIn.replaceExtension (ends : EndsIn path front name trail) :
    path.replaceExtension new = ⟨front ++ stemOf name ++ dot :: new⟩ := by
  simp only [Path.replaceExtension, ends.splitLastName, stemOf]

/-- What is left when as many bytes as the extension has are cut from the end: they come from
the trail first. -/
theorem EndsIn.take_cut {before after : Bytes}
    (ends : EndsIn path front (before ++ dot :: after) trail) :
    path.bytes.take (path.bytes.length - after.length) =
      front ++ (before ++ dot :: (after ++ trail).take trail.length) := by
  have shape : path.bytes = (front ++ before ++ [dot]) ++ (after ++ trail) := by
    rw [ends.bytes_eq]
    simp
  have size : path.bytes.length - after.length =
      (front ++ before ++ [dot]).length + trail.length := by
    rw [shape]
    simp only [List.length_append]
    omega
  rw [size, shape, List.take_length_add_append]
  simp

/-- The cut leaves a path that ends in a name with the same stem, unless it leaves two dots. -/
theorem EndsIn.cut {before after : Bytes}
    (ends : EndsIn path front (before ++ dot :: after) trail) (filled : before ≠ [])
    (undotted : dot ∉ after) (safe : before ≠ [dot] ∨ trail ≠ []) :
    ∃ left rest, dot ∉ left ∧
      EndsIn ⟨path.bytes.take (path.bytes.length - after.length)⟩ front (before ++ dot :: left)
        rest := by
  rw [ends.take_cut, List.take_append]
  by_cases long : trail.length ≤ after.length
  · -- The trail is gone and so is the end of the extension.
    have plain : separator ∉ before ++ dot :: after.take trail.length := by
      intro member
      refine ends.plain ?_
      simp only [List.mem_append, List.mem_cons] at member ⊢
      exact member.imp_right (Or.imp_right List.mem_of_mem_take)
    have named : isName (before ++ dot :: after.take trail.length) = true := by
      apply isName_dotted filled
      refine safe.imp_right fun trailing => ?_
      simp only [ne_eq, List.take_eq_nil_iff, List.length_eq_zero_iff, not_or]
      refine ⟨trailing, fun noExtension => trailing ?_⟩
      simpa [noExtension] using long
    refine ⟨after.take trail.length, [], fun member => undotted (List.mem_of_mem_take member), ?_⟩
    exact ⟨by simp [Nat.sub_eq_zero_of_le long], named, plain, ends.opens, .nothing⟩
  · -- Only a part of the trail is gone.
    refine ⟨after, trail.take (trail.length - after.length), undotted, ?_⟩
    rw [List.take_of_length_le (by omega)]
    exact ⟨by simp, ends.named, ends.plain, ends.opens, ends.trails.take _⟩

/-- A new extension goes behind the stem, and what trails the name is dropped. -/
theorem EndsIn.withExtension (ends : EndsIn path front name trail)
    (safe : stemOf name ≠ [dot] ∨ trail ≠ []) :
    path.withExtension new = ⟨front ++ stemOf name ++ dot :: new⟩ := by
  rcases splitExtension_cases name with whole | ⟨before, after, filled, undotted, rfl, cut⟩
  · simp only [Path.withExtension, ends.extension, whole, Option.getD_none, List.length_nil,
      Nat.sub_zero, List.take_length]
    exact ends.replaceExtension
  · have stem : stemOf (before ++ dot :: after) = before := by rw [stemOf, cut]
    rw [stem] at safe ⊢
    obtain ⟨left, rest, leftUndotted, leftEnds⟩ := ends.cut filled undotted safe
    simp only [Path.withExtension, ends.extension, cut, Option.getD_some]
    rw [leftEnds.replaceExtension, stemOf, splitExtension_of_dot filled leftUndotted]

/-- Two dots are no name, so they get no extension. -/
theorem replaceExtension_of_dots
    (opens : front = [] ∨ ∃ directory, front = directory ++ [separator]) :
    Path.replaceExtension ⟨front ++ [dot, dot]⟩ new = ⟨front ++ [dot, dot]⟩ := by
  have unnamed : Path.splitLastName ⟨front ++ [dot, dot]⟩ = none := by
    rcases opens with rfl | ⟨directory, rfl⟩
    · rfl
    · have kept : dropTrailing (dot :: dot :: separator :: directory.reverse) =
          dot :: dot :: separator :: directory.reverse := by
        rw [dropTrailing, if_neg (by decide), if_neg (by decide)]
      simp only [Path.splitLastName, List.reverse_append, List.reverse_cons, List.reverse_nil,
        List.nil_append, List.cons_append, kept]
      rfl
  simp only [Path.replaceExtension, unnamed]

/-- Nothing but two dots is left of a name with nothing but a dot for its stem. -/
theorem EndsIn.withExtension_of_dots (ends : EndsIn path front name [])
    (dots : stemOf name = [dot]) :
    path.withExtension new = ⟨front ++ [dot, dot]⟩ := by
  rcases splitExtension_cases name with whole | ⟨before, after, filled, undotted, rfl, cut⟩
  · rw [stemOf, whole] at dots
    exact absurd dots (isName_iff.mp ends.named).2.1
  · have onlyDot : before = [dot] := by rw [← dots, stemOf, cut]
    subst onlyDot
    simp only [Path.withExtension, ends.extension, cut, Option.getD_some]
    rw [ends.take_cut]
    exact replaceExtension_of_dots ends.opens

/-- The path with another extension ends in the stem with that extension. -/
theorem EndsIn.endsIn_withExtension (ends : EndsIn path front name trail) (filled : new ≠ [])
    (plain : separator ∉ new) :
    EndsIn ⟨front ++ stemOf name ++ dot :: new⟩ front (stemOf name ++ dot :: new) [] := by
  have named : name ≠ [] := (isName_iff.mp ends.named).1
  refine ⟨by simp, isName_dotted (stemOf_ne_nil named) (.inr filled), ?_, ends.opens, .nothing⟩
  intro member
  rcases List.mem_append.mp member with inStem | inRest
  · -- The stem is a part of the name.
    refine ends.plain ?_
    rcases splitExtension_cases name with whole | ⟨before, after, -, -, shape, cut⟩
    · rwa [stemOf, whole] at inStem
    · rw [stemOf, cut] at inStem
      rw [shape]
      exact List.mem_append_left _ inStem
  · rcases List.mem_cons.mp inRest with isDot | inNew
    · exact absurd isDot (by decide)
    · exact plain inNew

end Extension

/-! ### Components -/

/-- A piece between separators that is a component wherever it stands. -/
def isComponent (piece : Bytes) : Bool :=
  piece != [] && piece != [dot]

/-- The components of a path: the root, if it is absolute, and the pieces between separators,
of which empty ones never count and a `.` counts only at the front of a relative path. -/
def components (path : Path) : List Bytes :=
  match fields (· == separator) path.bytes with
  | [] => []
  | first :: others =>
      (if path.isAbsolute then [[separator]] else if first = [] then [] else [first]) ++
        others.filter isComponent

/-- The components of the directory that a path names an entry of. -/
def directory (path : Path) : List Bytes :=
  path.components.dropLast

theorem fields_of_trails {trail : Bytes} (trails : Trails trail) {name : Bytes}
    (plain : separator ∉ name) :
    ∃ others, fields (· == separator) (name ++ trail) = name :: others ∧
      others.filter isComponent = [] := by
  induction trails with
  | nothing =>
      refine ⟨[], ?_, rfl⟩
      rw [List.append_nil]
      apply fields_of_plain
      intro byte member
      have different : byte ≠ separator := fun isSeparator => plain (isSeparator ▸ member)
      simpa using different
  | separator earlier inductionHypothesis =>
      obtain ⟨others, cut, dropped⟩ := inductionHypothesis
      refine ⟨others ++ [[]], ?_, ?_⟩
      · rw [← List.append_assoc, fields_append_separator (by simp), cut]
        rfl
      · rw [List.filter_append, dropped]
        rfl
  | dot earlier inductionHypothesis =>
      obtain ⟨others, cut, dropped⟩ := inductionHypothesis
      refine ⟨others ++ [[dot]], ?_, ?_⟩
      · rw [← List.append_assoc, fields_append_separator (by simp), cut]
        rfl
      · rw [List.filter_append, dropped]
        rfl

/-- The last name is the last component, and the others are those of what stands in front. -/
theorem EndsIn.components {path : Path} {front name trail : Bytes}
    (ends : EndsIn path front name trail) :
    path.components = (Path.mk front).components ++ [name] := by
  obtain ⟨notEmpty, notDot, -⟩ := isName_iff.mp ends.named
  obtain ⟨others, cut, dropped⟩ := fields_of_trails ends.trails ends.plain
  have counts : isComponent name = true := by simp [isComponent, notEmpty, notDot]
  have bytes : path.bytes = front ++ (name ++ trail) := by rw [ends.bytes_eq, List.append_assoc]
  rcases ends.opens with rfl | ⟨directory, rfl⟩
  · have relative : path.isAbsolute = false := by
      cases name with
      | nil => exact absurd rfl notEmpty
      | cons first rest =>
          have different : first ≠ separator := by
            rintro rfl
            exact ends.plain List.mem_cons_self
          simpa [isAbsolute, bytes] using different
    rw [List.nil_append] at bytes
    simp only [Path.components, bytes, cut, relative, notEmpty, dropped]
    rfl
  · rw [List.append_assoc, List.singleton_append] at bytes
    have absolute : path.isAbsolute = (Path.mk (directory ++ [separator])).isAbsolute := by
      simp only [isAbsolute, bytes]
      cases directory <;> rfl
    have pieces : fields (· == separator) path.bytes =
        fields (· == separator) directory ++ name :: others := by
      rw [bytes, fields_append_separator (by simp), cut]
    have frontPieces : fields (· == separator) (directory ++ [separator]) =
        fields (· == separator) directory ++ [[]] :=
      fields_append_separator (by simp) directory []
    simp only [Path.components, pieces, frontPieces, absolute]
    cases frontCut : fields (· == separator) directory with
    | nil => exact absurd frontCut (fields_ne_nil directory)
    | cons first rest =>
        simp [List.filter_append, List.filter_cons_of_pos counts, dropped, isComponent]

theorem EndsIn.directory {path : Path} {front name trail : Bytes}
    (ends : EndsIn path front name trail) : path.directory = (Path.mk front).components := by
  rw [Path.directory, ends.components, List.dropLast_concat]

end Path

end KernelForge
