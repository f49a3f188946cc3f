import ApiPages.Proofs.Declaration.Mentions

/-!
The shape of a type: the names that its classifiers are displayed by, the number of its arguments
and the variances of those that are no stars. A type is displayed through its shape. Main statement:
shapes whose names hold none of the marks around them are read off what is displayed, so two
receivers that look the same have one shape.
-/

namespace ApiPages

mutual

inductive TypeShape where
  | of (name : List Char) (arguments : List ArgumentShape)

/-- What variance is written beside a star is not displayed. -/
inductive ArgumentShape where
  | star
  | projected (variance : Variance) (type : TypeShape)

end

/-- What closes the bracket around arguments. Where there are none, there is no bracket. -/
def ArgumentShape.closing : List ArgumentShape → List Char
  | [] => []
  | _ :: _ => ['>']

mutual

def TypeShape.chars : TypeShape → List Char
  | .of name arguments =>
    name ++ (ArgumentShape.marked ['<'] arguments ++ ArgumentShape.closing arguments)

def ArgumentShape.chars : ArgumentShape → List Char
  | .star => ['*']
  | .projected variance type => variance.word ++ type.chars

def ArgumentShape.marked (mark : List Char) : List ArgumentShape → List Char
  | [] => []
  | argument :: rest => mark ++ (argument.chars ++ ArgumentShape.marked [',', ' '] rest)

end

mutual

def TypeShape.names : TypeShape → List (List Char)
  | .of name arguments => name :: ArgumentShape.namesOfList arguments

def ArgumentShape.names : ArgumentShape → List (List Char)
  | .star => []
  | .projected _ type => type.names

def ArgumentShape.namesOfList : List ArgumentShape → List (List Char)
  | [] => []
  | argument :: rest => argument.names ++ ArgumentShape.namesOfList rest

end

mutual

/-- The shape of a type, given how type parameters are called. -/
def TypeDescriptor.shape (parameterName : UInt32 → List Char) : TypeDescriptor → TypeShape
  | .of classifier arguments =>
    .of (classifier.chars parameterName) (TypeArgument.shapes parameterName arguments)

def TypeArgument.shape (parameterName : UInt32 → List Char) : TypeArgument → ArgumentShape
  | .star _ => .star
  | .projected variance type => .projected variance (type.shape parameterName)

def TypeArgument.shapes (parameterName : UInt32 → List Char) :
    List TypeArgument → List ArgumentShape
  | [] => []
  | argument :: rest => argument.shape parameterName :: TypeArgument.shapes parameterName rest

end

section

variable (parameterName : UInt32 → List Char)

mutual

theorem TypeDescriptor.chars_shape : ∀ type : TypeDescriptor,
    (type.shape parameterName).chars = type.chars parameterName
  | .of classifier [] => List.append_nil _
  | .of classifier (first :: rest) => by
    rw [TypeDescriptor.shape, TypeArgument.shapes, TypeShape.chars, ArgumentShape.marked,
      TypeDescriptor.chars, first.chars_shape, TypeArgument.marked_shapes]
    simp [ArgumentShape.closing]

theorem TypeArgument.chars_shape : ∀ argument : TypeArgument,
    (argument.shape parameterName).chars = argument.chars parameterName
  | .star _ => rfl
  | .projected variance type => by
    rw [TypeArgument.shape, ArgumentShape.chars, TypeArgument.chars, type.chars_shape]

theorem TypeArgument.marked_shapes (first : List Char) : ∀ arguments : List TypeArgument,
    first ++ ArgumentShape.marked [',', ' '] (TypeArgument.shapes parameterName arguments) =
      TypeDescriptor.listed (first :: TypeArgument.charsOfList parameterName arguments)
  | [] => List.append_nil _
  | argument :: rest => by
    rw [TypeArgument.shapes, ArgumentShape.marked, TypeArgument.charsOfList, argument.chars_shape,
      TypeArgument.marked_shapes]
    rfl

end

end

namespace TypeShape

def marks : List Char := ['<', '>', ',', '*', ' ']

def isNameChar (c : Char) : Bool := !marks.contains c

/-- Names that can be told from the marks around them. -/
def AreLegible (names : List (List Char)) : Prop :=
  ∀ name ∈ names, name ≠ [] ∧ name.all isNameChar

instance (names : List (List Char)) : Decidable (AreLegible names) :=
  inferInstanceAs (Decidable (∀ name ∈ names, name ≠ [] ∧ name.all isNameChar))

/-- What may stand behind an argument: nothing, a comma or a closing bracket. -/
def Closes (rest : List Char) : Prop := ∀ c ∈ rest.head?, c = ',' ∨ c = '>'

theorem closes_marked (arguments : List ArgumentShape) (rest : List Char) :
    Closes (ArgumentShape.marked [',', ' '] arguments ++ '>' :: rest) := by
  cases arguments <;> simp [ArgumentShape.marked, Closes]

theorem head?_behind {rest : List Char} (closes : Closes rest) (arguments : List ArgumentShape)
    {c : Char} (next : (ArgumentShape.marked ['<'] arguments ++
      (ArgumentShape.closing arguments ++ rest)).head? = some c) :
    isNameChar c = false ∧ c ≠ ' ' := by
  cases arguments with
  | nil =>
    rcases closes c next with rfl | rfl <;> decide
  | cons first others =>
    obtain rfl := Option.some.inj next
    decide

theorem not_isNameChar_behind {rest : List Char} (closes : Closes rest)
    (arguments : List ArgumentShape) :
    ¬(ArgumentShape.marked ['<'] arguments ++
      (ArgumentShape.closing arguments ++ rest)).head?.any isNameChar := by
  rw [Option.any_eq_true]
  rintro ⟨c, next, inName⟩
  rw [(head?_behind closes arguments next).1] at inName
  exact Bool.false_ne_true inName

theorem chars_ne_word {type : TypeShape} {rest : List Char} (legible : AreLegible type.names)
    (closes : Closes rest) {variance : Variance} (marked : variance ≠ .invariant)
    (more : List Char) : type.chars ++ rest ≠ variance.word ++ more := by
  -- the blank of the word would stand behind the name, where only marks of another kind can stand
  obtain ⟨name, arguments⟩ := type
  have inName := List.all_eq_true.1 (legible name List.mem_cons_self).2
  obtain ⟨letters, inWord, word⟩ : ∃ letters : List Char, letters.all isNameChar ∧
      variance.word = letters ++ [' '] := by
    cases variance with
    | invariant => exact absurd rfl marked
    | contravariant => exact ⟨['i', 'n'], by decide, rfl⟩
    | covariant => exact ⟨['o', 'u', 't'], by decide, rfl⟩
  have blank : ¬(' ' :: more).head?.any isNameChar := Bool.false_ne_true
  intro same
  rw [chars, word, List.append_assoc, List.append_assoc, List.append_assoc] at same
  have behind := (Text.run_inj inName (List.all_eq_true.1 inWord)
    (not_isNameChar_behind closes arguments) blank same).2
  exact (head?_behind closes arguments (c := ' ') (by rw [behind]; rfl)).2 rfl

theorem variance_inj {variance otherVariance : Variance} {one other : TypeShape}
    {rest otherRest : List Char} (legible : AreLegible one.names)
    (otherLegible : AreLegible other.names) (closes : Closes rest) (otherCloses : Closes otherRest)
    (same : variance.word ++ (one.chars ++ rest) =
      otherVariance.word ++ (other.chars ++ otherRest)) :
    variance = otherVariance ∧ one.chars ++ rest = other.chars ++ otherRest := by
  -- The variance in front of a type is read off, though a type may be called like one.
  cases variance with
  | invariant =>
    cases otherVariance with
    | invariant => exact ⟨rfl, same⟩
    | contravariant | covariant => exact absurd same (chars_ne_word legible closes (by decide) _)
  | contravariant =>
    cases otherVariance with
    | invariant => exact absurd same.symm (chars_ne_word otherLegible otherCloses (by decide) _)
    | contravariant => exact ⟨rfl, List.append_cancel_left same⟩
    | covariant => simp [Variance.word] at same
  | covariant =>
    cases otherVariance with
    | invariant => exact absurd same.symm (chars_ne_word otherLegible otherCloses (by decide) _)
    | contravariant => simp [Variance.word] at same
    | covariant => exact ⟨rfl, List.append_cancel_left same⟩

end TypeShape

namespace ArgumentShape

open TypeShape (AreLegible)

theorem areLegible_cons {argument : ArgumentShape} {rest : List ArgumentShape} :
    AreLegible (namesOfList (argument :: rest)) ↔
      AreLegible argument.names ∧ AreLegible (namesOfList rest) :=
  List.forall_mem_append

theorem projected_ne_star {variance : Variance} {type : TypeShape}
    (legible : AreLegible type.names) (rest more : List Char) :
    (projected variance type).chars ++ rest ≠ '*' :: more := by
  obtain ⟨name, arguments⟩ := type
  obtain ⟨filled, inName⟩ := legible name List.mem_cons_self
  obtain ⟨first, others, rfl⟩ := List.exists_cons_of_ne_nil filled
  have notStar : first ≠ '*' := by
    rintro rfl
    simp [TypeShape.isNameChar, TypeShape.marks] at inName
  cases variance <;> simp [chars, TypeShape.chars, Variance.word, notStar]

end ArgumentShape

open TypeShape (AreLegible Closes)

mutual

theorem TypeShape.append_inj : ∀ (one other : TypeShape) {rest otherRest : List Char},
    AreLegible one.names → AreLegible other.names → Closes rest → Closes otherRest →
    one.chars ++ rest = other.chars ++ otherRest → one = other ∧ rest = otherRest
  | .of name arguments, .of otherName otherArguments, rest, otherRest, legible, otherLegible,
      closes, otherCloses, same => by
    obtain ⟨nameLegible, behindLegible⟩ := List.forall_mem_cons.1 legible
    obtain ⟨otherNameLegible, otherBehindLegible⟩ := List.forall_mem_cons.1 otherLegible
    simp only [TypeShape.chars, List.append_assoc] at same
    -- a name goes on up to the first mark, so behind one name a bracket opens on both sides or none
    obtain ⟨rfl, behind⟩ := Text.run_inj (List.all_eq_true.1 nameLegible.2)
      (List.all_eq_true.1 otherNameLegible.2) (TypeShape.not_isNameChar_behind closes arguments)
      (TypeShape.not_isNameChar_behind otherCloses otherArguments) same
    cases arguments with
    | nil =>
      cases otherArguments with
      | nil => exact ⟨rfl, behind⟩
      | cons other others =>
        obtain rfl : rest = _ := behind
        simp [ArgumentShape.marked, Closes] at closes
    | cons first more =>
      cases otherArguments with
      | nil =>
        obtain rfl : otherRest = _ := behind.symm
        simp [ArgumentShape.marked, Closes] at otherCloses
      | cons other others =>
        obtain ⟨sameArguments, ends⟩ := ArgumentShape.marked_inj (by simp) (first :: more)
          (other :: others) behindLegible otherBehindLegible behind
        exact ⟨by rw [sameArguments], ends⟩

theorem ArgumentShape.append_inj : ∀ (one other : ArgumentShape) {rest otherRest : List Char},
    AreLegible one.names → AreLegible other.names → Closes rest → Closes otherRest →
    one.chars ++ rest = other.chars ++ otherRest → one = other ∧ rest = otherRest
  | .star, .star, _, _, _, _, _, _, same => ⟨rfl, List.append_cancel_left same⟩
  | .star, .projected _ _, _, _, _, otherLegible, _, _, same =>
    absurd same.symm (ArgumentShape.projected_ne_star otherLegible _ _)
  | .projected _ _, .star, _, _, legible, _, _, _, same =>
    absurd same (ArgumentShape.projected_ne_star legible _ _)
  | .projected variance type, .projected otherVariance otherType, rest, otherRest, legible,
      otherLegible, closes, otherCloses, same => by
    rw [ArgumentShape.chars, ArgumentShape.chars, List.append_assoc, List.append_assoc] at same
    obtain ⟨rfl, types⟩ := TypeShape.variance_inj legible otherLegible closes otherCloses same
    obtain ⟨rfl, ends⟩ := type.append_inj otherType legible otherLegible closes otherCloses types
    exact ⟨rfl, ends⟩

theorem ArgumentShape.marked_inj {mark : List Char}
    (opens : ∀ more rest, mark ++ more ≠ '>' :: rest) :
    ∀ (arguments others : List ArgumentShape) {rest otherRest : List Char},
    AreLegible (ArgumentShape.namesOfList arguments) →
    AreLegible (ArgumentShape.namesOfList others) →
    ArgumentShape.marked mark arguments ++ '>' :: rest =
      ArgumentShape.marked mark others ++ '>' :: otherRest →
    arguments = others ∧ rest = otherRest
  | [], [], _, _, _, _, same => ⟨rfl, (List.cons.inj same).2⟩
  | [], _ :: _, _, _, _, _, same => by
    rw [ArgumentShape.marked, ArgumentShape.marked, List.append_assoc] at same
    exact absurd same.symm (opens _ _)
  | _ :: _, [], _, _, _, _, same => by
    rw [ArgumentShape.marked, ArgumentShape.marked, List.append_assoc] at same
    exact absurd same (opens _ _)
  | first :: more, other :: others, rest, otherRest, legible, otherLegible, same => by
    obtain ⟨firstLegible, moreLegible⟩ := ArgumentShape.areLegible_cons.1 legible
    obtain ⟨otherFirstLegible, othersLegible⟩ := ArgumentShape.areLegible_cons.1 otherLegible
    simp only [ArgumentShape.marked, List.append_assoc] at same
    obtain ⟨rfl, behind⟩ := first.append_inj other firstLegible otherFirstLegible
      (TypeShape.closes_marked more rest) (TypeShape.closes_marked others otherRest)
      (List.append_cancel_left same)
    obtain ⟨rfl, ends⟩ := ArgumentShape.marked_inj (by simp) more others moreLegible othersLegible
      behind
    exact ⟨rfl, ends⟩

end

namespace Member

def shape (member : Member) (undeclared : List Char) (type : TypeDescriptor) : TypeShape :=
  type.shape (member.parameterName undeclared)

theorem renderedReceiver_eq (member : Member) (undeclared : List Char) (type : TypeDescriptor) :
    member.renderedReceiver undeclared type =
      String.ofList (member.shape undeclared type).chars := by
  rw [renderedReceiver, shape, type.chars_shape]

/-- Types that are displayed by legible names look the same exactly if they have one shape. A type
parameter that is not declared is displayed as a star, which is no legible name. -/
theorem renderedReceiver_eq_iff {one other : Member} {type otherType : TypeDescriptor}
    (legible : TypeShape.AreLegible (one.shape ['*'] type).names)
    (otherLegible : TypeShape.AreLegible (other.shape ['*'] otherType).names) :
    one.renderedReceiver ['*'] type = other.renderedReceiver ['*'] otherType ↔
      one.shape ['*'] type = other.shape ['*'] otherType := by
  rw [renderedReceiver_eq, renderedReceiver_eq, String.ofList_inj]
  constructor
  · intro same
    have ends : TypeShape.Closes [] := by simp [TypeShape.Closes]
    have bare : (one.shape ['*'] type).chars ++ [] = (other.shape ['*'] otherType).chars ++ [] := by
      rw [same]
    exact (TypeShape.append_inj _ _ legible otherLegible ends ends bare).1
  · intro same
    rw [same]

theorem renderedReceiver_eq_iff_variance :
    let one : Member := ⟨"first", none, [⟨3, "in"⟩]⟩
    let other : Member := ⟨"second", none, [⟨5, "T"⟩, ⟨7, "in"⟩]⟩
    let type : TypeDescriptor := .of (.ofClass "kotlin/Map")
      [.projected .contravariant (.of (.ofParameter 3) []), .star .covariant]
    let otherType : TypeDescriptor := .of (.ofAlias "a/b/Map")
      [.projected .contravariant (.of (.ofParameter 7) []), .star .invariant]
    one.renderedReceiver ['*'] type = "Map<in in, *>" ∧
      TypeShape.AreLegible (one.shape ['*'] type).names ∧
      TypeShape.AreLegible (other.shape ['*'] otherType).names ∧
      one.shape ['*'] type = other.shape ['*'] otherType := by
  -- A type parameter called like a variance and a star beside which one is written: the variance
  -- in front of the parameter is read off, the one beside the star is not displayed.
  intro one other type otherType
  have legible : TypeShape.AreLegible (one.shape ['*'] type).names := by decide
  have otherLegible : TypeShape.AreLegible (other.shape ['*'] otherType).names := by decide
  have same : one.renderedReceiver ['*'] type = other.renderedReceiver ['*'] otherType := by decide
  exact ⟨by decide, legible, otherLegible, (renderedReceiver_eq_iff legible otherLegible).1 same⟩

end Member

end ApiPages
