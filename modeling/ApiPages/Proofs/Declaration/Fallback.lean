import ApiPages.Proofs.Declaration.Shape
import Mathlib.Algebra.Order.BigOperators.Group.List
import Mathlib.Algebra.Order.Group.Nat

/-!
What stands for an undeclared type parameter. It takes the place of each mention of the parameter in
the displayed receiver and of nothing else. Main statements: the name of a member that mentions no
undeclared type parameter does not depend on it, and the name of any other tells what it is.
-/

namespace ApiPages

namespace TypeShape

def name : TypeShape → List Char
  | .of name _ => name

def arguments : TypeShape → List ArgumentShape
  | .of _ arguments => arguments

/-- The shape at a position. There is none below a star. -/
def at? : TypeShape → List Nat → Option TypeShape
  | type, [] => some type
  | type, number :: rest =>
    match type.arguments[number]? with
    | some (.projected _ inner) => inner.at? rest
    | _ => none

end TypeShape

mutual

def TypeDescriptor.stars : TypeDescriptor → Nat
  | .of _ arguments => TypeArgument.starsOfList arguments

def TypeArgument.stars : TypeArgument → Nat
  | .star _ => 1
  | .projected _ type => type.stars

def TypeArgument.starsOfList : List TypeArgument → Nat
  | [] => 0
  | argument :: rest => argument.stars + TypeArgument.starsOfList rest

end

theorem TypeArgument.shapes_eq_map (parameterName : UInt32 → List Char)
    (arguments : List TypeArgument) :
    TypeArgument.shapes parameterName arguments =
      arguments.map (TypeArgument.shape parameterName) := by
  induction arguments with
  | nil => rfl
  | cons argument rest ih => rw [TypeArgument.shapes, ih, List.map_cons]

theorem TypeDescriptor.at?_shape (parameterName : UInt32 → List Char) (type : TypeDescriptor)
    (position : List Nat) :
    (type.shape parameterName).at? position =
      (type.at? position).map (TypeDescriptor.shape parameterName) := by
  induction position generalizing type with
  | nil => rfl
  | cons number rest ih =>
    obtain ⟨classifier, arguments⟩ := type
    rw [TypeDescriptor.shape, TypeShape.at?, TypeDescriptor.at?, TypeShape.arguments,
      TypeDescriptor.arguments, TypeArgument.shapes_eq_map, List.getElem?_map]
    cases arguments[number]? with
    | none => rfl
    | some argument =>
      cases argument with
      | star => rfl
      | projected variance inner => exact ih inner

theorem Variance.count_star_word (variance : Variance) : variance.word.count '*' = 0 := by
  cases variance <;> rfl

theorem ArgumentShape.count_star_closing (arguments : List ArgumentShape) :
    (ArgumentShape.closing arguments).count '*' = 0 := by
  cases arguments <;> rfl

section

variable (parameterName : UInt32 → List Char)

mutual

theorem TypeDescriptor.count_star : ∀ type : TypeDescriptor,
    (type.shape parameterName).chars.count '*' =
      type.stars + (type.shape parameterName).names.flatten.count '*'
  | .of classifier arguments => by
    have behind := TypeArgument.count_star_marked ['<'] rfl arguments
    rw [TypeDescriptor.shape, TypeShape.chars, TypeShape.names, TypeDescriptor.stars,
      List.flatten_cons, List.count_append, List.count_append, List.count_append,
      ArgumentShape.count_star_closing, behind]
    omega

theorem TypeArgument.count_star : ∀ argument : TypeArgument,
    (argument.shape parameterName).chars.count '*' =
      argument.stars + (argument.shape parameterName).names.flatten.count '*'
  | .star _ => rfl
  | .projected variance type => by
    rw [TypeArgument.shape, ArgumentShape.chars, ArgumentShape.names, TypeArgument.stars,
      List.count_append, variance.count_star_word, type.count_star, Nat.zero_add]

theorem TypeArgument.count_star_marked (mark : List Char) (starless : mark.count '*' = 0) :
    ∀ arguments : List TypeArgument,
    (ArgumentShape.marked mark (TypeArgument.shapes parameterName arguments)).count '*' =
      TypeArgument.starsOfList arguments +
        (ArgumentShape.namesOfList (TypeArgument.shapes parameterName arguments)).flatten.count '*'
  | [] => rfl
  | argument :: rest => by
    have here := argument.count_star
    have behind := TypeArgument.count_star_marked [',', ' '] rfl rest
    rw [TypeArgument.shapes, ArgumentShape.marked, ArgumentShape.namesOfList,
      TypeArgument.starsOfList, List.flatten_append, List.count_append, List.count_append,
      List.count_append, starless, here, behind]
    omega

end

end

def Classifier.parameterIds : Classifier → List UInt32
  | .ofParameter id => [id]
  | .ofClass _ | .ofAlias _ => []

theorem TypeDescriptor.parameterIds_of (classifier : Classifier) (arguments : List TypeArgument) :
    (TypeDescriptor.of classifier arguments).parameterIds =
      classifier.parameterIds ++ TypeArgument.parameterIdsOfList arguments := by
  cases classifier <;> rfl

section

variable {f g : UInt32 → List Char}

theorem Classifier.chars_congr {classifier : Classifier}
    (same : ∀ id ∈ classifier.parameterIds, f id = g id) :
    classifier.chars f = classifier.chars g := by
  cases classifier with
  | ofClass | ofAlias => rfl
  | ofParameter id => exact same id (List.mem_singleton_self id)

mutual

theorem TypeDescriptor.shape_congr : ∀ type : TypeDescriptor,
    (∀ id ∈ type.parameterIds, f id = g id) → type.shape f = type.shape g
  | .of classifier arguments, same => by
    rw [TypeDescriptor.parameterIds_of] at same
    obtain ⟨here, behind⟩ := List.forall_mem_append.1 same
    rw [TypeDescriptor.shape, TypeDescriptor.shape, Classifier.chars_congr here,
      TypeArgument.shapes_congr arguments behind]

theorem TypeArgument.shape_congr : ∀ argument : TypeArgument,
    (∀ id ∈ argument.parameterIds, f id = g id) → argument.shape f = argument.shape g
  | .star _, _ => rfl
  | .projected variance type, same => by
    rw [TypeArgument.shape, TypeArgument.shape, type.shape_congr same]

theorem TypeArgument.shapes_congr : ∀ arguments : List TypeArgument,
    (∀ id ∈ TypeArgument.parameterIdsOfList arguments, f id = g id) →
    TypeArgument.shapes f arguments = TypeArgument.shapes g arguments
  | [], _ => rfl
  | argument :: rest, same => by
    obtain ⟨here, behind⟩ := List.forall_mem_append.1 same
    rw [TypeArgument.shapes, TypeArgument.shapes, argument.shape_congr here,
      TypeArgument.shapes_congr rest behind]

end

theorem Classifier.eq_of_chars_eq {classifier : Classifier}
    (same : classifier.chars f = classifier.chars g) :
    ∀ id ∈ classifier.parameterIds, f id = g id := by
  cases classifier with
  | ofClass | ofAlias => simp [parameterIds]
  | ofParameter => simpa [parameterIds, chars] using same

end

section

variable (f : UInt32 → List Char)

theorem Classifier.length_chars (classifier : Classifier) :
    (classifier.chars f).length =
      (classifier.chars fun _ => []).length + (classifier.parameterIds.flatMap f).length := by
  cases classifier <;> simp [Classifier.chars, Classifier.parameterIds]

theorem ArgumentShape.closing_shapes (arguments : List TypeArgument) :
    ArgumentShape.closing (TypeArgument.shapes f arguments) =
      ArgumentShape.closing (TypeArgument.shapes (fun _ => []) arguments) := by
  cases arguments <;> rfl

mutual

theorem TypeDescriptor.length_chars : ∀ type : TypeDescriptor,
    (type.shape f).chars.length =
      (type.shape fun _ => []).chars.length + (type.parameterIds.flatMap f).length
  | .of classifier arguments => by
    have here := classifier.length_chars f
    have behind := TypeArgument.length_marked ['<'] arguments
    rw [TypeDescriptor.parameterIds_of, List.flatMap_append]
    simp only [TypeDescriptor.shape, TypeShape.chars, List.length_append,
      ArgumentShape.closing_shapes f]
    omega

theorem TypeArgument.length_chars : ∀ argument : TypeArgument,
    (argument.shape f).chars.length =
      (argument.shape fun _ => []).chars.length + (argument.parameterIds.flatMap f).length
  | .star _ => rfl
  | .projected variance type => by
    have inside := type.length_chars
    simp only [TypeArgument.shape, ArgumentShape.chars, TypeArgument.parameterIds,
      List.length_append]
    omega

theorem TypeArgument.length_marked (mark : List Char) : ∀ arguments : List TypeArgument,
    (ArgumentShape.marked mark (TypeArgument.shapes f arguments)).length =
      (ArgumentShape.marked mark (TypeArgument.shapes (fun _ => []) arguments)).length +
        ((TypeArgument.parameterIdsOfList arguments).flatMap f).length
  | [] => rfl
  | argument :: rest => by
    have here := argument.length_chars
    have behind := TypeArgument.length_marked [',', ' '] rest
    rw [TypeArgument.parameterIdsOfList, List.flatMap_append]
    simp only [TypeArgument.shapes, ArgumentShape.marked, List.length_append]
    omega

end

end

section

variable {f g : UInt32 → List Char}

theorem length_flatMap_congr (sameLength : ∀ id, (f id).length = (g id).length)
    (ids : List UInt32) : (ids.flatMap f).length = (ids.flatMap g).length := by
  simp only [List.length_flatMap, sameLength]

mutual

theorem TypeDescriptor.eq_of_chars_eq (sameLength : ∀ id, (f id).length = (g id).length) :
    ∀ type : TypeDescriptor, (type.shape f).chars = (type.shape g).chars →
    ∀ id ∈ type.parameterIds, f id = g id
  | .of classifier arguments, same => by
    have lengths : (classifier.chars f).length = (classifier.chars g).length := by
      rw [classifier.length_chars f, classifier.length_chars g, length_flatMap_congr sameLength]
    obtain ⟨here, behind⟩ := List.append_inj same lengths
    rw [ArgumentShape.closing_shapes f, ArgumentShape.closing_shapes g] at behind
    rw [TypeDescriptor.parameterIds_of]
    exact List.forall_mem_append.2 ⟨Classifier.eq_of_chars_eq here,
      TypeArgument.eq_of_marked_eq sameLength arguments (List.append_cancel_right behind)⟩

theorem TypeArgument.eq_of_chars_eq (sameLength : ∀ id, (f id).length = (g id).length) :
    ∀ argument : TypeArgument, (argument.shape f).chars = (argument.shape g).chars →
    ∀ id ∈ argument.parameterIds, f id = g id
  | .star _, _ => by simp [TypeArgument.parameterIds]
  | .projected _ type, same => type.eq_of_chars_eq sameLength (List.append_cancel_left same)

theorem TypeArgument.eq_of_marked_eq (sameLength : ∀ id, (f id).length = (g id).length)
    {mark : List Char} : ∀ arguments : List TypeArgument,
    ArgumentShape.marked mark (TypeArgument.shapes f arguments) =
      ArgumentShape.marked mark (TypeArgument.shapes g arguments) →
    ∀ id ∈ TypeArgument.parameterIdsOfList arguments, f id = g id
  | [], _ => by simp [TypeArgument.parameterIdsOfList]
  | argument :: rest, same => by
    have lengths : (argument.shape f).chars.length = (argument.shape g).chars.length := by
      rw [argument.length_chars f, argument.length_chars g, length_flatMap_congr sameLength]
    obtain ⟨here, behind⟩ := List.append_inj (List.append_cancel_left same) lengths
    exact List.forall_mem_append.2 ⟨argument.eq_of_chars_eq sameLength here,
      TypeArgument.eq_of_marked_eq sameLength rest behind⟩

end

end

namespace Member

/-- The name that a member displays at a position of its receiver. -/
def Displays (member : Member) (undeclared : List Char) (position : List Nat)
    (name : List Char) : Prop :=
  ∃ type, member.receiver = some type ∧
    ((member.shape undeclared type).at? position).map TypeShape.name = some name

/-- The first of the type parameters with an id that a member declares. -/
def DeclaresFirst (member : Member) (id : UInt32) (parameter : TypeParameter) : Prop :=
  ∃ before behind, member.parameters = before ++ parameter :: behind ∧ parameter.id = id ∧
    ∀ other ∈ before, other.id ≠ id

theorem parameter?_eq_some_iff {member : Member} {id : UInt32} {parameter : TypeParameter} :
    member.parameter? id = some parameter ↔ member.DeclaresFirst id parameter := by
  rw [parameter?, List.find?_eq_some_iff_append, DeclaresFirst]
  constructor
  · rintro ⟨same, before, behind, whole, others⟩
    exact ⟨before, behind, whole, by simpa using same, by simpa using others⟩
  · rintro ⟨before, behind, whole, same, others⟩
    exact ⟨by simpa using same, before, behind, whole, by simpa using others⟩

theorem parameterName_of_declared {member : Member} {id : UInt32} {parameter : TypeParameter}
    (declared : member.parameter? id = some parameter) (undeclared : List Char) :
    member.parameterName undeclared id = parameter.name.toList := by
  rw [parameterName, declared]

theorem parameterName_of_undeclared {member : Member} {id : UInt32}
    (absent : member.parameter? id = none) (undeclared : List Char) :
    member.parameterName undeclared id = undeclared := by
  rw [parameterName, absent]

theorem mem_undeclared_iff {member : Member} {type : TypeDescriptor}
    (receives : member.receiver = some type) {id : UInt32} :
    id ∈ member.undeclared ↔ id ∈ type.parameterIds ∧ member.parameter? id = none := by
  rw [undeclared, receives, List.mem_filter, Option.isNone_iff_eq_none]

theorem qualifiedNameWith_of_receiver {member : Member} {type : TypeDescriptor}
    (receives : member.receiver = some type) (undeclared : List Char) :
    member.qualifiedNameWith undeclared =
      String.ofList (member.shape undeclared type).chars ++ "." ++ member.name := by
  rw [qualifiedNameWith, receives, ← renderedReceiver_eq]

theorem displays_parameterName {member : Member} {type : TypeDescriptor} {position : List Nat}
    {id : UInt32} (receives : member.receiver = some type) (mentions : type.Mentions position id)
    (undeclared : List Char) :
    member.Displays undeclared position (member.parameterName undeclared id) := by
  obtain ⟨arguments, found⟩ := mentions
  refine ⟨type, receives, ?_⟩
  rw [shape, TypeDescriptor.at?_shape, found]
  rfl

theorem exists_displays_declared {member : Member} {type : TypeDescriptor} {position : List Nat}
    {id : UInt32} (sound : member.undeclared = []) (receives : member.receiver = some type)
    (mentions : type.Mentions position id) (undeclared : List Char) :
    ∃ parameter, member.DeclaresFirst id parameter ∧
      member.Displays undeclared position parameter.name.toList := by
  cases declaration : member.parameter? id with
  | none =>
    have dangles : member.Dangles position id :=
      ⟨type, receives, mentions, parameter?_eq_none_iff.1 declaration⟩
    exact absurd dangles (undeclared_eq_nil_iff.1 sound position id)
  | some parameter =>
    refine ⟨parameter, parameter?_eq_some_iff.1 declaration, ?_⟩
    rw [← parameterName_of_declared declaration undeclared]
    exact displays_parameterName receives mentions undeclared

theorem exists_displays_fallback {member : Member} (dangling : member.undeclared ≠ []) :
    ∃ position id, member.Dangles position id ∧
      ∀ undeclared, member.Displays undeclared position undeclared := by
  obtain ⟨id, others, listed⟩ := List.exists_cons_of_ne_nil dangling
  have first : member.undeclared.head? = some id := by rw [listed, List.head?_cons]
  obtain ⟨position, dangles, -⟩ := head?_undeclared_eq_some_iff.1 first
  refine ⟨position, id, dangles, fun undeclared => ?_⟩
  obtain ⟨type, receives, mentions, absent⟩ := dangles
  have written := displays_parameterName receives mentions undeclared
  rwa [parameterName_of_undeclared (parameter?_eq_none_iff.2 absent)] at written

theorem qualifiedNameWith_congr {member : Member} (sound : member.undeclared = [])
    (undeclared other : List Char) :
    member.qualifiedNameWith undeclared = member.qualifiedNameWith other := by
  cases receives : member.receiver with
  | none => rw [qualifiedNameWith, qualifiedNameWith, receives]
  | some type =>
    have same : ∀ id ∈ type.parameterIds,
        member.parameterName undeclared id = member.parameterName other id := by
      intro id mentioned
      cases declared : member.parameter? id with
      | none =>
        have listed := (mem_undeclared_iff receives).2 ⟨mentioned, declared⟩
        exact absurd (sound ▸ listed) List.not_mem_nil
      | some parameter =>
        rw [parameterName_of_declared declared, parameterName_of_declared declared]
    rw [qualifiedNameWith_of_receiver receives, qualifiedNameWith_of_receiver receives, shape,
      shape, type.shape_congr same]

section

variable {member : Member} {type : TypeDescriptor} {id : UInt32} {undeclared other : List Char}

theorem length_shape_lt (receives : member.receiver = some type) (listed : id ∈ member.undeclared)
    (shorter : undeclared.length < other.length) :
    (member.shape undeclared type).chars.length < (member.shape other type).chars.length := by
  obtain ⟨mentioned, absent⟩ := (mem_undeclared_iff receives).1 listed
  rw [shape, shape, type.length_chars (member.parameterName undeclared),
    type.length_chars (member.parameterName other)]
  refine Nat.add_lt_add_left ?_ _
  rw [List.length_flatMap, List.length_flatMap]
  apply List.sum_lt_sum
  · intro name _
    cases declared : member.parameter? name with
    | none =>
      rw [parameterName_of_undeclared declared, parameterName_of_undeclared declared]
      exact shorter.le
    | some parameter =>
      rw [parameterName_of_declared declared, parameterName_of_declared declared]
  · refine ⟨id, mentioned, ?_⟩
    rwa [parameterName_of_undeclared absent, parameterName_of_undeclared absent]

theorem eq_of_shape_eq (receives : member.receiver = some type) (listed : id ∈ member.undeclared)
    (same : (member.shape undeclared type).chars = (member.shape other type).chars) :
    undeclared = other := by
  obtain ⟨mentioned, absent⟩ := (mem_undeclared_iff receives).1 listed
  -- two lengths show in the length of the whole, and texts of one length stand in one place
  rcases lt_trichotomy undeclared.length other.length with shorter | equal | longer
  · exact absurd (congrArg List.length same) (length_shape_lt receives listed shorter).ne
  · have sameLength : ∀ name, (member.parameterName undeclared name).length =
        (member.parameterName other name).length := by
      intro name
      cases declared : member.parameter? name with
      | none => rwa [parameterName_of_undeclared declared, parameterName_of_undeclared declared]
      | some parameter =>
        rw [parameterName_of_declared declared, parameterName_of_declared declared]
    have written := type.eq_of_chars_eq sameLength same id mentioned
    rwa [parameterName_of_undeclared absent, parameterName_of_undeclared absent] at written
  · exact absurd (congrArg List.length same).symm (length_shape_lt receives listed longer).ne

end

theorem qualifiedNameWith_injective {member : Member} (dangling : member.undeclared ≠ []) :
    Function.Injective member.qualifiedNameWith := by
  obtain ⟨id, listed⟩ := List.exists_mem_of_ne_nil _ dangling
  cases receives : member.receiver with
  | none => simp [undeclared, receives] at listed
  | some type =>
    intro written other same
    rw [qualifiedNameWith_of_receiver receives, qualifiedNameWith_of_receiver receives] at same
    have texts := congrArg String.toList same
    simp only [String.toList_append, String.toList_ofList, List.append_assoc] at texts
    exact eq_of_shape_eq receives listed (List.append_cancel_right texts)

end Member

end ApiPages
