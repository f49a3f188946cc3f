import ApiPages.Text.Character
import ApiPages.Text.Segments

/-!
Functions and properties, with types as the receivers of extensions need them. Types are displayed
and never matched. A class is displayed from its first capital on, which cuts its package off.
-/

namespace ApiPages

inductive Classifier where
  | ofClass (name : String)
  | ofParameter (id : UInt32)
  | ofAlias (name : String)
deriving DecidableEq, Repr

inductive Variance where
  | invariant
  | contravariant
  | covariant
deriving DecidableEq, Repr

mutual

inductive TypeDescriptor where
  | of (classifier : Classifier) (arguments : List TypeArgument)

/-- A star stands for any type; what variance is written beside it does not matter. -/
inductive TypeArgument where
  | star (variance : Variance)
  | projected (variance : Variance) (type : TypeDescriptor)

end

namespace Variance

def word : Variance → List Char
  | .invariant => []
  | .contravariant => ['i', 'n', ' ']
  | .covariant => ['o', 'u', 't', ' ']

end Variance

namespace TypeDescriptor

def classifier : TypeDescriptor → Classifier
  | .of classifier _ => classifier

def arguments : TypeDescriptor → List TypeArgument
  | .of _ arguments => arguments

/-- The name of a class as it is displayed: from the first capital on, with dots for slashes. -/
def displayedName (name : String) : List Char :=
  Text.swap '/' '.' (name.toList.dropWhile fun c => !Text.isUpper c)

def listed : List (List Char) → List Char
  | [] => []
  | [last] => last
  | first :: rest => first ++ ',' :: ' ' :: listed rest

end TypeDescriptor

def Classifier.chars (parameterName : UInt32 → List Char) : Classifier → List Char
  | .ofClass name => TypeDescriptor.displayedName name
  | .ofAlias name => TypeDescriptor.displayedName name
  | .ofParameter id => parameterName id

mutual

/-- The type in source notation, given how type parameters are called. -/
def TypeDescriptor.chars (parameterName : UInt32 → List Char) : TypeDescriptor → List Char
  | .of classifier [] => classifier.chars parameterName
  | .of classifier (first :: rest) =>
    classifier.chars parameterName ++
      '<' :: TypeDescriptor.listed
        (TypeArgument.chars parameterName first :: TypeArgument.charsOfList parameterName rest) ++
      ['>']

def TypeArgument.chars (parameterName : UInt32 → List Char) : TypeArgument → List Char
  | .star _ => ['*']
  | .projected variance type => variance.word ++ TypeDescriptor.chars parameterName type

def TypeArgument.charsOfList (parameterName : UInt32 → List Char) :
    List TypeArgument → List (List Char)
  | [] => []
  | argument :: rest =>
    TypeArgument.chars parameterName argument :: TypeArgument.charsOfList parameterName rest

end

mutual

/-- The ids of the type parameters in a type, each before those in its arguments. -/
def TypeDescriptor.parameterIds : TypeDescriptor → List UInt32
  | .of (.ofParameter id) arguments => id :: TypeArgument.parameterIdsOfList arguments
  | .of _ arguments => TypeArgument.parameterIdsOfList arguments

def TypeArgument.parameterIds : TypeArgument → List UInt32
  | .star _ => []
  | .projected _ type => type.parameterIds

def TypeArgument.parameterIdsOfList : List TypeArgument → List UInt32
  | [] => []
  | argument :: rest => argument.parameterIds ++ TypeArgument.parameterIdsOfList rest

end

-- Nothing is displayed of a name without a capital.
example : TypeDescriptor.displayedName "a/b/lower" = [] := by decide

/-!
A member with a receiver is an extension and is displayed behind its receiver; the type parameters
of the receiver are those that the member declares.
-/

structure TypeParameter where
  id : UInt32
  name : String
deriving DecidableEq, Repr

structure Member where
  name : String
  receiver : Option TypeDescriptor
  parameters : List TypeParameter

namespace Member

def isExtension (member : Member) : Bool := member.receiver.isSome

def parameter? (member : Member) (id : UInt32) : Option TypeParameter :=
  member.parameters.find? fun parameter => parameter.id = id

/-- What a type parameter is called in the receiver. Only a member that was not decoded can refer
to a parameter it does not declare. -/
def parameterName (member : Member) (undeclared : List Char) (id : UInt32) : List Char :=
  match member.parameter? id with
  | some parameter => parameter.name.toList
  | none => undeclared

def renderedReceiver (member : Member) (undeclared : List Char) (type : TypeDescriptor) : String :=
  String.ofList (type.chars (member.parameterName undeclared))

def qualifiedNameWith (member : Member) (undeclared : List Char) : String :=
  match member.receiver with
  | some type => member.renderedReceiver undeclared type ++ "." ++ member.name
  | none => member.name

/-- The name behind the receiver. A star stands for an undeclared type parameter. -/
def qualifiedName (member : Member) : String := member.qualifiedNameWith ['*']

def receiverText (member : Member) : Option String :=
  member.receiver.map (member.renderedReceiver ['*'])

/-- The ids in the receiver that the member does not declare, in the order they are written. -/
def undeclared (member : Member) : List UInt32 :=
  match member.receiver with
  | some type => type.parameterIds.filter fun id => (member.parameter? id).isNone
  | none => []

example :
    (Member.mk "firstOrNull"
      (some (.of (.ofClass "kotlin/collections/List")
        [.projected .covariant (.of (.ofParameter 0) [])]))
      [⟨0, "T"⟩]).qualifiedName = "List<out T>.firstOrNull" := by
  decide

end Member

end ApiPages
