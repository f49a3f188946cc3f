import ApiPages.Declaration.Member
import ApiPages.Json.Value

/-!
Members in records. A member, a type parameter, a type and a type argument are records of their
own, each an object or an array of its fields; a classifier is an object with a single key. What
is written here reads back.
-/

namespace ApiPages

open Json (withDefault optional list?)

namespace Variance

def all : List Variance := [.invariant, .contravariant, .covariant]

def name : Variance → String
  | .invariant => "invariant"
  | .contravariant => "in"
  | .covariant => "out"

def ofName? (name : String) : Option Variance := all.find? fun variance => variance.name == name

def ofJson? (value : Json) : Option Variance := value.choice?.bind ofName?

theorem ofName?_name (variance : Variance) : ofName? variance.name = some variance := by
  cases variance <;> decide

end Variance

namespace Classifier

def ofJson? : Json → Option Classifier
  | .object [("class", value)] => value.text?.map .ofClass
  | .object [("type_parameter", value)] => value.word?.map .ofParameter
  | .object [("type_alias", value)] => value.text?.map .ofAlias
  | _ => none

def toJson : Classifier → Json
  | .ofClass name => .object [("class", .string name)]
  | .ofParameter id => .object [("type_parameter", Json.ofWord id)]
  | .ofAlias name => .object [("type_alias", .string name)]

theorem ofJson?_toJson (classifier : Classifier) : ofJson? classifier.toJson = some classifier := by
  cases classifier <;> simp [toJson, ofJson?, Json.text?, Json.word?_ofWord]

end Classifier

namespace TypeParameter

def fieldNames : List String := ["id", "name"]

def ofJson? (value : Json) : Option TypeParameter := do
  match ← value.slots? fieldNames with
  | [some id, some name] => some ⟨← id.word?, ← name.text?⟩
  | _ => none

def toJson (parameter : TypeParameter) : Json :=
  .object [("id", Json.ofWord parameter.id), ("name", .string parameter.name)]

end TypeParameter

namespace TypeArgument

def fieldNames : List String := ["variance", "type"]

/-- An argument, given how the type inside it is read. -/
def ofJsonWith? (type? : Json → Option TypeDescriptor) (value : Json) : Option TypeArgument := do
  match ← value.slots? fieldNames with
  | [variance, type] =>
    let variance ← withDefault .invariant Variance.ofJson? variance
    match ← optional type? type with
    | none => some (.star variance)
    | some type => some (.projected variance type)
  | _ => none

end TypeArgument

namespace TypeDescriptor

def fieldNames : List String := ["classifier", "arguments"]

/-- A type out of a value nested at most `levels` deep. -/
def ofJsonWithin? : Nat → Json → Option TypeDescriptor
  | 0, _ => none
  | levels + 1, value => do
    match ← value.slots? fieldNames with
    | [some classifier, arguments] =>
      let classifier ← Classifier.ofJson? classifier
      let argument? := TypeArgument.ofJsonWith? (ofJsonWithin? levels)
      some (.of classifier (← withDefault [] (list? argument?) arguments))
    | _ => none

def ofJson? (value : Json) : Option TypeDescriptor := ofJsonWithin? value.depth value

end TypeDescriptor

mutual

def TypeDescriptor.toJson : TypeDescriptor → Json
  | .of classifier arguments =>
    .object [("classifier", classifier.toJson),
      ("arguments", .array (TypeArgument.toJsonOfList arguments))]

def TypeArgument.toJson : TypeArgument → Json
  | .star variance => .object [("variance", .string variance.name), ("type", .null)]
  | .projected variance type =>
    .object [("variance", .string variance.name), ("type", type.toJson)]

def TypeArgument.toJsonOfList : List TypeArgument → List Json
  | [] => []
  | argument :: rest => argument.toJson :: TypeArgument.toJsonOfList rest

end

namespace Member

def fieldNames : List String := ["name", "receiver", "type_parameters"]

def ofJson? (value : Json) : Option Member := do
  match ← value.slots? fieldNames with
  | [some name, receiver, parameters] =>
    some {
      name := ← name.text?
      receiver := ← optional TypeDescriptor.ofJson? receiver
      parameters := ← withDefault [] (list? TypeParameter.ofJson?) parameters }
  | _ => none

def toJson (member : Member) : Json :=
  .object [
    ("name", .string member.name),
    ("receiver", (member.receiver.map TypeDescriptor.toJson).getD .null),
    ("type_parameters", .array (member.parameters.map TypeParameter.toJson))]

example : (ofJson? (.array [.string "f"])).map Member.name = some "f" := by decide

end Member

end ApiPages
