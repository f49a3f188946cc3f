import ApiPages.Index.Build
import ApiPages.Query.Request

/-!
Resolution of requests and queries in published documentation: an index, and the site that holds a
page for each thing in it. What an identifier asks for shows in its spelling: one that starts with a
small letter is a top-level member, any other one with a hash sign is a member of a class, and the
rest are classes.
-/

namespace ApiPages

structure Documentation where
  index : Index
  site : Site

namespace Documentation

def ofRecords (filter : PackageFilter) (records : List Record) (site : Site) : Documentation :=
  ⟨.build filter records, site⟩

def classBase (documentation : Documentation) (indexed : IndexedClass) : String :=
  documentation.site.base indexed.declared.moduleName indexed.name.package indexed.name.nestedName

def facadeBase (documentation : Documentation) (indexed : IndexedFacade) : String :=
  documentation.site.base indexed.declared.moduleName indexed.package ""

def classPage (documentation : Documentation) (indexed : IndexedClass) : String :=
  Site.indexPage (documentation.classBase indexed)

/-!
A class name has to belong to one entry, and that entry has to be a class. The label is the name as
it was asked for; an annotation is marked as one.
-/

def notIndexed (name : String) : ResolutionError := .notFound ("'" ++ name ++ "' was not found")

def notClass (name : BinaryName) : ResolutionError :=
  .notFound ("'" ++ name.displayName ++ "' is not a class")

def classLabel (declared : ClassDeclaration Companion) (name : String) : String :=
  if declared.isAnnotation then "#!java @" ++ name else name

def resolveClass (documentation : Documentation) (name : String) :
    Except ResolutionError Link :=
  match documentation.index.find name with
  | [] => .error (notIndexed name)
  | [entry] =>
    match entry.class? with
    | some indexed => .ok ⟨classLabel indexed.declared name, documentation.classPage indexed⟩
    | none => .error (notClass entry.name)
  | several => .error (.ambiguous name (several.map fun entry => entry.name.displayName))

/-!
Every class of the name offers its own members and those of its companions. All overloads of a
function share a page and are one candidate. Members of a companion are labelled with the class that
was asked for and linked below the companion.
-/

def named (name : String) (members : List Member) : List Member :=
  members.filter fun member => member.name = name

/-- The kinds in which a class declares a name, as often as it declares it. -/
def declaredKinds (declared : ClassDeclaration Companion) (kinds : KindSet) (name : String) :
    List MemberKind :=
  (if kinds.functions ∧ named name declared.functions ≠ [] then [.function] else []) ++
    (if kinds.properties then (named name declared.properties).map fun _ => .property else []) ++
    (declared.enumEntries.filter (· = name)).map fun _ => .enumEntry

def memberLabel (indexed : IndexedClass) (name : String) : String :=
  indexed.name.nestedName ++ "." ++ name

def ownCandidates (documentation : Documentation) (kinds : KindSet) (label name : String)
    (indexed : IndexedClass) : List Candidate :=
  (declaredKinds indexed.declared kinds name).map fun kind =>
    ⟨kind, label, Site.memberPage (documentation.classBase indexed) name kind⟩

def classCandidates (documentation : Documentation) (kinds : KindSet) (name : String)
    (indexed : IndexedClass) : List Candidate :=
  (documentation.index.chain indexed).flatMap
    (documentation.ownCandidates kinds (memberLabel indexed name) name)

/-- What some entries offer. One that is not a class offers nothing. -/
def memberCandidates (documentation : Documentation) (kinds : KindSet) (name : String)
    (entries : List (Entry Companion)) : List Candidate :=
  (entries.filterMap Entry.class?).flatMap (documentation.classCandidates kinds name)

/-- The class and the member on the two sides of the only hash sign. -/
def splitMember? (identifier : String) : Option (String × String) :=
  match Text.split '#' identifier.toList with
  | [name, member] => some (String.ofList name, String.ofList member)
  | _ => none

def noSuchMember (className member : String) : String :=
  "'" ++ member ++ "' is neither a function, property or enum value in '" ++ className ++ "'"

def resolveMember (documentation : Documentation) (request : Request) :
    Except ResolutionError Link :=
  match splitMember? request.identifier with
  | none => .error (.malformedMember request.identifier)
  | some (className, member) =>
    match documentation.index.find className with
    | [] => .error (notIndexed className)
    | entries =>
      (Candidates.ofList (documentation.memberCandidates request.kinds member entries)).single
        request.identifier (noSuchMember className member)

/-!
Every facade offers its functions and then its properties of the name. A function is labelled with
its receiver, a property with its bare name.
-/

def functionCandidates (base name : String) (members : List Member) : List Candidate :=
  (named name members).map fun member =>
    ⟨.function, member.qualifiedName, Site.memberPage base name .function⟩

def propertyCandidates (base name : String) (members : List Member) : List Candidate :=
  (named name members).map fun member =>
    ⟨.property, member.name, Site.memberPage base name .property⟩

def facadeCandidates (documentation : Documentation) (kinds : KindSet) (name : String)
    (indexed : IndexedFacade) : List Candidate :=
  let base := documentation.facadeBase indexed
  (if kinds.functions then functionCandidates base name indexed.declared.functions else []) ++
    (if kinds.properties then propertyCandidates base name indexed.declared.properties else [])

def topLevelCandidates (documentation : Documentation) (kinds : KindSet) (name : String) :
    List Candidate :=
  documentation.index.facades.flatMap (documentation.facadeCandidates kinds name)

def noSuchTopLevel (name : String) : String :=
  "'" ++ name ++ "' is neither a top-level function or property"

def resolveTopLevel (documentation : Documentation) (request : Request) :
    Except ResolutionError Link :=
  (Candidates.ofList (documentation.topLevelCandidates request.kinds request.identifier)).single
    request.identifier (noSuchTopLevel request.identifier)

end Documentation

inductive Target where
  | topLevel
  | classMember
  | classPage
deriving DecidableEq, Repr

def Target.ofIdentifier (identifier : String) : Target :=
  if (identifier.toList.head?.any Text.isLower) then .topLevel
  else if '#' ∈ identifier.toList then .classMember
  else .classPage

theorem Target.ofIdentifier_eq_topLevel_iff {identifier : String} :
    ofIdentifier identifier = .topLevel ↔ identifier.toList.head?.any Text.isLower := by
  unfold ofIdentifier
  by_cases small : identifier.toList.head?.any Text.isLower
  · simp [small]
  · by_cases hash : '#' ∈ identifier.toList <;> simp [small, hash]

namespace Documentation

def resolveAs (documentation : Documentation) (request : Request) :
    Target → Except ResolutionError Link
  | .topLevel => documentation.resolveTopLevel request
  | .classMember => documentation.resolveMember request
  | .classPage => documentation.resolveClass request.identifier

def resolve (documentation : Documentation) (request : Request) : Except ResolutionError Link :=
  documentation.resolveAs request (.ofIdentifier request.identifier)

/-- The one page that a query names. -/
def answer (documentation : Documentation) (query : String) : Except ResolutionError Link :=
  (Request.parse query).bind documentation.resolve

theorem answer_of_no_blank (documentation : Documentation) {name : String}
    (unbroken : ¬name.toList.any Text.isBlank) :
    documentation.answer name =
      if name = "" then .error .emptyIdentifier else documentation.resolve ⟨name, .all⟩ := by
  rw [answer, Request.parse_of_no_blank unbroken]
  split <;> rfl

end Documentation

end ApiPages
