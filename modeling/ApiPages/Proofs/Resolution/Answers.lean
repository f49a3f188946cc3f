import ApiPages.Proofs.Index.Chain
import ApiPages.Proofs.Resolution.Candidates
import ApiPages.Resolution.Resolve

/-!
Answers from what is declared. A class name is answered from the declared entries of that name, a
top-level name from the declared facades, and a member from the classes that companions lead to.
Neither positions nor links are mentioned, so two indexes are compared by their declared entries.
-/

namespace ApiPages.Documentation

open Index (declaredClasses classTable linkEntry IsCompanion DeclaredClass)

def classAnswer (site : Site) (name : String) : List (Entry String) → Except ResolutionError Link
  | [] => .error (notIndexed name)
  | [entry] =>
    match entry.declared.class? with
    | some declared =>
      .ok ⟨if declared.isAnnotation then "#!java @" ++ name else name,
        Site.indexPage (site.base declared.moduleName entry.name.package entry.name.nestedName)⟩
    | none => .error (notClass entry.name)
  | several => .error (.ambiguous name (several.map fun entry => entry.name.displayName))

theorem classAnswer_of_several {found : List (Entry String)} (site : Site) (name : String)
    (several : 1 < found.length) :
    classAnswer site name found =
      .error (.ambiguous name (found.map fun entry => entry.name.displayName)) := by
  match found, several with
  | _ :: _ :: _, _ => rfl

def declaredFacades (declared : List (Entry String)) : List IndexedFacade :=
  declared.filterMap fun entry =>
    entry.declared.facade?.map fun facade => ⟨entry.name.package, facade⟩

def declaredOffers (site : Site) (kinds : KindSet) (label name : String) (owner : DeclaredClass) :
    List Candidate :=
  (declaredKinds (owner.declared.refer fun _ => none) kinds name).map fun kind =>
    ⟨kind, label, Site.memberPage
      (site.base owner.declared.moduleName owner.name.package owner.name.nestedName) name kind⟩

/-- Whether a class of the name, or a class that companions lead to from it, offers a candidate. -/
def Offered (declared : List (Entry String)) (site : Site) (kinds : KindSet)
    (className name : String) (candidate : Candidate) : Prop :=
  ∃ owner ∈ declaredClasses declared, owner.name.nestedName = dottedName className ∧
    ∃ target, Relation.ReflTransGen (IsCompanion declared) owner target ∧
      candidate ∈ declaredOffers site kinds (owner.name.nestedName ++ "." ++ name) name target

theorem Offered.mono {declared more : List (Entry String)} (within : declared ⊆ more) {site : Site}
    {kinds : KindSet} {className name : String} {candidate : Candidate}
    (offered : Offered declared site kinds className name candidate) :
    Offered more site kinds className name candidate := by
  obtain ⟨owner, member, named, target, reached, offers⟩ := offered
  refine ⟨owner, List.filterMap_subset _ within member, named, target, ?_, offers⟩
  have further : IsCompanion declared ≤ IsCompanion more := fun _ _ is => IsCompanion.mono within is
  exact Relation.ReflTransGen.mono further _ _ reached

theorem facadeCandidates_eq_of_site {documentation other : Documentation}
    (sameSite : documentation.site = other.site) :
    documentation.facadeCandidates = other.facadeCandidates := by
  funext kinds name facade
  rw [facadeCandidates, facadeCandidates, facadeBase, facadeBase, sameSite]

theorem resolveMember_of_split (documentation : Documentation) {request : Request}
    {className name : String} (split : splitMember? request.identifier = some (className, name)) :
    documentation.resolveMember request =
      if documentation.index.find className = [] then .error (notIndexed className)
      else (Candidates.ofList (documentation.memberCandidates request.kinds name
        (documentation.index.find className))).single request.identifier
          (noSuchMember className name) := by
  rw [resolveMember, split]
  dsimp only
  cases documentation.index.find className <;> rfl

theorem resolveMember_mk_of_split (documentation : Documentation) (kinds : KindSet)
    {identifier className name : String}
    (split : splitMember? identifier = some (className, name)) :
    documentation.resolveMember ⟨identifier, kinds⟩ =
      if documentation.index.find className = [] then .error (notIndexed className)
      else (Candidates.ofList (documentation.memberCandidates kinds name
        (documentation.index.find className))).single identifier (noSuchMember className name) :=
  documentation.resolveMember_of_split split

section

variable {documentation : Documentation} {declared : List (Entry String)}
  (holds : documentation.index.Holds declared)
include holds

theorem resolveClass_eq_classAnswer (name : String) :
    documentation.resolveClass name = classAnswer documentation.site name
      (declared.filter fun entry => entry.name.nestedName = dottedName name) := by
  rw [resolveClass, holds.find_eq_map]
  cases declared.filter fun entry => entry.name.nestedName = dottedName name with
  | nil => rfl
  | cons entry others =>
    cases others with
    | nil => rcases entry with ⟨owner, _ | _ | _⟩ <;> rfl
    | cons second rest =>
      simp only [classAnswer, List.map_cons, List.map_map]
      rfl

theorem facades_eq_declaredFacades : documentation.index.facades = declaredFacades declared := by
  rw [Index.facades, holds.entries_eq, Index.linkAll, List.filterMap_map, declaredFacades]
  apply List.filterMap_congr
  intro entry _
  rw [Function.comp_apply, Entry.facade?, linkEntry, Declared.facade?_refer]

theorem topLevelCandidates_eq_flatMap (kinds : KindSet) (name : String) :
    documentation.topLevelCandidates kinds name =
      (declaredFacades declared).flatMap (documentation.facadeCandidates kinds name) := by
  rw [topLevelCandidates, facades_eq_declaredFacades holds]

theorem find_eq_nil_iff (name : String) :
    documentation.index.find name = [] ↔
      ∀ entry ∈ declared, entry.name.nestedName ≠ dottedName name := by
  simp only [holds.find_eq_map, List.map_eq_nil_iff, List.filter_eq_nil_iff, decide_eq_true_eq,
    ne_eq]

theorem mem_find_class {name : String} {indexed : IndexedClass} :
    indexed ∈ (documentation.index.find name).filterMap Entry.class? ↔
      ∃ owner ∈ declaredClasses declared, owner.name.nestedName = dottedName name ∧
        indexed = owner.linked (classTable declared) := by
  simp only [holds.find_eq_map, List.filterMap_map, List.mem_filterMap, Function.comp_apply,
    Index.class?_linkEntry, Option.map_eq_some_iff, List.mem_filter, decide_eq_true_eq,
    declaredClasses]
  constructor
  · rintro ⟨entry, ⟨member, named⟩, owner, isDeclared, rfl⟩
    obtain ⟨_, _, rfl⟩ := Option.map_eq_some_iff.1 isDeclared
    exact ⟨_, ⟨entry, member, isDeclared⟩, named, rfl⟩
  · rintro ⟨owner, ⟨entry, member, isDeclared⟩, named, rfl⟩
    obtain ⟨_, _, rfl⟩ := Option.map_eq_some_iff.1 isDeclared
    exact ⟨entry, ⟨member, named⟩, _, isDeclared, rfl⟩

theorem mem_memberCandidates_iff {kinds : KindSet} {className name : String}
    {candidate : Candidate} :
    candidate ∈ documentation.memberCandidates kinds name (documentation.index.find className) ↔
      Offered declared documentation.site kinds className name candidate := by
  simp only [memberCandidates, List.mem_flatMap, mem_find_class holds, classCandidates]
  constructor
  · rintro ⟨_, ⟨owner, member, named, rfl⟩, other, onChain, offers⟩
    obtain ⟨target, reached, rfl⟩ := (holds.mem_chain_iff member).1 onChain
    exact ⟨owner, member, named, target, reached, offers⟩
  · rintro ⟨owner, member, named, target, reached, offers⟩
    refine ⟨_, ⟨owner, member, named, rfl⟩, target.linked (classTable declared), ?_, offers⟩
    exact (holds.mem_chain_iff member).2 ⟨target, reached, rfl⟩

theorem label_of_mem_memberCandidates {kinds : KindSet} {className name : String}
    {candidate : Candidate} (member : candidate ∈
      documentation.memberCandidates kinds name (documentation.index.find className)) :
    candidate.link.label = dottedName className ++ "." ++ name := by
  obtain ⟨owner, _, named, target, _, offers⟩ := (mem_memberCandidates_iff holds).1 member
  obtain ⟨kind, _, rfl⟩ := List.mem_map.1 offers
  rw [named]

end

end ApiPages.Documentation
