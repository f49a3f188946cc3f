import ApiPages.Proofs.Resolution.Offers

/-!
Requests for fewer kinds of members. What is offered for a set of kinds is the part of all offers
that the set admits. So asking for fewer kinds takes candidates away and leaves the others in their
order, and a page that was found is lost only if it is that of a kind that is not asked for.
-/

namespace ApiPages

/-- How an answer may change when fewer kinds are asked for. The answer for the fewer kinds stands
to the left. What it means that a link is lost is a parameter. -/
inductive Narrowed (lost : Link → Prop) :
    Except ResolutionError Link → Except ResolutionError Link → Prop
  | unchanged (answer : Except ResolutionError Link) : Narrowed lost answer answer
  | gone {link : Link} (reason : String) (unreachable : lost link) :
      Narrowed lost (.error (.notFound reason)) (.ok link)
  | emptied (reason identifier : String) (candidates : List String) :
      Narrowed lost (.error (.notFound reason)) (.error (.ambiguous identifier candidates))
  | settled {link : Link} (identifier : String) {candidates : List String}
      (listed : link.url ∈ candidates) :
      Narrowed lost (.ok link) (.error (.ambiguous identifier candidates))
  | fewer (identifier : String) {candidates others : List String}
      (kept : candidates.Sublist others) :
      Narrowed lost (.error (.ambiguous identifier candidates))
        (.error (.ambiguous identifier others))

theorem Narrowed.lost_of_notFound {lost : Link → Prop} {few many : Except ResolutionError Link}
    (narrowed : Narrowed lost few many) {reason : String}
    (missing : few = .error (.notFound reason)) {link : Link} (found : many = .ok link) :
    lost link := by
  subst missing found
  cases narrowed with
  | gone _ unreachable => exact unreachable

/-- Whether all that leads to a link is of one kind, a function or property that is not admitted. -/
def LeftOut (leads : MemberKind → String → Prop) (kinds : KindSet) (link : Link) : Prop :=
  ∃ kind, kind ≠ .enumEntry ∧ ¬kinds.admits kind ∧ ∀ other, leads other link.url ↔ other = kind

namespace Candidates

def admitted (kinds : KindSet) (offered : List Candidate) : List Candidate :=
  offered.filter fun candidate => kinds.admits candidate.kind

theorem firstsBy_admitted (kinds : KindSet) (offered : List Candidate) :
    firstsBy Candidate.key (admitted kinds offered) =
      admitted kinds (firstsBy Candidate.key offered) :=
  firstsBy_filter Candidate.key (fun key => kinds.admits key.1) offered

theorem admitted_admitted {few many : KindSet}
    (within : ∀ kind, few.admits kind → many.admits kind) (offered : List Candidate) :
    admitted few (admitted many offered) = admitted few offered := by
  rw [admitted, admitted, admitted, List.filter_filter]
  apply List.filter_congr
  intro candidate _
  rw [Bool.and_eq_left_iff_imp]
  exact within candidate.kind

theorem key_mem_iff_of_one {offered : List Candidate} {only : Candidate}
    (found : firstsBy Candidate.key offered = [only]) {kind : MemberKind} :
    (kind, only.link.url) ∈ offered.map Candidate.key ↔ kind = only.kind := by
  rw [← mem_map_key_firstsBy, found, List.map_singleton, List.mem_singleton, Candidate.key,
    Prod.mk.injEq]
  exact and_iff_left rfl

theorem single_narrowed {offered : List Candidate} {leads : MemberKind → String → Prop}
    (offers : ∀ {kind url}, (kind, url) ∈ offered.map Candidate.key ↔ leads kind url)
    (kinds : KindSet) (identifier notFound : String) :
    Narrowed (LeftOut leads kinds) ((ofList (admitted kinds offered)).single identifier notFound)
      ((ofList offered).single identifier notFound) := by
  rw [single_ofList, firstsBy_admitted, single_ofList]
  cases found : firstsBy Candidate.key offered with
  | nil => exact .unchanged _
  | cons first rest =>
    cases rest with
    | nil =>
      by_cases asked : kinds.admits first.kind
      · rw [admitted, List.filter_singleton, asked]
        exact .unchanged _
      · have left : admitted kinds [first] = [] := by simp [admitted, asked]
        rw [left]
        apply Narrowed.gone
        refine ⟨first.kind, ?_, asked, fun other => ?_⟩
        · -- enum entries are admitted by every set
          intro entry
          exact asked (entry ▸ rfl)
        · rw [← offers, key_mem_iff_of_one found]
    | cons second rest =>
      have kept : (admitted kinds (first :: second :: rest)).Sublist (first :: second :: rest) :=
        List.filter_sublist
      revert kept
      generalize admitted kinds (first :: second :: rest) = left
      intro kept
      match left with
      | [] => exact .emptied _ _ _
      | [one] => exact .settled identifier (List.mem_map_of_mem (kept.subset List.mem_cons_self))
      | _ :: _ :: _ => exact .fewer identifier (kept.map _)

end Candidates

namespace Documentation

/-- Whether a request leads to a page as one of a kind: some declaration of that kind, of the name
that is asked for, has its page there. -/
inductive LeadsTo (documentation : Documentation) (request : Request) (kind : MemberKind)
    (url : String) : Prop
  | topLevel {facade : IndexedFacade}
      (asked : Target.ofIdentifier request.identifier = .topLevel)
      (listed : facade ∈ documentation.index.facades)
      (declares : Declares facade.declared request.kinds request.identifier kind)
      (page : Site.memberPage (documentation.facadeBase facade) request.identifier kind = url)
  | member {className name : String} {owner declaring : IndexedClass}
      (asked : Target.ofIdentifier request.identifier = .classMember)
      (split : splitMember? request.identifier = some (className, name))
      (listed : owner ∈ documentation.index.classes)
      (named : owner.name.nestedName = dottedName className)
      (reached : Relation.ReflTransGen (fun one companion =>
        documentation.index.companionOf one = some companion) owner declaring)
      (declares : kind ∈ offeredKinds declaring.declared request.kinds name)
      (page : Site.memberPage (documentation.classBase declaring) name kind = url)

open Candidates (admitted admitted_admitted)

theorem filter_admits {α : Type} (kinds : KindSet) (kindOf : α → MemberKind) (kind : MemberKind)
    {items : List α} (same : ∀ item ∈ items, kindOf item = kind) :
    (items.filter fun item => kinds.admits (kindOf item)) =
      if kinds.admits kind then items else [] := by
  split
  · next asked =>
    rw [List.filter_eq_self]
    intro item member
    rw [same item member, asked]
  · next unasked =>
    rw [List.filter_eq_nil_iff]
    intro item member
    rwa [same item member]

theorem declaredKinds_eq_filter (declared : ClassDeclaration Companion) (kinds : KindSet)
    (name : String) :
    declaredKinds declared kinds name = (declaredKinds declared .all name).filter kinds.admits := by
  rw [declaredKinds, declaredKinds, List.filter_append, List.filter_append]
  congr 1
  · congr 1
    · by_cases none : named name declared.functions = []
      · simp [none]
      · cases asked : kinds.functions <;> simp [none, asked, KindSet.all, KindSet.admits]
    · exact (filter_admits kinds id .property (by simp)).symm
  · exact (filter_admits kinds id .enumEntry (by simp)).symm

theorem facadeCandidates_eq_admitted (documentation : Documentation) (kinds : KindSet)
    (name : String) (facade : IndexedFacade) :
    documentation.facadeCandidates kinds name facade =
      admitted kinds (documentation.facadeCandidates .all name facade) := by
  rw [admitted, facadeCandidates, facadeCandidates, List.filter_append]
  congr 1
  · exact (filter_admits kinds Candidate.kind .function (by simp [functionCandidates])).symm
  · exact (filter_admits kinds Candidate.kind .property (by simp [propertyCandidates])).symm

theorem topLevelCandidates_eq_admitted (documentation : Documentation) (kinds : KindSet)
    (name : String) :
    documentation.topLevelCandidates kinds name =
      admitted kinds (documentation.topLevelCandidates .all name) := by
  rw [topLevelCandidates, topLevelCandidates, admitted, List.filter_flatMap]
  congr 1
  funext facade
  exact facadeCandidates_eq_admitted documentation kinds name facade

theorem ownCandidates_eq_admitted (documentation : Documentation) (kinds : KindSet)
    (label name : String) (declaring : IndexedClass) :
    documentation.ownCandidates kinds label name declaring =
      admitted kinds (documentation.ownCandidates .all label name declaring) := by
  rw [ownCandidates, ownCandidates, admitted, List.filter_map, declaredKinds_eq_filter]
  rfl

theorem memberCandidates_eq_admitted (documentation : Documentation) (kinds : KindSet)
    (name : String) (entries : List (Entry Companion)) :
    documentation.memberCandidates kinds name entries =
      admitted kinds (documentation.memberCandidates .all name entries) := by
  rw [memberCandidates, memberCandidates, admitted, List.filter_flatMap]
  congr 1
  funext owner
  rw [classCandidates, classCandidates, List.filter_flatMap]
  congr 1
  funext declaring
  exact ownCandidates_eq_admitted documentation kinds _ name declaring

section

variable {documentation : Documentation} {few many : KindSet}
  (within : ∀ kind, few.admits kind → many.admits kind)
include within

theorem topLevelCandidates_narrowed (name : String) :
    documentation.topLevelCandidates few name =
      admitted few (documentation.topLevelCandidates many name) := by
  rw [topLevelCandidates_eq_admitted, topLevelCandidates_eq_admitted documentation many,
    admitted_admitted within]

theorem memberCandidates_narrowed (name : String) (entries : List (Entry Companion)) :
    documentation.memberCandidates few name entries =
      admitted few (documentation.memberCandidates many name entries) := by
  rw [memberCandidates_eq_admitted, memberCandidates_eq_admitted documentation many,
    admitted_admitted within]

theorem resolveTopLevel_narrowed {identifier : String}
    (asked : Target.ofIdentifier identifier = .topLevel) :
    Narrowed (LeftOut (documentation.LeadsTo ⟨identifier, many⟩) few)
      (documentation.resolveTopLevel ⟨identifier, few⟩)
      (documentation.resolveTopLevel ⟨identifier, many⟩) := by
  rw [resolveTopLevel, resolveTopLevel, topLevelCandidates_narrowed within]
  apply Candidates.single_narrowed
  intro kind url
  rw [key_mem_topLevelCandidates_iff]
  constructor
  · rintro ⟨facade, listed, declares, page⟩
    exact .topLevel asked listed declares page
  · intro leads
    cases leads with
    | topLevel _ listed declares page => exact ⟨_, listed, declares, page⟩
    | member other =>
      rw [asked] at other
      cases other

theorem resolveMember_narrowed {declared : List (Entry String)}
    (holds : documentation.index.Holds declared) {identifier : String}
    (asked : Target.ofIdentifier identifier = .classMember) :
    Narrowed (LeftOut (documentation.LeadsTo ⟨identifier, many⟩) few)
      (documentation.resolveMember ⟨identifier, few⟩)
      (documentation.resolveMember ⟨identifier, many⟩) := by
  cases split : splitMember? identifier with
  | none =>
    rw [resolveMember, resolveMember, split]
    exact .unchanged _
  | some names =>
    obtain ⟨className, name⟩ := names
    rw [resolveMember_mk_of_split _ few split, resolveMember_mk_of_split _ many split]
    by_cases unknown : documentation.index.find className = []
    · rw [if_pos unknown, if_pos unknown]
      exact .unchanged _
    · rw [if_neg unknown, if_neg unknown, memberCandidates_narrowed within]
      apply Candidates.single_narrowed
      intro kind url
      rw [key_mem_memberCandidates_iff holds]
      constructor
      · rintro ⟨owner, listed, named, declaring, reached, declares, page⟩
        exact .member asked split listed named reached declares page
      · intro leads
        cases leads with
        | topLevel other =>
          rw [asked] at other
          cases other
        | member _ again listed named reached declares page =>
          obtain ⟨rfl, rfl⟩ := Prod.mk.inj (Option.some.inj (split.symm.trans again))
          exact ⟨_, listed, named, _, reached, declares, page⟩

theorem resolve_narrowed {declared : List (Entry String)}
    (holds : documentation.index.Holds declared) (identifier : String) :
    Narrowed (LeftOut (documentation.LeadsTo ⟨identifier, many⟩) few)
      (documentation.resolve ⟨identifier, few⟩) (documentation.resolve ⟨identifier, many⟩) := by
  rw [resolve, resolve]
  cases target : Target.ofIdentifier identifier with
  | topLevel => exact resolveTopLevel_narrowed within target
  | classMember => exact resolveMember_narrowed within holds target
  | classPage => exact .unchanged _

end

theorem resolve_eq_of_no_member (documentation : Documentation) {identifier : String}
    (capital : ¬identifier.toList.head?.any Text.isLower)
    (hashes : identifier.toList.count '#' ≠ 1) (few many : KindSet) :
    documentation.resolve ⟨identifier, few⟩ = documentation.resolve ⟨identifier, many⟩ := by
  rw [resolve, resolve]
  cases target : Target.ofIdentifier identifier with
  | topLevel => exact absurd (Target.ofIdentifier_eq_topLevel_iff.1 target) capital
  | classMember =>
    rw [resolveAs, resolveAs, resolveMember, resolveMember, splitMember?_eq_none_iff.2 hashes]
  | classPage => rfl

/-- Asking for fewer kinds only takes candidates away, and only those of members that are not of
these kinds. -/
theorem resolve_fewerKinds (filter : PackageFilter) (records : List Record) (site : Site)
    (identifier : String) {few many : KindSet}
    (within : ∀ kind, few.admits kind → many.admits kind) :
    let documentation := Documentation.ofRecords filter records site
    Narrowed (LeftOut (documentation.LeadsTo ⟨identifier, many⟩) few)
        (documentation.resolve ⟨identifier, few⟩) (documentation.resolve ⟨identifier, many⟩) ∧
      ((¬identifier.toList.head?.any Text.isLower) → identifier.toList.count '#' ≠ 1 →
        documentation.resolve ⟨identifier, few⟩ = documentation.resolve ⟨identifier, many⟩) := by
  intro documentation
  constructor
  · exact resolve_narrowed within (Index.holds_build filter records) identifier
  · intro capital hashes
    exact documentation.resolve_eq_of_no_member capital hashes few many

theorem resolve_fewerKinds_property :
    let documentation := Documentation.ofRecords .all [.ofClass "a/Outer" "create" none] .default
    let link : Link := ⟨"Outer.create", "https://docs.example/module/a/outer/create.html"⟩
    (∀ kind, KindSet.property.admits kind → KindSet.all.admits kind) ∧
      documentation.resolve ⟨"Outer#create", .all⟩ = .ok link ∧
      documentation.resolve ⟨"Outer#create", .property⟩ = .error (.notFound
        "'create' is neither a function, property or enum value in 'Outer'") ∧
      LeftOut (documentation.LeadsTo ⟨"Outer#create", .all⟩) .property link := by
  intro documentation link
  have within : ∀ kind, KindSet.property.admits kind → KindSet.all.admits kind := by
    rintro (_ | _ | _) _ <;> rfl
  have found : documentation.resolve ⟨"Outer#create", .all⟩ = .ok link := by decide +kernel
  have missing : documentation.resolve ⟨"Outer#create", .property⟩ = .error (.notFound
      "'create' is neither a function, property or enum value in 'Outer'") := by
    decide +kernel
  have narrowed := (resolve_fewerKinds .all [.ofClass "a/Outer" "create" none] .default
    "Outer#create" within).1
  exact ⟨within, found, missing, narrowed.lost_of_notFound missing found⟩

end Documentation

end ApiPages
