import ApiPages.Proofs.Resolution.Answers
import Mathlib.Data.List.Infix

/-!
Growth. Records that are found behind others leave the entries of these in their places and only
add entries, companions and offers. So a page that was the answer stays the answer or becomes one of
several candidates, and contested candidates stay contested.
-/

namespace ApiPages

theorem Index.declaredEntries_isPrefix {scanned others : List Record} (more : scanned <+: others) :
    declaredEntries scanned <+: declaredEntries others := by
  have kept := (firstsBy_isPrefix Record.name more).filterMap Record.kept?
  rw [declaredEntries, declaredEntries, List.prefix_take_iff]
  constructor
  · exact (List.take_prefix _ _).trans kept
  · exact List.length_take_le _ _

/-- How an answer may change when more is documented. What it means that contested candidates list
a page that was found is a parameter. -/
inductive Stands (lists : Link → List String → Prop) :
    Except ResolutionError Link → Except ResolutionError Link → Prop
  | found (link : Link) : Stands lists (.ok link) (.ok link)
  | contested {link : Link} (identifier : String) {candidates : List String}
      (listed : lists link candidates) :
      Stands lists (.ok link) (.error (.ambiguous identifier candidates))
  | ambiguous (identifier : String) {candidates more : List String}
      (kept : ∀ text, candidates.count text ≤ more.count text) :
      Stands lists (.error (.ambiguous identifier candidates)) (.error (.ambiguous identifier more))
  | undocumented (reason : String) (answer : Except ResolutionError Link) :
      Stands lists (.error (.notFound reason)) answer
  | faulty {error : ResolutionError} (user : error.isUserError) :
      Stands lists (.error error) (.error error)

theorem Candidates.single_stands {offered more : List Candidate} (identifier notFound : String)
    (keys : offered.map Candidate.key ⊆ more.map Candidate.key)
    (sameLabel : ∀ one ∈ firstsBy Candidate.key offered, ∀ other ∈ firstsBy Candidate.key more,
      one.key = other.key → one.link.label = other.link.label) :
    Stands (fun link candidates => link.url ∈ candidates)
      ((ofList offered).single identifier notFound) ((ofList more).single identifier notFound) := by
  have kept := firstsBy_keys_subperm Candidate.key keys
  cases found : firstsBy Candidate.key offered with
  | nil =>
    rw [single_ofList, found]
    exact .undocumented notFound _
  | cons one rest =>
    have oneKept : one.key ∈ (firstsBy Candidate.key more).map Candidate.key := by
      apply kept.subset
      rw [found]
      exact List.mem_cons_self
    obtain ⟨other, otherKept, sameKey⟩ := List.mem_map.1 oneKept
    rcases Nat.lt_or_ge 1 (firstsBy Candidate.key more).length with moreSeveral | atMostOne
    · rw [single_of_several _ _ moreSeveral]
      cases rest with
      | nil =>
        rw [single_of_one _ _ found]
        exact .contested identifier (List.mem_map_of_mem oneKept)
      | cons second rest =>
        have several : 1 < (firstsBy Candidate.key offered).length := by simp [found]
        rw [single_of_several _ _ several]
        obtain ⟨among, permuted, sublist⟩ := kept
        apply Stands.ambiguous
        intro text
        rw [← (permuted.map Prod.snd).count_eq]
        exact (sublist.map Prod.snd).count_le text
    · have alone := Nat.le_antisymm atMostOne (List.length_pos_of_mem otherKept)
      obtain ⟨only, moreFound⟩ := List.length_eq_one_iff.1 alone
      obtain rfl : other = only := List.mem_singleton.1 (moreFound ▸ otherKept)
      have none : rest = [] := by
        have lengths := kept.length_le
        simpa [found, moreFound] using lengths
      subst none
      -- one key before and one after, and the earlier one is kept: the link is the same
      have label := sameLabel one (found ▸ List.mem_singleton_self one) other otherKept
        sameKey.symm
      have link : one.link = other.link :=
        congrArg₂ Link.mk label (congrArg Prod.snd sameKey).symm
      rw [single_of_one _ _ found, single_of_one _ _ moreFound, link]
      exact .found other.link

theorem Stands.mono {lists weaker : Link → List String → Prop}
    (implied : ∀ link candidates, lists link candidates → weaker link candidates)
    {answer grown : Except ResolutionError Link} (stands : Stands lists answer grown) :
    Stands weaker answer grown := by
  cases stands with
  | found link => exact .found link
  | contested identifier listed => exact .contested identifier (implied _ _ listed)
  | ambiguous identifier kept => exact .ambiguous identifier kept
  | undocumented reason => exact .undocumented reason _
  | faulty user => exact .faulty user

namespace Documentation

/-- Whether candidates for a class name list the class whose page a link is. -/
def ListsClass (documentation : Documentation) (name : String) (link : Link)
    (candidates : List String) : Prop :=
  ∃ entry indexed, documentation.index.find name = [entry] ∧ entry.class? = some indexed ∧
    link.url = documentation.classPage indexed ∧ entry.name.displayName ∈ candidates

/-- Whether contested candidates list the page that a query found. Classes are listed by their
names and members by their pages. -/
def Lists (documentation : Documentation) (query : String) (link : Link)
    (candidates : List String) : Prop :=
  ∃ request, Request.parse query = .ok request ∧
    match Target.ofIdentifier request.identifier with
    | .topLevel | .classMember => link.url ∈ candidates
    | .classPage => documentation.ListsClass request.identifier link candidates

section

variable {documentation grown : Documentation} {declared more : List (Entry String)}
  (holds : documentation.index.Holds declared) (grownHolds : grown.index.Holds more)
  (kept : declared <+: more) (sameSite : documentation.site = grown.site)
include holds grownHolds kept sameSite

theorem resolveClass_stands (name : String) :
    Stands (documentation.ListsClass name) (documentation.resolveClass name)
      (grown.resolveClass name) := by
  have found := holds.find_eq_map name
  have among := kept.sublist.filter fun entry => entry.name.nestedName = dottedName name
  rw [resolveClass_eq_classAnswer holds, resolveClass_eq_classAnswer grownHolds, ← sameSite]
  revert found among
  generalize declared.filter (fun entry => entry.name.nestedName = dottedName name) = few
  generalize more.filter (fun entry => entry.name.nestedName = dottedName name) = many
  intro found among
  cases few with
  | nil => exact .undocumented _ _
  | cons entry rest =>
    cases rest with
    | cons second rest =>
      have several : 1 < (entry :: second :: rest).length := by simp
      have manySeveral : 1 < many.length := Nat.lt_of_lt_of_le several among.length_le
      rw [classAnswer_of_several _ _ several, classAnswer_of_several _ _ manySeveral]
      exact .ambiguous name fun text => (among.map _).count_le text
    | nil =>
      have member : entry ∈ many := among.subset (List.mem_singleton_self entry)
      rcases entry with ⟨owner, content | facade | kind⟩
      case ofPackage => exact .undocumented _ _
      case nothing => exact .undocumented _ _
      case ofClass =>
        rcases Nat.lt_or_ge 1 many.length with several | atMostOne
        · rw [classAnswer_of_several _ _ several]
          have listed : owner.displayName ∈ many.map fun entry => entry.name.displayName :=
            List.mem_map.2 ⟨_, member, rfl⟩
          exact .contested name ⟨_, _, found, rfl, rfl, listed⟩
        · rw [← among.eq_of_length_le atMostOne]
          exact .found _

theorem resolveTopLevel_stands (request : Request) :
    Stands (fun link candidates => link.url ∈ candidates) (documentation.resolveTopLevel request)
      (grown.resolveTopLevel request) := by
  have facades : declaredFacades declared <+: declaredFacades more := kept.filterMap _
  rw [resolveTopLevel, resolveTopLevel, topLevelCandidates_eq_flatMap holds,
    topLevelCandidates_eq_flatMap grownHolds, facadeCandidates_eq_of_site sameSite]
  have offered := facades.flatMap (grown.facadeCandidates request.kinds request.identifier)
  apply Candidates.single_stands
  · exact (offered.map Candidate.key).subset
  · intro one oneKept other otherKept sameKey
    have oneStill := (firstsBy_isPrefix Candidate.key offered).subset oneKept
    have same : one = other := List.inj_on_of_nodup_map (firstsBy_keys_nodup Candidate.key _)
      oneStill otherKept sameKey
    rw [same]

theorem resolveMember_stands (request : Request) :
    Stands (fun link candidates => link.url ∈ candidates) (documentation.resolveMember request)
      (grown.resolveMember request) := by
  cases split : splitMember? request.identifier with
  | none =>
    rw [resolveMember, resolveMember, split]
    exact .faulty rfl
  | some names =>
    obtain ⟨className, name⟩ := names
    have offered : documentation.memberCandidates request.kinds name
          (documentation.index.find className) ⊆
        grown.memberCandidates request.kinds name (grown.index.find className) := by
      intro candidate
      rw [mem_memberCandidates_iff holds, mem_memberCandidates_iff grownHolds, sameSite]
      exact Offered.mono kept.subset
    rw [resolveMember_of_split _ split, resolveMember_of_split _ split]
    by_cases unknown : documentation.index.find className = []
    · rw [if_pos unknown]
      exact .undocumented _ _
    · have stillKnown : grown.index.find className ≠ [] := by
        rw [ne_eq, find_eq_nil_iff grownHolds]
        rw [find_eq_nil_iff holds] at unknown
        exact fun none => unknown fun entry member => none entry (kept.subset member)
      rw [if_neg unknown, if_neg stillKnown]
      apply Candidates.single_stands
      · exact List.map_subset _ offered
      · intro one oneKept other otherKept _
        have oneOffered := (firstsBy_sublist Candidate.key _).subset oneKept
        have otherOffered := (firstsBy_sublist Candidate.key _).subset otherKept
        rw [label_of_mem_memberCandidates holds oneOffered,
          label_of_mem_memberCandidates grownHolds otherOffered]

theorem answer_stands (query : String) :
    Stands (documentation.Lists query) (documentation.answer query) (grown.answer query) := by
  rw [answer, answer]
  cases parsed : Request.parse query with
  | error error =>
    rw [Except.bind, Except.bind]
    exact .faulty (Request.isUserError_of_parse parsed)
  | ok request =>
    rw [Except.bind, Except.bind, resolve, resolve]
    cases target : Target.ofIdentifier request.identifier with
    | topLevel =>
      apply (resolveTopLevel_stands holds grownHolds kept sameSite request).mono
      intro link candidates listed
      exact ⟨request, parsed, by rwa [target]⟩
    | classMember =>
      apply (resolveMember_stands holds grownHolds kept sameSite request).mono
      intro link candidates listed
      exact ⟨request, parsed, by rwa [target]⟩
    | classPage =>
      apply (resolveClass_stands holds grownHolds kept sameSite request.identifier).mono
      intro link candidates listed
      exact ⟨request, parsed, by rwa [target]⟩

end

/-- More records behind some others never lead an answer elsewhere. -/
theorem answer_append (filter : PackageFilter) (records later : List Record) (site : Site)
    (query : String) :
    let documentation := Documentation.ofRecords filter records site
    let grown := Documentation.ofRecords filter (records ++ later) site
    Stands (documentation.Lists query) (documentation.answer query) (grown.answer query) := by
  intro documentation grown
  have selected : filter.select records <+: filter.select (records ++ later) := by
    rw [PackageFilter.select, PackageFilter.select, List.filter_append]
    exact List.prefix_append _ _
  have holds : documentation.index.Holds _ := Index.holds_build filter records
  have grownHolds : grown.index.Holds _ := Index.holds_build filter (records ++ later)
  have kept := Index.declaredEntries_isPrefix selected
  exact answer_stands holds grownHolds kept (Eq.refl site) query

end Documentation

end ApiPages
