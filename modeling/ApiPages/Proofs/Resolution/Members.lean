import ApiPages.Proofs.Index.Chain
import ApiPages.Proofs.Resolution.Candidates
import ApiPages.Resolution.Resolve

/-!
Members of classes. All classes of a nested name are asked, each with its companions; what they
declare under the member's name is offered kind by kind below the class that declares it, and the
distinct offers decide the answer. Overloads and repeated properties or enum entries add nothing.
-/

namespace ApiPages.Documentation

/-- The requested kinds in which a class declares a name, each once. -/
def offeredKinds (declared : ClassDeclaration Companion) (kinds : KindSet) (name : String) :
    List MemberKind :=
  (if kinds.functions ∧ ∃ member ∈ declared.functions, member.name = name then [.function]
    else []) ++
  (if kinds.properties ∧ ∃ member ∈ declared.properties, member.name = name then [.property]
    else []) ++
  (if name ∈ declared.enumEntries then [.enumEntry] else [])

/-- The pages of a name along the companions of a class, under the label of that class. -/
def memberOffers (documentation : Documentation) (kinds : KindSet) (name : String)
    (owner : IndexedClass) : List Candidate :=
  (documentation.index.chain owner).flatMap fun declaring =>
    (offeredKinds declaring.declared kinds name).map fun kind =>
      ⟨kind, owner.name.nestedName ++ "." ++ name,
        Site.memberPage (documentation.classBase declaring) name kind⟩

theorem named_ne_nil_iff {name : String} {members : List Member} :
    named name members ≠ [] ↔ ∃ member ∈ members, member.name = name := by
  rw [named, ne_eq, List.filter_eq_nil_iff]
  simp only [decide_eq_true_eq, not_forall, not_not, exists_prop]

theorem firstsBy_named {α κ : Type} [DecidableEq κ] (key : α → κ) (asked : Bool) (name : String)
    (members : List Member) (offer : α) :
    firstsBy key (if asked then (named name members).map fun _ => offer else []) =
      firstsBy key (if asked ∧ ∃ member ∈ members, member.name = name then [offer] else []) := by
  simp only [← named_ne_nil_iff]
  cases asked with
  | false => simp
  | true =>
    simp only [if_true, true_and, firstsBy_map_const]
    by_cases none : named name members = [] <;> simp [none, firstsBy]

theorem firstsBy_declaredKinds {κ : Type} [DecidableEq κ] (key : Candidate → κ)
    (candidate : MemberKind → Candidate) (declared : ClassDeclaration Companion) (kinds : KindSet)
    (name : String) :
    firstsBy key ((declaredKinds declared kinds name).map candidate) =
      firstsBy key ((offeredKinds declared kinds name).map candidate) := by
  rw [declaredKinds, offeredKinds, List.map_append, List.map_append, List.map_append,
    List.map_append]
  refine firstsBy_append_congr key (firstsBy_append_congr key ?functions ?properties) ?enumEntries
  case functions => simp only [named_ne_nil_iff]
  case properties =>
    rw [apply_ite (List.map candidate), apply_ite (List.map candidate), List.map_map, List.map_nil]
    exact firstsBy_named key kinds.properties name declared.properties (candidate .property)
  case enumEntries =>
    rw [List.map_map, Function.comp_def, firstsBy_map_const]
    by_cases listed : name ∈ declared.enumEntries
    · simp [listed, firstsBy]
    · have none : declared.enumEntries.filter (· = name) = [] := by
        rw [List.filter_eq_nil_iff]
        intro entry member
        rw [decide_eq_true_eq]
        rintro rfl
        exact listed member
      simp [listed, none, firstsBy]

theorem firstsBy_memberCandidates (documentation : Documentation) (kinds : KindSet) (name : String)
    (entries : List (Entry Companion)) :
    firstsBy Candidate.key (documentation.memberCandidates kinds name entries) =
      firstsBy Candidate.key
        ((entries.filterMap Entry.class?).flatMap (documentation.memberOffers kinds name)) := by
  rw [memberCandidates]
  apply firstsBy_flatMap_congr
  intro owner _
  rw [classCandidates, memberOffers]
  apply firstsBy_flatMap_congr
  intro declaring _
  rw [ownCandidates]
  exact firstsBy_declaredKinds _ _ _ _ _

theorem splitMember?_append {className member : String} (plainClass : '#' ∉ className.toList)
    (plainMember : '#' ∉ member.toList) :
    splitMember? (className ++ "#" ++ member) = some (className, member) := by
  have text : (className ++ "#" ++ member).toList = className.toList ++ '#' :: member.toList := by
    simp [String.toList_append]
  rw [splitMember?, text, Text.split_append_separator plainClass, Text.split_of_not_mem plainMember]
  simp

theorem splitMember?_eq_none_iff {identifier : String} :
    splitMember? identifier = none ↔ identifier.toList.count '#' ≠ 1 := by
  have length := Text.length_split '#' identifier.toList
  rw [splitMember?]
  match cut : Text.split '#' identifier.toList with
  | [] => simp [cut] at length
  | [_] => simp_all
  | [_, _] => simp_all
  | _ :: _ :: _ :: _ =>
    simp only [cut, List.length_cons] at length
    simp only [ne_eq, true_iff]
    omega

/-- The answer to a member query, from the entries of the index alone. -/
theorem resolveMember_ofRecords (filter : PackageFilter) (records : List Record) (site : Site)
    (kinds : KindSet) {className member : String} (plainClass : '#' ∉ className.toList)
    (plainMember : '#' ∉ member.toList) :
    let documentation := Documentation.ofRecords filter records site
    let sameName := documentation.index.entries.filter fun entry =>
      entry.name.nestedName = dottedName className
    (∀ owner ∈ sameName.filterMap Entry.class?,
      documentation.index.CompanionChain owner (documentation.index.chain owner)) ∧
    documentation.resolveMember ⟨className ++ "#" ++ member, kinds⟩ =
      match sameName with
      | [] => .error (.notFound ("'" ++ className ++ "' was not found"))
      | _ :: _ =>
        match firstsBy Candidate.key
            ((sameName.filterMap Entry.class?).flatMap (documentation.memberOffers kinds member)) with
        | [] =>
          .error (.notFound ("'" ++ member ++
            "' is neither a function, property or enum value in '" ++ className ++ "'"))
        | [only] => .ok only.link
        | several =>
          .error (.ambiguous (className ++ "#" ++ member)
            (several.map fun candidate => candidate.link.url)) := by
  intro documentation sameName
  have holds := Index.holds_build filter records
  constructor
  · intro owner among
    obtain ⟨entry, listed, found⟩ := List.mem_filterMap.1 among
    exact holds.companionChain_of_mem (List.mem_filter.1 listed).1 found
  · have found : documentation.index.find className = sameName := holds.find_eq_filter className
    rw [resolveMember, splitMember?_append plainClass plainMember]
    dsimp only
    rw [found]
    cases sameName with
    | nil => rfl
    | cons first rest =>
      dsimp only
      rw [Candidates.single_ofList, firstsBy_memberCandidates]
      rfl

theorem resolveMember_ofRecords_companion :
    '#' ∉ "Outer".toList ∧ '#' ∉ "create".toList ∧
    (Documentation.ofRecords .all [.ofClass "a/Outer$Factory" "create" none,
        .ofClass "a/Outer" "create" (some "Factory")] .default).resolveMember
          ⟨"Outer#create", .all⟩ =
      .error (.ambiguous "Outer#create"
        ["https://docs.example/module/a/outer/create.html",
          "https://docs.example/module/a/outer/factory/create.html"]) := by
  have plainClass : '#' ∉ "Outer".toList := by decide
  have plainMember : '#' ∉ "create".toList := by decide
  have answered := (resolveMember_ofRecords .all [.ofClass "a/Outer$Factory" "create" none,
    .ofClass "a/Outer" "create" (some "Factory")] .default .all plainClass plainMember).2
  exact ⟨plainClass, plainMember, answered.trans (by decide +kernel)⟩

end ApiPages.Documentation
