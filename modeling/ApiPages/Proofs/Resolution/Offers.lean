import ApiPages.Proofs.Address
import ApiPages.Proofs.Resolution.Answers
import ApiPages.Proofs.Resolution.ClassPage
import ApiPages.Proofs.Resolution.TopLevel

/-!
Offers as declarations. A kind and an address are on offer exactly if some declaration of that kind,
of the name that is asked for, has its page there: for a member, in a class that companions lead to
from a class of the name; for a top-level name, in a facade.
-/

namespace ApiPages

theorem Index.Holds.filterMap_class?_find {index : Index} {declared : List (Entry String)}
    (holds : index.Holds declared) (name : String) :
    (index.find name).filterMap Entry.class? = index.classesNamed (dottedName name) := by
  rw [holds.find_eq_filter]
  exact filterMap_class?_bearers index (dottedName name)

namespace Documentation

theorem mem_declaredKinds_iff {declared : ClassDeclaration Companion} {kinds : KindSet}
    {name : String} {kind : MemberKind} :
    kind ∈ declaredKinds declared kinds name ↔ kind ∈ offeredKinds declared kinds name := by
  cases kind <;> simp [declaredKinds, offeredKinds, named]

theorem key_mem_ownCandidates_iff {documentation : Documentation} {kinds : KindSet}
    {label name url : String} {declaring : IndexedClass} {kind : MemberKind} :
    (kind, url) ∈ (documentation.ownCandidates kinds label name declaring).map Candidate.key ↔
      kind ∈ offeredKinds declaring.declared kinds name ∧
        Site.memberPage (documentation.classBase declaring) name kind = url := by
  simp only [ownCandidates, List.map_map, List.mem_map, mem_declaredKinds_iff, Function.comp_apply,
    Candidate.key, Prod.mk.injEq]
  constructor
  · rintro ⟨_, offered, rfl, page⟩
    exact ⟨offered, page⟩
  · rintro ⟨offered, page⟩
    exact ⟨kind, offered, rfl, page⟩

theorem key_mem_memberCandidates_iff {documentation : Documentation}
    {declared : List (Entry String)} (holds : documentation.index.Holds declared) {kinds : KindSet}
    {className name url : String} {kind : MemberKind} :
    (kind, url) ∈ (documentation.memberCandidates kinds name
        (documentation.index.find className)).map Candidate.key ↔
      ∃ owner ∈ documentation.index.classes, owner.name.nestedName = dottedName className ∧
        ∃ declaring, Relation.ReflTransGen
            (fun one companion => documentation.index.companionOf one = some companion)
            owner declaring ∧
          kind ∈ offeredKinds declaring.declared kinds name ∧
            Site.memberPage (documentation.classBase declaring) name kind = url := by
  rw [memberCandidates, holds.filterMap_class?_find]
  simp only [List.map_flatMap, List.mem_flatMap, Index.classesNamed, List.mem_filter,
    decide_eq_true_eq, classCandidates, key_mem_ownCandidates_iff]
  constructor
  · rintro ⟨owner, ⟨member, named⟩, declaring, onChain, offered⟩
    have isChain := holds.companionChain_of_mem_classes member
    exact ⟨owner, member, named, declaring, isChain.mem_iff.1 onChain, offered⟩
  · rintro ⟨owner, member, named, declaring, reached, offered⟩
    have isChain := holds.companionChain_of_mem_classes member
    exact ⟨owner, ⟨member, named⟩, declaring, isChain.mem_iff.2 reached, offered⟩

theorem key_mem_topLevelCandidates_iff {documentation : Documentation} {kinds : KindSet}
    {name url : String} {kind : MemberKind} :
    (kind, url) ∈ (documentation.topLevelCandidates kinds name).map Candidate.key ↔
      ∃ facade ∈ documentation.index.facades, Declares facade.declared kinds name kind ∧
        Site.memberPage (documentation.facadeBase facade) name kind = url := by
  rw [← mem_map_key_firstsBy, map_key_topLevelCandidates, List.mem_map]
  simp only [Prod.exists, mem_topLevelPages_iff, pageKey, Prod.mk.injEq]
  constructor
  · rintro ⟨_, _, ⟨facade, listed, declares, rfl⟩, rfl, page⟩
    exact ⟨facade, listed, declares, page⟩
  · rintro ⟨facade, listed, declares, page⟩
    exact ⟨kind, _, ⟨facade, listed, declares, rfl⟩, rfl, page⟩

end Documentation

/-!
Clashes of classes that share a nested name. The address of a class spells its package segment by
segment, so two classes of one nested name have no page in common, and a member that both declare
is contested. Out of reach are only members that hold a hash sign or stand in a class that does.
-/

/-- A class whose address can be read back: neither its module nor a segment of its name runs into
the next one. -/
structure IndexedClass.Plain (indexed : IndexedClass) : Prop where
  name : indexed.name.Plain
  moduleName : '/' ∉ indexed.declared.moduleName.toList

namespace Documentation

theorem slash_not_mem_baseSegments {indexed : IndexedClass} (plain : indexed.Plain) :
    ∀ segment ∈ Site.baseSegments indexed.declared.moduleName indexed.name.package
      indexed.name.nestedName, '/' ∉ segment :=
  Site.slash_not_mem_of_mem_baseSegments plain.moduleName indexed.name.slash_not_mem_package
    indexed.name.slash_not_mem_nestedName

theorem name_eq_of_classBase_eq (documentation : Documentation) {one other : IndexedClass}
    (plain : one.Plain) (otherPlain : other.Plain)
    (same : one.name.nestedName = other.name.nestedName)
    (sameBase : documentation.classBase one = documentation.classBase other) :
    one.name = other.name := by
  have segments := documentation.site.base_inj (slash_not_mem_baseSegments plain)
    (slash_not_mem_baseSegments otherPlain) sameBase
  simp only [Site.baseSegments, same, List.cons_append, List.cons.injEq,
    List.append_cancel_right_eq] at segments
  have paths : one.name.packagePath = other.name.packagePath := by
    rw [← plain.name.filter_split_package, ← otherPlain.name.filter_split_package]
    exact segments.2
  exact BinaryName.eq_of_segments paths (plain.name.parts_eq otherPlain.name same)

theorem key_mem_memberCandidates_of_mem {documentation : Documentation}
    {declared : List (Entry String)} (holds : documentation.index.Holds declared) {kinds : KindSet}
    {kind : MemberKind} {name : String} {owner : IndexedClass}
    (listed : owner ∈ documentation.index.classes)
    (declares : kind ∈ offeredKinds owner.declared kinds name) :
    (kind, Site.memberPage (documentation.classBase owner) name kind) ∈
      (documentation.memberCandidates kinds name
        (documentation.index.find owner.name.nestedName)).map Candidate.key := by
  rw [key_mem_memberCandidates_iff holds]
  exact ⟨owner, listed, (dottedName_nestedName owner.name).symm, owner, .refl, declares, rfl⟩

theorem resolveMember_of_two {documentation : Documentation} {kinds : KindSet}
    {identifier className name : String} (split : splitMember? identifier = some (className, name))
    {one other : MemberKind × String}
    (offered : one ∈ (documentation.memberCandidates kinds name
      (documentation.index.find className)).map Candidate.key)
    (otherOffered : other ∈ (documentation.memberCandidates kinds name
      (documentation.index.find className)).map Candidate.key) (different : one ≠ other) :
    ∃ candidates, documentation.resolveMember ⟨identifier, kinds⟩ =
      .error (.ambiguous identifier candidates) ∧ one.2 ∈ candidates ∧ other.2 ∈ candidates := by
  have known : documentation.index.find className ≠ [] := by
    intro none
    rw [none] at offered
    simp [memberCandidates] at offered
  rw [resolveMember_mk_of_split _ kinds split, if_neg known]
  exact Candidates.single_of_two offered otherOffered different _ _

theorem splitMember?_append_eq_none {className name : String}
    (hash : '#' ∈ className.toList ∨ '#' ∈ name.toList) :
    splitMember? (className ++ "#" ++ name) = none := by
  rw [splitMember?_eq_none_iff, String.toList_append, String.toList_append, List.count_append,
    List.count_append]
  have own : "#".toList.count '#' = 1 := by decide
  rcases hash with inClass | inMember
  · have some := List.count_pos_iff.2 inClass
    omega
  · have some := List.count_pos_iff.2 inMember
    omega

/-- A member that two classes of one nested name declare is contested between their pages, as long
as a query can name it. -/
theorem resolveMember_clash (filter : PackageFilter) (records : List Record) (site : Site)
    {one other : IndexedClass} {kinds : KindSet} {kind : MemberKind} {name : String}
    (listed : one ∈ (Index.build filter records).classes)
    (otherListed : other ∈ (Index.build filter records).classes) (distinct : one ≠ other)
    (plain : one.Plain) (otherPlain : other.Plain)
    (sameName : one.name.nestedName = other.name.nestedName)
    (declares : kind ∈ offeredKinds one.declared kinds name)
    (otherDeclares : kind ∈ offeredKinds other.declared kinds name) :
    let documentation := Documentation.ofRecords filter records site
    let className := one.name.nestedName
    let page := Site.memberPage (documentation.classBase one) name kind
    let otherPage := Site.memberPage (documentation.classBase other) name kind
    page ≠ otherPage ∧
    ('#' ∉ className.toList → '#' ∉ name.toList →
      ∃ candidates, documentation.resolveMember ⟨className ++ "#" ++ name, kinds⟩ =
          .error (.ambiguous (className ++ "#" ++ name) candidates) ∧
        page ∈ candidates ∧ otherPage ∈ candidates) ∧
    ('#' ∈ className.toList ∨ '#' ∈ name.toList →
      documentation.resolveMember ⟨className ++ "#" ++ name, kinds⟩ =
        .error (.malformedMember (className ++ "#" ++ name))) := by
  intro documentation className page otherPage
  have holds : documentation.index.Holds _ := Index.holds_build filter records
  have different : page ≠ otherPage := by
    intro samePage
    have sameBase := memberPage_injective name kind samePage
    have same := documentation.name_eq_of_classBase_eq plain otherPlain sameName sameBase
    exact distinct (holds.class_eq_of_name_eq listed otherListed same)
  refine ⟨different, ?contested, ?malformed⟩
  case contested =>
    intro plainClass plainMember
    have offered := key_mem_memberCandidates_of_mem holds listed declares
    have otherOffered := key_mem_memberCandidates_of_mem holds otherListed otherDeclares
    rw [← sameName] at otherOffered
    have keys : ((kind, page) : MemberKind × String) ≠ (kind, otherPage) :=
      fun same => different (Prod.mk.inj same).2
    have split := splitMember?_append plainClass plainMember
    exact resolveMember_of_two split offered otherOffered keys
  case malformed =>
    intro hash
    rw [resolveMember, splitMember?_append_eq_none hash]

theorem resolveMember_clash_packages :
    let documentation := Documentation.ofRecords .all
      [.ofClass "a/b/Outer$Inner" "create" none, .ofClass "a/Outer$Inner" "create" none] .default
    ∃ one ∈ documentation.index.classes, ∃ other ∈ documentation.index.classes, one ≠ other ∧
      one.Plain ∧ other.Plain ∧ one.name.nestedName = other.name.nestedName ∧
      .function ∈ offeredKinds one.declared .function "create" ∧
      .function ∈ offeredKinds other.declared .function "create" ∧
      ∃ candidates, documentation.resolveMember ⟨"Outer.Inner#create", .function⟩ =
          .error (.ambiguous "Outer.Inner#create" candidates) ∧
        "https://docs.example/module/a/b/outer/inner/create.html" ∈ candidates ∧
        "https://docs.example/module/a/outer/inner/create.html" ∈ candidates := by
  intro documentation
  let view := fun owner : IndexedClass => (owner.name, owner.declared.moduleName,
    offeredKinds owner.declared .function "create",
    Site.memberPage (documentation.classBase owner) "create" .function)
  have first : documentation.index.classes[0]?.map view = some (⟨"a/b/Outer$Inner"⟩, "module",
      [.function], "https://docs.example/module/a/b/outer/inner/create.html") := by
    decide +kernel
  have second : documentation.index.classes[1]?.map view = some (⟨"a/Outer$Inner"⟩, "module",
      [.function], "https://docs.example/module/a/outer/inner/create.html") := by
    decide +kernel
  obtain ⟨one, atFirst, oneView⟩ := Option.map_eq_some_iff.1 first
  obtain ⟨other, atSecond, otherView⟩ := Option.map_eq_some_iff.1 second
  simp only [view, Prod.mk.injEq] at oneView otherView
  obtain ⟨oneName, oneModule, oneKinds, onePage⟩ := oneView
  obtain ⟨otherName, otherModule, otherKinds, otherPage⟩ := otherView
  have distinct : one ≠ other := by
    rintro rfl
    rw [oneName] at otherName
    exact absurd otherName (by decide)
  have plain : one.Plain :=
    ⟨⟨by rw [oneName]; decide, by rw [oneName]; decide⟩, by rw [oneModule]; decide⟩
  have otherPlain : other.Plain :=
    ⟨⟨by rw [otherName]; decide, by rw [otherName]; decide⟩, by rw [otherModule]; decide⟩
  have nested : one.name.nestedName = "Outer.Inner" := by rw [oneName]; decide
  have sameName : one.name.nestedName = other.name.nestedName := by
    rw [nested, otherName]
    decide
  have declares : MemberKind.function ∈ offeredKinds one.declared .function "create" := by
    simp [oneKinds]
  have otherDeclares : MemberKind.function ∈ offeredKinds other.declared .function "create" := by
    simp [otherKinds]
  have listed := List.mem_of_getElem? atFirst
  have otherListed := List.mem_of_getElem? atSecond
  have contested := (resolveMember_clash .all _ .default listed otherListed distinct plain
    otherPlain sameName declares otherDeclares).2.1
  obtain ⟨candidates, answered, pageListed, otherPageListed⟩ :=
    contested (by rw [nested]; decide) (by decide)
  rw [nested] at answered
  refine ⟨one, listed, other, otherListed, distinct, plain, otherPlain, sameName, declares,
    otherDeclares, candidates, answered, ?_, ?_⟩
  · rw [← onePage]
    exact pageListed
  · rw [← otherPage]
    exact otherPageListed

/-- A function with a hash sign in its name is never contested: no query can name it. -/
theorem resolveMember_hash_in_name :
    let documentation := Documentation.ofRecords .all
      [.ofClass "a/Outer" "a#b" none, .ofClass "b/Outer" "a#b" none] .default
    (documentation.index.classes.map fun owner =>
        (owner.name, owner.name.nestedName, owner.declared.moduleName,
          offeredKinds owner.declared .all "a#b")) =
      [(⟨"a/Outer"⟩, "Outer", "module", [.function]),
        (⟨"b/Outer"⟩, "Outer", "module", [.function])] ∧
    documentation.resolveMember ⟨"Outer#a#b", .all⟩ = .error (.malformedMember "Outer#a#b") := by
  decide +kernel

end Documentation

end ApiPages
