import ApiPages.Proofs.Resolution.Members

/-!
Top-level members. The pages of a name are the pairs of a kind and a base at which some facade
declares the name; distinct pairs have distinct candidates, so the answer depends on how many pairs
there are. Overloads and further facades at a base add none, and of several overloads the one that
was found first gives the label.
-/

namespace ApiPages.Documentation

/-- Whether a facade declares a name in a kind that is asked for. Receivers play no part. -/
def Declares (facade : Facade) (kinds : KindSet) (name : String) : MemberKind → Prop
  | .function => kinds.functions ∧ ∃ member ∈ facade.functions, member.name = name
  | .property => kinds.properties ∧ ∃ member ∈ facade.properties, member.name = name
  | .enumEntry => False

instance (facade : Facade) (kinds : KindSet) (name : String) :
    DecidablePred (Declares facade kinds name)
  | .function => inferInstanceAs (Decidable (_ ∧ _))
  | .property => inferInstanceAs (Decidable (_ ∧ _))
  | .enumEntry => inferInstanceAs (Decidable False)

def facadePages (documentation : Documentation) (kinds : KindSet) (name : String)
    (facade : IndexedFacade) : List (MemberKind × String) :=
  ([.function, .property].filter (Declares facade.declared kinds name)).map fun kind =>
    (kind, documentation.facadeBase facade)

/-- The kinds and bases at which facades declare a name, each once, in the order of discovery. -/
def topLevelPages (documentation : Documentation) (kinds : KindSet) (name : String) :
    List (MemberKind × String) :=
  firstsBy id (documentation.index.facades.flatMap (documentation.facadePages kinds name))

/-- The label of a page: that of the first overload for a function, else the bare name. -/
def topLevelLabel? (documentation : Documentation) (name : String) : MemberKind → Option String
  | .function =>
    ((documentation.index.facades.flatMap fun facade => facade.declared.functions).find?
      fun member => member.name = name).map Member.qualifiedName
  | _ => some name

def pageKey (name : String) (page : MemberKind × String) : MemberKind × String :=
  (page.1, Site.memberPage page.2 name page.1)

theorem memberPage_injective (name : String) (kind : MemberKind) :
    Function.Injective fun base => Site.memberPage base name kind := by
  intro base other same
  cases kind with
  | function | property =>
    simpa [Site.memberPage, String.append_assoc, String.append_left_inj] using same
  | enumEntry =>
    simpa [Site.memberPage, Site.indexPage, String.append_assoc, String.append_left_inj] using same

theorem pageKey_injective (name : String) : Function.Injective (pageKey name) := by
  rintro ⟨kind, base⟩ ⟨other, otherBase⟩ same
  obtain ⟨rfl, samePage⟩ := Prod.mk.inj same
  exact congrArg (Prod.mk kind) (memberPage_injective name kind samePage)

theorem memberPage_eq {kind : MemberKind} (topLevel : kind ≠ .enumEntry) (base name : String) :
    Site.memberPage base name kind = base ++ "/" ++ docCase name ++ ".html" := by
  cases kind with
  | function | property =>
    rw [Site.memberPage, Site.pageName, String.append_assoc, String.append_assoc,
      String.append_assoc]
  | enumEntry => exact absurd rfl topLevel

theorem ne_enumEntry_of_declares {facade : Facade} {kinds : KindSet} {name : String}
    {kind : MemberKind} (declares : Declares facade kinds name kind) : kind ≠ .enumEntry := by
  rintro rfl
  exact declares.elim

theorem mem_facadePages_iff {documentation : Documentation} {kinds : KindSet} {name : String}
    {facade : IndexedFacade} {page : MemberKind × String} :
    page ∈ documentation.facadePages kinds name facade ↔
      Declares facade.declared kinds name page.1 ∧ documentation.facadeBase facade = page.2 := by
  obtain ⟨kind, base⟩ := page
  simp only [facadePages, List.mem_map, List.mem_filter, decide_eq_true_eq, Prod.mk.injEq]
  constructor
  · rintro ⟨_, ⟨_, declares⟩, rfl, rfl⟩
    exact ⟨declares, rfl⟩
  · rintro ⟨declares, rfl⟩
    refine ⟨kind, ⟨?_, declares⟩, rfl, rfl⟩
    cases kind with
    | function | property => simp
    | enumEntry => exact declares.elim

theorem mem_topLevelPages_iff {documentation : Documentation} {kinds : KindSet} {name : String}
    {page : MemberKind × String} :
    page ∈ documentation.topLevelPages kinds name ↔
      ∃ facade ∈ documentation.index.facades,
        Declares facade.declared kinds name page.1 ∧ documentation.facadeBase facade = page.2 := by
  rw [topLevelPages, mem_firstsBy_id, List.mem_flatMap]
  simp only [mem_facadePages_iff]

theorem facadePages_eq_append (documentation : Documentation) (kinds : KindSet) (name : String)
    (facade : IndexedFacade) :
    (documentation.facadePages kinds name facade).map (pageKey name) =
      (if Declares facade.declared kinds name .function then
        [(.function, Site.memberPage (documentation.facadeBase facade) name .function)] else []) ++
      (if Declares facade.declared kinds name .property then
        [(.property, Site.memberPage (documentation.facadeBase facade) name .property)]
      else []) := by
  by_cases function : Declares facade.declared kinds name .function <;>
    by_cases property : Declares facade.declared kinds name .property <;>
      simp [facadePages, pageKey, function, property]

theorem firstsBy_facadeCandidates (documentation : Documentation) (kinds : KindSet) (name : String)
    (facade : IndexedFacade) :
    firstsBy id ((documentation.facadeCandidates kinds name facade).map Candidate.key) =
      firstsBy id ((documentation.facadePages kinds name facade).map (pageKey name)) := by
  have pages (kind : MemberKind) (asked : Bool) (members : List Member) :=
    firstsBy_named id asked name members
      (kind, Site.memberPage (documentation.facadeBase facade) name kind)
  rw [facadePages_eq_append, facadeCandidates, List.map_append]
  apply firstsBy_append_congr
  · rw [apply_ite (List.map Candidate.key), functionCandidates, List.map_map, List.map_nil]
    exact pages .function kinds.functions facade.declared.functions
  · rw [apply_ite (List.map Candidate.key), propertyCandidates, List.map_map, List.map_nil]
    exact pages .property kinds.properties facade.declared.properties

theorem map_key_topLevelCandidates (documentation : Documentation) (kinds : KindSet)
    (name : String) :
    (firstsBy Candidate.key (documentation.topLevelCandidates kinds name)).map Candidate.key =
      (documentation.topLevelPages kinds name).map (pageKey name) := by
  calc
    _ = firstsBy id ((documentation.topLevelCandidates kinds name).map Candidate.key) :=
        map_key_firstsBy _ _
    _ = firstsBy id (documentation.index.facades.flatMap fun facade =>
          (documentation.facadeCandidates kinds name facade).map Candidate.key) := by
        rw [topLevelCandidates, List.map_flatMap]
    _ = firstsBy id (documentation.index.facades.flatMap fun facade =>
          (documentation.facadePages kinds name facade).map (pageKey name)) :=
        firstsBy_flatMap_congr id fun facade _ =>
          firstsBy_facadeCandidates documentation kinds name facade
    _ = firstsBy id ((documentation.index.facades.flatMap
          (documentation.facadePages kinds name)).map (pageKey name)) := by
        rw [List.map_flatMap]
    _ = _ := (map_firstsBy_id (pageKey_injective name) _).symm

theorem map_label_functions (documentation : Documentation) {kinds : KindSet}
    (asked : kinds.functions) (name : String) :
    ((documentation.topLevelCandidates kinds name).filter fun candidate =>
        candidate.kind = .function).map (fun candidate => candidate.link.label) =
      ((documentation.index.facades.flatMap fun facade => facade.declared.functions).filter
        fun member => member.name = name).map Member.qualifiedName := by
  rw [topLevelCandidates, List.filter_flatMap, List.map_flatMap, List.filter_flatMap,
    List.map_flatMap]
  congr 1
  funext facade
  have functions : (functionCandidates (documentation.facadeBase facade) name
      facade.declared.functions).filter (fun candidate => candidate.kind = .function) =
        functionCandidates (documentation.facadeBase facade) name facade.declared.functions := by
    rw [List.filter_eq_self]
    simp [functionCandidates]
  have properties : (if kinds.properties then
      propertyCandidates (documentation.facadeBase facade) name facade.declared.properties
        else []).filter (fun candidate => candidate.kind = .function) = [] := by
    rw [List.filter_eq_nil_iff]
    split <;> simp [propertyCandidates]
  rw [facadeCandidates, if_pos asked, List.filter_append, functions, properties, List.append_nil,
    functionCandidates, List.map_map]
  rfl

theorem label_of_property {documentation : Documentation} {kinds : KindSet} {name : String}
    {candidate : Candidate} (member : candidate ∈ documentation.topLevelCandidates kinds name)
    (property : candidate.kind = .property) : candidate.link.label = name := by
  obtain ⟨facade, _, offered⟩ := List.mem_flatMap.1 member
  rw [facadeCandidates] at offered
  rcases List.mem_append.1 offered with function | isProperty
  · split at function
    · obtain ⟨_, _, rfl⟩ := List.mem_map.1 function
      cases property
    · cases function
  · split at isProperty
    · obtain ⟨declared, named, rfl⟩ := List.mem_map.1 isProperty
      exact of_decide_eq_true (List.mem_filter.1 named).2
    · cases isProperty

theorem label_of_only {documentation : Documentation} {kinds : KindSet} {name : String}
    {only : Candidate}
    (found : firstsBy Candidate.key (documentation.topLevelCandidates kinds name) = [only])
    (declared : ∃ facade : Facade, Declares facade kinds name only.kind) :
    documentation.topLevelLabel? name only.kind = some only.link.label := by
  obtain ⟨facade, declares⟩ := declared
  have member : only ∈ documentation.topLevelCandidates kinds name := by
    apply (firstsBy_sublist Candidate.key _).subset
    rw [found]
    exact List.mem_singleton_self only
  cases kind : only.kind with
  | property =>
    rw [label_of_property member kind]
    rfl
  | enumEntry =>
    rw [kind] at declares
    exact declares.elim
  | function =>
    rw [kind] at declares
    have labels := congrArg List.head? (map_label_functions documentation declares.1 name)
    rw [List.head?_map, List.head?_map, List.head?_filter, List.head?_filter] at labels
    rw [topLevelLabel?, ← labels]
    cases offered : documentation.topLevelCandidates kinds name with
    | nil =>
      rw [offered] at member
      cases member
    | cons first rest =>
      -- the first candidate on offer is always kept, so it is the only one
      rw [offered, firstsBy] at found
      obtain ⟨rfl, _⟩ := List.cons.inj found
      rw [List.find?_cons_of_pos (by simp [kind]), Option.map_some]

theorem pageKey_of_mem {documentation : Documentation} {kinds : KindSet} {name : String}
    {page : MemberKind × String} (member : page ∈ documentation.topLevelPages kinds name) :
    pageKey name page = (page.1, page.2 ++ "/" ++ docCase name ++ ".html") := by
  obtain ⟨_, _, declares, _⟩ := mem_topLevelPages_iff.1 member
  rw [pageKey, memberPage_eq (ne_enumEntry_of_declares declares)]

section

variable {documentation : Documentation} {kinds : KindSet} {name : String}

theorem resolveTopLevel_of_no_page (none : documentation.topLevelPages kinds name = []) :
    documentation.resolveTopLevel ⟨name, kinds⟩ =
      .error (.notFound ("'" ++ name ++ "' is neither a top-level function or property")) := by
  have keys := map_key_topLevelCandidates documentation kinds name
  rw [none, List.map_nil, List.map_eq_nil_iff] at keys
  rw [resolveTopLevel, Candidates.single_ofList, keys]
  rfl

theorem resolveTopLevel_of_one_page {page : MemberKind × String}
    (one : documentation.topLevelPages kinds name = [page]) :
    ∃ label, documentation.topLevelLabel? name page.1 = some label ∧
      documentation.resolveTopLevel ⟨name, kinds⟩ =
        .ok ⟨label, page.2 ++ "/" ++ docCase name ++ ".html"⟩ := by
  have listed : page ∈ documentation.topLevelPages kinds name := by
    rw [one]
    exact List.mem_singleton_self page
  have keys := map_key_topLevelCandidates documentation kinds name
  rw [one, List.map_singleton, List.map_eq_singleton_iff] at keys
  obtain ⟨only, found, key⟩ := keys
  rw [pageKey_of_mem listed] at key
  obtain ⟨kind, url⟩ := Prod.mk.inj key
  obtain ⟨facade, _, declares, _⟩ := mem_topLevelPages_iff.1 listed
  have label := label_of_only found ⟨facade.declared, kind ▸ declares⟩
  refine ⟨only.link.label, kind ▸ label, ?_⟩
  rw [resolveTopLevel, Candidates.single_of_one _ _ found, ← url]

theorem resolveTopLevel_of_several_pages
    (several : 1 < (documentation.topLevelPages kinds name).length) :
    documentation.resolveTopLevel ⟨name, kinds⟩ =
      .error (.ambiguous name ((documentation.topLevelPages kinds name).map fun page =>
        page.2 ++ "/" ++ docCase name ++ ".html")) := by
  have keys := map_key_topLevelCandidates documentation kinds name
  have manyFound : 1 < (firstsBy Candidate.key
      (documentation.topLevelCandidates kinds name)).length := by
    have lengths := congrArg List.length keys
    rw [List.length_map, List.length_map] at lengths
    rwa [lengths]
  rw [resolveTopLevel, Candidates.single_of_several _ _ manyFound, keys, List.map_map]
  congr 2
  apply List.map_congr_left
  intro page member
  rw [Function.comp_apply, pageKey_of_mem member]

end

/-- What facades declare under a name, in scan order and with all overloads. -/
def topLevelDeclarations (index : Index) (name : String) :
    List (MemberKind × IndexedFacade × Member) :=
  index.facades.flatMap fun facade =>
    (named name facade.declared.functions).map (fun member => (.function, facade, member)) ++
      (named name facade.declared.properties).map (fun member => (.property, facade, member))

def declarationLink (documentation : Documentation) (name : String) :
    MemberKind × IndexedFacade × Member → Link
  | (.function, facade, member) =>
    ⟨member.qualifiedName, documentation.facadeBase facade ++ "/" ++ docCase name ++ ".html"⟩
  | (_, facade, _) =>
    ⟨name, documentation.facadeBase facade ++ "/" ++ docCase name ++ ".html"⟩

theorem map_link_topLevelCandidates (documentation : Documentation) (name : String) :
    (documentation.topLevelCandidates .all name).map Candidate.link =
      (topLevelDeclarations documentation.index name).map (documentation.declarationLink name) := by
  rw [topLevelCandidates, topLevelDeclarations, List.map_flatMap, List.map_flatMap]
  congr 1
  funext facade
  have both : documentation.facadeCandidates .all name facade =
      functionCandidates (documentation.facadeBase facade) name facade.declared.functions ++
        propertyCandidates (documentation.facadeBase facade) name facade.declared.properties := rfl
  rw [both, functionCandidates, propertyCandidates, List.map_append, List.map_append, List.map_map,
    List.map_map, List.map_map, List.map_map]
  congr 1
  · apply List.map_congr_left
    intro member _
    rw [Function.comp_apply, Function.comp_apply, declarationLink, memberPage_eq (by decide)]
  · apply List.map_congr_left
    intro member found
    have sameName : member.name = name := of_decide_eq_true (List.mem_filter.1 found).2
    simp only [Function.comp_apply, declarationLink, sameName]
    rw [memberPage_eq (by decide)]

theorem resolveTopLevel_of_one_declaration {documentation : Documentation} {name : String}
    {declaration : MemberKind × IndexedFacade × Member}
    (one : topLevelDeclarations documentation.index name = [declaration]) :
    documentation.resolveTopLevel ⟨name, .all⟩ =
      .ok (documentation.declarationLink name declaration) := by
  have links := map_link_topLevelCandidates documentation name
  rw [one, List.map_singleton, List.map_eq_singleton_iff] at links
  obtain ⟨only, offered, link⟩ := links
  rw [resolveTopLevel]
  dsimp only
  rw [offered, Candidates.single_of_one _ _ rfl, link]

/-- No page, one page and several pages are the three answers, and a name that is declared once in
the whole index leads to its declaration. -/
theorem resolveTopLevel_eq_pages (documentation : Documentation) (kinds : KindSet) (name : String) :
    (documentation.topLevelPages kinds name).Nodup ∧
    (∀ kind base, (kind, base) ∈ documentation.topLevelPages kinds name ↔
      ∃ facade ∈ documentation.index.facades,
        Declares facade.declared kinds name kind ∧ documentation.facadeBase facade = base) ∧
    (match documentation.topLevelPages kinds name with
    | [] => documentation.resolveTopLevel ⟨name, kinds⟩ =
        .error (.notFound ("'" ++ name ++ "' is neither a top-level function or property"))
    | [page] => ∃ label, documentation.topLevelLabel? name page.1 = some label ∧
        documentation.resolveTopLevel ⟨name, kinds⟩ =
          .ok ⟨label, page.2 ++ "/" ++ docCase name ++ ".html"⟩
    | several => documentation.resolveTopLevel ⟨name, kinds⟩ =
        .error (.ambiguous name (several.map fun page =>
          page.2 ++ "/" ++ docCase name ++ ".html"))) ∧
    ((¬name.toList.any Text.isBlank) → name.toList.head?.any Text.isLower →
      ∀ declaration, topLevelDeclarations documentation.index name = [declaration] →
        documentation.answer name = .ok (documentation.declarationLink name declaration)) := by
  refine ⟨?nodup, ?mem, ?answers, ?unique⟩
  case nodup => exact firstsBy_id_nodup _
  case mem =>
    intro kind base
    exact mem_topLevelPages_iff
  case answers =>
    cases pages : documentation.topLevelPages kinds name with
    | nil => exact resolveTopLevel_of_no_page pages
    | cons page rest =>
      cases rest with
      | nil => exact resolveTopLevel_of_one_page pages
      | cons second rest =>
        have several : 1 < (documentation.topLevelPages kinds name).length := by simp [pages]
        rw [resolveTopLevel_of_several_pages several, pages]
  case unique =>
    intro unbroken small declaration one
    have some : name ≠ "" := by
      rintro rfl
      cases small
    rw [answer_of_no_blank documentation unbroken, if_neg some, resolve,
      Target.ofIdentifier_eq_topLevel_iff.2 small]
    exact resolveTopLevel_of_one_declaration one

theorem resolveTopLevel_eq_pages_extension :
    let receiver : TypeDescriptor := .of (.ofClass "x/List") []
    let documentation := Documentation.ofRecords .all
      [.ofFile "a/TextsKt" [⟨"last", none, []⟩] [⟨"size", some receiver, []⟩],
        .ofFile "b/ListsKt" [⟨"firstOrNull", some receiver, []⟩] []] .default
    (¬"firstOrNull".toList.any Text.isBlank) ∧ "firstOrNull".toList.head?.any Text.isLower ∧
      (∃ declaration, topLevelDeclarations documentation.index "firstOrNull" = [declaration]) ∧
      documentation.answer "firstOrNull" =
        .ok ⟨"List.firstOrNull", "https://docs.example/module/b/first-or-null.html"⟩ := by
  intro receiver documentation
  have unbroken : ¬"firstOrNull".toList.any Text.isBlank := by decide +kernel
  have small : "firstOrNull".toList.head?.any Text.isLower := by decide +kernel
  have links : (topLevelDeclarations documentation.index "firstOrNull").map
      (documentation.declarationLink "firstOrNull") =
        [⟨"List.firstOrNull", "https://docs.example/module/b/first-or-null.html"⟩] := by
    decide +kernel
  obtain ⟨declaration, one, link⟩ := List.map_eq_singleton_iff.1 links
  have answered := (resolveTopLevel_eq_pages documentation .all "firstOrNull").2.2.2 unbroken small
    declaration one
  exact ⟨unbroken, small, ⟨declaration, one⟩, link ▸ answered⟩

end ApiPages.Documentation
