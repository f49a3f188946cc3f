import ApiPages.Proofs.Name.DocCase
import Mathlib.Data.List.DropRight

/-!
What an address says of the member whose page it is. The kind of a page fixes how many segments the
member has, and the depth of the package where the class begins; below that, segments that start
with capitals are read off their doc case. Main statement: among parts without misleading signs,
pages of one kind and package depth agree exactly if package and class path do, and module and
member up to what doc case loses.
-/

namespace ApiPages

namespace Site

theorem split_path {segments : List (List Char)} (plain : ∀ segment ∈ segments, '/' ∉ segment) :
    Text.split '/' (path segments) = [] :: segments := by
  induction segments with
  | nil => rfl
  | cons segment rest ih =>
    have absent := plain segment List.mem_cons_self
    have later := ih fun other member => plain other (List.mem_cons_of_mem _ member)
    have cut : Text.split '/' (path (segment :: rest)) =
        [] :: Text.split '/' (segment ++ path rest) := by
      simp [path, Text.split]
    rw [cut]
    cases rest with
    | nil => simp [path, Text.split_of_not_mem absent]
    | cons next others =>
      have behind : path (next :: others) = '/' :: (next ++ path others) := by simp [path]
      rw [behind] at later ⊢
      rw [Text.split_append_separator absent]
      simpa [Text.split] using later

theorem path_inj {segments others : List (List Char)} (plain : ∀ segment ∈ segments, '/' ∉ segment)
    (otherPlain : ∀ segment ∈ others, '/' ∉ segment) (same : path segments = path others) :
    segments = others := by
  have cut := congrArg (Text.split '/') same
  rw [split_path plain, split_path otherPlain] at cut
  exact List.tail_eq_of_cons_eq cut

theorem mem_of_mem_dottedSegments {path : String} {segment : List Char} {c : Char}
    (member : segment ∈ dottedSegments path) (inside : c ∈ segment) : c ∈ path.toList :=
  Text.mem_of_mem_split (List.mem_filter.1 member).1 inside

theorem slash_not_mem_of_mem_baseSegments {moduleName package nestedPath : String}
    (plainModule : '/' ∉ moduleName.toList) (plainPackage : '/' ∉ package.toList)
    (plainPath : '/' ∉ nestedPath.toList) :
    ∀ segment ∈ baseSegments moduleName package nestedPath, '/' ∉ segment := by
  intro segment member inside
  simp only [baseSegments, List.cons_append, List.mem_cons, List.mem_append, List.mem_map] at member
  rcases member with rfl | packaged | ⟨part, nested, rfl⟩
  · exact DocCase.slash_not_mem_segment plainModule inside
  · exact plainPackage (mem_of_mem_dottedSegments packaged inside)
  · have absent : '/' ∉ part := fun slash => plainPath (mem_of_mem_dottedSegments nested slash)
    exact DocCase.slash_not_mem_segment absent inside

theorem base_inj (site : Site) {moduleName package nestedPath other otherPackage otherPath : String}
    (plain : ∀ segment ∈ baseSegments moduleName package nestedPath, '/' ∉ segment)
    (otherPlain : ∀ segment ∈ baseSegments other otherPackage otherPath, '/' ∉ segment)
    (same : site.base moduleName package nestedPath = site.base other otherPackage otherPath) :
    baseSegments moduleName package nestedPath = baseSegments other otherPackage otherPath := by
  have texts := congrArg String.toList same
  simp only [base, String.toList_append, String.toList_ofList, List.append_cancel_left_eq] at texts
  exact path_inj plain otherPlain texts

end Site

structure AddressParts where
  moduleName : String
  package : String
  nestedPath : String
  member : String

namespace Site

/-- Whether no segment of a dotted path is empty. An empty path has no segments. -/
def IsDense (path : String) : Prop := path = "" ∨ [] ∉ Text.split '.' path.toList

theorem IsDense.join_dottedSegments {path : String} (dense : IsDense path) :
    Text.join '.' (dottedSegments path) = path.toList := by
  rcases dense with rfl | filled
  · rfl
  · have whole : dottedSegments path = Text.split '.' path.toList := by
      rw [dottedSegments, List.filter_eq_self]
      intro segment member
      have some : segment ≠ [] := fun none => filled (none ▸ member)
      simpa using some
    rw [whole, Text.join_split]

theorem IsDense.eq_of_dottedSegments_eq {path other : String} (dense : IsDense path)
    (otherDense : IsDense other) (same : dottedSegments path = dottedSegments other) :
    path = other := by
  rw [← String.toList_inj, ← dense.join_dottedSegments, same, otherDense.join_dottedSegments]

theorem ne_nil_of_mem_dottedSegments {path : String} {segment : List Char}
    (member : segment ∈ dottedSegments path) : segment ≠ [] := by
  simpa using (List.mem_filter.1 member).2

def memberSegments (member : String) : MemberKind → List (List Char)
  | .function | .property => [DocCase.segment member.toList ++ ".html".toList]
  | .enumEntry => [DocCase.segment member.toList, "index.html".toList]

theorem toList_memberPage (site : Site) (moduleName package nestedPath member : String)
    (kind : MemberKind) :
    (memberPage (site.base moduleName package nestedPath) member kind).toList =
      site.root.toList ++
        path (baseSegments moduleName package nestedPath ++ memberSegments member kind) := by
  cases kind <;> simp [memberPage, indexPage, pageName, docCase, memberSegments, base, path]

theorem length_memberSegments (member other : String) (kind : MemberKind) :
    (memberSegments member kind).length = (memberSegments other kind).length := by
  cases kind <;> rfl

theorem memberSegments_eq_iff {member other : String} (kind : MemberKind) :
    memberSegments member kind = memberSegments other kind ↔
      DocCase.segment member.toList = DocCase.segment other.toList := by
  cases kind <;> simp [memberSegments]

theorem slash_not_mem_of_mem_memberSegments {member : String} (plain : '/' ∉ member.toList)
    (kind : MemberKind) : ∀ segment ∈ memberSegments member kind, '/' ∉ segment := by
  have absent := DocCase.slash_not_mem_segment plain
  have page : '/' ∉ ".html".toList := by decide
  have index : '/' ∉ "index.html".toList := by decide
  cases kind with
  | function | property =>
    rw [memberSegments, List.forall_mem_singleton, List.mem_append, not_or]
    exact ⟨absent, page⟩
  | enumEntry =>
    rw [memberSegments, List.forall_mem_cons, List.forall_mem_singleton]
    exact ⟨absent, index⟩

theorem ne_nil_of_mem_memberSegments {member : String} (named : member ≠ "") (kind : MemberKind) :
    ∀ segment ∈ memberSegments member kind, segment ≠ [] := by
  have filled : DocCase.segment member.toList ≠ [] := by
    simpa [DocCase.segment_eq_nil_iff] using named
  cases kind <;> simp [memberSegments, filled]

theorem dropTrailingSlashes_spec (text : List Char) :
    (∃ count, text = dropTrailingSlashes text ++ List.replicate count '/') ∧
      (dropTrailingSlashes text).getLast? ≠ some '/' := by
  have kept : dropTrailingSlashes text = text.rdropWhile (· == '/') := rfl
  have dropped : ∀ c ∈ text.rtakeWhile (· == '/'), c = '/' := by
    intro c member
    simpa using List.mem_rtakeWhile_imp member
  rw [kept]
  constructor
  · refine ⟨(text.rtakeWhile (· == '/')).length, ?_⟩
    rw [← List.eq_replicate_of_mem dropped, List.rdropWhile_append_rtakeWhile]
  · intro last
    have some : text.rdropWhile (· == '/') ≠ [] := by
      intro none
      simp [none] at last
    have other := List.rdropWhile_last_not (· == '/') text some
    rw [(List.getLast_eq_iff_getLast?_eq_some some).2 last] at other
    exact other rfl

end Site

namespace AddressParts

open Site (IsDense dottedSegments baseSegments memberSegments)

def page (parts : AddressParts) (site : Site) (kind : MemberKind) : String :=
  Site.memberPage (site.base parts.moduleName parts.package parts.nestedPath) parts.member kind

def segments (parts : AddressParts) (kind : MemberKind) : List (List Char) :=
  baseSegments parts.moduleName parts.package parts.nestedPath ++ memberSegments parts.member kind

/-- Parts that their address does not run together: no slash anywhere, no empty segment, and classes
that start with capitals and have no hyphen, just as the member has none. -/
structure Plain (parts : AddressParts) : Prop where
  moduleName : '/' ∉ parts.moduleName.toList
  package : '/' ∉ parts.package.toList
  packageDense : IsDense parts.package
  nestedPath : '/' ∉ parts.nestedPath.toList
  nestedDense : IsDense parts.nestedPath
  capitals : ∀ segment ∈ dottedSegments parts.nestedPath, segment.head?.any Char.isUpper
  unhyphened : '-' ∉ parts.nestedPath.toList
  member : '/' ∉ parts.member.toList
  memberUnhyphened : '-' ∉ parts.member.toList

theorem toList_page (parts : AddressParts) (site : Site) (kind : MemberKind) :
    (parts.page site kind).toList = site.root.toList ++ Site.path (parts.segments kind) :=
  site.toList_memberPage _ _ _ _ kind

section

variable {parts : AddressParts} (plain : parts.Plain)
include plain

theorem Plain.slash_not_mem (kind : MemberKind) :
    ∀ segment ∈ parts.segments kind, '/' ∉ segment := by
  rw [segments, List.forall_mem_append]
  exact ⟨Site.slash_not_mem_of_mem_baseSegments plain.moduleName plain.package plain.nestedPath,
    Site.slash_not_mem_of_mem_memberSegments plain.member kind⟩

theorem Plain.page_eq_iff {other : AddressParts} (otherPlain : other.Plain) (site : Site)
    (kind : MemberKind) :
    parts.page site kind = other.page site kind ↔ parts.segments kind = other.segments kind := by
  rw [← String.toList_inj, toList_page, toList_page, List.append_cancel_left_eq]
  exact ⟨Site.path_inj (plain.slash_not_mem kind) (otherPlain.slash_not_mem kind),
    congrArg Site.path⟩

theorem Plain.isCapitalized : ∀ segment ∈ dottedSegments parts.nestedPath,
    DocCase.IsCapitalized segment :=
  fun segment member => ⟨plain.capitals segment member,
    fun inside => plain.unhyphened (Site.mem_of_mem_dottedSegments member inside)⟩

theorem Plain.segments_eq_iff {other : AddressParts} (otherPlain : other.Plain)
    (sameDepth : (dottedSegments parts.package).length = (dottedSegments other.package).length)
    (kind : MemberKind) :
    parts.segments kind = other.segments kind ↔
      parts.package = other.package ∧ parts.nestedPath = other.nestedPath ∧
      docCase parts.moduleName = docCase other.moduleName ∧
      DocCase.SameButInitial parts.member.toList other.member.toList := by
  rw [← DocCase.segment_eq_iff plain.memberUnhyphened otherPlain.memberUnhyphened,
    ← Site.memberSegments_eq_iff kind]
  constructor
  · intro same
    obtain ⟨sameBase, sameMember⟩ :=
      List.append_inj' same (Site.length_memberSegments parts.member other.member kind)
    rw [baseSegments, baseSegments, List.cons_append, List.cons_append, List.cons.injEq] at sameBase
    obtain ⟨sameModule, sameRest⟩ := sameBase
    obtain ⟨samePackage, samePath⟩ := List.append_inj sameRest sameDepth
    refine ⟨plain.packageDense.eq_of_dottedSegments_eq otherPlain.packageDense samePackage, ?_,
      congrArg String.ofList sameModule, sameMember⟩
    apply plain.nestedDense.eq_of_dottedSegments_eq otherPlain.nestedDense
    exact DocCase.map_segment_inj plain.isCapitalized otherPlain.isCapitalized samePath
  · rintro ⟨samePackage, samePath, sameModule, sameMember⟩
    have moduleSegment : DocCase.segment parts.moduleName.toList =
        DocCase.segment other.moduleName.toList := String.ofList_injective sameModule
    rw [segments, segments, baseSegments, baseSegments, samePackage, samePath, moduleSegment,
      sameMember]

end

theorem ne_nil_of_mem_segments {parts : AddressParts} (moduleNamed : parts.moduleName ≠ "")
    (memberNamed : parts.member ≠ "") (kind : MemberKind) :
    ∀ segment ∈ parts.segments kind, segment ≠ [] := by
  have filled {text : List Char} (some : text ≠ []) : DocCase.segment text ≠ [] :=
    fun none => some (DocCase.segment_eq_nil_iff.1 none)
  intro segment member
  simp only [segments, baseSegments, List.cons_append, List.mem_cons, List.mem_append,
    List.mem_map] at member
  rcases member with rfl | (packaged | ⟨part, nested, rfl⟩) | own
  · exact filled (by simpa using moduleNamed)
  · exact Site.ne_nil_of_mem_dottedSegments packaged
  · exact filled (Site.ne_nil_of_mem_dottedSegments nested)
  · exact Site.ne_nil_of_mem_memberSegments memberNamed kind segment own

/-- A page names its member: below one root, and for one kind and one depth of packages, pages agree
exactly for the same package and class path, and for modules and members that doc case does not tell
apart. The page is the root without its slashes at the end, and then segments behind slashes. -/
theorem page_determines_member (root : String) (kind : MemberKind) {parts other : AddressParts}
    (plain : parts.Plain) (otherPlain : other.Plain)
    (sameDepth : (dottedSegments parts.package).length = (dottedSegments other.package).length) :
    let site := Site.ofRoot root
    (parts.page site kind = other.page site kind ↔
      parts.package = other.package ∧ parts.nestedPath = other.nestedPath ∧
      docCase parts.moduleName = docCase other.moduleName ∧
      DocCase.SameButInitial parts.member.toList other.member.toList) ∧
    (parts.moduleName ≠ "" → parts.member ≠ "" →
      ∃ trimmed count segments, root.toList = trimmed ++ List.replicate count '/' ∧
        trimmed.getLast? ≠ some '/' ∧
        (parts.page site kind).toList = trimmed ++ Site.path segments ∧
        segments ≠ [] ∧ ∀ segment ∈ segments, segment ≠ [] ∧ '/' ∉ segment) := by
  intro site
  refine ⟨?determined, ?written⟩
  case determined =>
    rw [plain.page_eq_iff otherPlain, plain.segments_eq_iff otherPlain sameDepth]
  case written =>
    intro moduleNamed memberNamed
    obtain ⟨⟨count, whole⟩, trimmed⟩ := Site.dropTrailingSlashes_spec root.toList
    refine ⟨_, count, parts.segments kind, whole, trimmed, ?_, by simp [segments, baseSegments], ?_⟩
    · rw [toList_page, ← String.toList_ofList (l := Site.dropTrailingSlashes root.toList)]
      rfl
    · intro segment member
      exact ⟨ne_nil_of_mem_segments moduleNamed memberNamed kind segment member,
        plain.slash_not_mem kind segment member⟩

theorem page_determines_member_initial :
    let site := Site.ofRoot "https://docs.example//"
    let parts : AddressParts := ⟨"Core-api", "io.Bot", "OuterClass.URL", "RunAll"⟩
    let other : AddressParts := ⟨"core-api", "io.Bot", "OuterClass.URL", "runAll"⟩
    parts.Plain ∧ other.Plain ∧
    (dottedSegments parts.package).length = (dottedSegments other.package).length ∧
    parts.page site .enumEntry =
      "https://docs.example/core-api/io/Bot/outer-class/u-r-l/run-all/index.html" ∧
    parts.page site .enumEntry = other.page site .enumEntry ∧
    DocCase.SameButInitial parts.member.toList other.member.toList := by
  intro site parts other
  have plain : parts.Plain := by
    refine ⟨?_, ?_, .inr ?_, ?_, .inr ?_, ?_, ?_, ?_, ?_⟩ <;> decide
  have otherPlain : other.Plain := by
    refine ⟨?_, ?_, .inr ?_, ?_, .inr ?_, ?_, ?_, ?_, ?_⟩ <;> decide
  have sameDepth :
      (dottedSegments parts.package).length = (dottedSegments other.package).length := by decide
  have samePage : parts.page site .enumEntry = other.page site .enumEntry := by decide
  have determined :=
    (page_determines_member "https://docs.example//" .enumEntry plain otherPlain sameDepth).1
  exact ⟨plain, otherPlain, sameDepth, by decide, samePage, (determined.1 samePage).2.2.2⟩

end AddressParts

end ApiPages
