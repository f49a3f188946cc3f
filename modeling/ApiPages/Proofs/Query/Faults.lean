import ApiPages.Proofs.Resolution.Members
import Mathlib.Data.List.TakeWhile

/-!
Queries that are refused. Three things can be wrong with a query: it has no identifier, its last
`type` flag names something that is no kind, or its identifier has the hash signs of more than one
member. A fault hides the later ones, and none depends on what is documented. Main statement: a
query is refused for its fault and for nothing else, whatever documentation it is put to.
-/

namespace ApiPages

namespace Query

/-- The identifier of a query and the text of its flags. White space ends the identifier, and its
first character belongs to neither. -/
inductive Parts : List Char → List Char → List Char → Prop
  | whole {identifier : List Char} :
    (∀ c ∈ identifier, ¬Text.isBlank c) → Parts identifier identifier []
  | broken {identifier : List Char} {blank : Char} (behind : List Char) :
    (∀ c ∈ identifier, ¬Text.isBlank c) → Text.isBlank blank →
      Parts (identifier ++ blank :: behind) identifier behind

/-- The value of the last of some flags under a key. -/
def IsLastValue (key value : List Char) (found : List Flag) : Prop :=
  ∃ before behind, found = before ++ ⟨key, value⟩ :: behind ∧ ∀ flag ∈ behind, flag.key ≠ key

def IsKindName (name : List Char) : Prop :=
  name.map Char.toLower = "function".toList ∨ name.map Char.toLower = "property".toList

def IsFirstUnknown (name : List Char) (names : List (List Char)) : Prop :=
  ∃ known rest, names = known ++ name :: rest ∧ (∀ kind ∈ known, IsKindName kind) ∧
    ¬IsKindName name

/-- The name is no kind and comes first among those that the last `type` flag asks for. -/
def AsksForUnknown (flagText name : List Char) : Prop :=
  ∃ value, IsLastValue typeKey value (flags flagText) ∧
    IsFirstUnknown name (Text.split '|' value)

/-- What is wrong with a query, as it is reported. -/
inductive Fault (query : String) : ResolutionError → Prop
  | noIdentifier (absent : query = "" ∨ query.toList.head?.any Text.isBlank) :
    Fault query .emptyIdentifier
  | unknownKind {identifier flagText name : List Char}
    (parts : Parts query.toList identifier flagText) (named : identifier ≠ [])
    (asked : AsksForUnknown flagText name) : Fault query (.unknownKind (String.ofList name))
  | malformedMember {identifier flagText : List Char}
    (parts : Parts query.toList identifier flagText) (named : identifier ≠ [])
    (known : ∀ name, ¬AsksForUnknown flagText name)
    (noSmallLetter : ¬identifier.head?.any Text.isLower) (hashes : 2 ≤ identifier.count '#') :
    Fault query (.malformedMember (String.ofList identifier))

theorem Parts.eq_cut {query identifier flagText : List Char}
    (parts : Parts query identifier flagText) : cut query = (identifier, flagText) := by
  cases parts with
  | whole unbroken => exact cut_of_no_blank (by simpa using unbroken)
  | broken behind unbroken blank =>
    have kept : ∀ c ∈ identifier, (!Text.isBlank c) = true := by simpa using unbroken
    rw [cut, List.takeWhile_append_of_pos kept, List.dropWhile_append_of_pos kept,
      List.takeWhile_cons_of_neg (by simp [blank]), List.dropWhile_cons_of_neg (by simp [blank]),
      List.append_nil, List.tail_cons]

theorem parts_cut (query : List Char) : Parts query (cut query).1 (cut query).2 := by
  have unbroken : ∀ c ∈ query.takeWhile fun c => !Text.isBlank c, ¬Text.isBlank c := by
    intro c member
    simpa using List.mem_takeWhile_imp member
  cases behind : query.dropWhile fun c => !Text.isBlank c with
  | nil =>
    have parts := Parts.whole unbroken
    rw [cut, behind, List.tail_nil]
    rwa [List.takeWhile_eq_self_iff.2 (List.dropWhile_eq_nil_iff.1 behind)] at parts ⊢
  | cons blank rest =>
    have ends : Text.isBlank blank := by
      have stopped := List.head?_dropWhile_not (fun c => !Text.isBlank c) query
      simpa [behind] using stopped
    have parts := Parts.broken rest unbroken ends
    rw [← behind, List.takeWhile_append_dropWhile] at parts
    rw [cut, behind]
    exact parts

theorem parts_iff {query identifier flagText : List Char} :
    Parts query identifier flagText ↔ cut query = (identifier, flagText) := by
  constructor
  · exact Parts.eq_cut
  · intro parts
    simpa [parts] using parts_cut query

def IsFlagText (text : List Char) : Prop := text = [] ∨ text.head?.any Text.isBlank

theorem parts_append {identifier text : List Char} (unbroken : ¬identifier.any Text.isBlank)
    (apart : IsFlagText text) : Parts (identifier ++ text) identifier text.tail := by
  have unbroken : ∀ c ∈ identifier, ¬Text.isBlank c := by simpa using unbroken
  cases text with
  | nil =>
    rw [List.append_nil]
    exact .whole unbroken
  | cons blank behind =>
    have ends : Text.isBlank blank := by simpa [IsFlagText] using apart
    exact .broken behind unbroken ends

theorem cut_fst_eq_nil_iff {query : List Char} :
    (cut query).1 = [] ↔ query = [] ∨ query.head?.any Text.isBlank := by
  cases query with
  | nil => simp [cut]
  | cons c rest => by_cases blank : Text.isBlank c <;> simp [cut, blank]

theorem lastValue?_eq_some_iff {key value : List Char} {found : List Flag} :
    lastValue? key found = some value ↔ IsLastValue key value found := by
  simp only [lastValue?, Option.map_eq_some_iff, List.find?_eq_some_iff_append]
  constructor
  · rintro ⟨⟨_, _⟩, ⟨same, behind, before, reversed, others⟩, rfl⟩
    obtain rfl := eq_of_beq same
    refine ⟨before.reverse, behind.reverse, ?_, ?_⟩
    · simpa using congrArg List.reverse reversed
    · simpa using others
  · rintro ⟨before, behind, rfl, others⟩
    refine ⟨⟨key, value⟩, ⟨by simp, behind.reverse, before.reverse, by simp, ?_⟩, rfl⟩
    simpa using others

theorem ofName?_isSome_iff {name : List Char} :
    (KindSet.ofName? (String.ofList name)).isSome ↔ IsKindName name := by
  rw [KindSet.ofName?, IsKindName, String.toList_ofList]
  split
  · next isFunction => simp [isFunction]
  · next notFunction => split <;> simp_all

theorem isFirstUnknown_cons_iff {name first : List Char} {rest : List (List Char)} :
    IsFirstUnknown name (first :: rest) ↔
      (¬IsKindName first ∧ name = first) ∨ (IsKindName first ∧ IsFirstUnknown name rest) := by
  constructor
  · rintro ⟨known, behind, whole, kinds, unknown⟩
    cases known with
    | nil =>
      obtain ⟨rfl, rfl⟩ := List.cons.inj whole
      exact .inl ⟨unknown, rfl⟩
    | cons kind known =>
      obtain ⟨rfl, rfl⟩ := List.cons.inj whole
      rw [List.forall_mem_cons] at kinds
      exact .inr ⟨kinds.1, known, behind, rfl, kinds.2, unknown⟩
  · rintro (⟨unknown, rfl⟩ | ⟨kind, known, behind, rfl, kinds, unknown⟩)
    · exact ⟨[], rest, rfl, by simp, unknown⟩
    · exact ⟨first :: known, behind, rfl, List.forall_mem_cons.2 ⟨kind, kinds⟩, unknown⟩

theorem kindsOfNames_eq_error_iff {known : KindSet} {names : List (List Char)}
    {error : ResolutionError} :
    kindsOfNames known names = .error error ↔
      ∃ name, IsFirstUnknown name names ∧ error = .unknownKind (String.ofList name) := by
  induction names generalizing known with
  | nil => simp [kindsOfNames, IsFirstUnknown]
  | cons first rest ih =>
    simp only [isFirstUnknown_cons_iff, ← ofName?_isSome_iff]
    rw [kindsOfNames]
    cases named : KindSet.ofName? (String.ofList first) with
    | some kinds => simp [ih]
    | none => simp [eq_comm]

theorem kindsOfFlags_eq_error_iff {flagText : List Char} {error : ResolutionError} :
    kindsOfFlags (flags flagText) = .error error ↔
      ∃ name, AsksForUnknown flagText name ∧ error = .unknownKind (String.ofList name) := by
  simp only [AsksForUnknown, ← lastValue?_eq_some_iff]
  rw [kindsOfFlags]
  cases lastValue? typeKey (flags flagText) with
  | none => simp
  | some value => simp [kindsOfNames_eq_error_iff]

end Query

theorem Request.parse_of_parts {query : String} {identifier flagText : List Char}
    (parts : Query.Parts query.toList identifier flagText) :
    parse query = if identifier = [] then .error .emptyIdentifier
      else (Query.kindsOfFlags (Query.flags flagText)).map fun kinds =>
        ⟨String.ofList identifier, kinds⟩ := by
  simp only [parse, parts.eq_cut, List.isEmpty_iff]

theorem Request.parse_eq_error_iff {query : String} {error : ResolutionError} :
    parse query = .error error ↔
      (error = .emptyIdentifier ∧ (query = "" ∨ query.toList.head?.any Text.isBlank)) ∨
      ∃ identifier flagText name, Query.Parts query.toList identifier flagText ∧ identifier ≠ [] ∧
        Query.AsksForUnknown flagText name ∧ error = .unknownKind (String.ofList name) := by
  have absent : query.toList = [] ↔ query = "" := String.toList_eq_nil_iff
  have nameless := @Query.cut_fst_eq_nil_iff query.toList
  rw [absent] at nameless
  simp only [Query.parts_iff]
  rw [← nameless, parse]
  rcases cut : Query.cut query.toList with ⟨identifier, flagText⟩
  by_cases empty : identifier = []
  · simp [empty, eq_comm]
  · have kinds := @Query.kindsOfFlags_eq_error_iff flagText error
    cases found : Query.kindsOfFlags (Query.flags flagText) with
    | ok known =>
      rw [found] at kinds
      simp_all [Except.map]
    | error cause =>
      rw [found] at kinds
      simp_all [Except.map]

namespace Documentation

/-- What an answer is when nothing is wrong with the query: a page, or none, or a choice. -/
inductive Verdict : Except ResolutionError Link → Prop
  | page (link : Link) : Verdict (.ok link)
  | undocumented (reason : String) : Verdict (.error (.notFound reason))
  | choice (identifier : String) {candidates : List String} (several : 2 ≤ candidates.length) :
    Verdict (.error (.ambiguous identifier candidates))

theorem Verdict.not_isUserError {error : ResolutionError} (verdict : Verdict (.error error)) :
    ¬error.isUserError := by
  cases verdict <;> simp [ResolutionError.isUserError]

theorem single_verdict (candidates : Candidates) (identifier notFound : String) :
    Verdict (candidates.single identifier notFound) := by
  match candidates with
  | ⟨[]⟩ => exact .undocumented notFound
  | ⟨[only]⟩ => exact .page only.link
  | ⟨_ :: _ :: _⟩ => exact .choice identifier (by simp)

theorem resolveClass_verdict (documentation : Documentation) (name : String) :
    Verdict (documentation.resolveClass name) := by
  rw [resolveClass]
  match documentation.index.find name with
  | [] => exact .undocumented _
  | [entry] =>
    dsimp only
    cases entry.class? with
    | some indexed => exact .page _
    | none => exact .undocumented _
  | _ :: _ :: _ => exact .choice name (by simp)

theorem resolveTopLevel_verdict (documentation : Documentation) (request : Request) :
    Verdict (documentation.resolveTopLevel request) :=
  single_verdict _ _ _

theorem resolveMember_verdict (documentation : Documentation) {request : Request}
    (single : request.identifier.toList.count '#' = 1) :
    Verdict (documentation.resolveMember request) := by
  rw [resolveMember]
  cases split : splitMember? request.identifier with
  | none => exact absurd single (splitMember?_eq_none_iff.1 split)
  | some names =>
    obtain ⟨className, member⟩ := names
    dsimp only
    cases documentation.index.find className with
    | nil => exact .undocumented _
    | cons first rest => exact single_verdict _ _ _

theorem resolveMember_malformed (documentation : Documentation) {request : Request}
    (hashes : request.identifier.toList.count '#' ≠ 1) :
    documentation.resolveMember request = .error (.malformedMember request.identifier) := by
  rw [resolveMember, splitMember?_eq_none_iff.2 hashes]

theorem resolve_malformed (documentation : Documentation) {request : Request}
    (noSmallLetter : ¬request.identifier.toList.head?.any Text.isLower)
    (hashes : 2 ≤ request.identifier.toList.count '#') :
    documentation.resolve request = .error (.malformedMember request.identifier) := by
  have member : '#' ∈ request.identifier.toList := List.count_pos_iff.1 (by omega)
  rw [resolve, Target.ofIdentifier, if_neg noSmallLetter, if_pos member]
  exact documentation.resolveMember_malformed (by omega)

theorem resolve_verdict (documentation : Documentation) {request : Request}
    (plain : request.identifier.toList.head?.any Text.isLower ∨
      request.identifier.toList.count '#' < 2) : Verdict (documentation.resolve request) := by
  rw [resolve, Target.ofIdentifier]
  split
  · exact documentation.resolveTopLevel_verdict request
  · next noSmallLetter =>
    split
    · next member =>
      have atLeastOne := List.count_pos_iff.2 member
      have fewer := plain.resolve_left noSmallLetter
      exact documentation.resolveMember_verdict (by omega)
    · exact documentation.resolveClass_verdict request.identifier

theorem answer_of_fault (documentation : Documentation) {query : String} {error : ResolutionError}
    (fault : Query.Fault query error) : documentation.answer query = .error error := by
  have unreadable {error : ResolutionError} (failed : Request.parse query = .error error) :
      documentation.answer query = .error error := by
    rw [answer, failed]
    rfl
  cases fault with
  | noIdentifier absent => exact unreadable (Request.parse_eq_error_iff.2 (.inl ⟨rfl, absent⟩))
  | unknownKind parts named asked =>
    exact unreadable (Request.parse_eq_error_iff.2 (.inr ⟨_, _, _, parts, named, asked, rfl⟩))
  | @malformedMember identifier flagText parts named known noSmallLetter hashes =>
    cases parsed : Request.parse query with
    | error cause =>
      rcases Request.parse_eq_error_iff.1 parsed with ⟨-, absent⟩ | ⟨_, _, name, again, _, asked, -⟩
      · rw [← String.toList_eq_nil_iff, ← Query.cut_fst_eq_nil_iff, parts.eq_cut] at absent
        exact absurd absent named
      · obtain ⟨rfl, rfl⟩ := Prod.mk.inj (parts.eq_cut.symm.trans again.eq_cut)
        exact absurd asked (known name)
    | ok request =>
      have identified : request.identifier = String.ofList identifier := by
        rw [Request.identifier_of_parse parsed, parts.eq_cut]
      have refused : documentation.resolve request =
          .error (.malformedMember request.identifier) := by
        apply resolve_malformed <;> rwa [identified, String.toList_ofList]
      rw [answer, parsed, Except.bind, refused, identified]

theorem answer_verdict (documentation : Documentation) {query : String}
    (faultless : ∀ error, ¬Query.Fault query error) : Verdict (documentation.answer query) := by
  have parts := Query.parts_cut query.toList
  rw [answer]
  cases parsed : Request.parse query with
  | error cause =>
    rcases Request.parse_eq_error_iff.1 parsed with
      ⟨-, absent⟩ | ⟨_, _, name, parts, named, asked, -⟩
    · exact absurd (.noIdentifier absent) (faultless _)
    · exact absurd (.unknownKind parts named asked) (faultless _)
  | ok request =>
    have readable (error : ResolutionError) : Request.parse query ≠ .error error := by simp [parsed]
    have identified : request.identifier.toList = (Query.cut query.toList).1 := by
      rw [Request.identifier_of_parse parsed, String.toList_ofList]
    have named : (Query.cut query.toList).1 ≠ [] := by
      rw [ne_eq, Query.cut_fst_eq_nil_iff, String.toList_eq_nil_iff]
      exact fun absent => readable _ (Request.parse_eq_error_iff.2 (.inl ⟨rfl, absent⟩))
    have known : ∀ name, ¬Query.AsksForUnknown (Query.cut query.toList).2 name := fun name asked =>
      readable _ (Request.parse_eq_error_iff.2 (.inr ⟨_, _, _, parts, named, asked, rfl⟩))
    apply resolve_verdict
    rw [identified]
    by_contra! hashed
    exact faultless _ (.malformedMember parts named known (by simpa using hashed.1) hashed.2)

theorem answer_eq_userError_iff (documentation : Documentation) (query : String)
    (error : ResolutionError) :
    documentation.answer query = .error error ∧ error.isUserError ↔ Query.Fault query error := by
  constructor
  · rintro ⟨answered, atFault⟩
    by_cases faulty : ∃ cause, Query.Fault query cause
    · obtain ⟨cause, fault⟩ := faulty
      have same := answered.symm.trans (documentation.answer_of_fault fault)
      rwa [Except.error.inj same]
    · have verdict := documentation.answer_verdict (not_exists.1 faulty)
      rw [answered] at verdict
      exact absurd atFault verdict.not_isUserError
  · intro fault
    exact ⟨documentation.answer_of_fault fault, by cases fault <;> rfl⟩

theorem two_le_of_answer_ambiguous {documentation : Documentation} {query identifier : String}
    {candidates : List String}
    (answered : documentation.answer query = .error (.ambiguous identifier candidates)) :
    2 ≤ candidates.length := by
  by_cases faulty : ∃ cause, Query.Fault query cause
  · obtain ⟨cause, fault⟩ := faulty
    obtain rfl := Except.error.inj (answered.symm.trans (documentation.answer_of_fault fault))
    cases fault
  · have verdict := documentation.answer_verdict (not_exists.1 faulty)
    rw [answered] at verdict
    cases verdict with
    | choice _ several => exact several

/-- A query is refused for its fault and for nothing else, so all documentation agrees on it. -/
theorem answer_refused_iff (documentation : Documentation) (query : String) :
    (∀ error, documentation.answer query = .error error ∧ error.isUserError ↔
      Query.Fault query error) ∧
    ((∃ error, Query.Fault query error) ∨ Verdict (documentation.answer query)) ∧
    (∀ other : Documentation, ∀ error,
      documentation.answer query = .error error ∧ error.isUserError ↔
        other.answer query = .error error ∧ error.isUserError) := by
  refine ⟨documentation.answer_eq_userError_iff query, ?_, fun other error => ?_⟩
  · rw [or_iff_not_imp_left, not_exists]
    exact documentation.answer_verdict
  · rw [answer_eq_userError_iff, answer_eq_userError_iff]

/-- The identifier is looked at last: a wrong kind hides its second hash sign. -/
example : Query.Fault "A#b#c type=function type=x|property" (.unknownKind "x") :=
  ((Documentation.ofRecords .all [] .default).answer_eq_userError_iff _ _).1 (by decide +kernel)

end Documentation

end ApiPages
