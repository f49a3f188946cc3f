import ApiPages.Proofs.Query.Grammar

/-!
Queries as they are written: an identifier, and flags with something in front of each that no flag
is made of. Main statement: a query is read by the grammar of flags, its last `type` flag alone says
which kinds are asked for, and what was written is what is read.
-/

namespace ApiPages

namespace Query

def Spells (word : String) (name : List Char) : Prop := name.map Char.toLower = word.toList

instance (word : String) (name : List Char) : Decidable (Spells word name) :=
  inferInstanceAs (Decidable (_ = _))

/-- The kinds are those that some names stand for, and every name stands for one. -/
@[mk_iff named_iff]
structure Named (names : List (List Char)) (kinds : KindSet) : Prop where
  known : ∀ name ∈ names, IsKindName name
  functions : kinds.functions ↔ ∃ name ∈ names, Spells "function" name
  properties : kinds.properties ↔ ∃ name ∈ names, Spells "property" name

/-- The kinds that some flags ask for: those that the last `type` flag names, or all without one. -/
inductive Asks (found : List Flag) : KindSet → Prop
  | all (untyped : ∀ flag ∈ found, flag.key ≠ typeKey) : Asks found .all
  | named {value : List Char} {kinds : KindSet} (last : IsLastValue typeKey value found)
    (named : Named (Text.split '|' value) kinds) : Asks found kinds

theorem Spells.not_property {name : List Char} (function : Spells "function" name) :
    ¬Spells "property" name := fun property =>
  absurd (function.symm.trans property) (by decide)

theorem ofName?_eq_some_iff {name : List Char} {kinds : KindSet} :
    KindSet.ofName? (String.ofList name) = some kinds ↔ IsKindName name ∧
      (kinds.functions ↔ Spells "function" name) ∧
      (kinds.properties ↔ Spells "property" name) := by
  obtain ⟨functions, properties⟩ := kinds
  have kinded : IsKindName name ↔ Spells "function" name ∨ Spells "property" name := .rfl
  have read : KindSet.ofName? (String.ofList name) = if Spells "function" name then some .function
      else if Spells "property" name then some .property else none := by
    rw [KindSet.ofName?, String.toList_ofList]
    rfl
  rw [read, kinded]
  by_cases function : Spells "function" name
  · cases functions <;> cases properties <;>
      simp [function, function.not_property, KindSet.function]
  · by_cases property : Spells "property" name <;> cases functions <;> cases properties <;>
      simp [function, property, KindSet.property]

theorem kindsOfNames_eq_ok_iff {known kinds : KindSet} {names : List (List Char)} :
    kindsOfNames known names = .ok kinds ↔ (∀ name ∈ names, IsKindName name) ∧
      (kinds.functions ↔ known.functions ∨ ∃ name ∈ names, Spells "function" name) ∧
      (kinds.properties ↔ known.properties ∨ ∃ name ∈ names, Spells "property" name) := by
  induction names generalizing known with
  | nil =>
    obtain ⟨functions, properties⟩ := kinds
    obtain ⟨knownFunctions, knownProperties⟩ := known
    simp [kindsOfNames, Bool.coe_iff_coe, eq_comm]
  | cons name rest ih =>
    rw [kindsOfNames]
    cases first : KindSet.ofName? (String.ofList name) with
    | none =>
      have unknown : ¬IsKindName name := by simp [← ofName?_isSome_iff, first]
      simp [unknown]
    | some found =>
      obtain ⟨kind, functions, properties⟩ := ofName?_eq_some_iff.1 first
      simp [ih, kind, KindSet.union, functions, properties, or_assoc]

theorem lastValue?_eq_none_iff {key : List Char} {found : List Flag} :
    lastValue? key found = none ↔ ∀ flag ∈ found, flag.key ≠ key := by
  simp [lastValue?]

theorem kindsOfFlags_eq_ok_iff {found : List Flag} {kinds : KindSet} :
    kindsOfFlags found = .ok kinds ↔ Asks found kinds := by
  rw [kindsOfFlags]
  cases last : lastValue? typeKey found with
  | none =>
    have untyped := lastValue?_eq_none_iff.1 last
    constructor
    · intro all
      obtain rfl := Except.ok.inj all
      exact .all untyped
    · rintro (_ | ⟨isLast⟩)
      · rfl
      · rw [lastValue?_eq_some_iff.2 isLast] at last
        cases last
  | some value =>
    have union : kindsOfNames .empty (Text.split '|' value) = .ok kinds ↔
        Named (Text.split '|' value) kinds := by
      simp [kindsOfNames_eq_ok_iff, KindSet.empty, named_iff]
    dsimp only
    rw [union]
    constructor
    · exact .named (lastValue?_eq_some_iff.1 last)
    · rintro (untyped | ⟨isLast, named⟩)
      · rw [lastValue?_eq_none_iff.2 untyped] at last
        cases last
      · rw [lastValue?_eq_some_iff.2 isLast] at last
        obtain rfl := Option.some.inj last
        exact named

theorem Asks.ne_empty {found : List Flag} {kinds : KindSet} (asks : Asks found kinds) :
    kinds ≠ .empty := by
  cases asks with
  | all => decide
  | @named value _ last named =>
    obtain ⟨first, rest, names⟩ := List.exists_cons_of_ne_nil (Text.split_ne_nil '|' value)
    have member : first ∈ Text.split '|' value := by simp [names]
    rintro rfl
    rcases named.known first member with function | property
    · exact absurd (named.functions.2 ⟨first, member, function⟩) (by decide)
    · exact absurd (named.properties.2 ⟨first, member, property⟩) (by decide)

/-- A flag as it is written, with the text that sets it apart from what is in front of it. -/
structure Piece where
  gap : List Char
  flag : Flag

def Piece.chars (piece : Piece) : List Char := piece.gap ++ piece.flag.chars

def separates (c : Char) : Bool := !isValueChar c && c != '='

@[mk_iff fits_iff]
structure Piece.Fits (piece : Piece) : Prop where
  parted : piece.gap ≠ []
  apart : piece.gap.all separates
  inKey : piece.flag.key.all Text.isWord
  valued : piece.flag.value ≠ []
  inValue : piece.flag.value.all isValueChar

instance (piece : Piece) : Decidable piece.Fits := decidable_of_iff' _ piece.fits_iff

/-- A query in its pieces. -/
structure Written where
  identifier : List Char
  pieces : List Piece
  identified : identifier ≠ []
  unbroken : ¬identifier.any Text.isBlank
  fits : ∀ piece ∈ pieces, piece.Fits
  broken : IsFlagText (pieces.flatMap Piece.chars)

def Written.query (written : Written) : String :=
  String.ofList (written.identifier ++ written.pieces.flatMap Piece.chars)

def Written.flags (written : Written) : List Flag := written.pieces.map Piece.flag

theorem separates_iff {c : Char} : separates c ↔ ¬isValueChar c ∧ c ≠ '=' := by
  simp [separates]

theorem not_isWord_of_separates {c : Char} (apart : separates c) : ¬Text.isWord c :=
  fun isWord => (separates_iff.1 apart).1 (isValueChar_of_isWord isWord)

theorem flags_cons_of_not_isWord {c : Char} (ends : ¬Text.isWord c) (rest : List Char) :
    flags (c :: rest) = flags rest := by
  simp [flags, scan, ends]

theorem flags_gap {gap : List Char} (apart : gap.all separates) (rest : List Char) :
    flags (gap ++ rest) = flags rest := by
  induction gap with
  | nil => rfl
  | cons c gap ih =>
    rw [List.all_cons, Bool.and_eq_true] at apart
    rw [List.cons_append, flags_cons_of_not_isWord (not_isWord_of_separates apart.1), ih apart.2]

theorem scan_value {value behind : List Char} (inValue : value.all isValueChar)
    (ends : behind.head?.all separates) (word : List Char) :
    scan word none (value ++ behind) = flags behind := by
  induction value generalizing word with
  | nil =>
    cases behind with
    | nil => rfl
    | cons c rest =>
      have apart : separates c := by simpa using ends
      simp [flags, scan, not_isWord_of_separates apart, (separates_iff.1 apart).2]
  | cons c value ih =>
    rw [List.all_cons, Bool.and_eq_true] at inValue
    rw [List.cons_append, scan, ih inValue.2, ih inValue.2]
    by_cases isWord : Text.isWord c
    · simp [isWord]
    · have bar : c = '|' := by simpa [isValueChar, isWord] using inValue.1
      simp [bar, Text.not_isWord_bar]

theorem Piece.Fits.flags_append {piece : Piece} (fits : piece.Fits) {behind : List Char}
    (ends : behind.head?.all separates) :
    flags (piece.chars ++ behind) =
      if piece.flag.key = [] then flags behind else piece.flag :: flags behind := by
  rw [Piece.chars, List.append_assoc, flags_gap fits.apart]
  split
  · next unnamed =>
    have sign : ¬Text.isWord '=' := by simp [Text.not_isWord_equals]
    rw [Flag.chars, unnamed, List.nil_append, List.cons_append, flags_cons_of_not_isWord sign]
    exact scan_value fits.inValue ends []
  · next named =>
    have wellFormed : piece.flag.WellFormed :=
      ⟨named, List.all_eq_true.1 fits.inKey, fits.valued, List.all_eq_true.1 fits.inValue⟩
    refine flags_eq_iff.2 (.behind_flag wellFormed ?_ (flags_eq_iff.1 rfl))
    cases behind with
    | nil => simp
    | cons c rest =>
      have apart : separates c := by simpa using ends
      simpa using (separates_iff.1 apart).1

theorem head?_separates {pieces : List Piece} (fits : ∀ piece ∈ pieces, piece.Fits) :
    (pieces.flatMap Piece.chars).head?.all separates := by
  cases pieces with
  | nil => rfl
  | cons piece rest =>
    have first : piece.Fits := fits piece (by simp)
    obtain ⟨c, gap, gapped⟩ := List.exists_cons_of_ne_nil first.parted
    have apart := List.all_eq_true.1 first.apart c (by simp [gapped])
    simpa [Piece.chars, gapped] using apart

theorem flags_written {pieces : List Piece} (fits : ∀ piece ∈ pieces, piece.Fits) :
    flags (pieces.flatMap Piece.chars) =
      (pieces.map Piece.flag).filter fun flag => flag.key ≠ [] := by
  induction pieces with
  | nil => rfl
  | cons piece rest ih =>
    rw [List.forall_mem_cons] at fits
    rw [List.flatMap_cons, fits.1.flags_append (head?_separates fits.2), ih fits.2, List.map_cons]
    by_cases unnamed : piece.flag.key = [] <;> simp [unnamed]

theorem lastValue?_filter {key : List Char} {keeps : Flag → Bool} {found : List Flag}
    (kept : ∀ flag, flag.key = key → keeps flag) :
    lastValue? key (found.filter keeps) = lastValue? key found := by
  rw [lastValue?, lastValue?, ← List.filter_reverse, List.find?_filter]
  congr 2
  funext flag
  by_cases keyed : flag.key = key <;> simp [keyed, kept]

theorem Written.kindsOfFlags_query (written : Written) :
    kindsOfFlags (Query.flags (written.pieces.flatMap Piece.chars).tail) =
      kindsOfFlags written.flags := by
  have behind : Query.flags (written.pieces.flatMap Piece.chars).tail =
      Query.flags (written.pieces.flatMap Piece.chars) := by
    have starts := head?_separates written.fits
    cases text : written.pieces.flatMap Piece.chars with
    | nil => rfl
    | cons c rest =>
      have apart : separates c := by simpa [text] using starts
      exact (flags_cons_of_not_isWord (not_isWord_of_separates apart) rest).symm
  rw [behind, flags_written written.fits, kindsOfFlags, kindsOfFlags, Written.flags,
    lastValue?_filter fun flag typed => by simp [typed, typeKey]]

theorem Written.parts_query (written : Written) :
    Parts written.query.toList written.identifier (written.pieces.flatMap Piece.chars).tail := by
  rw [Written.query, String.toList_ofList]
  exact parts_append written.unbroken written.broken

end Query

open Query

theorem Request.parse_eq_ok_iff {query : String} {request : Request} {identifier text : List Char}
    (parts : Parts query.toList identifier text) :
    parse query = .ok request ↔ identifier ≠ [] ∧ request.identifier = String.ofList identifier ∧
      Asks (flags text) request.kinds := by
  obtain ⟨_, kinds⟩ := request
  rw [parse_of_parts parts, ← kindsOfFlags_eq_ok_iff]
  by_cases absent : identifier = []
  · simp [absent]
  · cases kindsOfFlags (flags text) <;> simp [absent, Except.map, eq_comm]

/-- A query is read by the grammar of flags, and the last `type` flag alone says which kinds are
asked for. What is written in pieces is read piece by piece. -/
theorem Request.parse_flags :
    (∀ text found, flags text = found ↔ Reads text found) ∧
    (∀ query request, parse query = .ok request ↔
      ∃ identifier text found, Parts query.toList identifier text ∧ identifier ≠ [] ∧
        request.identifier = String.ofList identifier ∧ Reads text found ∧
        Asks found request.kinds) ∧
    (∀ (written : Written) request, parse written.query = .ok request ↔
      request.identifier = String.ofList written.identifier ∧
        Asks written.flags request.kinds) ∧
    ∀ query request, parse query = .ok request → request.kinds ≠ .empty := by
  refine ⟨fun _ _ => flags_eq_iff, fun query request => ?_, fun written request => ?_,
    fun query request parsed => ?_⟩
  · simp only [← flags_eq_iff]
    constructor
    · intro parsed
      have parts := parts_cut query.toList
      obtain ⟨identified, same, asks⟩ := (parse_eq_ok_iff parts).1 parsed
      exact ⟨_, _, _, parts, identified, same, rfl, asks⟩
    · rintro ⟨identifier, text, _, parts, identified, same, rfl, asks⟩
      exact (parse_eq_ok_iff parts).2 ⟨identified, same, asks⟩
  · rw [parse_eq_ok_iff written.parts_query, ← kindsOfFlags_eq_ok_iff, ← kindsOfFlags_eq_ok_iff,
      written.kindsOfFlags_query]
    simp [written.identified]
  · obtain ⟨-, -, asks⟩ := (parse_eq_ok_iff (parts_cut query.toList)).1 parsed
    exact asks.ne_empty

theorem Request.parse_flags_mixed :
    parse "Foo,Bar type=x, since=3;\u00a0Type=y -type=Function" = .ok ⟨"Foo,Bar", .function⟩ ∧
      KindSet.function ≠ .empty := by
  -- The comma does not end the identifier, and `Type` is not the key `type`.
  let written : Written :=
    { identifier := "Foo,Bar".toList
      pieces := [⟨" ".toList, ⟨typeKey, "x".toList⟩⟩, ⟨", ".toList, ⟨"since".toList, "3".toList⟩⟩,
        ⟨";\u00a0".toList, ⟨"Type".toList, "y".toList⟩⟩,
        ⟨" -".toList, ⟨typeKey, "Function".toList⟩⟩]
      identified := by decide
      unbroken := by decide +kernel
      fits := by decide +kernel
      broken := .inr (by decide) }
  have asks : Asks written.flags .function := kindsOfFlags_eq_ok_iff.1 (by decide +kernel)
  have parsed : parse written.query = .ok ⟨"Foo,Bar", .function⟩ :=
    (parse_flags.2.2.1 written _).2 ⟨rfl, asks⟩
  exact ⟨parsed, parse_flags.2.2.2 _ _ parsed⟩

end ApiPages
