import ApiPages.Proofs.Query.Faults

/-!
The grammar of flags. A flag is a whole run of word characters, an equals sign and a whole run of
word characters and bars. Flags are read one after the other, each the leftmost of what the one
before it leaves, so a run that ends a value is no key. Main statement: this is how queries are
read, and a query that is written as an identifier with flags behind it gives them back.
-/

namespace ApiPages

namespace Query

def Flag.chars (flag : Flag) : List Char := flag.key ++ '=' :: flag.value

structure Flag.WellFormed (flag : Flag) : Prop where
  keyed : flag.key ≠ []
  inKey : ∀ c ∈ flag.key, Text.isWord c
  valued : flag.value ≠ []
  inValue : ∀ c ∈ flag.value, isValueChar c

structure Occurs (text before : List Char) (flag : Flag) (behind : List Char) : Prop where
  whole : text = before ++ flag.chars ++ behind
  wellFormed : flag.WellFormed
  keyStarts : ¬before.getLast?.any Text.isWord
  valueEnds : ¬behind.head?.any isValueChar

/-- The flags that are read from a text: the leftmost, and then those behind it. -/
inductive Reads : List Char → List Flag → Prop
  | none {text : List Char} (absent : ∀ before flag behind, ¬Occurs text before flag behind) :
    Reads text []
  | next {text before behind : List Char} {flag : Flag} {later : List Flag}
    (found : Occurs text before flag behind)
    (leftmost : ∀ other another rest, Occurs text other another rest →
      before.length ≤ other.length)
    (rest : Reads behind later) : Reads text (flag :: later)

theorem isValueChar_of_isWord {c : Char} (word : Text.isWord c) : isValueChar c := by
  simp [isValueChar, word]

theorem Flag.WellFormed.inj {flag other : Flag} (wellFormed : flag.WellFormed)
    (otherWellFormed : other.WellFormed) {behind rest : List Char}
    (ends : ¬behind.head?.any isValueChar) (otherEnds : ¬rest.head?.any isValueChar)
    (same : flag.chars ++ behind = other.chars ++ rest) : flag = other ∧ behind = rest := by
  obtain ⟨key, value⟩ := flag
  obtain ⟨otherKey, otherValue⟩ := other
  simp only [Flag.chars, List.append_assoc, List.cons_append] at same
  obtain ⟨rfl, signs⟩ := Text.run_inj wellFormed.inKey otherWellFormed.inKey
    (by simp [Text.not_isWord_equals]) (by simp [Text.not_isWord_equals]) same
  obtain ⟨rfl, rests⟩ := Text.run_inj wellFormed.inValue otherWellFormed.inValue ends otherEnds
    (List.cons.inj signs).2
  exact ⟨rfl, rests⟩

theorem Reads.unique {text : List Char} {found others : List Flag} (reads : Reads text found)
    (alsoReads : Reads text others) : found = others := by
  induction reads generalizing others with
  | none absent =>
    cases alsoReads with
    | none => rfl
    | next occurs => exact absurd occurs (absent _ _ _)
  | next occurs leftmost rest ih =>
    cases alsoReads with
    | none absent => exact absurd occurs (absent _ _ _)
    | next alsoOccurs alsoLeftmost others =>
      have lengths := Nat.le_antisymm (leftmost _ _ _ alsoOccurs) (alsoLeftmost _ _ _ occurs)
      have same := occurs.whole.symm.trans alsoOccurs.whole
      rw [List.append_assoc, List.append_assoc] at same
      obtain ⟨-, behind⟩ := List.append_inj same lengths
      obtain ⟨rfl, rfl⟩ := occurs.wellFormed.inj alsoOccurs.wellFormed occurs.valueEnds
        alsoOccurs.valueEnds behind
      rw [ih others]

section

variable {word rest before behind : List Char} {c : Char} {flag : Flag}

theorem Occurs.of_run (inWord : ∀ d ∈ word, Text.isWord d) (ends : ¬Text.isWord c)
    (occurs : Occurs (word ++ c :: rest) before flag behind)
    (early : before.length ≤ word.length) :
    flag.key = word ∧ c = '=' ∧ rest = flag.value ++ behind := by
  have whole := occurs.whole
  rw [List.append_assoc] at whole
  obtain ⟨run, rfl⟩ : before <+: word :=
    List.prefix_of_prefix_length_le ⟨_, whole.symm⟩ ⟨_, rfl⟩ early
  obtain rfl : before = [] := by
    rcases List.eq_nil_or_concat before with none | ⟨front, last, rfl⟩
    · exact none
    · exact absurd (inWord last (by simp)) (by simpa using occurs.keyStarts)
  simp only [List.nil_append, Flag.chars, List.append_assoc, List.cons_append] at whole inWord ⊢
  obtain ⟨keys, signs⟩ := Text.run_inj inWord occurs.wellFormed.inKey (by simpa using ends)
    (by simp [Text.not_isWord_equals]) whole
  obtain ⟨sign, rests⟩ := List.cons.inj signs
  exact ⟨keys.symm, sign, rests⟩

theorem getLast?_behind_run (ends : ¬Text.isWord c) :
    (word ++ c :: before).getLast?.any Text.isWord = before.getLast?.any Text.isWord := by
  rw [List.getLast?_append_of_ne_nil _ (List.cons_ne_nil _ _), List.getLast?_cons]
  cases before.getLast? <;> simp [ends]

theorem Occurs.behind_run (ends : ¬Text.isWord c) (occurs : Occurs rest before flag behind) :
    Occurs (word ++ c :: rest) (word ++ c :: before) flag behind where
  whole := by rw [occurs.whole]; simp
  wellFormed := occurs.wellFormed
  keyStarts := by rw [getLast?_behind_run ends]; exact occurs.keyStarts
  valueEnds := occurs.valueEnds

theorem Occurs.exists_behind_run (inWord : ∀ d ∈ word, Text.isWord d) (ends : ¬Text.isWord c)
    (noFlag : c = '=' → word ≠ [] → ¬rest.head?.any isValueChar)
    (occurs : Occurs (word ++ c :: rest) before flag behind) :
    ∃ inner, before = word ++ c :: inner ∧ Occurs rest inner flag behind := by
  have late : word.length < before.length := by
    by_contra! early
    obtain ⟨key, sign, value⟩ := occurs.of_run inWord ends early
    obtain ⟨first, more, valued⟩ := List.exists_cons_of_ne_nil occurs.wellFormed.valued
    have isValue := occurs.wellFormed.inValue first (by simp [valued])
    exact noFlag sign (key ▸ occurs.wellFormed.keyed) (by simp [value, valued, isValue])
  have whole := occurs.whole
  rw [List.append_assoc] at whole
  obtain ⟨inner, rfl⟩ : word ++ [c] <+: before :=
    List.prefix_of_prefix_length_le ⟨rest, by simp⟩ ⟨_, whole.symm⟩
      (by rw [List.length_append, List.length_singleton]; exact late)
  refine ⟨inner, by simp, ?_, occurs.wellFormed, ?_, occurs.valueEnds⟩
  · simpa using whole
  · have starts := occurs.keyStarts
    rwa [List.append_assoc, List.singleton_append, getLast?_behind_run ends] at starts

theorem Reads.behind_run (inWord : ∀ d ∈ word, Text.isWord d) (ends : ¬Text.isWord c)
    (noFlag : c = '=' → word ≠ [] → ¬rest.head?.any isValueChar) {found : List Flag}
    (reads : Reads rest found) : Reads (word ++ c :: rest) found := by
  cases reads with
  | none absent =>
    refine .none fun before flag behind occurs => ?_
    obtain ⟨inner, -, inRest⟩ := occurs.exists_behind_run inWord ends noFlag
    exact absent _ _ _ inRest
  | next occurs leftmost later =>
    refine .next (occurs.behind_run ends) (fun other another rest also => ?_) later
    obtain ⟨inner, rfl, inRest⟩ := also.exists_behind_run inWord ends noFlag
    have earlier := leftmost _ _ _ inRest
    simp only [List.length_append, List.length_cons]
    omega

end

theorem Reads.of_no_sign {text : List Char} (unsigned : '=' ∉ text) : Reads text [] := by
  refine .none fun before flag behind occurs => unsigned ?_
  rw [occurs.whole]
  simp [Flag.chars]

theorem Reads.behind_flag {flag : Flag} {behind : List Char} {found : List Flag}
    (wellFormed : flag.WellFormed) (ends : ¬behind.head?.any isValueChar)
    (reads : Reads behind found) : Reads (flag.chars ++ behind) (flag :: found) := by
  have occurs : Occurs (flag.chars ++ behind) [] flag behind :=
    ⟨by simp, wellFormed, by simp, ends⟩
  exact .next occurs (by simp) reads

theorem Reads.behind_value {key value behind : List Char} {found : List Flag} (keyed : key ≠ [])
    (inKey : ∀ c ∈ key, Text.isWord c) (inValue : ∀ c ∈ value, isValueChar c)
    (ends : ¬behind.head?.any isValueChar) (reads : Reads behind found) :
    Reads (key ++ '=' :: value ++ behind)
      (if value = [] then found else ⟨key, value⟩ :: found) := by
  split
  · next none =>
    have sign : ¬Text.isWord '=' := by simp [Text.not_isWord_equals]
    simpa [none] using reads.behind_run inKey sign fun _ _ => ends
  · next some =>
    have wellFormed : Flag.WellFormed ⟨key, value⟩ := ⟨keyed, inKey, some, inValue⟩
    exact reads.behind_flag wellFormed ends

theorem reads_scan (text : List Char) :
    (∀ word, (∀ c ∈ word, Text.isWord c) → Reads (word.reverse ++ text) (scan word none text)) ∧
    ∀ key value, key ≠ [] → (∀ c ∈ key, Text.isWord c) → (∀ c ∈ value, isValueChar c) →
      Reads (key ++ '=' :: value.reverse ++ text) (scan [] (some (key, value)) text) := by
  induction text with
  | nil =>
    have nothing : Reads [] [] := .of_no_sign (by simp)
    constructor
    · intro word inWord
      refine .of_no_sign fun inside => ?_
      have isWord := inWord '=' (by simpa using inside)
      simp [Text.not_isWord_equals] at isWord
    · intro key value keyed inKey inValue
      have inReverse : ∀ c ∈ value.reverse, isValueChar c := by simpa using inValue
      simpa [scan] using nothing.behind_value keyed inKey inReverse (by simp)
  | cons c rest ih =>
    obtain ⟨outside, inside⟩ := ih
    have fresh : Reads rest (scan [] none rest) := outside [] (by simp)
    constructor
    · intro word inWord
      have inRun : ∀ d ∈ word.reverse, Text.isWord d := by simpa using inWord
      rw [scan]
      split
      · next isWord =>
        have grown := outside (c :: word) (List.forall_mem_cons.2 ⟨isWord, inWord⟩)
        simpa using grown
      · next ends =>
        split
        · next opens =>
          obtain ⟨rfl, keyed⟩ := opens
          simpa using inside word.reverse [] (by simpa using keyed) inRun (by simp)
        · next closed =>
          exact fresh.behind_run inRun ends fun isSign named =>
            absurd ⟨isSign, by simpa using named⟩ closed
    · intro key value keyed inKey inValue
      rw [scan]
      split
      · next isValue =>
        have grown := inside key (c :: value) keyed inKey
          (List.forall_mem_cons.2 ⟨isValue, inValue⟩)
        simpa using grown
      · next ends =>
        have notWord : ¬Text.isWord c := fun isWord => ends (isValueChar_of_isWord isWord)
        have behind : Reads ([] ++ c :: rest) (scan [] none rest) :=
          fresh.behind_run (by simp) notWord (by simp)
        have inReverse : ∀ d ∈ value.reverse, isValueChar d := by simpa using inValue
        simpa using behind.behind_value keyed inKey inReverse (by simpa using ends)

theorem flags_eq_iff {text : List Char} {found : List Flag} :
    flags text = found ↔ Reads text found := by
  have reads : Reads text (flags text) := (reads_scan text).1 [] (by simp)
  constructor
  · rintro rfl
    exact reads
  · exact reads.unique

end Query

end ApiPages
