import ApiPages.Link

/-!
Doc case taken back. The doc case of a text has no capitals left, so taking it once more changes
nothing. In a text without hyphens every hyphen of its doc case stands in front of a capital, and
only the case of the first character is lost. Doc case neither adds slashes to a segment nor takes
any away.
-/

namespace ApiPages.DocCase

theorem isUpper_iff {c : Char} : c.isUpper ↔ 65 ≤ c.toNat ∧ c.toNat ≤ 90 := decide_eq_true_iff

theorem toLower_of_not_isUpper {c : Char} (other : ¬c.isUpper) : c.toLower = c :=
  dif_neg fun bounds => other (decide_eq_true bounds)

theorem toLower_of_isUpper {c : Char} (capital : c.isUpper) :
    c.toLower.isLower ∧ ¬c.toLower.isUpper ∧ c.toLower.toUpper = c := by
  -- The capitals of ASCII are few enough to go through.
  have letters : ∀ n < 91, 65 ≤ n → (Char.ofNat n).toLower.isLower ∧
      ¬(Char.ofNat n).toLower.isUpper ∧ (Char.ofNat n).toLower.toUpper = Char.ofNat n := by
    decide
  obtain ⟨atLeast, atMost⟩ := isUpper_iff.1 capital
  simpa using letters c.toNat (by omega) atLeast

theorem not_isUpper_toLower (c : Char) : ¬c.toLower.isUpper := by
  by_cases capital : c.isUpper
  · exact (toLower_of_isUpper capital).2.1
  · rwa [toLower_of_not_isUpper capital]

theorem eq_of_toLower_eq {c d : Char} (capital : c.isUpper) (otherCapital : d.isUpper)
    (same : c.toLower = d.toLower) : c = d := by
  rw [← (toLower_of_isUpper capital).2.2, same, (toLower_of_isUpper otherCapital).2.2]

theorem not_isUpper_of_mem_continued {text : List Char} : ∀ c ∈ continued text, ¬c.isUpper := by
  induction text with
  | nil => exact List.forall_mem_nil _
  | cons c rest ih =>
    rw [continued]
    split
    case isTrue =>
      rw [List.forall_mem_cons, List.forall_mem_cons]
      exact ⟨by decide, not_isUpper_toLower c, ih⟩
    case isFalse small => exact List.forall_mem_cons.2 ⟨small, ih⟩

theorem not_isUpper_of_mem_segment {text : List Char} : ∀ c ∈ segment text, ¬c.isUpper := by
  cases text with
  | nil => exact List.forall_mem_nil _
  | cons c rest =>
    exact List.forall_mem_cons.2 ⟨not_isUpper_toLower c, not_isUpper_of_mem_continued⟩

theorem segment_eq_self_iff {text : List Char} : segment text = text ↔ ∀ c ∈ text, ¬c.isUpper := by
  constructor
  · intro same
    rw [← same]
    exact not_isUpper_of_mem_segment
  · intro small
    cases text with
    | nil => rfl
    | cons c rest =>
      rw [List.forall_mem_cons] at small
      rw [segment, toLower_of_not_isUpper small.1, continued_eq_self small.2]

theorem segment_segment (text : List Char) : segment (segment text) = segment text :=
  segment_eq_self_iff.2 not_isUpper_of_mem_segment

section

variable {c : Char} (hyphen : c ≠ '-') (small : ¬c.isLower)
include hyphen small

theorem mem_of_mem_continued {text : List Char} (member : c ∈ continued text) : c ∈ text := by
  induction text with
  | nil => exact member
  | cons d rest ih =>
    rw [continued] at member
    by_cases capital : d.isUpper
    · have letter := (toLower_of_isUpper capital).1
      have other : c ≠ d.toLower := fun same => small (same ▸ letter)
      rw [if_pos capital] at member
      simp only [List.mem_cons, hyphen, other, false_or] at member
      exact List.mem_cons_of_mem _ (ih member)
    · rw [if_neg capital] at member
      rcases List.mem_cons.1 member with rfl | later
      · exact List.mem_cons_self
      · exact List.mem_cons_of_mem _ (ih later)

theorem mem_of_mem_segment {text : List Char} (member : c ∈ segment text) : c ∈ text := by
  cases text with
  | nil => exact member
  | cons d rest =>
    rcases List.mem_cons.1 member with rfl | later
    · have notCapital : ¬d.isUpper := fun capital => small (toLower_of_isUpper capital).1
      rw [toLower_of_not_isUpper notCapital]
      exact List.mem_cons_self
    · exact List.mem_cons_of_mem _ (mem_of_mem_continued hyphen small later)

end

theorem slash_not_mem_segment {text : List Char} (absent : '/' ∉ text) : '/' ∉ segment text :=
  fun member => absent (mem_of_mem_segment (by decide) (by decide) member)

theorem segment_eq_nil_iff {text : List Char} : segment text = [] ↔ text = [] := by
  cases text <;> simp [segment]

/-- What stands behind a first character, read back: the letter behind a hyphen was a capital. -/
def restored : List Char → List Char
  | [] => []
  | [c] => [c]
  | c :: d :: rest =>
    if c = '-' then d.toUpper :: restored rest else c :: restored (d :: rest)

theorem restored_cons {c : Char} (other : c ≠ '-') (rest : List Char) :
    restored (c :: rest) = c :: restored rest := by
  cases rest with
  | nil => rfl
  | cons d rest => rw [restored, if_neg other]

theorem restored_continued {text : List Char} (plain : '-' ∉ text) :
    restored (continued text) = text := by
  induction text with
  | nil => rfl
  | cons c rest ih =>
    rw [List.mem_cons, not_or] at plain
    have behind := ih plain.2
    rw [continued]
    split
    case isTrue capital =>
      rw [restored, if_pos rfl, behind, (toLower_of_isUpper capital).2.2]
    -- Without hyphens of its own a text has none in doc case but those in front of its capitals.
    case isFalse => rw [restored_cons (Ne.symm plain.1), behind]

theorem continued_inj {text other : List Char} (plain : '-' ∉ text) (otherPlain : '-' ∉ other)
    (same : continued text = continued other) : text = other := by
  rw [← restored_continued plain, same, restored_continued otherPlain]

/-- Whether two texts are equal up to the case of their first characters. -/
def SameButInitial : List Char → List Char → Prop
  | [], [] => True
  | c :: rest, d :: others => c.toLower = d.toLower ∧ rest = others
  | _, _ => False

instance : (text other : List Char) → Decidable (SameButInitial text other)
  | [], [] => .isTrue trivial
  | c :: rest, d :: others => inferInstanceAs (Decidable (c.toLower = d.toLower ∧ rest = others))
  | [], _ :: _ => .isFalse id
  | _ :: _, [] => .isFalse id

theorem segment_eq_iff {text other : List Char} (plain : '-' ∉ text) (otherPlain : '-' ∉ other) :
    segment text = segment other ↔ SameButInitial text other := by
  cases text with
  | nil => cases other <;> simp [segment, SameButInitial]
  | cons c rest =>
    cases other with
    | nil => simp [segment, SameButInitial]
    | cons d others =>
      have behind : continued rest = continued others ↔ rest = others :=
        ⟨continued_inj (fun inside => plain (List.mem_cons_of_mem _ inside))
          fun inside => otherPlain (List.mem_cons_of_mem _ inside), congrArg continued⟩
      rw [segment, segment, List.cons.injEq, behind]
      rfl

theorem toList_docCase (text : String) : (docCase text).toList = segment text.toList :=
  String.toList_ofList

/-- Doc case leaves no capital, is settled once it is written, and loses of a text without hyphens
just the case of the first character. -/
theorem docCase_reversible (text other : String) :
    (∀ c ∈ (docCase text).toList, ¬c.isUpper) ∧ docCase (docCase text) = docCase text ∧
    ('-' ∉ text.toList → '-' ∉ other.toList →
      (docCase text = docCase other ↔ SameButInitial text.toList other.toList)) := by
  refine ⟨?small, ?settled, ?reversed⟩
  case small =>
    rw [toList_docCase]
    exact not_isUpper_of_mem_segment
  case settled => rw [← String.toList_inj, toList_docCase, toList_docCase, segment_segment]
  case reversed =>
    intro plain otherPlain
    rw [← String.toList_inj, toList_docCase, toList_docCase, segment_eq_iff plain otherPlain]

theorem docCase_reversible_accent :
    '-' ∉ "URLÉcoleX".toList ∧ '-' ∉ "uRLÉcoleX".toList ∧ '-' ∉ "urlÉcoleX".toList ∧
    docCase "URLÉcoleX" = "u-r-lÉcole-x" ∧ 'É' ∈ (docCase "URLÉcoleX").toList ∧ ¬ 'É'.isUpper ∧
    docCase "u-r-lÉcole-x" = "u-r-lÉcole-x" ∧
    docCase "URLÉcoleX" = docCase "uRLÉcoleX" ∧ docCase "URLÉcoleX" ≠ docCase "urlÉcoleX" := by
  have plain : '-' ∉ "URLÉcoleX".toList := by decide
  have smallPlain : '-' ∉ "uRLÉcoleX".toList := by decide
  have otherPlain : '-' ∉ "urlÉcoleX".toList := by decide
  have written : docCase "URLÉcoleX" = "u-r-lÉcole-x" := by decide
  have member : 'É' ∈ (docCase "URLÉcoleX").toList := by decide
  obtain ⟨small, settled, initial⟩ := docCase_reversible "URLÉcoleX" "uRLÉcoleX"
  obtain ⟨-, -, inside⟩ := docCase_reversible "URLÉcoleX" "urlÉcoleX"
  refine ⟨plain, smallPlain, otherPlain, written, member, small 'É' member, written ▸ settled,
    (initial plain smallPlain).2 (by decide), ?_⟩
  intro same
  exact absurd ((inside plain otherPlain).1 same) (by decide)

def IsCapitalized (text : List Char) : Prop := text.head?.any Char.isUpper ∧ '-' ∉ text

theorem IsCapitalized.segment_inj {text other : List Char} (named : IsCapitalized text)
    (otherNamed : IsCapitalized other) (same : segment text = segment other) : text = other := by
  obtain ⟨capital, plain⟩ := named
  obtain ⟨otherCapital, otherPlain⟩ := otherNamed
  cases text with
  | nil => cases capital
  | cons c rest =>
    cases other with
    | nil => cases otherCapital
    | cons d others =>
      obtain ⟨initial, behind⟩ := (segment_eq_iff plain otherPlain).1 same
      rw [eq_of_toLower_eq capital otherCapital initial, behind]

theorem map_segment_inj {texts others : List (List Char)}
    (named : ∀ text ∈ texts, IsCapitalized text) (otherNamed : ∀ text ∈ others, IsCapitalized text)
    (same : texts.map segment = others.map segment) : texts = others := by
  induction texts generalizing others with
  | nil => exact (List.map_eq_nil_iff.1 same.symm).symm
  | cons text rest ih =>
    cases others with
    | nil => cases same
    | cons other others =>
      rw [List.forall_mem_cons] at named otherNamed
      rw [List.map_cons, List.map_cons, List.cons.injEq] at same
      rw [named.1.segment_inj otherNamed.1 same.1, ih named.2 otherNamed.2 same.2]

end ApiPages.DocCase
