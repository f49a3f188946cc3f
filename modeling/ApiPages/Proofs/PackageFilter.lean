import ApiPages.Record

/-!
Filters by segments. Texts are compared character by character, and what has to follow is a dot, so
a package lies within another exactly if its segments begin with those of the other. Main statement:
a filter accepts the packages that lie within one of its names, and those only.
-/

namespace ApiPages

theorem Text.split_isPrefix_iff {separator : Char} {outer inner : List Char} :
    Text.split separator outer <+: Text.split separator inner ↔
      inner = outer ∨ ∃ rest, inner = outer ++ separator :: rest := by
  constructor
  · rintro ⟨more, whole⟩
    have joined : Text.join separator (Text.split separator outer ++ more) = inner := by
      rw [whole, Text.join_split]
    cases more with
    | nil =>
      rw [List.append_nil, Text.join_split] at joined
      exact .inl joined.symm
    | cons first others =>
      rw [Text.join_append separator (Text.split_ne_nil separator outer)
        (List.cons_ne_nil first others), Text.join_split] at joined
      exact .inr ⟨_, joined.symm⟩
  · rintro (rfl | ⟨rest, rfl⟩)
    · exact List.prefix_refl _
    · rw [Text.split_append]
      exact List.prefix_append _ _

namespace PackageFilter

/-- The segments of a package between its dots, empty ones among them. -/
def segments (package : String) : List (List Char) := Text.split '.' package.toList

theorem segments_append (package inner : String) :
    segments (package ++ "." ++ inner) = segments package ++ segments inner := by
  have chars : (package ++ "." ++ inner).toList = package.toList ++ '.' :: inner.toList := by simp
  rw [segments, chars, Text.split_append]
  rfl

theorem within_iff {outer inner : List Char} :
    within outer inner ↔ inner = outer ∨ ∃ rest, inner = outer ++ '.' :: rest := by
  fun_induction within outer inner with
  | case1 => simp
  | case2 => simp
  | case3 => simp
  | case4 a outer b inner ih =>
    simp only [Bool.and_eq_true, beq_iff_eq, ih, List.cons_append, List.cons.injEq, exists_and_left]
    rw [← and_or_left, eq_comm]

theorem within_iff_segments {name package : String} :
    within name.toList package.toList ↔ segments name <+: segments package := by
  rw [within_iff, segments, segments, Text.split_isPrefix_iff]

theorem accepts_ofList_iff {names : List String} {package : String} :
    (ofList names).accepts package ↔ (∀ name ∈ names, name = "") ∨
      ∃ name ∈ names, name ≠ "" ∧ segments name <+: segments package := by
  have none : (names.filter fun name => !name.isEmpty).isEmpty ↔ ∀ name ∈ names, name = "" := by
    simp
  rw [accepts, ofList, Bool.or_eq_true, none, List.any_eq_true]
  simp only [List.mem_filter, within_iff_segments, and_assoc]
  simp

/-- A filter without names accepts all packages, any other those whose segments begin with the
segments of one of its names. What lies below an accepted package is accepted, and what lies within
a sibling of all names is not. -/
theorem accepts_segments (names : List String) (package : String) :
    ((ofList names).accepts package ↔ (∀ name ∈ names, name = "") ∨
      ∃ name ∈ names, name ≠ "" ∧ segments name <+: segments package) ∧
    (∀ inner, (ofList names).accepts package → (ofList names).accepts (package ++ "." ++ inner)) ∧
    ∀ front sibling below, segments package = front ++ sibling :: below →
      (∃ name ∈ names, name ≠ "") →
      (∀ name ∈ names, name ≠ "" → ∃ last, segments name = front ++ [last] ∧ last ≠ sibling) →
      (ofList names).accepts package = false := by
  refine ⟨accepts_ofList_iff, fun inner => ?_, ?_⟩
  · rw [accepts_ofList_iff, accepts_ofList_iff, segments_append]
    rintro (none | ⟨name, listed, filled, begins⟩)
    · exact .inl none
    · exact .inr ⟨name, listed, filled, begins.trans (List.prefix_append _ _)⟩
  · intro front sibling below cut restricts siblings
    rw [Bool.eq_false_iff, Ne, accepts_ofList_iff]
    rintro (none | ⟨name, listed, filled, begins⟩)
    · obtain ⟨name, listed, filled⟩ := restricts
      exact filled (none name listed)
    · obtain ⟨last, ends, different⟩ := siblings name listed filled
      rw [ends, cut, List.prefix_append_right_inj, List.cons_prefix_cons] at begins
      exact different begins.1

theorem accepts_segments_doubledDot :
    (ofList ["", "a..api", "a..b"]).accepts "a..api" = true ∧
      (ofList ["", "a..api", "a..b"]).accepts "a..api.x." = true ∧
      (ofList ["", "a..api", "a..b"]).accepts "a..apix.c" = false := by
  have accepted : (ofList ["", "a..api", "a..b"]).accepts "a..api" = true := by decide
  refine ⟨accepted, (accepts_segments _ _).2.1 "x." accepted, ?_⟩
  refine (accepts_segments _ "a..apix.c").2.2 ["a".toList, []] "apix".toList ["c".toList]
    (by decide) ⟨"a..b", by simp, by decide⟩ ?_
  intro name listed filled
  simp only [List.mem_cons, List.not_mem_nil, or_false] at listed
  rcases listed with rfl | rfl | rfl
  · exact absurd rfl filled
  · exact ⟨"api".toList, by decide, by decide⟩
  · exact ⟨"b".toList, by decide, by decide⟩

end PackageFilter

end ApiPages
