/-!
Named items: lists of a name and an item each, where the first item of a name counts. An item is set
in the place of the one that had its name, or behind all others, so names that were distinct stay
distinct. In name order, nothing is lost or added, and no name stands behind a greater one.
-/

namespace ApiPages

variable {ν α : Type}

namespace Named

variable [DecidableEq ν]

def find? (name : ν) : List (ν × α) → Option α
  | [] => none
  | (other, item) :: rest => if other = name then some item else find? name rest

def set (name : ν) (item : α) : List (ν × α) → List (ν × α)
  | [] => [(name, item)]
  | (other, old) :: rest =>
    if other = name then (other, item) :: rest else (other, old) :: set name item rest

theorem find?_set_self (name : ν) (item : α) (items : List (ν × α)) :
    find? name (set name item items) = some item := by
  induction items with
  | nil => simp [set, find?]
  | cons first rest ih =>
    rw [set]
    split
    · next same => simp [find?, same]
    · next other => simp [find?, other, ih]

theorem find?_set_other {name other : ν} (different : name ≠ other) (item : α)
    (items : List (ν × α)) : find? other (set name item items) = find? other items := by
  induction items with
  | nil => simp [set, find?, different]
  | cons first rest ih =>
    rw [set]
    split
    · next same => simp [find?, same, different]
    · simp only [find?, ih]

theorem find?_append {name : ν} {items : List (ν × α)} (absent : name ∉ items.map Prod.fst)
    (behind : List (ν × α)) : find? name (items ++ behind) = find? name behind := by
  induction items with
  | nil => rfl
  | cons first rest ih =>
    rw [List.map_cons, List.mem_cons, not_or] at absent
    rw [List.cons_append, find?, if_neg (Ne.symm absent.1), ih absent.2]

theorem set_append {name : ν} {items : List (ν × α)} (absent : name ∉ items.map Prod.fst)
    (item : α) (behind : List (ν × α)) :
    set name item (items ++ behind) = items ++ set name item behind := by
  induction items with
  | nil => rfl
  | cons first rest ih =>
    rw [List.map_cons, List.mem_cons, not_or] at absent
    rw [List.cons_append, set, if_neg (Ne.symm absent.1), ih absent.2, List.cons_append]

theorem mem_of_find? {name : ν} {item : α} {items : List (ν × α)}
    (found : find? name items = some item) : (name, item) ∈ items := by
  induction items with
  | nil => simp [find?] at found
  | cons first rest ih =>
    rw [find?] at found
    split at found
    · next same =>
      obtain rfl := Option.some.inj found
      rw [← same]
      exact List.mem_cons_self
    · exact List.mem_cons_of_mem _ (ih found)

theorem find?_eq_none_iff {name : ν} {items : List (ν × α)} :
    find? name items = none ↔ name ∉ items.map Prod.fst := by
  constructor
  · intro free
    induction items with
    | nil => simp
    | cons first rest ih =>
      rw [find?] at free
      split at free
      · cases free
      · next other =>
        rw [List.map_cons, List.mem_cons, not_or]
        exact ⟨Ne.symm other, ih free⟩
  · intro absent
    simpa [find?] using find?_append absent []

theorem find?_eq_some_iff {name : ν} {item : α} {items : List (ν × α)}
    (distinct : (items.map Prod.fst).Nodup) :
    find? name items = some item ↔ (name, item) ∈ items := by
  refine ⟨mem_of_find?, fun member => ?_⟩
  obtain ⟨before, behind, rfl⟩ := List.append_of_mem member
  rw [List.map_append, List.nodup_append] at distinct
  have absent : name ∉ before.map Prod.fst := fun earlier =>
    distinct.2.2 name earlier name List.mem_cons_self rfl
  rw [find?_append absent, find?, if_pos rfl]

theorem set_eq_append {name : ν} {items : List (ν × α)} (absent : name ∉ items.map Prod.fst)
    (item : α) : set name item items = items ++ [(name, item)] := by
  simpa [set] using set_append absent item []

theorem map_fst_set (name : ν) (item : α) (items : List (ν × α)) :
    (set name item items).map Prod.fst =
      if name ∈ items.map Prod.fst then items.map Prod.fst else items.map Prod.fst ++ [name] := by
  induction items with
  | nil => rfl
  | cons first rest ih =>
    rw [set]
    split
    · next same => simp [same]
    · next different =>
      rw [List.map_cons, ih]
      by_cases member : name ∈ rest.map Prod.fst <;> simp [member, Ne.symm different]

theorem nodup_set {items : List (ν × α)} (distinct : (items.map Prod.fst).Nodup) (name : ν)
    (item : α) : ((set name item items).map Prod.fst).Nodup := by
  rw [map_fst_set]
  split
  · exact distinct
  · next absent =>
    refine List.nodup_append.2 ⟨distinct, List.pairwise_singleton _ _, ?_⟩
    rintro earlier member _ last rfl
    exact absent (List.mem_singleton.1 last ▸ member)

theorem mem_set {name : ν} {item : α} {items : List (ν × α)} {other : ν × α}
    (member : other ∈ set name item items) : other = (name, item) ∨ other ∈ items := by
  induction items with
  | nil => exact .inl (List.mem_singleton.1 member)
  | cons first rest ih =>
    rw [set] at member
    split at member
    · next same =>
      rcases List.mem_cons.1 member with new | old
      · exact .inl (same ▸ new)
      · exact .inr (List.mem_cons_of_mem _ old)
    · rcases List.mem_cons.1 member with same | later
      · exact .inr (same ▸ List.mem_cons_self)
      · exact (ih later).imp_right (List.mem_cons_of_mem _)

end Named

namespace Text

variable [LE ν] [DecidableLE ν]

/-- Puts a named item in front of the first one whose name is not smaller. -/
def insertNamed (item : ν × α) : List (ν × α) → List (ν × α)
  | [] => [item]
  | other :: rest =>
    if item.1 ≤ other.1 then item :: other :: rest else other :: insertNamed item rest

def inNameOrder (items : List (ν × α)) : List (ν × α) := items.foldr insertNamed []

theorem insertNamed_perm (item : ν × α) (items : List (ν × α)) :
    (insertNamed item items).Perm (item :: items) := by
  induction items with
  | nil => exact .refl _
  | cons other rest ih =>
    rw [insertNamed]
    split
    · exact .refl _
    · exact (ih.cons other).trans (.swap item other rest)

theorem inNameOrder_perm (items : List (ν × α)) : (inNameOrder items).Perm items := by
  induction items with
  | nil => exact .refl _
  | cons item rest ih => exact (insertNamed_perm item _).trans (ih.cons item)

variable [Std.IsLinearOrder ν]

theorem insertNamed_pairwise (item : ν × α) (items : List (ν × α))
    (ordered : items.Pairwise fun a b => a.1 ≤ b.1) :
    (insertNamed item items).Pairwise fun a b => a.1 ≤ b.1 := by
  induction items with
  | nil => exact List.pairwise_singleton _ _
  | cons other rest ih =>
    have parts := List.pairwise_cons.1 ordered
    rw [insertNamed]
    split
    · next smaller =>
      refine List.pairwise_cons.2 ⟨fun later member => ?_, ordered⟩
      rcases List.mem_cons.1 member with rfl | inRest
      · exact smaller
      · exact Std.le_trans smaller (parts.1 later inRest)
    · next greater =>
      refine List.pairwise_cons.2 ⟨fun later member => ?_, ih parts.2⟩
      rcases List.mem_cons.1 ((insertNamed_perm item rest).mem_iff.1 member) with rfl | inRest
      · exact Std.le_total.resolve_left greater
      · exact parts.1 later inRest

theorem inNameOrder_pairwise (items : List (ν × α)) :
    (inNameOrder items).Pairwise fun a b => a.1 ≤ b.1 := by
  induction items with
  | nil => exact List.Pairwise.nil
  | cons item rest ih => exact insertNamed_pairwise item _ ih

theorem inNameOrder_strict [LT ν] [Std.LawfulOrderLT ν] {items : List (ν × α)}
    (distinct : (items.map Prod.fst).Nodup) :
    (inNameOrder items).Pairwise fun item later => item.1 < later.1 := by
  have apart : (inNameOrder items).Pairwise fun item later => item.1 ≠ later.1 := by
    rw [← List.pairwise_map]
    exact ((inNameOrder_perm items).map Prod.fst).nodup_iff.2 distinct
  exact ((inNameOrder_pairwise items).and apart).imp fun ⟨notGreater, different⟩ =>
    Std.lt_of_le_of_ne notGreater different

end Text

end ApiPages
