import ApiPages.Index.Build
import Mathlib.Data.Finset.Card
import Mathlib.Data.List.Nodup
import Mathlib.Data.List.Perm.Basic

/-!
The first items of each key, seen from outside. Which item stands for a key is what a search from
the front finds; which keys are represented does not depend on the order of the items, and items
offered later only add keys that are new.
-/

namespace ApiPages

variable {α κ : Type} [DecidableEq κ] (key : α → κ)

theorem find?_firstsBy (items : List α) (wanted : κ) :
    ((firstsBy key items).find? fun item => key item = wanted) =
      items.find? fun item => key item = wanted := by
  induction items with
  | nil => rfl
  | cons item rest ih =>
    rw [firstsBy, List.find?_cons, List.find?_cons]
    by_cases here : key item = wanted
    · simp [here]
    · -- behind an item of another key, leaving that key out does not touch the search
      have same : ∀ other, (key other ≠ key item ∧ key other = wanted) ↔ key other = wanted := by
        intro other
        constructor
        · exact And.right
        · intro found
          exact ⟨fun again => here (again.symm.trans found), found⟩
      simp only [here, decide_false, List.find?_filter, decide_eq_true_eq, same, ih]

theorem mem_firstsBy_iff {items : List α} {item : α} :
    item ∈ firstsBy key items ↔
      (items.find? fun other => key other = key item) = some item := by
  rw [← find?_firstsBy]
  constructor
  · intro member
    obtain ⟨found, foundAt⟩ : ∃ found,
        ((firstsBy key items).find? fun other => key other = key item) = some found := by
      apply Option.isSome_iff_exists.1
      exact List.find?_isSome.2 ⟨item, member, by simp⟩
    have sameKey : key found = key item := by simpa using List.find?_some foundAt
    have unique := List.inj_on_of_nodup_map (firstsBy_keys_nodup key items)
      (List.mem_of_find?_eq_some foundAt) member sameKey
    rw [foundAt, unique]
  · exact List.mem_of_find?_eq_some

theorem mem_map_key_firstsBy {items : List α} {wanted : κ} :
    wanted ∈ (firstsBy key items).map key ↔ wanted ∈ items.map key := by
  constructor
  · intro member
    exact ((firstsBy_sublist key items).map key).subset member
  · intro member
    obtain ⟨item, among, rfl⟩ := List.mem_map.1 member
    obtain ⟨first, kept, same⟩ := exists_mem_firstsBy key among
    exact List.mem_map.2 ⟨first, kept, same⟩

theorem firstsBy_eq_self {items : List α} (distinct : (items.map key).Nodup) :
    firstsBy key items = items := by
  induction items with
  | nil => rfl
  | cons item rest ih =>
    rw [List.map_cons, List.nodup_cons] at distinct
    rw [firstsBy, ih distinct.2, List.filter_eq_self.2]
    intro other member
    rw [decide_eq_true_eq]
    intro same
    exact distinct.1 (List.mem_map.2 ⟨other, member, same⟩)

theorem firstsBy_append (items later : List α) :
    firstsBy key (items ++ later) =
      firstsBy key items ++
        (firstsBy key later).filter fun item => key item ∉ items.map key := by
  induction items with
  | nil => simp [firstsBy]
  | cons item rest ih =>
    rw [List.cons_append, firstsBy, ih, List.filter_append, List.filter_filter, firstsBy,
      List.cons_append]
    congr 2
    apply List.filter_congr
    intro other _
    simp only [List.map_cons, List.mem_cons, not_or, Bool.decide_and]

theorem firstsBy_insert {items : List α} {again : α} (known : key again ∈ items.map key)
    (later : List α) : firstsBy key (items ++ again :: later) = firstsBy key (items ++ later) := by
  rw [firstsBy_append, firstsBy_append, firstsBy, List.filter_cons_of_neg (by simpa using known),
    List.filter_filter]
  congr 1
  apply List.filter_congr
  intro other _
  by_cases new : key other ∈ items.map key
  · simp [new]
  · have different : key other ≠ key again := fun same => new (same ▸ known)
    simp [different]

theorem firstsBy_filter (accepts : κ → Bool) (items : List α) :
    firstsBy key (items.filter fun item => accepts (key item)) =
      (firstsBy key items).filter fun item => accepts (key item) := by
  induction items with
  | nil => rfl
  | cons item rest ih =>
    rw [firstsBy, List.filter_cons, List.filter_cons, List.filter_filter]
    by_cases accepted : accepts (key item)
    · rw [if_pos accepted, if_pos accepted, firstsBy, ih, List.filter_filter]
      exact congrArg _ (List.filter_congr fun other _ => Bool.and_comm _ _)
    · rw [if_neg accepted, if_neg accepted, ih]
      apply List.filter_congr
      intro other _
      by_cases same : key other = key item
      · simp [same, accepted]
      · simp [same]

theorem firstsBy_pairwise_idxOf (items : List α) :
    (firstsBy key items).Pairwise fun one other =>
      (items.map key).idxOf (key one) < (items.map key).idxOf (key other) := by
  induction items with
  | nil => exact .nil
  | cons item rest ih =>
    rw [firstsBy, List.pairwise_cons, List.map_cons]
    constructor
    · intro other member
      have different : key item ≠ key other :=
        Ne.symm (of_decide_eq_true (List.mem_filter.1 member).2)
      rw [List.idxOf_cons_self, List.idxOf_cons_ne _ different]
      exact Nat.succ_pos _
    · rw [List.pairwise_filter]
      apply ih.imp
      intro one other before oneNew otherNew
      rw [decide_eq_true_eq] at oneNew otherNew
      rw [List.idxOf_cons_ne _ oneNew.symm, List.idxOf_cons_ne _ otherNew.symm]
      exact Nat.succ_lt_succ before

theorem firstsBy_append_congr {items others later lasting : List α}
    (front : firstsBy key items = firstsBy key others)
    (back : firstsBy key later = firstsBy key lasting) :
    firstsBy key (items ++ later) = firstsBy key (others ++ lasting) := by
  -- What a part of a list contributes shows in the first items of that part alone.
  have sameKeys : ∀ wanted, wanted ∈ items.map key ↔ wanted ∈ others.map key := by
    intro wanted
    rw [← mem_map_key_firstsBy, front, mem_map_key_firstsBy]
  rw [firstsBy_append, firstsBy_append, front, back]
  simp only [sameKeys]

theorem firstsBy_flatMap_congr {β : Type} {items : List β} {offer other : β → List α}
    (same : ∀ item ∈ items, firstsBy key (offer item) = firstsBy key (other item)) :
    firstsBy key (items.flatMap offer) = firstsBy key (items.flatMap other) := by
  induction items with
  | nil => rfl
  | cons item rest ih =>
    rw [List.flatMap_cons, List.flatMap_cons]
    apply firstsBy_append_congr key (same item List.mem_cons_self)
    exact ih fun next member => same next (List.mem_cons_of_mem _ member)

theorem firstsBy_map_const {β : Type} (items : List β) (item : α) :
    firstsBy key (items.map fun _ => item) = if items = [] then [] else [item] := by
  induction items with
  | nil => rfl
  | cons _ rest ih =>
    rw [List.map_cons, firstsBy, ih]
    by_cases none : rest = [] <;> simp [none]

theorem firstsBy_map {β : Type} (view : β → α) (items : List β) :
    firstsBy key (items.map view) = (firstsBy (fun item => key (view item)) items).map view := by
  induction items with
  | nil => rfl
  | cons item rest ih =>
    rw [List.map_cons, firstsBy, ih, List.filter_map, firstsBy, List.map_cons]
    rfl

theorem firstsBy_congr {κ' : Type} [DecidableEq κ'] {other : α → κ'}
    (shared : ∀ a b, key a = key b ↔ other a = other b) (items : List α) :
    firstsBy key items = firstsBy other items := by
  induction items with
  | nil => rfl
  | cons item rest ih => simp only [firstsBy, ih, ne_eq, shared]

theorem map_key_firstsBy (items : List α) :
    (firstsBy key items).map key = firstsBy id (items.map key) :=
  (firstsBy_map id key items).symm

theorem map_firstsBy_id {β : Type} [DecidableEq β] {view : β → κ}
    (injective : Function.Injective view) (items : List β) :
    (firstsBy id items).map view = firstsBy id (items.map view) := by
  rw [firstsBy_map, firstsBy_congr id fun _ _ => injective.eq_iff.symm]
  rfl

theorem mem_firstsBy_id {items : List κ} {item : κ} : item ∈ firstsBy id items ↔ item ∈ items := by
  have kept : item ∈ (firstsBy id items).map id ↔ item ∈ items.map id := mem_map_key_firstsBy id
  rwa [List.map_id, List.map_id] at kept

theorem firstsBy_id_nodup (items : List κ) : (firstsBy id items).Nodup := by
  have distinct := firstsBy_keys_nodup id items
  rwa [List.map_id] at distinct

theorem firstsBy_isPrefix {items others : List α} (more : items <+: others) :
    firstsBy key items <+: firstsBy key others := by
  obtain ⟨later, rfl⟩ := more
  exact ⟨_, (firstsBy_append key items later).symm⟩

theorem length_firstsBy (items : List α) :
    (firstsBy key items).length = (items.map key).toFinset.card := by
  have sameKeys : ((firstsBy key items).map key).toFinset = (items.map key).toFinset := by
    ext wanted
    rw [List.mem_toFinset, List.mem_toFinset, mem_map_key_firstsBy]
  rw [← sameKeys, List.toFinset_card_of_nodup (firstsBy_keys_nodup key items), List.length_map]

theorem firstsBy_of_shared {first : α} {rest : List α}
    (shared : ∀ other ∈ rest, key other = key first) : firstsBy key (first :: rest) = [first] := by
  rw [firstsBy, List.filter_eq_nil_iff.2]
  intro other member
  simpa using shared other ((firstsBy_sublist key rest).subset member)

theorem firstsBy_append_of_known {items again : List α}
    (known : ∀ item ∈ again, key item ∈ items.map key) :
    firstsBy key (items ++ again) = firstsBy key items := by
  rw [firstsBy_append, List.filter_eq_nil_iff.2, List.append_nil]
  intro item member
  simpa using known item ((firstsBy_sublist key again).subset member)

theorem firstsBy_keys_subperm {items others : List α}
    (offered : items.map key ⊆ others.map key) :
    ((firstsBy key items).map key).Subperm ((firstsBy key others).map key) := by
  apply List.subperm_of_subset (firstsBy_keys_nodup key items)
  intro wanted member
  rw [mem_map_key_firstsBy] at member ⊢
  exact offered member

theorem firstsBy_keys_perm {items others : List α}
    (offered : items.map key ⊆ others.map key) (back : others.map key ⊆ items.map key) :
    ((firstsBy key items).map key).Perm ((firstsBy key others).map key) :=
  (firstsBy_keys_subperm key offered).antisymm (firstsBy_keys_subperm key back)

end ApiPages
