import ApiPages.Json.Value
import Mathlib.Data.List.Forall2

/-!
The two forms of a record. The fields of a record are written by name, and those without a value
are then left out; or their values are written in the order of declaration, with null for one that
is missing. Main statement: both are read into one slot for each field, which for a missing value
is no slot or null.
-/

namespace ApiPages.Json

abbrev Field := String × Option Json

def present (fields : List Field) : List (String × Json) :=
  fields.filterMap fun field => field.2.map fun value => (field.1, value)

/-- A record of some fields in one of its two forms. -/
inductive IsRecord (fields : List Field) : Json → Prop
  | named : IsRecord fields (.object (present fields))
  | positional : IsRecord fields (.array (fields.map fun field => field.2.getD .null))

def Fits (field : Field) (slot : Option Json) : Prop :=
  slot = field.2 ∨ field.2 = none ∧ slot = some .null

theorem fits_some {name : String} {value : Json} {slot : Option Json} :
    Fits (name, some value) slot ↔ slot = some value := by
  simp [Fits]

theorem find?_eq_none {key : String} {fields : List (String × Json)}
    (absent : ∀ field ∈ fields, field.1 ≠ key) : find? key fields = none := by
  induction fields with
  | nil => rfl
  | cons field rest ih =>
    rw [List.forall_mem_cons] at absent
    rw [find?, if_neg absent.1, ih absent.2]

theorem find?_present {fields : List Field} (distinct : (fields.map Prod.fst).Nodup)
    {field : Field} (member : field ∈ fields) : find? field.1 (present fields) = field.2 := by
  induction fields with
  | nil => cases member
  | cons first rest ih =>
    obtain ⟨name, value⟩ := first
    rw [List.map_cons, List.nodup_cons] at distinct
    have others : find? name (present rest) = none := by
      apply find?_eq_none
      rintro ⟨other, _⟩ listed rfl
      simp only [present, List.mem_filterMap, Option.map_eq_some_iff] at listed
      obtain ⟨later, among, _, _, same⟩ := listed
      exact distinct.1 (List.mem_map.2 ⟨later, among, (Prod.mk.inj same).1⟩)
    rcases List.mem_cons.1 member with rfl | later
    · cases value with
      | none => exact others
      | some value => simp [present, find?]
    · have different : name ≠ field.1 := fun same =>
        distinct.1 (List.mem_map.2 ⟨field, later, same.symm⟩)
      cases value with
      | none => exact ih distinct.2 later
      | some value =>
        rw [← ih distinct.2 later, present, List.filterMap_cons]
        exact if_neg different

theorem slots?_of_isRecord {fields : List Field} {value : Json} (record : IsRecord fields value)
    (names : List String) (named : fields.map Prod.fst = names)
    (distinct : names.Nodup) :
    ∃ slots, value.slots? names = some slots ∧ List.Forall₂ Fits fields slots := by
  subst named
  cases record with
  | named =>
    refine ⟨_, rfl, List.forall₂_map_right_iff.2 (List.forall₂_map_right_iff.2 ?_)⟩
    exact List.forall₂_same.2 fun field member => .inl (find?_present distinct member)
  | positional =>
    refine ⟨(fields.map fun field => field.2.getD .null).map some, by simp [slots?], ?_⟩
    refine List.forall₂_map_right_iff.2 (List.forall₂_map_right_iff.2 ?_)
    refine List.forall₂_same.2 fun field _ => ?_
    cases missing : field.2 with
    | none => exact .inr ⟨missing, rfl⟩
    | some value => exact .inl missing.symm

theorem optional_some {α : Type} (read : Json → Option α) {value : Json} (visible : value ≠ .null) :
    optional read (some value) = (read value).map some := by
  cases value <;> first | rfl | exact absurd rfl visible

theorem optional_of_fits {α : Type} (read : Json → Option α) {write : α → Json} {name : String}
    {value : Option α} {slot : Option Json} (fits : Fits (name, value.map write) slot)
    (reads : ∀ x, read (write x) = some x) (visible : ∀ x, write x ≠ .null) :
    optional read slot = some value := by
  cases value with
  | none => rcases fits with rfl | ⟨-, rfl⟩ <;> rfl
  | some x =>
    obtain rfl := fits_some.1 fits
    rw [optional_some read (visible x), reads]
    rfl

theorem optional_congr {α : Type} {read other : Json → Option α} {slot : Option Json}
    (same : ∀ value, slot = some value → read value = other value) :
    optional read slot = optional other slot := by
  cases slot with
  | none => rfl
  | some value => cases value <;> simp only [optional, same _ rfl]

theorem withDefault_congr {α : Type} {fallback : α} {read other : Json → Option α}
    {slot : Option Json} (same : ∀ value, slot = some value → read value = other value) :
    withDefault fallback read slot = withDefault fallback other slot := by
  cases slot with
  | none => rfl
  | some value => exact same value rfl

theorem slots?_eq_none_of_flat {names : List String} {value : Json} (flat : value.depth = 0) :
    value.slots? names = none := by
  cases value <;> simp_all [depth, slots?]

theorem list?_congr {α : Type} {read other : Json → Option α} {value : Json}
    (same : ∀ item, item.depth < value.depth → read item = other item) :
    list? read value = list? other value := by
  cases value with
  | array items =>
    have below : ∀ item ∈ items, read item = other item := fun item member =>
      same item (Nat.lt_succ_of_le (depth_le_of_mem_items member))
    rw [list?, list?]
    clear same
    induction items with
    | nil => rfl
    | cons item rest ih =>
      rw [List.forall_mem_cons] at below
      rw [List.mapM_cons, List.mapM_cons, below.1, ih below.2]
  | _ => rfl

theorem list?_of_forall₂ {α : Type} {read : Json → Option α} {values : List α} {items : List Json}
    (written : List.Forall₂ (fun value item => read item = some value) values items) :
    list? read (.array items) = some values := by
  rw [list?]
  induction written with
  | nil => rfl
  | cons first _ ih =>
    rw [List.mapM_cons, first, ih]
    rfl

end ApiPages.Json
