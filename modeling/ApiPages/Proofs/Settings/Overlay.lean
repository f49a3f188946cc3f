import ApiPages.Proofs.Toml.Tidy
import ApiPages.Settings.Environment

/-!
Layers laid over one another, key by key. What stands under a key in the end is what the upper layer
holds there, laid over what the lower one holds. Environment layers hold no key twice. Main
statement: a table under another layer keeps the fields that this layer does not replace.
-/

namespace ApiPages

namespace Settings

open Named (find?)
open Toml (IsTidy AreTidy)

/-- What stands under a key of which a lower and an upper layer may hold a value. -/
def laid : Option Toml → Option Toml → Option Toml
  | below, none => below
  | none, some above => some above
  | some below, some above => some (overlay below above)

theorem laid_none_left (above : Option Toml) : laid none above = above := by
  cases above <;> rfl

theorem find?_overlayFields (known : List (String × Toml)) {above : List (String × Toml)}
    (keys : (above.map Prod.fst).Nodup) (key : String) :
    find? key (overlayFields known above) = laid (find? key known) (find? key above) := by
  induction above generalizing known with
  | nil => rfl
  | cons field rest ih =>
    rw [List.map_cons, List.nodup_cons] at keys
    rw [overlayFields, ih _ keys.2]
    by_cases same : field.1 = key
    · subst same
      rw [Named.find?_set_self, Named.find?_eq_none_iff.2 keys.1, find?, if_pos rfl]
      cases find? field.1 known <;> rfl
    · rw [Named.find?_set_other same, find?, if_neg same]

theorem nodup_overlayFields {known : List (String × Toml)} (keys : (known.map Prod.fst).Nodup)
    (above : List (String × Toml)) : ((overlayFields known above).map Prod.fst).Nodup := by
  induction above generalizing known with
  | nil => exact keys
  | cons field rest ih => exact ih (Named.nodup_set keys _ _)

theorem tidy_overlay {below above : Toml} (low : below.IsTidy) (high : above.IsTidy) :
    (overlay below above).IsTidy := by
  have keys {known : List (String × Toml)} (same : fields? below = some known) :
      (known.map Prod.fst).Nodup := by
    cases below with
    | table fields => exact Option.some.inj same ▸ low
    | moment literal => exact Option.some.inj same ▸ List.nodup_nil
    | _ => cases same
  cases above with
  | table fields =>
    rw [overlay]
    split
    · next known same => exact nodup_overlayFields (keys same) fields
    · exact high
  | moment literal =>
    rw [overlay]
    split
    · next known same => exact keys same
    · trivial
  | _ => trivial

theorem tidy_overlayFields {known above : List (String × Toml)} (low : AreTidy known)
    (high : ∀ field ∈ above, field.2.IsTidy) : AreTidy (overlayFields known above) := by
  induction above generalizing known with
  | nil => exact low
  | cons field rest ih =>
    rw [List.forall_mem_cons] at high
    refine ih (low.set field.1 ?_) high.2
    split
    · next below found => exact tidy_overlay (low.values _ (Named.mem_of_find? found)) high.1
    · exact high.1

theorem tidy_merged {layers : List (List (String × Toml))}
    (tidy : ∀ layer ∈ layers, ∀ field ∈ layer, field.2.IsTidy) : AreTidy (merged layers) := by
  have laidOver (known : List (String × Toml)) (low : AreTidy known) :
      AreTidy (layers.foldl overlayFields known) := by
    induction layers generalizing known with
    | nil => exact low
    | cons layer rest ih =>
      rw [List.forall_mem_cons] at tidy
      exact ih tidy.2 _ (tidy_overlayFields low tidy.1)
  exact laidOver [] ⟨List.nodup_nil, by simp⟩

/-! Layers of the environment. -/

namespace Environment

theorem nodup_fields? {bound : Nat} {known fields : List (String × Toml)} {text rest : List Char}
    (keys : (known.map Prod.fst).Nodup) (read : fields? bound known text = some (fields, rest)) :
    (fields.map Prod.fst).Nodup := by
  induction bound generalizing known text with
  | zero => simp [fields?] at read
  | succ bound ih =>
    unfold fields? at read
    split at read
    · obtain ⟨rfl, -⟩ := Prod.mk.inj (Option.some.inj read)
      exact keys
    · obtain ⟨⟨key, text⟩, -, read⟩ := Option.bind_eq_some_iff.1 read
      dsimp only at read
      split at read
      · obtain ⟨⟨value, text⟩, -, read⟩ := Option.bind_eq_some_iff.1 read
        have more := Named.nodup_set keys (String.ofList key) value
        dsimp only at read
        split at read
        · exact ih more read
        · obtain ⟨rfl, -⟩ := Prod.mk.inj (Option.some.inj read)
          exact more
        · cases read
      · cases read

theorem tidy_word (text : List Char) : (word text).IsTidy := by
  rw [word]
  split
  · trivial
  · split <;> trivial

theorem tidy_bare? {bound : Nat} {text rest : List Char} {value : Toml}
    (read : bare? bound text = some (value, rest)) : value.IsTidy := by
  cases bound with
  | zero => simp [bare?] at read
  | succ bound =>
    unfold bare? at read
    split at read
    · obtain ⟨rfl, -⟩ := Prod.mk.inj (Option.some.inj read)
      trivial
    · obtain ⟨rfl, -⟩ := Prod.mk.inj (Option.some.inj read)
      trivial
    · obtain ⟨⟨fields, behind⟩, inner, same⟩ := Option.map_eq_some_iff.1 read
      obtain ⟨rfl, -⟩ := Prod.mk.inj same
      exact nodup_fields? (by simp) inner
    · obtain ⟨⟨items, behind⟩, -, same⟩ := Option.map_eq_some_iff.1 read
      obtain ⟨rfl, -⟩ := Prod.mk.inj same
      trivial
    · obtain ⟨⟨quoted, behind⟩, -, same⟩ := Option.map_eq_some_iff.1 read
      obtain ⟨rfl, -⟩ := Prod.mk.inj same
      trivial
    · obtain ⟨rfl, -⟩ := Prod.mk.inj (Option.some.inj read)
      trivial
    · cases read
    · obtain ⟨rfl, -⟩ := Prod.mk.inj (Option.some.inj read)
      exact tidy_word _

theorem tidy_value (text : String) : (value text).IsTidy := by
  rw [value]
  split
  · next found read =>
    rw [value?] at read
    obtain ⟨⟨inner, rest⟩, bare, same⟩ := Option.bind_eq_some_iff.1 read
    obtain ⟨rfl, -⟩ := Prod.mk.inj (Option.some.inj same)
    exact tidy_bare? bare
  · trivial

theorem tidy_layer (environment : List (String × String)) : AreTidy (layer environment) := by
  have tidy_nested (value : Toml) (valueTidy : value.IsTidy) (parts : List String) :
      (nested value parts).IsTidy := by
    cases parts with
    | nil => exact valueTidy
    | cons part rest => exact List.pairwise_singleton _ _
  apply tidy_merged
  intro fields member field among
  obtain ⟨⟨name, text⟩, -, rfl⟩ := List.mem_map.1 member
  dsimp only at among
  rw [layerOf] at among
  split at among
  · obtain rfl := List.mem_singleton.1 among
    exact tidy_nested _ (tidy_value text) _
  · simp at among

end Environment

/-! One layer under another. -/

theorem overlay_of_leaf (below : Toml) {above : Toml} (leaf : fields? above = none) :
    overlay below above = above := by
  cases above with
  | table | moment => cases leaf
  | _ => rfl

theorem fields?_overlay (below : Toml) {above : Toml} (nested : (fields? above).isSome) :
    (fields? (overlay below above)).isSome := by
  cases above with
  | table fields =>
    rw [overlay]
    split <;> rfl
  | moment literal =>
    rw [overlay]
    split <;> rfl
  | _ => cases nested

theorem laid_some (below above : Option Toml) (saved : Toml) :
    laid (some saved) above = some saved ∨ laid (some saved) above = laid below above ∨
      ∃ value, laid below above = some value ∧ (fields? value).isSome := by
  cases above with
  | none => exact .inl rfl
  | some above =>
    cases leaf : fields? above with
    | none =>
      refine .inr (.inl ?_)
      cases below <;> simp [laid, overlay_of_leaf _ leaf]
    | some fields =>
      have nested : (fields? above).isSome := by rw [leaf]; rfl
      refine .inr (.inr ?_)
      cases below with
      | none => exact ⟨above, rfl, nested⟩
      | some below => exact ⟨_, rfl, fields?_overlay below nested⟩

/-- Two tables to which an upper layer has come, the first over some fields and the second over
others. -/
def BothLaid (known : List (String × Toml)) (first second : Option Toml) : Prop :=
  ∃ (lower : String → Option Toml) (inner before after : List (String × Toml)),
    first = some (.table before) ∧ second = some (.table after) ∧
    ∀ key, find? key before = laid (lower key) (find? key inner) ∧
      find? key after = laid (find? key known) (find? key inner)

theorem laid_table (below : Option Toml) {above : Option Toml}
    (tidy : ∀ value, above = some value → value.IsTidy) (known : List (String × Toml)) :
    laid (some (.table known)) above = some (.table known) ∨
      laid (some (.table known)) above = laid below above ∨
      BothLaid known (laid below above) (laid (some (.table known)) above) := by
  -- A table stays, or gives way to the same value as any other one does, or keeps the fields that
  -- are not replaced.
  cases above with
  | none => exact .inl rfl
  | some above =>
    cases above with
    | table inner =>
      have keys : (inner.map Prod.fst).Nodup := tidy _ rfl
      have after (key : String) : find? key (overlayFields known inner) =
          laid (find? key known) (find? key inner) := find?_overlayFields known keys key
      refine .inr (.inr ?_)
      cases below with
      | none =>
        exact ⟨fun _ => none, inner, inner, _, rfl, rfl,
          fun key => ⟨(laid_none_left _).symm, after key⟩⟩
      | some below =>
        rw [laid, overlay]
        cases lower : fields? below with
        | none =>
          exact ⟨fun _ => none, inner, inner, _, rfl, rfl,
            fun key => ⟨(laid_none_left _).symm, after key⟩⟩
        | some fields =>
          exact ⟨fun key => find? key fields, inner, _, _, rfl, rfl,
            fun key => ⟨find?_overlayFields fields keys key, after key⟩⟩
    | moment literal => exact .inl rfl
    | _ => exact .inr (.inl (by cases below <;> rfl))

end Settings

end ApiPages
