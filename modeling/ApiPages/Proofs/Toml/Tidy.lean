import ApiPages.Toml.Document

/-!
Tables without repeated keys. A key is set where it is not yet there, a header opens a table where
none is open, and a path to either changes one slot under each of its parts. Main statement: neither
a text that was read nor any table that stands in it holds a key twice.
-/

namespace ApiPages.Toml

open Named (find? set)

def IsTidy : Toml → Prop
  | .table fields => (fields.map Prod.fst).Nodup
  | _ => True

/-- Fields in which no key occurs twice, nor in any of their tables. -/
structure AreTidy (fields : List (String × Toml)) : Prop where
  keys : (fields.map Prod.fst).Nodup
  values : ∀ field ∈ fields, field.2.IsTidy

theorem AreTidy.set {fields : List (String × Toml)} (tidy : AreTidy fields) (key : String)
    {value : Toml} (valueTidy : value.IsTidy) : AreTidy (Named.set key value fields) where
  keys := Named.nodup_set tidy.keys key value
  values := by
    intro field member
    rcases Named.mem_set member with rfl | known
    · exact valueTidy
    · exact tidy.values field known

/-! Slots. -/

theorem fieldsOfSlots_eq_map (slots : Slots) :
    fieldsOfSlots slots = slots.map fun item => (item.1, item.2.toToml) := by
  induction slots with
  | nil => rfl
  | cons item rest ih => rw [fieldsOfSlots, ih, List.map_cons]

inductive Slot.IsTidy : Slot → Prop
  | value {value : Toml} (tidy : value.IsTidy) : IsTidy (.value value)
  | table {origin : Origin} {fields : List (String × Slot)} (keys : (fields.map Prod.fst).Nodup)
    (inner : ∀ item ∈ fields, item.2.IsTidy) : IsTidy (.table origin fields)
  | tables {closed : List Toml} {last : List (String × Slot)} (keys : (last.map Prod.fst).Nodup)
    (inner : ∀ item ∈ last, item.2.IsTidy) : IsTidy (.tables closed last)

namespace Slots

structure AreTidy (slots : Slots) : Prop where
  keys : (slots.map Prod.fst).Nodup
  inner : ∀ item ∈ slots, item.2.IsTidy

theorem areTidy_nil : AreTidy [] := ⟨List.nodup_nil, by simp⟩

theorem AreTidy.slot {slots : Slots} (tidy : slots.AreTidy) {key : String} {slot : Slot}
    (found : find? key slots = some slot) : slot.IsTidy :=
  tidy.inner _ (Named.mem_of_find? found)

theorem AreTidy.append {slots : Slots} (tidy : slots.AreTidy) {key : String} {slot : Slot}
    (absent : key ∉ slots.map Prod.fst) (slotTidy : slot.IsTidy) :
    AreTidy (slots ++ [(key, slot)]) where
  keys := by
    rw [List.map_append, List.nodup_append]
    refine ⟨tidy.keys, List.pairwise_singleton _ _, fun other member last new same => ?_⟩
    rw [same, List.mem_singleton.1 new] at member
    exact absent member
  inner := by
    rw [List.forall_mem_append, List.forall_mem_singleton]
    exact ⟨tidy.inner, slotTidy⟩

theorem AreTidy.set {slots : Slots} (tidy : slots.AreTidy) (key : String) {slot : Slot}
    (slotTidy : slot.IsTidy) : AreTidy (Named.set key slot slots) where
  keys := Named.nodup_set tidy.keys key slot
  inner := by
    intro item member
    rcases Named.mem_set member with rfl | known
    · exact slotTidy
    · exact tidy.inner item known

end Slots

theorem Slot.IsTidy.toToml {slot : Slot} (tidy : slot.IsTidy) : slot.toToml.IsTidy := by
  cases tidy with
  | value tidy => exact tidy
  | table keys inner =>
    rw [Slot.toToml, Toml.IsTidy, fieldsOfSlots_eq_map, List.map_map]
    exact keys
  | tables => trivial

theorem Slots.AreTidy.fields {slots : Slots} (tidy : slots.AreTidy) :
    Toml.AreTidy (fieldsOfSlots slots) where
  keys := by
    rw [fieldsOfSlots_eq_map, List.map_map]
    exact tidy.keys
  values := by
    intro field member
    rw [fieldsOfSlots_eq_map] at member
    obtain ⟨item, known, rfl⟩ := List.mem_map.1 member
    exact (tidy.inner item known).toToml

/-! Changes. -/

def KeepsTidy (change : Origin → Slots → Option Slots) : Prop :=
  ∀ origin slots changed, slots.AreTidy → change origin slots = some changed → changed.AreTidy

theorem KeepsTidy.atPath {change : Origin → Slots → Option Slots} (keeps : KeepsTidy change)
    (made : Origin) (path : Key) :
    KeepsTidy fun origin slots => atPath made change origin slots path := by
  induction path with
  | nil => exact keeps
  | cons key path ih =>
    intro origin slots changed tidy done
    dsimp only at done
    rw [Toml.atPath] at done
    cases found : find? key slots with
    | none =>
      rw [found] at done
      obtain ⟨inner, below, same⟩ := Option.bind_eq_some_iff.1 done
      obtain rfl := Option.some.inj same
      have innerTidy := ih made [] inner Slots.areTidy_nil below
      exact tidy.set key (.table innerTidy.keys innerTidy.inner)
    | some slot =>
      have slotTidy := tidy.slot found
      rw [found] at done
      cases slotTidy with
      | value => cases done
      | @table known fields keys inner =>
        simp only at done
        split at done
        · cases done
        · obtain ⟨after, below, same⟩ := Option.bind_eq_some_iff.1 done
          obtain rfl := Option.some.inj same
          have afterTidy := ih known fields after ⟨keys, inner⟩ below
          exact tidy.set key (.table afterTidy.keys afterTidy.inner)
      | @tables closed last keys inner =>
        obtain ⟨after, below, same⟩ := Option.bind_eq_some_iff.1 done
        obtain rfl := Option.some.inj same
        have afterTidy := ih .opened last after ⟨keys, inner⟩ below
        exact tidy.set key (.tables afterTidy.keys afterTidy.inner)

theorem keepsTidy_addField (isDotted : Bool) (key : String) {value : Toml} (tidy : value.IsTidy) :
    KeepsTidy (addField isDotted key value) := by
  intro origin slots changed slotsTidy done
  rw [addField] at done
  split at done
  · cases done
  · split at done
    · cases done
    · next free =>
      obtain rfl := Option.some.inj done
      exact slotsTidy.append (Named.find?_eq_none_iff.1 free) (.value tidy)

theorem keepsTidy_addPair (key : Key) {value : Toml} (tidy : value.IsTidy) :
    KeepsTidy (addPair key value) := by
  intro origin slots changed slotsTidy done
  rw [addPair] at done
  split at done
  · cases done
  · next last _ =>
    exact (keepsTidy_addField _ last tidy).atPath .dotted key.dropLast origin slots changed
      slotsTidy done

theorem keepsTidy_openTable (key : String) : KeepsTidy (openTable key) := by
  intro origin slots changed slotsTidy done
  rw [openTable] at done
  split at done
  · obtain rfl := Option.some.inj done
    exact slotsTidy.set key (.table List.nodup_nil (by simp))
  · next fields found =>
    obtain rfl := Option.some.inj done
    cases slotsTidy.slot found with
    | table keys inner => exact slotsTidy.set key (.table keys inner)
  · cases done

theorem keepsTidy_openItem (key : String) : KeepsTidy (openItem key) := by
  intro origin slots changed slotsTidy done
  rw [openItem] at done
  split at done
  · obtain rfl := Option.some.inj done
    exact slotsTidy.set key (.tables List.nodup_nil (by simp))
  · obtain rfl := Option.some.inj done
    exact slotsTidy.set key (.tables List.nodup_nil (by simp))
  · cases done

theorem openAt_tidy {change : String → Origin → Slots → Option Slots}
    (keeps : ∀ key, KeepsTidy (change key)) {key : Key} {slots changed : Slots}
    (tidy : slots.AreTidy) (done : openAt change key slots = some changed) : changed.AreTidy := by
  rw [openAt] at done
  split at done
  · cases done
  · next last _ => exact (keeps last).atPath .implied key.dropLast .opened slots changed tidy done

/-! Terms. -/

inductive Term.IsPlain : Term → Prop
  | leaf {value : Toml} (tidy : value.IsTidy) : IsPlain (.leaf value)
  | array (items : List Term) : IsPlain (.array items)
  | table {pairs : List (Key × Term)} (plain : ∀ pair ∈ pairs, pair.2.IsPlain) :
    IsPlain (.table pairs)

theorem slotsOfPairs?_tidy {pairs : List (Key × Term)} {known slots : Slots}
    (values : ∀ pair ∈ pairs, ∀ value, pair.2.value? = some value → value.IsTidy)
    (tidy : known.AreTidy) (read : slotsOfPairs? known pairs = some slots) : slots.AreTidy := by
  induction pairs generalizing known with
  | nil =>
    obtain rfl := Option.some.inj read
    exact tidy
  | cons pair rest ih =>
    obtain ⟨key, term⟩ := pair
    rw [List.forall_mem_cons] at values
    rw [slotsOfPairs?] at read
    obtain ⟨value, written, read⟩ := Option.bind_eq_some_iff.1 read
    obtain ⟨added, done, read⟩ := Option.bind_eq_some_iff.1 read
    exact ih values.2 (keepsTidy_addPair key (values.1 value written) _ _ _ tidy done) read

theorem Term.IsPlain.value_tidy {term : Term} (plain : term.IsPlain) {value : Toml}
    (read : term.value? = some value) : value.IsTidy := by
  induction plain generalizing value with
  | leaf tidy =>
    rw [Term.value?] at read
    exact Option.some.inj read ▸ tidy
  | array items =>
    rw [Term.value?] at read
    obtain ⟨values, -, rfl⟩ := Option.map_eq_some_iff.1 read
    trivial
  | table _ ih =>
    rw [Term.value?] at read
    obtain ⟨slots, inner, rfl⟩ := Option.map_eq_some_iff.1 read
    have tidy := slotsOfPairs?_tidy (fun pair member _ => ih pair member) Slots.areTidy_nil inner
    exact tidy.fields.keys

/-! Texts. -/

theorem integer?_tidy {number : Int} {value : Toml} (read : integer? number = some value) :
    value.IsTidy := by
  rw [integer?] at read
  split at read
  · exact Option.some.inj read ▸ trivial
  · cases read

theorem number?_tidy {text rest : List Char} {value : Toml}
    (read : number? text = some (value, rest)) : value.IsTidy := by
  have radix {base : Nat} {text : List Char} (read : radix? base text = some (value, rest)) :
      value.IsTidy := by
    obtain ⟨_, -, read⟩ := Option.bind_eq_some_iff.1 read
    obtain ⟨number, whole, same⟩ := Option.bind_eq_some_iff.1 read
    obtain ⟨rfl, -⟩ := Prod.mk.inj (Option.some.inj same)
    exact integer?_tidy whole
  unfold number? at read
  split at read
  · exact radix read
  · exact radix read
  · exact radix read
  · dsimp only at read
    split at read
    · obtain ⟨rfl, -⟩ := Prod.mk.inj (Option.some.inj read)
      trivial
    · obtain ⟨_, -, read⟩ := Option.bind_eq_some_iff.1 read
      obtain ⟨_, -, read⟩ := Option.bind_eq_some_iff.1 read
      obtain ⟨_, -, read⟩ := Option.bind_eq_some_iff.1 read
      dsimp only at read
      split at read
      · obtain ⟨number, whole, same⟩ := Option.bind_eq_some_iff.1 read
        obtain ⟨rfl, -⟩ := Prod.mk.inj (Option.some.inj same)
        exact integer?_tidy whole
      · obtain ⟨-, same⟩ := Option.ite_none_right_eq_some.1 read
        obtain ⟨rfl, -⟩ := Prod.mk.inj (Option.some.inj same)
        trivial

theorem scalar_tidy {text rest : List Char} {value : Toml}
    (read : scalar text = some (value, rest)) : value.IsTidy := by
  unfold scalar at read
  split at read
  · obtain ⟨rfl, -⟩ := Prod.mk.inj (Option.some.inj read)
    trivial
  · obtain ⟨rfl, -⟩ := Prod.mk.inj (Option.some.inj read)
    trivial
  · split at read
    · obtain ⟨_, -, same⟩ := Option.map_eq_some_iff.1 read
      obtain ⟨rfl, -⟩ := Prod.mk.inj same
      trivial
    · split at read
      · obtain ⟨_, -, same⟩ := Option.map_eq_some_iff.1 read
        obtain ⟨rfl, -⟩ := Prod.mk.inj same
        trivial
      · exact number?_tidy read

theorem plain_of_term? {bound levels : Nat} {text rest : List Char} :
    (∀ term, term? bound levels text = some (term, rest) → term.IsPlain) ∧
      ∀ pairs, pairs? bound levels text = some (pairs, rest) → ∀ pair ∈ pairs, pair.2.IsPlain := by
  induction bound generalizing levels text rest with
  | zero => simp [term?, pairs?]
  | succ bound ih =>
    constructor
    · intro term read
      unfold term? at read
      split at read
      · split at read
        · cases read
        · obtain ⟨⟨items, behind⟩, -, same⟩ := Option.map_eq_some_iff.1 read
          obtain ⟨rfl, -⟩ := Prod.mk.inj same
          exact .array items
      · split at read
        · cases read
        · split at read
          · obtain ⟨rfl, -⟩ := Prod.mk.inj (Option.some.inj read)
            exact .table (by simp)
          · obtain ⟨⟨pairs, behind⟩, inner, same⟩ := Option.map_eq_some_iff.1 read
            obtain ⟨rfl, -⟩ := Prod.mk.inj same
            exact .table (ih.2 pairs inner)
      · obtain ⟨⟨value, behind⟩, leaf, same⟩ := Option.map_eq_some_iff.1 read
        obtain ⟨rfl, -⟩ := Prod.mk.inj same
        exact .leaf (scalar_tidy leaf)
    · intro pairs read
      unfold pairs? at read
      obtain ⟨⟨key, text⟩, -, read⟩ := Option.bind_eq_some_iff.1 read
      dsimp only at read
      split at read
      · obtain ⟨⟨term, text⟩, first, read⟩ := Option.bind_eq_some_iff.1 read
        have plain := ih.1 term first
        dsimp only at read
        split at read
        · obtain ⟨⟨pairs, behind⟩, others, same⟩ := Option.bind_eq_some_iff.1 read
          obtain ⟨rfl, -⟩ := Prod.mk.inj (Option.some.inj same)
          exact List.forall_mem_cons.2 ⟨plain, ih.2 pairs others⟩
        · obtain ⟨rfl, -⟩ := Prod.mk.inj (Option.some.inj read)
          exact List.forall_mem_singleton.2 plain
        · cases read
      · cases read

def Statement.IsPlain : Statement → Prop
  | .pair _ term => term.IsPlain
  | _ => True

theorem plain_of_statement? {text rest : List Char} {statement : Statement}
    (read : statement? text = some (statement, rest)) : statement.IsPlain := by
  unfold statement? at read
  split at read
  · obtain ⟨_, -, read⟩ := Option.bind_eq_some_iff.1 read
    split at read
    · obtain ⟨_, -, same⟩ := Option.bind_eq_some_iff.1 read
      obtain ⟨rfl, -⟩ := Prod.mk.inj (Option.some.inj same)
      trivial
    · cases read
  · obtain ⟨_, -, read⟩ := Option.bind_eq_some_iff.1 read
    split at read
    · obtain ⟨_, -, same⟩ := Option.bind_eq_some_iff.1 read
      obtain ⟨rfl, -⟩ := Prod.mk.inj (Option.some.inj same)
      trivial
    · cases read
  · obtain ⟨_, -, read⟩ := Option.bind_eq_some_iff.1 read
    split at read
    · obtain ⟨⟨term, behind⟩, termRead, read⟩ := Option.bind_eq_some_iff.1 read
      obtain ⟨_, -, same⟩ := Option.bind_eq_some_iff.1 read
      obtain ⟨rfl, -⟩ := Prod.mk.inj (Option.some.inj same)
      exact plain_of_term?.1 term termRead
    · cases read

theorem plain_of_statementsWithin? {lines : Nat} {text : List Char} {statements : List Statement}
    (read : statementsWithin? lines text = some statements) :
    ∀ statement ∈ statements, statement.IsPlain := by
  induction lines generalizing text statements with
  | zero => cases read
  | succ lines ih =>
    rw [statementsWithin?] at read
    split at read
    · obtain rfl := Option.some.inj read
      simp
    · split at read
      · obtain ⟨behind, -, read⟩ := Option.bind_eq_some_iff.1 read
        exact ih read
      · obtain ⟨⟨statement, behind⟩, first, read⟩ := Option.bind_eq_some_iff.1 read
        obtain ⟨others, later, same⟩ := Option.bind_eq_some_iff.1 read
        obtain rfl := Option.some.inj same
        exact List.forall_mem_cons.2 ⟨plain_of_statement? first, ih later⟩

theorem tidy_of_slotsOfStatements? {statements : List Statement} {path : Key} {known slots : Slots}
    (plain : ∀ statement ∈ statements, statement.IsPlain) (tidy : known.AreTidy)
    (read : slotsOfStatements? path known statements = some slots) : slots.AreTidy := by
  induction statements generalizing path known with
  | nil => exact Option.some.inj read ▸ tidy
  | cons statement rest ih =>
    rw [List.forall_mem_cons] at plain
    cases statement with
    | pair key term =>
      rw [slotsOfStatements?] at read
      obtain ⟨value, written, read⟩ := Option.bind_eq_some_iff.1 read
      obtain ⟨added, done, read⟩ := Option.bind_eq_some_iff.1 read
      have keeps := (keepsTidy_addPair key (plain.1.value_tidy written)).atPath .implied path
      exact ih plain.2 (keeps .opened known added tidy done) read
    | header key =>
      rw [slotsOfStatements?] at read
      obtain ⟨opened, done, read⟩ := Option.bind_eq_some_iff.1 read
      exact ih plain.2 (openAt_tidy keepsTidy_openTable tidy done) read
    | item key =>
      rw [slotsOfStatements?] at read
      obtain ⟨opened, done, read⟩ := Option.bind_eq_some_iff.1 read
      exact ih plain.2 (openAt_tidy keepsTidy_openItem tidy done) read

theorem tidy_of_read? {text : String} {fields : List (String × Toml)}
    (read : read? text = some fields) : AreTidy fields := by
  obtain ⟨statements, written, read⟩ := Option.bind_eq_some_iff.1 read
  obtain ⟨slots, built, same⟩ := Option.bind_eq_some_iff.1 read
  obtain rfl := Option.some.inj same
  exact (tidy_of_slotsOfStatements? (plain_of_statementsWithin? written) Slots.areTidy_nil
    built).fields

end ApiPages.Toml
