import ApiPages.Proofs.Toml.Statement
import ApiPages.Proofs.Toml.Tidy

/-!
Documents printed and read back. A pair goes to the end of the table that is open, and a header
opens a new table behind all others. Main statement: the text of a document with distinct keys is
read as its fields and its tables.
-/

namespace ApiPages.Toml

def slotsOfFields (fields : List (String × Toml)) : Slots :=
  fields.map fun field => (field.1, .value field.2)

theorem keys_slotsOfFields (fields : List (String × Toml)) :
    (slotsOfFields fields).map Prod.fst = fields.map Prod.fst := by
  simp [slotsOfFields]

theorem fieldsOfSlots_slotsOfFields (fields : List (String × Toml)) :
    fieldsOfSlots (slotsOfFields fields) = fields := by
  induction fields with
  | nil => rfl
  | cons field rest ih =>
    rw [slotsOfFields, List.map_cons, fieldsOfSlots, Slot.toToml, ← slotsOfFields, ih]

theorem addPair_single {key : String} {slots : Slots} (absent : key ∉ slots.map Prod.fst)
    (value : Toml) : addPair [key] value .opened slots = some (slots ++ [(key, .value value)]) := by
  simp [addPair, atPath, addField, Named.find?_eq_none_iff.2 absent]

theorem slotsOfStatements?_fields {fields : List (String × Toml)} (flat : AreFlat fields)
    (slots : Slots) (distinct : (slots.map Prod.fst ++ fields.map Prod.fst).Nodup)
    (rest : List Statement) :
    slotsOfStatements? [] slots (fields.map pairOf ++ rest) =
      slotsOfStatements? [] (slots ++ slotsOfFields fields) rest := by
  induction fields generalizing slots with
  | nil => simp [slotsOfFields]
  | cons field fields ih =>
    have absent : field.1 ∉ slots.map Prod.fst := by
      intro member
      exact (List.nodup_append.1 distinct).2.2 _ member _ List.mem_cons_self rfl
    have later := ih (fun other member => flat other (List.mem_cons_of_mem _ member))
      (slots ++ [(field.1, .value field.2)]) (by simpa using distinct)
    have value := value?_termOf (flat field List.mem_cons_self).2
    rw [List.map_cons, List.cons_append, pairOf, slotsOfStatements?, value]
    simp [atPath, addPair_single absent, later, slotsOfFields]

theorem slotsOfStatements?_inner {fields : List (String × Toml)} (flat : AreFlat fields)
    {before : Slots} {name : String} (absent : name ∉ before.map Prod.fst) (inner : Slots)
    (distinct : (inner.map Prod.fst ++ fields.map Prod.fst).Nodup) (rest : List Statement) :
    slotsOfStatements? [name] (before ++ [(name, .table .opened inner)])
        (fields.map pairOf ++ rest) =
      slotsOfStatements? [name] (before ++ [(name, .table .opened (inner ++ slotsOfFields fields))])
        rest := by
  induction fields generalizing inner with
  | nil => simp [slotsOfFields]
  | cons field fields ih =>
    have fresh : field.1 ∉ inner.map Prod.fst := by
      intro member
      exact (List.nodup_append.1 distinct).2.2 _ member _ List.mem_cons_self rfl
    have later := ih (fun other member => flat other (List.mem_cons_of_mem _ member))
      (inner ++ [(field.1, .value field.2)]) (by simpa using distinct)
    have value := value?_termOf (flat field List.mem_cons_self).2
    rw [List.map_cons, List.cons_append, pairOf, slotsOfStatements?, value]
    simp [atPath, Named.find?_append absent, Named.set_append absent, Named.find?, Named.set,
      addPair_single fresh, later, slotsOfFields]

def slotOfSection (part : Section) : String × Slot :=
  (part.name, .table .opened (slotsOfFields part.fields))

theorem slotsOfStatements?_sections {sections : List Section}
    (flat : ∀ part ∈ sections, AreFlat part.fields ∧ (part.fields.map Prod.fst).Nodup)
    (slots : Slots) (distinct : (slots.map Prod.fst ++ sections.map Section.name).Nodup)
    (path : Key) :
    slotsOfStatements? path slots (sections.flatMap sectionStatements) =
      some (slots ++ sections.map slotOfSection) := by
  induction sections generalizing slots path with
  | nil => simp [slotsOfStatements?]
  | cons part sections ih =>
    obtain ⟨fields, keys⟩ := flat part List.mem_cons_self
    have absent : part.name ∉ slots.map Prod.fst := by
      intro member
      exact (List.nodup_append.1 distinct).2.2 _ member _ List.mem_cons_self rfl
    have later := ih (fun other member => flat other (List.mem_cons_of_mem _ member))
      (slots ++ [slotOfSection part]) (by simpa [slotOfSection] using distinct) [part.name]
    have inner := slotsOfStatements?_inner fields absent [] (by simpa using keys)
      (sections.flatMap sectionStatements)
    rw [List.flatMap_cons, sectionStatements, List.cons_append, slotsOfStatements?]
    simp only [openAt, List.getLast?_singleton, List.dropLast_singleton, atPath, openTable,
      Named.find?_eq_none_iff.2 absent, Named.set_eq_append absent, Option.bind_eq_bind,
      Option.bind_some]
    rw [inner, List.nil_append, ← slotOfSection, later, List.map_cons, List.append_assoc,
      List.singleton_append]

/-- What a document must be like to be read back: bare keys, no key twice, flat values. -/
structure IsPlainDocument (fields : List (String × Toml)) (sections : List Section) : Prop where
  keys : (fields.map Prod.fst ++ sections.map Section.name).Nodup
  fields : AreFlat fields
  names : ∀ part ∈ sections, IsBareKey part.name
  inner : ∀ part ∈ sections, AreFlat part.fields ∧ (part.fields.map Prod.fst).Nodup

theorem read?_printDocument {fields : List (String × Toml)} {sections : List Section}
    (plain : IsPlainDocument fields sections) :
    read? (printDocument fields sections) =
      some (fields ++ sections.map fun part => (part.name, .table part.fields)) := by
  have statements := statements?_printDocument plain.fields
    fun part member => ⟨plain.names part member, (plain.inner part member).1⟩
  have slots := slotsOfStatements?_fields plain.fields []
    (List.nodup_append.1 plain.keys).1 (sections.flatMap sectionStatements)
  have tables := slotsOfStatements?_sections plain.inner (slotsOfFields fields)
    (by rw [keys_slotsOfFields]; exact plain.keys) []
  rw [List.nil_append, tables] at slots
  rw [read?, statements]
  simp only [Option.bind_eq_bind, Option.bind_some, slots, fieldsOfSlots_eq_map, List.map_append,
    List.map_map]
  rw [← fieldsOfSlots_eq_map, fieldsOfSlots_slotsOfFields]
  congr 2
  apply List.map_congr_left
  intro part _
  simp [slotOfSection, Slot.toToml, fieldsOfSlots_slotsOfFields]

end ApiPages.Toml
