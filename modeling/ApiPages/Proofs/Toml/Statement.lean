import ApiPages.Proofs.Toml.Term
import Mathlib.Data.List.Basic

/-!
Documents written line by line and read back as statements. Every line that the printer writes is a
statement of its own or is empty. Main statement: the text of a document with bare keys and flat
values is read as its pairs and headers.
-/

namespace ApiPages.Toml

def IsBareKey (key : String) : Prop := key ≠ "" ∧ key.toList.all isBare = true

instance (key : String) : Decidable (IsBareKey key) := inferInstanceAs (Decidable (_ ∧ _))

theorem keyText_of_bare {key : String} (bare : IsBareKey key) : keyText key = key := by
  rw [keyText, if_pos]
  rw [Bool.and_eq_true]
  exact ⟨by simpa using bare.1, bare.2⟩

theorem IsBareKey.exists_cons {key : String} (bare : IsBareKey key) :
    ∃ c text, key.toList = c :: text ∧ isBare c = true := by
  cases written : key.toList with
  | nil => exact absurd (String.toList_eq_nil_iff.1 written) bare.1
  | cons c text =>
    have all := bare.2
    rw [written, List.all_cons, Bool.and_eq_true] at all
    exact ⟨c, text, rfl, all.1⟩

section

variable {key : String} {rest : List Char}

theorem skipBlanks_bare (bare : IsBareKey key) :
    skipBlanks (key.toList ++ rest) = key.toList ++ rest := by
  obtain ⟨c, text, written, first⟩ := bare.exists_cons
  have visible := isBlank_of_class first (by decide)
  rw [written, List.cons_append, skipBlanks, List.dropWhile_cons_of_neg (by simp [visible])]

theorem keyPart?_bare (bare : IsBareKey key) (ends : rest.head?.any isBare = false) :
    keyPart? (key.toList ++ rest) = some (key.toList, rest) := by
  have all := List.all_eq_true.1 bare.2
  have taken : (key.toList ++ rest).takeWhile isBare = key.toList := by
    rw [List.takeWhile_append_of_pos all]
    cases rest with
    | nil => simp
    | cons c rest => rw [List.takeWhile_cons_of_neg (by simpa using ends), List.append_nil]
  have left : (key.toList ++ rest).dropWhile isBare = rest := by
    rw [List.dropWhile_append_of_pos all]
    cases rest with
    | nil => rfl
    | cons c rest => exact List.dropWhile_cons_of_neg (by simpa using ends)
  obtain ⟨c, text, written, first⟩ := bare.exists_cons
  have double := ne_of_class first '"' (by decide)
  have single := ne_of_class first '\'' (by decide)
  rw [written, List.cons_append] at taken left ⊢
  rw [keyPart?]
  · simp [taken, left]
  · simp [double]
  · simp [single]

theorem key?_bare (bare : IsBareKey key) (rest : List Char) (ends : rest.head?.any isBare = false)
    (undotted : (skipBlanks rest).head? ≠ some '.') :
    key? (key.toList ++ rest) = some ([key], skipBlanks rest) := by
  change keyWithin? (78 + 1) _ = _
  rw [keyWithin?, skipBlanks_bare bare, keyPart?_bare bare ends]
  simp only [Option.bind_eq_bind, Option.bind_some, String.ofList_toList]
  split
  · next same => simp [same] at undotted
  · rfl

end

def pairOf (field : String × Toml) : Statement := .pair [field.1] (termOf field.2)

def fieldText (field : String × Toml) : List Char :=
  field.1.toList ++ ' ' :: '=' :: ' ' :: (field.2.print.toList ++ ['\n'])

theorem print_head_of_flat {value : Toml} (flat : IsFlat value) :
    ∃ c text, value.print.toList = c :: text ∧ isBlank c = false := by
  cases flat with
  | simple simple =>
    obtain ⟨c, text, written, starts⟩ := print_head simple
    exact ⟨c, text, written, isBlank_of_class starts (by decide)⟩
  | array simple =>
    obtain ⟨inside, written, -⟩ := items?_array simple []
    exact ⟨_, inside, written, by decide⟩

theorem statement?_field {field : String × Toml} (bare : IsBareKey field.1)
    (flat : IsFlat field.2) (rest : List Char) :
    statement? (fieldText field ++ rest) = some (pairOf field, rest) := by
  have text : fieldText field ++ rest =
      field.1.toList ++ ' ' :: '=' :: ' ' :: (field.2.print.toList ++ '\n' :: rest) := by
    simp [fieldText]
  have key := key?_bare bare (' ' :: '=' :: ' ' :: (field.2.print.toList ++ '\n' :: rest))
    rfl (by simp [skipBlanks, isBlank])
  have behind : skipBlanks (' ' :: '=' :: ' ' :: (field.2.print.toList ++ '\n' :: rest)) =
      '=' :: ' ' :: (field.2.print.toList ++ '\n' :: rest) := rfl
  have term := termAt?_print flat ('\n' :: rest) (.inl rfl)
  have reached : skipBlanks (' ' :: (field.2.print.toList ++ '\n' :: rest)) =
      field.2.print.toList ++ '\n' :: rest := by
    obtain ⟨c, more, written, visible⟩ := print_head_of_flat flat
    rw [written, skipBlanks, List.dropWhile_cons_of_pos (by decide), List.cons_append,
      List.dropWhile_cons_of_neg (by simp [visible])]
  rw [behind] at key
  rw [text]
  obtain ⟨c, more, written, isKey⟩ := bare.exists_cons
  have plain := ne_of_class isKey '\x5b' (by decide)
  rw [written, List.cons_append] at key ⊢
  rw [statement?]
  · simp only [key, Option.bind_eq_bind, Option.bind_some, reached, term]
    rfl
  · simp [plain]
  · simp [plain]

theorem statement?_header {name : String} (bare : IsBareKey name) (rest : List Char) :
    statement? ('\x5b' :: (name.toList ++ '\x5d' :: '\n' :: rest)) =
      some (.header [name], rest) := by
  have key := key?_bare bare ('\x5d' :: '\n' :: rest) rfl (by simp [skipBlanks, isBlank])
  have behind : skipBlanks ('\x5d' :: '\n' :: rest) = '\x5d' :: '\n' :: rest := rfl
  obtain ⟨c, more, written, isKey⟩ := bare.exists_cons
  have plain := ne_of_class isKey '\x5b' (by decide)
  rw [behind] at key
  rw [written, List.cons_append] at key ⊢
  rw [statement?]
  · simp only [key, Option.bind_eq_bind, Option.bind_some]
    rfl
  · simp [plain]

/-! Lines of a text. -/

/-- A text is read as some statements, however many lines it might have. -/
def ReadsAs (text : List Char) (statements : List Statement) : Prop :=
  ∀ lines, text.length < lines → statementsWithin? lines text = some statements

theorem readsAs_nil : ReadsAs [] [] := by
  intro lines enough
  obtain ⟨lines, rfl⟩ := Nat.exists_eq_add_one.2 (Nat.zero_lt_of_lt enough)
  rfl

theorem ReadsAs.emptyLine {rest : List Char} {statements : List Statement}
    (later : ReadsAs rest statements) : ReadsAs ('\n' :: rest) statements := by
  intro lines enough
  obtain ⟨lines, rfl⟩ := Nat.exists_eq_add_one.2 (Nat.zero_lt_of_lt enough)
  exact later lines (Nat.lt_of_succ_lt_succ enough)

theorem ReadsAs.statement {c : Char} {text rest : List Char} {statement : Statement}
    {statements : List Statement} (later : ReadsAs rest statements)
    (here : statement? (c :: text) = some (statement, rest))
    (visible : isBlank c = false ∧ c ≠ '#' ∧ c ≠ '\n' ∧ c ≠ '\r')
    (shorter : rest.length ≤ text.length) : ReadsAs (c :: text) (statement :: statements) := by
  intro lines enough
  obtain ⟨lines, rfl⟩ := Nat.exists_eq_add_one.2 (Nat.zero_lt_of_lt enough)
  have reached : skipBlanks (c :: text) = c :: text :=
    List.dropWhile_cons_of_neg (by simp [visible.1])
  have follow := later lines (by simp only [List.length_cons] at enough; omega)
  rw [statementsWithin?, reached]
  simp [isIdleLine, visible, here, follow]

def fieldsText (fields : List (String × Toml)) : List Char := fields.flatMap fieldText

def AreFlat (fields : List (String × Toml)) : Prop :=
  ∀ field ∈ fields, IsBareKey field.1 ∧ IsFlat field.2

theorem fieldText_head {field : String × Toml} (bare : IsBareKey field.1) :
    ∃ c line, fieldText field = c :: line ∧
      (isBlank c = false ∧ c ≠ '#' ∧ c ≠ '\n' ∧ c ≠ '\r') ∧ c ≠ '\ufeff' := by
  obtain ⟨c, more, written, isKey⟩ := bare.exists_cons
  refine ⟨c, _, by rw [fieldText, written, List.cons_append],
    ⟨isBlank_of_class isKey (by decide), ?_, ?_, ?_⟩, ?_⟩
  all_goals exact ne_of_class isKey _ (by decide)

theorem ReadsAs.fields {fields : List (String × Toml)} (flat : AreFlat fields) {rest : List Char}
    {statements : List Statement} (later : ReadsAs rest statements) :
    ReadsAs (fieldsText fields ++ rest) (fields.map pairOf ++ statements) := by
  induction fields with
  | nil => exact later
  | cons field fields ih =>
    obtain ⟨bare, value⟩ := flat field List.mem_cons_self
    have here := statement?_field bare value (fieldsText fields ++ rest)
    have behind := ih fun other member => flat other (List.mem_cons_of_mem _ member)
    obtain ⟨c, line, written, visible, -⟩ := fieldText_head bare
    rw [fieldsText, List.flatMap_cons, List.append_assoc, ← fieldsText]
    rw [written, List.cons_append] at here ⊢
    exact behind.statement here visible (by simp)

/-! Whole documents. -/

def sectionText (part : Section) : List Char :=
  '\n' :: '\x5b' :: (part.name.toList ++ '\x5d' :: '\n' :: fieldsText part.fields)

def sectionStatements (part : Section) : List Statement :=
  .header [part.name] :: part.fields.map pairOf

theorem ReadsAs.sections {sections : List Section}
    (flat : ∀ part ∈ sections, IsBareKey part.name ∧ AreFlat part.fields) :
    ReadsAs (sections.flatMap sectionText) (sections.flatMap sectionStatements) := by
  induction sections with
  | nil => exact readsAs_nil
  | cons part sections ih =>
    obtain ⟨bare, fields⟩ := flat part List.mem_cons_self
    have behind := ih fun other member => flat other (List.mem_cons_of_mem _ member)
    have pairs := behind.fields fields
    have header := statement?_header bare (fieldsText part.fields ++ sections.flatMap sectionText)
    have text : (part :: sections).flatMap sectionText = '\n' :: '\x5b' :: (part.name.toList ++
        '\x5d' :: '\n' :: (fieldsText part.fields ++ sections.flatMap sectionText)) := by
      simp [sectionText]
    rw [text, List.flatMap_cons, sectionStatements, List.cons_append]
    apply ReadsAs.emptyLine
    refine pairs.statement header (by decide) ?_
    simp only [List.length_append, List.length_cons]
    omega

theorem printFields_eq_map (fields : List (String × Toml)) :
    printFields fields = fields.map fun field => keyText field.1 ++ " = " ++ field.2.print := by
  induction fields with
  | nil => rfl
  | cons field fields ih => rw [printFields, ih, List.map_cons]

theorem toList_fieldLines {fields : List (String × Toml)} (flat : AreFlat fields) :
    (fieldLines fields).toList = fieldsText fields := by
  have line : ∀ field ∈ fields,
      (keyText field.1 ++ " = " ++ field.2.print ++ "\n").toList = fieldText field := by
    intro field member
    simp [keyText_of_bare (flat field member).1, fieldText]
  rw [fieldLines, printFields_eq_map, List.map_map, String.toList_join, List.flatMap_map,
    fieldsText]
  exact List.flatMap_congr line

theorem toList_printDocument {fields : List (String × Toml)} {sections : List Section}
    (flat : AreFlat fields)
    (inner : ∀ part ∈ sections, IsBareKey part.name ∧ AreFlat part.fields) :
    (printDocument fields sections).toList = fieldsText fields ++ sections.flatMap sectionText := by
  have each : ∀ part ∈ sections, part.print.toList = sectionText part := by
    intro part member
    obtain ⟨bare, fields⟩ := inner part member
    simp [Section.print, sectionText, keyText_of_bare bare, toList_fieldLines fields]
  rw [printDocument, String.toList_append, toList_fieldLines flat, String.toList_join,
    List.flatMap_map, List.flatMap_congr each]

theorem statements?_printDocument {fields : List (String × Toml)} {sections : List Section}
    (flat : AreFlat fields)
    (inner : ∀ part ∈ sections, IsBareKey part.name ∧ AreFlat part.fields) :
    statements? (printDocument fields sections).toList =
      some (fields.map pairOf ++ sections.flatMap sectionStatements) := by
  rw [toList_printDocument flat inner]
  have unmarked : (fieldsText fields ++ sections.flatMap sectionText).head? ≠ some '\ufeff' := by
    match fields, sections with
    | field :: fields, _ =>
      obtain ⟨c, line, written, -, unmarked⟩ := fieldText_head (flat field List.mem_cons_self).1
      simp [fieldsText, written, unmarked]
    | [], part :: sections => simp [fieldsText, sectionText]
    | [], [] => simp [fieldsText]
  rw [statements?, if_neg unmarked]
  exact (ReadsAs.sections inner).fields flat _ (Nat.lt_succ_self _)

end ApiPages.Toml
