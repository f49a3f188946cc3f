import ApiPages.Proofs.Index.Chain
import ApiPages.Proofs.Index.Companions
import ApiPages.Proofs.Index.Records

/-!
Accounts of a build. Every record that is scanned comes to one of six ends, which the records in
front of it decide, and it is counted once, under that end. So the counts add up to the number of
records, and the counts of entries are the numbers of entries of each shape.
-/

namespace ApiPages

inductive Fate where
  | duplicate
  | bare
  | failed
  | classEntry
  | facadeEntry
  | otherEntry
deriving DecidableEq

def Fate.ofDeclared {Ref : Type} : Declared Ref → Fate
  | .ofClass _ => .classEntry
  | .ofPackage _ => .facadeEntry
  | .nothing _ => .otherEntry

/-- What becomes of the first record of a name, in an index with or without room. -/
def Outcome.fate (room : Bool) : Outcome → Fate
  | .bare => .bare
  | .failed _ => .failed
  | .kept entry => if room then .ofDeclared entry.declared else .failed

theorem Outcome.fate_ne_duplicate (room : Bool) (outcome : Outcome) :
    outcome.fate room ≠ .duplicate := by
  rcases outcome with _ | _ | ⟨_, _ | _ | _⟩ <;> cases room <;> simp [fate, Fate.ofDeclared]

theorem Outcome.isBare_eq (room : Bool) (outcome : Outcome) :
    outcome.isBare = (outcome.fate room == .bare) := by
  rcases outcome with _ | _ | ⟨_, _ | _ | _⟩ <;> cases room <;> rfl

def Statistics.tally (statistics : Statistics) : Fate → Nat
  | .duplicate => statistics.duplicates
  | .bare => statistics.withoutMetadata
  | .failed => statistics.failed
  | .classEntry => statistics.classes
  | .facadeEntry => statistics.facades
  | .otherEntry => statistics.others

theorem Fate.sum_count (fates : List Fate) :
    fates.count .duplicate + fates.count .bare + fates.count .failed + fates.count .classEntry +
      fates.count .facadeEntry + fates.count .otherEntry = fates.length := by
  induction fates with
  | nil => rfl
  | cons first rest ih =>
    rw [List.length_cons, ← ih]
    cases first
    all_goals
      simp only [List.count_cons_self, List.count_cons_of_ne, ne_eq, reduceCtorEq,
        not_false_eq_true]
      omega

namespace Index

/-- What becomes of a record behind others. -/
def fate (before : List Record) (record : Record) : Fate :=
  if record.name ∈ before.map Record.name then .duplicate
  else (Outcome.ofRecord record).fate ((declaredEntries before).length < EntryId.capacity)

def fates (before : List Record) : List Record → List Fate
  | [] => []
  | record :: rest => fate before record :: fates (before ++ [record]) rest

theorem length_fates (before records : List Record) :
    (fates before records).length = records.length := by
  induction records generalizing before with
  | nil => rfl
  | cons record rest ih => rw [fates, List.length_cons, List.length_cons, ih]

def outcomes (scanned : List Record) : List Outcome :=
  (firstsBy Record.name scanned).map Outcome.ofRecord

/-- The entries of some outcomes, as many as there are ids. -/
def keptEntries (outcomes : List Outcome) : List (Entry String) :=
  (outcomes.filterMap Outcome.entry?).take EntryId.capacity

def tallyOutcomes (scanned : Nat) (outcomes : List Outcome) : Fate → Nat
  | .duplicate => scanned - outcomes.length
  | .bare => outcomes.countP Outcome.isBare
  | .failed => outcomes.countP Outcome.isFailed +
      ((outcomes.filterMap Outcome.entry?).length - (keptEntries outcomes).length)
  | .classEntry => (keptEntries outcomes).countP fun entry => entry.declared.isClass
  | .facadeEntry => (keptEntries outcomes).countP fun entry => entry.declared.isFacade
  | .otherEntry => (keptEntries outcomes).countP fun entry => entry.declared.isNothing

theorem tally_ofRecords (scanned : List Record) (ending : Fate) :
    (ofRecords scanned).statistics.tally ending =
      tallyOutcomes scanned.length (outcomes scanned) ending := by
  cases ending <;> rfl

theorem keptEntries_outcomes (scanned : List Record) :
    keptEntries (outcomes scanned) = declaredEntries scanned := by
  rw [keptEntries, outcomes, declaredEntries, List.filterMap_map]
  exact congrArg (fun kept? => ((firstsBy Record.name scanned).filterMap kept?).take _)
    (funext Outcome.entry?_ofRecord)

theorem outcomes_concat (scanned : List Record) (record : Record) :
    outcomes (scanned ++ [record]) =
      if record.name ∈ scanned.map Record.name then outcomes scanned
      else outcomes scanned ++ [Outcome.ofRecord record] := by
  rw [outcomes, firstsBy_append, firstsBy, firstsBy, List.filter_nil, List.map_append]
  by_cases known : record.name ∈ scanned.map Record.name
  · rw [if_pos known, List.filter_cons_of_neg (by simpa using known), List.filter_nil,
      List.map_nil, List.append_nil, outcomes]
  · rw [if_neg known, List.filter_cons_of_pos (by simpa using known), List.filter_nil,
      List.map_singleton, outcomes]

theorem filterMap_entry?_concat (outcomes : List Outcome) (outcome : Outcome) :
    (outcomes ++ [outcome]).filterMap Outcome.entry? =
      outcomes.filterMap Outcome.entry? ++ outcome.entry?.toList := by
  rw [List.filterMap_append]
  cases outcome <;> rfl

theorem keptEntries_concat (outcomes : List Outcome) (outcome : Outcome) :
    keptEntries (outcomes ++ [outcome]) =
      if (keptEntries outcomes).length < EntryId.capacity then
        keptEntries outcomes ++ outcome.entry?.toList
      else keptEntries outcomes := by
  rw [keptEntries, keptEntries, filterMap_entry?_concat, List.length_take]
  generalize outcomes.filterMap Outcome.entry? = entries
  have one : outcome.entry?.toList.length ≤ 1 := by cases outcome <;> simp [Outcome.entry?]
  by_cases room : entries.length < EntryId.capacity
  · rw [if_pos (by omega), List.take_of_length_le (by rw [List.length_append]; omega),
      List.take_of_length_le (by omega)]
  · rw [if_neg (by omega), List.take_append_of_le_length (by omega)]

theorem countP_keptEntries_concat {shape : Declared String → Bool} {ending : Fate}
    (isShape : ∀ declared, shape declared = (Fate.ofDeclared declared == ending))
    (notBare : ending ≠ .bare) (notFailed : ending ≠ .failed) (outcomes : List Outcome)
    (outcome : Outcome) :
    ((keptEntries (outcomes ++ [outcome])).countP fun entry => shape entry.declared) =
      ((keptEntries outcomes).countP fun entry => shape entry.declared) +
        [outcome.fate ((keptEntries outcomes).length < EntryId.capacity)].count ending := by
  rw [keptEntries_concat, List.count_singleton]
  by_cases room : (keptEntries outcomes).length < EntryId.capacity
  · rw [if_pos room, List.countP_append, decide_eq_true room]
    cases outcome with
    | bare => simp [Outcome.fate, Outcome.entry?, notBare.symm]
    | failed error => simp [Outcome.fate, Outcome.entry?, notFailed.symm]
    | kept entry => simp [Outcome.fate, Outcome.entry?, List.countP_singleton, isShape]
  · rw [if_neg room, decide_eq_false room]
    cases outcome with
    | bare => simp [Outcome.fate, notBare.symm]
    | failed error => simp [Outcome.fate, notFailed.symm]
    | kept entry => simp [Outcome.fate, notFailed.symm]

theorem tallyOutcomes_concat (scanned : Nat) (outcomes : List Outcome) (outcome : Outcome)
    (ending : Fate) :
    tallyOutcomes (scanned + 1) (outcomes ++ [outcome]) ending =
      tallyOutcomes scanned outcomes ending +
        [outcome.fate ((keptEntries outcomes).length < EntryId.capacity)].count ending := by
  cases ending with
  | duplicate =>
    have other : outcome.fate ((keptEntries outcomes).length < EntryId.capacity) ≠ .duplicate :=
      outcome.fate_ne_duplicate _
    simp [tallyOutcomes, other]
  | bare =>
    rw [tallyOutcomes, tallyOutcomes, List.countP_append, List.countP_singleton,
      List.count_singleton, Outcome.isBare_eq]
  | failed =>
    -- an entry that is refused shows in what is decoded beyond what is kept
    have decoded := congrArg List.length (filterMap_entry?_concat outcomes outcome)
    have kept := congrArg List.length (keptEntries_concat outcomes outcome)
    have keptLength : (keptEntries outcomes).length =
        min EntryId.capacity (outcomes.filterMap Outcome.entry?).length := List.length_take
    rw [List.length_append] at decoded
    rw [apply_ite List.length, List.length_append] at kept
    rw [tallyOutcomes, tallyOutcomes, List.countP_append, List.countP_singleton,
      List.count_singleton, decoded, kept]
    cases outcome with
    | bare => simp [Outcome.isFailed, Outcome.fate, Outcome.entry?]
    | failed error =>
      simp only [Outcome.isFailed, Outcome.fate, Outcome.entry?, Option.toList_none,
        List.length_nil, ite_self, Nat.add_zero, BEq.rfl, if_true]
      omega
    | kept entry =>
      have indexed : Fate.ofDeclared entry.declared ≠ .failed := by
        cases entry.declared <;> simp [Fate.ofDeclared]
      by_cases room : (keptEntries outcomes).length < EntryId.capacity
      · simp [Outcome.isFailed, Outcome.fate, Outcome.entry?, room, indexed]
      · simp only [Outcome.isFailed, Outcome.fate, Outcome.entry?, Option.toList_some,
          List.length_singleton, room, decide_false, Bool.false_eq_true, BEq.rfl, if_true, if_false]
        omega
  | classEntry =>
    exact countP_keptEntries_concat (by rintro (_ | _ | _) <;> rfl) (by decide) (by decide) _ _
  | facadeEntry =>
    exact countP_keptEntries_concat (by rintro (_ | _ | _) <;> rfl) (by decide) (by decide) _ _
  | otherEntry =>
    exact countP_keptEntries_concat (by rintro (_ | _ | _) <;> rfl) (by decide) (by decide) _ _

theorem tally_concat (scanned : List Record) (record : Record) (ending : Fate) :
    (ofRecords (scanned ++ [record])).statistics.tally ending =
      (ofRecords scanned).statistics.tally ending + [fate scanned record].count ending := by
  rw [tally_ofRecords, tally_ofRecords, outcomes_concat, List.length_append, List.length_singleton,
    fate]
  by_cases known : record.name ∈ scanned.map Record.name
  · rw [if_pos known, if_pos known]
    cases ending with
    | duplicate =>
      have noMore : (outcomes scanned).length ≤ scanned.length := by
        rw [outcomes, List.length_map]
        exact length_firstsBy_le Record.name scanned
      simp only [tallyOutcomes, List.count_singleton_self]
      omega
    | _ => rfl
  · rw [if_neg known, if_neg known, tallyOutcomes_concat, keptEntries_outcomes]

theorem tally_append (before later : List Record) (ending : Fate) :
    (ofRecords (before ++ later)).statistics.tally ending =
      (ofRecords before).statistics.tally ending + (fates before later).count ending := by
  -- what stands in front of the next record grows with each step
  induction later generalizing before with
  | nil => rw [List.append_nil, fates, List.count_nil, Nat.add_zero]
  | cons record rest ih =>
    have counted : (fates before (record :: rest)).count ending =
        [fate before record].count ending + (fates (before ++ [record]) rest).count ending := by
      rw [fates, ← List.count_append, List.singleton_append]
    rw [List.append_cons, ih, tally_concat, counted, Nat.add_assoc]

theorem tally_eq_count (scanned : List Record) (ending : Fate) :
    (ofRecords scanned).statistics.tally ending = (fates [] scanned).count ending := by
  have none : (ofRecords []).statistics.tally ending = 0 := by cases ending <;> rfl
  have counted := tally_append [] scanned ending
  rwa [List.nil_append, none, Nat.zero_add] at counted

theorem countP_shapes (declared : List (Entry String)) :
    (declared.countP fun entry => entry.declared.isClass) +
      (declared.countP fun entry => entry.declared.isFacade) +
      (declared.countP fun entry => entry.declared.isNothing) = declared.length := by
  induction declared with
  | nil => rfl
  | cons entry rest ih =>
    rw [List.length_cons, ← ih]
    rcases entry with ⟨_, _ | _ | _⟩
    all_goals
      simp only [List.countP_cons, Declared.isClass, Declared.isFacade, Declared.isNothing,
        Declared.class?, Declared.facade?, Option.isSome_some, Option.isSome_none,
        Bool.false_eq_true, if_true, if_false]
      omega

theorem isNothing_iff_metadataKind {scanned : List Record} {entry : Entry String}
    (member : entry ∈ declaredEntries scanned) :
    entry.declared.isNothing ↔ entry.declared.metadataKind = .multiFileFacade ∨
      entry.declared.metadataKind = .synthetic := by
  obtain ⟨record, _, decodes⟩ := Option.bind_eq_some_iff.1 (declaredBy?_of_mem member)
  obtain ⟨_, metadata, _, _, accepted⟩ := Record.exists_metadata decodes
  obtain ⟨kind, _, nothing⟩ := Metadata.kinds_of_declared accepted
  rw [nothing, kind]

/-- How a build is accounted for: every scanned record once, and every entry once. -/
structure Accounted (index : Index) (records scanned : List Record) : Prop where
  scanned_eq : index.statistics.scanned = scanned.length
  balance : index.statistics.scanned = index.statistics.duplicates +
    index.statistics.withoutMetadata + index.statistics.failed + index.statistics.classes +
    index.statistics.facades + index.statistics.others
  tally_eq : ∀ ending, index.statistics.tally ending = (fates [] scanned).count ending
  indexed_eq : index.statistics.indexed = index.size
  classes_eq : index.statistics.classes = index.classes.length
  facades_eq : index.statistics.facades = index.facades.length
  others_eq : index.statistics.others = index.entries.countP fun entry =>
    entry.declared.metadataKind = .multiFileFacade ∨ entry.declared.metadataKind = .synthetic
  /-- A companion that metadata names is linked or counted as dropped. -/
  companions_eq : index.statistics.droppedCompanions +
      (index.entries.countP fun entry => entry.declared.companion?.isSome) =
    index.entries.countP fun entry => (namedCompanion? records entry.name).isSome

theorem countP_dropsCompanion (classes : NameTable) (declared : List (Entry String)) :
    declared.countP (dropsCompanion classes) +
        (declared.countP fun source => (linkEntry classes source).declared.companion?.isSome) =
      declared.countP fun source => source.declared.companion?.isSome := by
  induction declared with
  | nil => rfl
  | cons source rest ih =>
    rw [List.countP_cons, List.countP_cons, List.countP_cons, ← ih, linkEntry,
      Declared.companion?_refer, dropsCompanion]
    cases source.declared.companion? with
    | none => rfl
    | some companion =>
      cases linked : link? classes source.name companion
      all_goals
        simp only [linked, Option.bind_some, Option.isNone_none, Option.isNone_some,
          Option.isSome_none, Option.isSome_some, Bool.false_eq_true, if_true, if_false]
        omega

section

variable {index : Index} {declared : List (Entry String)} (holds : index.Holds declared)
include holds

theorem Holds.countP_entries (counts : Entry Companion → Bool) :
    index.entries.countP counts =
      declared.countP fun source => counts (linkEntry (classTable declared) source) := by
  rw [holds.entries_eq, linkAll, List.countP_map]
  rfl

theorem Holds.length_classes :
    index.classes.length = declared.countP fun source => source.declared.isClass := by
  rw [classes, List.length_filterMap_eq_countP, holds.countP_entries]
  simp only [class?_linkEntry, Option.isSome_map, declaredClass?, Declared.isClass]

theorem Holds.length_facades :
    index.facades.length = declared.countP fun source => source.declared.isFacade := by
  rw [facades, List.length_filterMap_eq_countP, holds.countP_entries]
  simp only [Entry.facade?, Option.isSome_map, linkEntry, Declared.facade?_refer, Declared.isFacade]

end

/-- A build accounts for all records that it scanned. -/
theorem build_accounted (filter : PackageFilter) (records : List Record) :
    (build filter records).Accounted records (filter.select records) := by
  let scanned := filter.select records
  have holds : (build filter records).Holds (declaredEntries scanned) := holds_build filter records
  have counted : ∀ ending, (build filter records).statistics.tally ending =
      (fates [] scanned).count ending := tally_eq_count scanned
  have shapes : ∀ ending, (build filter records).statistics.tally ending =
      tallyOutcomes scanned.length (outcomes scanned) ending := tally_ofRecords scanned
  have classCount := shapes .classEntry
  have facadeCount := shapes .facadeEntry
  have otherCount := shapes .otherEntry
  simp only [Statistics.tally, tallyOutcomes, keptEntries_outcomes]
    at classCount facadeCount otherCount
  constructor
  case scanned_eq => rfl
  case tally_eq => exact counted
  case balance =>
    have total := Fate.sum_count (fates [] scanned)
    rw [length_fates] at total
    simp only [← counted] at total
    exact total.symm
  case indexed_eq =>
    rw [Statistics.indexed, holds.size_eq, ← countP_shapes, classCount, facadeCount, otherCount]
  case classes_eq => rw [classCount, holds.length_classes]
  case facades_eq => rw [facadeCount, holds.length_facades]
  case others_eq =>
    rw [otherCount, holds.countP_entries]
    apply List.countP_congr
    intro source member
    rw [decide_eq_true_eq, linkEntry, Declared.metadataKind_refer]
    exact isNothing_iff_metadataKind member
  case companions_eq =>
    have dropped : (build filter records).statistics.droppedCompanions =
        (keptEntries (outcomes scanned)).countP
          (dropsCompanion (classTable (keptEntries (outcomes scanned)))) := rfl
    rw [dropped, keptEntries_outcomes, holds.countP_entries, holds.countP_entries,
      countP_dropsCompanion]
    apply List.countP_congr
    intro source member
    rw [linkEntry, namedCompanion?, declaredBy?_of_mem_select member, Option.bind_some]

end Index

end ApiPages
