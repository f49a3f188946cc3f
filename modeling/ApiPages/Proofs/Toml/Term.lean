import ApiPages.Proofs.Toml.Number
import ApiPages.Proofs.Toml.Quotation
import ApiPages.Toml.Document

/-!
Terms written and read back: strings, counts, switches, and arrays of these. An array of several
items spans lines, which the reader skips. Main statement: a term in front of the end of a line is
read as its value.
-/

namespace ApiPages.Toml

inductive IsSimple : Toml → Prop
  | string (text : String) : IsSimple (.string text)
  | count {n : Nat} (fits : n < Decimal.signedSize) : IsSimple (.integer n)
  | bool (value : Bool) : IsSimple (.bool value)

inductive IsFlat : Toml → Prop
  | simple {value : Toml} (simple : IsSimple value) : IsFlat value
  | array {items : List Toml} (simple : ∀ item ∈ items, IsSimple item) : IsFlat (.array items)

def termOf : Toml → Term
  | .array items => .array (items.map .leaf)
  | value => .leaf value

def startsSimple (c : Char) : Bool := c == '"' || c == '\'' || c == 't' || c == 'f' || c.isDigit

theorem print_head {value : Toml} (simple : IsSimple value) :
    ∃ c text, value.print.toList = c :: text ∧ startsSimple c = true := by
  cases simple with
  | string text =>
    rcases head?_quoted text with head | head <;>
      obtain ⟨behind, whole⟩ := List.head?_eq_some_iff.1 head <;>
      exact ⟨_, behind, whole, by decide⟩
  | @count n fits =>
    obtain ⟨c, digits, written, -⟩ := toDigits_head n
    have digit : c.isDigit = true := isDigit_of_mem_decimal (written ▸ List.mem_cons_self)
    exact ⟨c, digits, by rw [← written]; exact Nat.toList_repr, by simp [startsSimple, digit]⟩
  | bool value => cases value <;> exact ⟨_, _, rfl, by decide⟩

theorem scalar_print {value : Toml} (simple : IsSimple value) {rest : List Char}
    (ends : EndsTerm rest) : scalar (value.print.toList ++ rest) = some (value, rest) := by
  cases simple with
  | string text =>
    have read := unquote?_quoted text (ends.head?_ne (by decide)) (ends.head?_ne (by decide))
    have opened : ((quoted text).toList ++ rest).head? = some '"' ∨
        ((quoted text).toList ++ rest).head? = some '\'' := by
      rcases head?_quoted text with head | head <;> simp [List.head?_append, head]
    rw [print]
    unfold scalar
    split
    · next same => simp [same] at opened
    · next same => simp [same] at opened
    · rw [if_pos opened, read]
      simp
  | @count n fits =>
    have written : (print (.integer n)).toList = Nat.toDigits 10 n := Nat.toList_repr
    obtain ⟨c, digits, start, -⟩ := toDigits_head n
    have allDigits : ∀ c ∈ Nat.toDigits 10 n, c.isDigit = true :=
      fun _ => isDigit_of_mem_decimal
    have digit : c.isDigit = true := allDigits c (start ▸ List.mem_cons_self)
    have other : c ≠ 't' ∧ c ≠ 'f' ∧ c ≠ '"' ∧ c ≠ '\'' := by
      refine ⟨?_, ?_, ?_, ?_⟩ <;> exact ne_of_class digit _ (by decide)
    have first : (Nat.toDigits 10 n ++ rest).head? = some c := by rw [start]; rfl
    rw [written]
    unfold scalar
    split
    · next same => simp [same, other.1.symm] at first
    · next same => simp [same, other.2.1.symm] at first
    · rw [if_neg (by simp [first, other]), if_neg, number?_toDigits fits ends]
      simp [startsDate_digits allDigits ends, startsTime_digits allDigits ends]
  | bool value => cases value <;> rfl

theorem isBlank_of_class {within : Char → Bool} {c : Char} (member : within c = true)
    (outside : within ' ' = false ∧ within '\t' = false) : isBlank c = false := by
  have space := ne_of_class member ' ' outside.1
  have tab := ne_of_class member '\t' outside.2
  simp [isBlank, space, tab]

theorem skipLines_print {value : Toml} (simple : IsSimple value) (rest : List Char) :
    skipLines false (value.print.toList ++ rest) = value.print.toList ++ rest := by
  obtain ⟨c, text, written, starts⟩ := print_head simple
  have visible : c ≠ '\n' ∧ c ≠ '\r' ∧ c ≠ '#' := by
    refine ⟨?_, ?_, ?_⟩ <;> exact ne_of_class starts _ (by decide)
  have notBlank := isBlank_of_class starts (by decide)
  rw [written, List.cons_append, skipLines]
  · simp [visible, notBlank]
  · simp [visible]
  · simp [visible]

theorem term?_print {value : Toml} (simple : IsSimple value) (bound levels : Nat)
    {rest : List Char} (ends : EndsTerm rest) :
    term? (bound + 1) levels (value.print.toList ++ rest) = some (.leaf value, rest) := by
  have read := scalar_print simple ends
  obtain ⟨c, text, written, starts⟩ := print_head simple
  have plain : c ≠ '\x5b' ∧ c ≠ '\x7b' := by
    constructor <;> exact ne_of_class starts _ (by decide)
  rw [written, List.cons_append] at read ⊢
  rw [term?]
  · rw [read]
    rfl
  · simp [plain]
  · simp [plain]

theorem items?_print {value : Toml} (simple : IsSimple value) (bound levels : Nat)
    (front behind : List Char)
    (idle : ∀ text, skipLines false (front ++ text) = skipLines false text)
    (ends : EndsTerm behind) :
    items? (bound + 2) levels (front ++ (value.print.toList ++ behind)) =
      match skipLines false behind with
      | ',' :: rest => (items? (bound + 1) levels rest).map fun (items, behind) =>
        (.leaf value :: items, behind)
      | '\x5d' :: behind => some ([.leaf value], behind)
      | _ => none := by
  have first := term?_print simple bound levels ends
  have reached := (idle _).trans (skipLines_print simple behind)
  obtain ⟨c, text, written, starts⟩ := print_head simple
  have noBracket : c ≠ '\x5d' := ne_of_class starts _ (by decide)
  rw [items?, reached]
  split
  · next same =>
    rw [written] at same
    exact absurd (List.cons.inj same).1 noBracket
  · rw [first]
    simp only [Option.bind_eq_bind, Option.bind_some]
    generalize skipLines false behind = next
    split
    · exact Option.map_eq_bind.symm
    · rfl
    · simp

def itemLines (items : List Toml) : List Char :=
  items.flatMap fun item => "    ".toList ++ (item.print.toList ++ ",\n".toList)

theorem itemLines_cons (item : Toml) (items : List Toml) (behind : List Char) :
    '\n' :: (itemLines (item :: items) ++ behind) =
      "\n    ".toList ++ (item.print.toList ++ ',' :: '\n' :: (itemLines items ++ behind)) := by
  simp [itemLines]

theorem items?_itemLines {items : List Toml} (simple : ∀ item ∈ items, IsSimple item)
    {bound : Nat} (enough : items.length < bound) (levels : Nat) (rest : List Char) :
    items? bound levels ('\n' :: (itemLines items ++ '\x5d' :: rest)) =
      some (items.map .leaf, rest) := by
  induction items generalizing bound with
  | nil =>
    obtain ⟨bound, rfl⟩ := Nat.exists_eq_add_one.2 enough
    rfl
  | cons item items ih =>
    rw [List.length_cons] at enough
    obtain ⟨bound, rfl⟩ : ∃ more, bound = more + 2 := ⟨bound - 2, by omega⟩
    rw [List.forall_mem_cons] at simple
    have later := ih simple.2 (show items.length < bound + 1 by omega)
    rw [itemLines_cons, items?_print simple.1 bound levels _ _ (fun _ => rfl) (.inr (.inl rfl))]
    simp [skipLines, isBlank, later]

theorem printItems_eq_map (items : List Toml) : printItems items = items.map print := by
  induction items with
  | nil => rfl
  | cons item items ih => rw [printItems, ih, List.map_cons]

theorem toList_arrayText (first second : Toml) (items : List Toml) :
    (arrayText (printItems (first :: second :: items))).toList =
      '\x5b' :: '\n' :: (itemLines (first :: second :: items) ++ ['\x5d']) := by
  rw [printItems_eq_map]
  simp [arrayText, itemLines, List.flatMap_map]

theorem length_le_itemLines (items : List Toml) : items.length ≤ (itemLines items).length := by
  induction items with
  | nil => exact Nat.le_refl 0
  | cons item items ih =>
    have longer := congrArg List.length (itemLines_cons item items [])
    simp only [List.length_cons, List.length_append, List.append_nil] at longer ⊢
    omega

theorem items?_array {items : List Toml} (simple : ∀ item ∈ items, IsSimple item)
    (rest : List Char) :
    ∃ inside, (print (.array items)).toList = '\x5b' :: inside ∧
      ∀ bound levels, inside.length < bound →
        items? bound levels (inside ++ rest) = some (items.map .leaf, rest) := by
  rw [print]
  match items with
  | [] =>
    refine ⟨['\x5d'], rfl, fun bound levels enough => ?_⟩
    obtain ⟨bound, rfl⟩ := Nat.exists_eq_add_one.2 (Nat.zero_lt_of_lt enough)
    rfl
  | [only] =>
    refine ⟨only.print.toList ++ ['\x5d'], by simp [arrayText, printItems], ?_⟩
    intro bound levels enough
    obtain ⟨c, text, written, -⟩ := print_head (simple only (List.mem_singleton_self only))
    simp only [written, List.length_append, List.length_cons] at enough
    obtain ⟨bound, rfl⟩ : ∃ more, bound = more + 2 := ⟨bound - 2, by omega⟩
    have read := items?_print (simple only (List.mem_singleton_self only)) bound levels
      [] ('\x5d' :: rest) (fun _ => rfl) (.inr (.inr rfl))
    rw [List.append_assoc]
    simpa [skipLines, isBlank] using read
  | first :: second :: items =>
    refine ⟨'\n' :: (itemLines (first :: second :: items) ++ ['\x5d']),
      toList_arrayText first second items, fun bound levels enough => ?_⟩
    have few := length_le_itemLines (first :: second :: items)
    have within : (first :: second :: items).length < bound := by
      simp only [List.length_cons, List.length_append] at enough few ⊢
      omega
    have read := items?_itemLines simple within levels rest
    rwa [List.cons_append, List.append_assoc]

theorem term?_bracket (bound below : Nat) (rest : List Char) :
    term? (bound + 1) (below + 1) ('\x5b' :: rest) =
      (items? bound below rest).map fun (items, behind) => (.array items, behind) := by
  simp only [term?]

theorem termAt?_print {value : Toml} (flat : IsFlat value) (rest : List Char)
    (ends : EndsTerm rest) :
    termAt? (value.print.toList ++ rest) = some (termOf value, rest) := by
  rw [termAt?]
  cases flat with
  | simple simple =>
    rw [term?_print simple _ _ ends]
    cases simple <;> rfl
  | @array items simple =>
    obtain ⟨inside, written, read⟩ := items?_array simple rest
    rw [written, List.cons_append]
    change term? (_ + 1) (78 + 1) _ = _
    rw [term?_bracket, read]
    · rfl
    · simp only [List.length_cons, List.length_append]
      omega

theorem value?_termOf {value : Toml} (flat : IsFlat value) :
    (termOf value).value? = some value := by
  have leaves (items : List Toml) : valuesOfTerms? (items.map .leaf) = some items := by
    induction items with
    | nil => rfl
    | cons item items ih => simp [valuesOfTerms?, Term.value?, ih]
  cases flat with
  | simple simple => cases simple <;> rfl
  | @array items simple => simp [termOf, Term.value?, leaves]

end ApiPages.Toml
