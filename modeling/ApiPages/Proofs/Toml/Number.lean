import ApiPages.Toml.Syntax

/-!
Whole numbers written in decimal and read back. Their digits are no start of a date or a time, and
the number ends where the digits do. Main statement: a number in front of the end of a term is read
as this number if it fits 64 bits.
-/

namespace ApiPages.Toml

theorem ne_of_class {within : Char → Bool} {c : Char} (member : within c = true) (mark : Char)
    (outside : within mark = false) : c ≠ mark := by
  rintro rfl
  simp [member] at outside

/-- What may stand behind a term: the end of a line, or of an item, or of an array. -/
def EndsTerm (rest : List Char) : Prop :=
  rest.head? = some '\n' ∨ rest.head? = some ',' ∨ rest.head? = some '\x5d'

theorem EndsTerm.head?_ne {rest : List Char} (ends : EndsTerm rest) {c : Char}
    (other : c ≠ '\n' ∧ c ≠ ',' ∧ c ≠ '\x5d') : rest.head? ≠ some c := by
  rcases ends with head | head | head <;> simp [head, other.1.symm, other.2.1.symm, other.2.2.symm]

theorem EndsTerm.exists_cons {rest : List Char} (ends : EndsTerm rest) :
    ∃ c behind, rest = c :: behind ∧ (c = '\n' ∨ c = ',' ∨ c = '\x5d') := by
  cases rest with
  | nil => simp [EndsTerm] at ends
  | cons c behind => exact ⟨c, behind, rfl, by simpa [EndsTerm] using ends⟩

theorem value_eq_ofDigitChars (digits : List Char) :
    Decimal.value digits = Nat.ofDigitChars 10 digits 0 := by
  rw [Decimal.value, Nat.ofDigitChars_eq_foldl]
  congr 1
  funext value digit
  rw [Nat.mul_comm]
  rfl

theorem value_toDigits (n : Nat) : Decimal.value (Nat.toDigits 10 n) = n := by
  rw [value_eq_ofDigitChars, Nat.ofDigitChars_ten_toDigits]

theorem isDigit_of_mem_decimal {n : Nat} {c : Char} (member : c ∈ Nat.toDigits 10 n) :
    c.isDigit = true :=
  Nat.isDigit_of_mem_toDigits (by decide) (by decide) member

theorem toDigits_head (n : Nat) : ∃ c digits, Nat.toDigits 10 n = c :: digits ∧
    (c = '0' → digits = []) := by
  induction n using Nat.strongRecOn with
  | ind n ih =>
    rw [Nat.toDigits_eq_if (by decide)]
    split
    · exact ⟨_, [], rfl, fun _ => rfl⟩
    · next large =>
      obtain ⟨c, digits, whole, leading⟩ := ih (n / 10) (by omega)
      refine ⟨c, digits ++ [Nat.digitChar (n % 10)], by rw [whole, List.cons_append], ?_⟩
      intro zero
      -- A leading zero of the quotient would make the number less than ten.
      have quotient := value_toDigits (n / 10)
      rw [whole, leading zero, zero] at quotient
      have small : Decimal.value ['0'] = 0 := by decide
      omega

section

variable {digits rest : List Char}

theorem digitsOf?_append (ends : EndsTerm rest) {count value : Nat} {behind : List Char}
    (found : digitsOf? count (digits ++ rest) = some (value, behind)) :
    behind = digits.drop count ++ rest := by
  rw [digitsOf?] at found
  split at found
  · next taken =>
    obtain ⟨-, rfl⟩ := Prod.mk.inj (Option.some.inj found)
    by_cases within : count ≤ digits.length
    · exact List.drop_append_of_le_length within
    · obtain ⟨c, behind, rfl, marks⟩ := ends.exists_cons
      -- The digits end before the count is reached, so what ends the term would be one of them.
      have member : c ∈ (digits ++ c :: behind).take count := by
        rw [List.take_append, List.take_of_length_le (by omega)]
        have some : count - digits.length = (count - digits.length - 1) + 1 := by omega
        rw [some, List.take_succ_cons]
        simp
      have digit := List.all_eq_true.1 taken.2 c member
      rcases marks with rfl | rfl | rfl <;> exact absurd digit (by decide)
  · simp at found

theorem digitsOf?_head? (allDigits : ∀ c ∈ digits, c.isDigit = true) (ends : EndsTerm rest)
    {count value : Nat} {behind : List Char}
    (found : digitsOf? count (digits ++ rest) = some (value, behind)) (mark : Char)
    (notDigit : mark.isDigit = false) (other : mark ≠ '\n' ∧ mark ≠ ',' ∧ mark ≠ '\x5d') :
    behind.head? ≠ some mark := by
  rw [digitsOf?_append ends found]
  cases left : digits.drop count with
  | nil => exact ends.head?_ne other
  | cons c more =>
    have digit := allDigits c (List.mem_of_mem_drop (left ▸ List.mem_cons_self))
    simpa using ne_of_class digit mark notDigit

theorem startsDate_digits (allDigits : ∀ c ∈ digits, c.isDigit = true) (ends : EndsTerm rest) :
    startsDate (digits ++ rest) = false := by
  rw [startsDate]
  cases found : digitsOf? 4 (digits ++ rest) with
  | none => rfl
  | some pair =>
    have noHyphen := digitsOf?_head? allDigits ends found '-' (by decide) (by decide)
    simpa using noHyphen

theorem startsTime_digits (allDigits : ∀ c ∈ digits, c.isDigit = true) (ends : EndsTerm rest) :
    startsTime (digits ++ rest) = false := by
  rw [startsTime, pair?]
  cases found : digitsOf? 2 (digits ++ rest) with
  | none => rfl
  | some pair =>
    have noColon := digitsOf?_head? allDigits ends found ':' (by decide) (by decide)
    simp only [Option.bind_eq_bind, Option.bind_some]
    split
    · simpa using noColon
    · rfl

theorem moreDigits?_append (allDigits : ∀ c ∈ digits, c.isDigit = true) (ends : EndsTerm rest) :
    moreDigits? Char.isDigit (digits ++ rest) = some (digits, rest) := by
  induction digits with
  | nil =>
    obtain ⟨c, behind, rfl, rfl | rfl | rfl⟩ := ends.exists_cons <;> simp [moreDigits?]
  | cons c digits ih =>
    rw [List.forall_mem_cons] at allDigits
    have notBar : c ≠ '_' := ne_of_class allDigits.1 '_' (by decide)
    rw [List.cons_append, moreDigits?]
    · simp [allDigits.1, ih allDigits.2]
    · simp [notBar]
    · simp [notBar]

end

theorem whole?_toDigits (n : Nat) {rest : List Char} (ends : EndsTerm rest) :
    whole? (Nat.toDigits 10 n ++ rest) = some (Nat.toDigits 10 n, rest) := by
  obtain ⟨c, digits, written, leading⟩ := toDigits_head n
  have allDigits : ∀ d ∈ c :: digits, d.isDigit = true :=
    fun d member => isDigit_of_mem_decimal (written ▸ member)
  rw [List.forall_mem_cons] at allDigits
  rw [written, List.cons_append]
  by_cases zero : c = '0'
  · rw [leading zero, zero]
    rfl
  · rw [whole?]
    · simp [digitGroup?, allDigits.1, moreDigits?_append allDigits.2 ends]
    · simp [zero]

theorem numeral?_toDigits {n : Nat} (fits : n < Decimal.signedSize) {rest : List Char}
    (ends : EndsTerm rest) (text : List Char) :
    numeral? text false (Nat.toDigits 10 n ++ rest) = some (.integer n, rest) := by
  have whole : integer? (n : Int) = some (.integer n) := by
    rw [integer?, if_pos]
    omega
  have noFraction : fraction? rest = some ([], rest) := by
    obtain ⟨c, behind, rfl, rfl | rfl | rfl⟩ := ends.exists_cons <;> rfl
  have noExponent : exponent? rest = some ((false, []), rest) := by
    obtain ⟨c, behind, rfl, rfl | rfl | rfl⟩ := ends.exists_cons <;> rfl
  simp [numeral?, whole?_toDigits n ends, noFraction, noExponent, value_toDigits, whole]

theorem number?_toDigits {n : Nat} (fits : n < Decimal.signedSize) {rest : List Char}
    (ends : EndsTerm rest) :
    number? (Nat.toDigits 10 n ++ rest) = some (.integer n, rest) := by
  have read := numeral?_toDigits fits ends (Nat.toDigits 10 n ++ rest)
  obtain ⟨c, digits, written, leading⟩ := toDigits_head n
  have digit : c.isDigit = true := isDigit_of_mem_decimal (written ▸ List.mem_cons_self)
  have other : c ≠ '-' ∧ c ≠ '+' ∧ c ≠ 'i' ∧ c ≠ 'n' := by
    refine ⟨?_, ?_, ?_, ?_⟩ <;> exact ne_of_class digit _ (by decide)
  -- Behind a single zero stands what ends the term, so no other base is announced.
  have noBase (mark : Char) (noEnd : mark ≠ '\n' ∧ mark ≠ ',' ∧ mark ≠ '\x5d')
      (behind : List Char) : c :: digits ++ rest ≠ '0' :: mark :: behind := by
    intro same
    obtain ⟨zero, same⟩ := List.cons.inj same
    have behindZero : rest = mark :: behind := by simpa [leading zero] using same
    exact ends.head?_ne noEnd (by rw [behindZero]; rfl)
  rw [written] at read ⊢
  have unsigned : sign (c :: digits ++ rest) = (false, c :: digits ++ rest) := by
    simp [sign, other]
  have ordinary : special? (c :: digits ++ rest) = none := by
    simp [special?, other]
  unfold number?
  split
  · next same => exact absurd same (noBase 'x' (by decide) _)
  · next same => exact absurd same (noBase 'o' (by decide) _)
  · next same => exact absurd same (noBase 'b' (by decide) _)
  · rw [unsigned]
    dsimp only
    rw [ordinary]
    exact read

end ApiPages.Toml
