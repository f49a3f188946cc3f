import ApiPages.Text.Utf8

/-!
Characters written as UTF-8 and read back. Main statements: the bytes of a text are read as its
characters, strictly and leniently, and a text begins with an ASCII character if its bytes do.
-/

namespace ApiPages.Text.Utf8

theorem isTail_iff {byte : UInt8} : isTail byte ↔ 0x80 ≤ byte.toNat ∧ byte.toNat ≤ 0xBF := by
  simp [isTail, UInt8.le_iff_toNat_le]

theorem isSecond_of {first byte : UInt8} (tail : isTail byte)
    (notOverlong : first.toNat = 0xE0 → 0xA0 ≤ byte.toNat)
    (notSurrogate : first.toNat = 0xED → byte.toNat ≤ 0x9F)
    (notShort : first.toNat = 0xF0 → 0x90 ≤ byte.toNat)
    (notBeyond : first.toNat = 0xF4 → byte.toNat ≤ 0x8F) : isSecond first byte := by
  rw [isTail_iff] at tail
  simp only [isSecond, secondRange, ← UInt8.toNat_inj, Bool.and_eq_true, decide_eq_true_eq,
    UInt8.le_iff_toNat_le, UInt8.reduceToNat]
  repeat' split
  all_goals simp only [UInt8.reduceToNat]; omega

theorem symbol_one {first : UInt8} (small : first.toNat < 0x80) (behind : List UInt8) :
    symbol first behind = (.char (Char.ofNat first.toNat), 0) := by
  simp [symbol, UInt8.lt_iff_toNat_lt, small, code]

theorem symbol_two {a b : UInt8} (least : 0xC2 ≤ a.toNat) (greatest : a.toNat < 0xE0)
    (tail : isTail b) (behind : List UInt8) :
    symbol a (b :: behind) =
      (.char (Char.ofNat ((a.toNat - 0xC0) * 64 + (b.toNat - 0x80))), 1) := by
  have second : isSecond a b := by apply isSecond_of tail <;> omega
  have notOne : ¬a.toNat < 0x80 := by omega
  have notStray : ¬a.toNat < 0xC2 := by omega
  simp [symbol, UInt8.lt_iff_toNat_lt, notOne, notStray, greatest, second, code]

theorem symbol_three {a b c : UInt8} (least : 0xE0 ≤ a.toNat) (greatest : a.toNat < 0xF0)
    (second : isSecond a b) (tail : isTail c) (behind : List UInt8) :
    symbol a (b :: c :: behind) = (.char (Char.ofNat
      (((a.toNat - 0xE0) * 64 + (b.toNat - 0x80)) * 64 + (c.toNat - 0x80))), 2) := by
  have notOne : ¬a.toNat < 0x80 := by omega
  have notStray : ¬a.toNat < 0xC2 := by omega
  have notTwo : ¬a.toNat < 0xE0 := by omega
  simp [symbol, UInt8.lt_iff_toNat_lt, notOne, notStray, notTwo, greatest, second, tail, code]

theorem symbol_four {a b c d : UInt8} (least : 0xF0 ≤ a.toNat) (greatest : a.toNat < 0xF5)
    (second : isSecond a b) (third : isTail c) (tail : isTail d) (behind : List UInt8) :
    symbol a (b :: c :: d :: behind) = (.char (Char.ofNat
      ((((a.toNat - 0xF0) * 64 + (b.toNat - 0x80)) * 64 + (c.toNat - 0x80)) * 64 +
        (d.toNat - 0x80))), 3) := by
  have notOne : ¬a.toNat < 0x80 := by omega
  have notStray : ¬a.toNat < 0xC2 := by omega
  have notTwo : ¬a.toNat < 0xE0 := by omega
  have notThree : ¬a.toNat < 0xF0 := by omega
  simp [symbol, UInt8.lt_iff_toNat_lt, notOne, notStray, notTwo, notThree, greatest, second, third,
    tail, code]

theorem toNat_ofNat_of_lt (n : Nat) (small : n < 256) : (UInt8.ofNat n).toNat = n := by
  rw [UInt8.toNat_ofNat', Nat.mod_eq_of_lt small]

section

variable {v : Nat} (behind : List UInt8)

theorem symbolsFrom_one (greatest : v < 0x80) :
    symbolsFrom 0 (UInt8.ofNat v :: behind) =
      .char (Char.ofNat v) :: symbolsFrom 0 behind := by
  have first := toNat_ofNat_of_lt v (by omega)
  rw [symbolsFrom, symbol_one (by omega), first]

theorem symbolsFrom_two (least : 0x80 ≤ v) (greatest : v < 0x800) :
    symbolsFrom 0 (UInt8.ofNat (v / 64 % 32 + 192) :: UInt8.ofNat (v % 64 + 128) :: behind) =
      .char (Char.ofNat v) :: symbolsFrom 0 behind := by
  have first := toNat_ofNat_of_lt (v / 64 % 32 + 192) (by omega)
  have second := toNat_ofNat_of_lt (v % 64 + 128) (by omega)
  have whole : (v / 64 % 32 + 192 - 0xC0) * 64 + (v % 64 + 128 - 0x80) = v := by omega
  have tail : isTail (UInt8.ofNat (v % 64 + 128)) := isTail_iff.2 (by omega)
  rw [symbolsFrom, symbol_two (by omega) (by omega) tail, first, second, whole]
  rfl

theorem symbolsFrom_three (least : 0x800 ≤ v) (greatest : v < 0x10000)
    (scalar : v < 0xD800 ∨ 0xDFFF < v) :
    symbolsFrom 0 (UInt8.ofNat (v / 4096 % 16 + 224) :: UInt8.ofNat (v / 64 % 64 + 128) ::
        UInt8.ofNat (v % 64 + 128) :: behind) = .char (Char.ofNat v) :: symbolsFrom 0 behind := by
  have first := toNat_ofNat_of_lt (v / 4096 % 16 + 224) (by omega)
  have second := toNat_ofNat_of_lt (v / 64 % 64 + 128) (by omega)
  have third := toNat_ofNat_of_lt (v % 64 + 128) (by omega)
  have whole : ((v / 4096 % 16 + 224 - 0xE0) * 64 + (v / 64 % 64 + 128 - 0x80)) * 64 +
      (v % 64 + 128 - 0x80) = v := by omega
  have follows : isSecond (UInt8.ofNat (v / 4096 % 16 + 224))
      (UInt8.ofNat (v / 64 % 64 + 128)) := by
    apply isSecond_of (isTail_iff.2 (by omega)) <;> omega
  have tail : isTail (UInt8.ofNat (v % 64 + 128)) := isTail_iff.2 (by omega)
  rw [symbolsFrom, symbol_three (by omega) (by omega) follows tail, first, second, third, whole]
  rfl

theorem symbolsFrom_four (least : 0x10000 ≤ v) (greatest : v < 0x110000) :
    symbolsFrom 0 (UInt8.ofNat (v / 262144 % 8 + 240) :: UInt8.ofNat (v / 4096 % 64 + 128) ::
        UInt8.ofNat (v / 64 % 64 + 128) :: UInt8.ofNat (v % 64 + 128) :: behind) =
      .char (Char.ofNat v) :: symbolsFrom 0 behind := by
  have first := toNat_ofNat_of_lt (v / 262144 % 8 + 240) (by omega)
  have second := toNat_ofNat_of_lt (v / 4096 % 64 + 128) (by omega)
  have third := toNat_ofNat_of_lt (v / 64 % 64 + 128) (by omega)
  have fourth := toNat_ofNat_of_lt (v % 64 + 128) (by omega)
  have whole : (((v / 262144 % 8 + 240 - 0xF0) * 64 + (v / 4096 % 64 + 128 - 0x80)) * 64 +
      (v / 64 % 64 + 128 - 0x80)) * 64 + (v % 64 + 128 - 0x80) = v := by omega
  have follows : isSecond (UInt8.ofNat (v / 262144 % 8 + 240))
      (UInt8.ofNat (v / 4096 % 64 + 128)) := by
    apply isSecond_of (isTail_iff.2 (by omega)) <;> omega
  have inner : isTail (UInt8.ofNat (v / 64 % 64 + 128)) := isTail_iff.2 (by omega)
  have tail : isTail (UInt8.ofNat (v % 64 + 128)) := isTail_iff.2 (by omega)
  rw [symbolsFrom, symbol_four (by omega) (by omega) follows inner tail, first, second, third,
    fourth, whole]
  rfl

end

theorem symbolsFrom_utf8EncodeChar (c : Char) (behind : List UInt8) :
    symbolsFrom 0 (String.utf8EncodeChar c ++ behind) = .char c :: symbolsFrom 0 behind := by
  have scalar : c.val.toNat < 0xD800 ∨ 0xDFFF < c.val.toNat ∧ c.val.toNat < 0x110000 := c.valid
  have again : Char.ofNat c.val.toNat = c := Char.ofNat_toNat c
  rw [String.utf8EncodeChar]
  generalize c.val.toNat = v at scalar again
  subst again
  split
  · exact symbolsFrom_one behind (by omega)
  · split
    · exact symbolsFrom_two behind (by omega) (by omega)
    · split
      · exact symbolsFrom_three behind (by omega) (by omega) (by omega)
      · exact symbolsFrom_four behind (by omega) (by omega)

theorem symbols_encode (text : List Char) :
    symbols (text.flatMap String.utf8EncodeChar) = symbolsOf text := by
  rw [symbols]
  induction text with
  | nil => rfl
  | cons c rest ih =>
    rw [List.flatMap_cons, symbolsFrom_utf8EncodeChar, ih, symbolsOf, symbolsOf, List.map_cons]

theorem decode?_encode (text : String) : decode? (encode text) = some text.toList := by
  rw [decode?, encode, symbols_encode, chars?_symbolsOf]

theorem decodeLenient_utf8 (text : List Char) :
    decodeLenient (text.flatMap String.utf8EncodeChar) = text := by
  rw [decodeLenient, symbols_encode, charsLenient_symbolsOf]

/-! The first byte of a text. -/

theorem lower_of_isSecond {first byte : UInt8} (second : isSecond first byte) :
    0x80 ≤ byte.toNat ∧ (first.toNat = 0xE0 → 0xA0 ≤ byte.toNat) ∧
      (first.toNat = 0xF0 → 0x90 ≤ byte.toNat) := by
  simp only [isSecond, secondRange, ← UInt8.toNat_inj, Bool.and_eq_true, decide_eq_true_eq,
    UInt8.le_iff_toNat_le, UInt8.reduceToNat] at second
  repeat' split at second
  all_goals simp only [UInt8.reduceToNat] at second; omega

theorem exists_code_of_symbol {first : UInt8} {behind : List UInt8} {c : Char}
    (read : (symbol first behind).1 = .char c) :
    ∃ n, Char.ofNat n = c ∧ (n = first.toNat ∨ 0x80 ≤ n ∧ 0x80 ≤ first.toNat) := by
  unfold symbol at read
  simp only [UInt8.lt_iff_toNat_lt, UInt8.reduceToNat] at read
  repeat' split at read
  all_goals try simp only [reduceCtorEq] at read
  -- The branches left give a character of one byte, of two, of three and of four.
  · exact ⟨_, Symbol.char.inj read, .inl rfl⟩
  · refine ⟨_, Symbol.char.inj read, .inr ?_⟩
    simp only [List.foldl_cons, List.foldl_nil]
    omega
  · next second _ =>
    have lower := lower_of_isSecond second
    refine ⟨_, Symbol.char.inj read, .inr ?_⟩
    simp only [List.foldl_cons, List.foldl_nil]
    omega
  · next second _ _ =>
    have lower := lower_of_isSecond second
    refine ⟨_, Symbol.char.inj read, .inr ?_⟩
    simp only [List.foldl_cons, List.foldl_nil]
    omega

theorem symbol_eq_ascii_iff {c : Char} (positive : c.toNat ≠ 0) (ascii : c.toNat < 0x80)
    (first : UInt8) (behind : List UInt8) :
    (symbol first behind).1 = .char c ↔ first.toNat = c.toNat := by
  constructor
  · intro read
    obtain ⟨n, rfl, least⟩ := exists_code_of_symbol read
    have code : (Char.ofNat n).toNat = n ∨ (Char.ofNat n).toNat = 0 := by
      by_cases valid : n.isValidChar
      · exact .inl (by rw [Char.ofNat, dif_pos valid]; rfl)
      · exact .inr (by rw [Char.ofNat, dif_neg valid]; rfl)
    omega
  · intro same
    have small : first.toNat < 0x80 := by omega
    rw [symbol_one small, same]
    simp

theorem head?_eq_some_iff {bytes : List UInt8} {text : List Char} {c : Char}
    (read : decode? bytes = some text) (positive : c.toNat ≠ 0) (ascii : c.toNat < 0x80) :
    text.head? = some c ↔ bytes.head?.map UInt8.toNat = some c.toNat := by
  cases bytes with
  | nil =>
    obtain rfl : [] = text := Option.some.inj read
    simp
  | cons first rest =>
    rw [List.head?_cons, Option.map_some, Option.some.injEq,
      ← symbol_eq_ascii_iff positive ascii first rest]
    rw [decode?, symbols, symbolsFrom] at read
    cases found : (symbol first rest).1 with
    | stray => simp [found, chars?] at read
    | char d =>
      simp only [found, chars?] at read
      obtain ⟨others, -, rfl⟩ := Option.map_eq_some_iff.1 read
      simp

end ApiPages.Text.Utf8
