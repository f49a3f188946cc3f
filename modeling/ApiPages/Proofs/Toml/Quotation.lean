import ApiPages.Toml.Unquote

/-!
Strings quoted and read back. Escapes are read as the characters they stand for, and the quotes of a
block are told from those that close it by how many of them stand in a row. Main statement: a quoted
text in front of anything but a further quote is read as the text.
-/

namespace ApiPages.Toml

/-! Single steps of the reader. -/

theorem readWith_go {step : Reading → Char → List Char → Step} {reading : Reading} {c : Char}
    {rest text behind : List Char} (emitted : List Char) (next : Reading)
    (here : step reading c rest = .go emitted next)
    (later : readWith step next rest = some (text, behind)) :
    readWith step reading (c :: rest) = some (emitted ++ text, behind) := by
  rw [readWith, here]
  simp [later]

theorem readWith_close {step : Reading → Char → List Char → Step} {reading : Reading} {c : Char}
    {rest emitted behind : List Char} (here : step reading c rest = .close emitted behind) :
    readWith step reading (c :: rest) = some (emitted, behind) := by
  rw [readWith, here]

theorem scalar?_toNat (c : Char) : scalar? c.toNat = some c := by
  have valid : c.toNat.isValidChar := c.valid
  rw [scalar?, dif_pos valid]
  rfl

theorem isPlain_of_not_needsCode {c : Char} (uncoded : needsCode c = false) (inLine : c ≠ '\n') :
    isPlain c = true := by
  simp only [needsCode, isPlain, Bool.or_eq_false_iff, Bool.and_eq_false_iff,
    decide_eq_false_iff_not, Bool.or_eq_true, Bool.and_eq_true, decide_eq_true_eq, beq_iff_eq,
    bne_iff_ne, beq_eq_false_iff_ne, bne_eq_false_iff_eq, Char.not_lt] at uncoded ⊢
  rcases uncoded with ⟨(large | tab) | broken, noDelete⟩
  · exact .inr ⟨large, noDelete⟩
  · exact .inl tab
  · exact absurd broken inLine

section

variable {quotation : Quotation} {c : Char} {rest text behind : List Char}

theorem unquoteFrom_plain (notMark : c ≠ quotation.mark)
    (notSlash : quotation.hasEscapes → c ≠ '\\') (plain : isPlain c = true)
    (later : unquoteFrom quotation rest = some (text, behind)) :
    unquoteFrom quotation (c :: rest) = some (c :: text, behind) := by
  have noBreak : c ≠ '\n' := by
    rintro rfl
    exact absurd plain (by decide)
  have noReturn : opensBreak c rest = false := by
    have different : c ≠ '\r' := by
      rintro rfl
      exact absurd plain (by decide)
    simp [opensBreak, different]
  refine readWith_go [c] .plain ?_ later
  have notEscape : ¬(quotation.hasEscapes = true ∧ c = '\\') :=
    fun ⟨has, slash⟩ => notSlash has slash
  simp [step, plainStep, notMark, notEscape, noBreak, noReturn, plain]

theorem unquoteFrom_break (isBlock : quotation.isBlock = true)
    (later : unquoteFrom quotation rest = some (text, behind)) :
    unquoteFrom quotation ('\n' :: rest) = some ('\n' :: text, behind) := by
  refine readWith_go ['\n'] .plain ?_ later
  cases quotation <;> simp [Quotation.isBlock] at isBlock <;>
    simp [step, plainStep, Quotation.mark, Quotation.isBlock]

theorem step_backslash (escapes : quotation.hasEscapes = true) (rest : List Char) :
    step quotation .plain '\\' rest = .go [] .escape := by
  cases quotation <;> simp [Quotation.hasEscapes] at escapes <;>
    simp [step, plainStep, Quotation.mark, Quotation.hasEscapes]

theorem unquoteFrom_escape (escapes : quotation.hasEscapes = true) {letter : Char}
    (known : escape? letter = some c)
    (later : unquoteFrom quotation rest = some (text, behind)) :
    unquoteFrom quotation ('\\' :: letter :: rest) = some (c :: text, behind) := by
  have notCode : letter ≠ 'u' ∧ letter ≠ 'U' := by
    constructor <;> rintro rfl <;> simp [escape?] at known
  refine readWith_go [] .escape (step_backslash escapes _) ?_
  refine readWith_go [c] .plain ?_ later
  simp [step, escapeStep, notCode, known]

theorem unquoteFrom_code (escapes : quotation.hasEscapes = true) (small : c.toNat < 256)
    (later : unquoteFrom quotation rest = some (text, behind)) :
    unquoteFrom quotation ('\\' :: 'u' :: '0' :: '0' :: Text.hexCapital (c.toNat / 16) ::
      Text.hexCapital (c.toNat % 16) :: rest) = some (c :: text, behind) := by
  have zero : Text.hexValue? '0' = some 0 := by decide
  have high := Text.hexValue?_hexCapital ⟨c.toNat / 16, by omega⟩
  have low := Text.hexValue?_hexCapital ⟨c.toNat % 16, by omega⟩
  dsimp only at high low
  have whole : c.toNat / 16 * 16 + c.toNat % 16 = c.toNat := by omega
  refine readWith_go [] .escape (step_backslash escapes _) ?_
  refine readWith_go [] (.code 4 0) (by simp [step, escapeStep]) ?_
  refine readWith_go [] (.code 3 0) (by simp [step, codeStep, zero]) ?_
  refine readWith_go [] (.code 2 0) (by simp [step, codeStep, zero]) ?_
  refine readWith_go [] (.code 1 (c.toNat / 16))
    (by simp [step, codeStep, high]) ?_
  refine readWith_go [c] .plain ?_ later
  simp [step, codeStep, low, whole, scalar?_toNat]

theorem unquoteFrom_coded (quotation : Quotation) (escapes : quotation.hasEscapes = true)
    (notQuote : c ≠ '"') (later : unquoteFrom quotation rest = some (text, behind)) :
    unquoteFrom quotation (coded quotation.isBlock c ++ rest) = some (c :: text, behind) := by
  have mark : quotation.mark = '"' := by
    cases quotation <;> simp [Quotation.hasEscapes] at escapes <;> rfl
  unfold coded
  split
  · next same => exact unquoteFrom_escape escapes (by simp [same, escape?]) later
  split
  · next same => exact unquoteFrom_escape escapes (by simp [same, escape?]) later
  split
  · next same =>
    split
    · next isBlock => exact same ▸ unquoteFrom_break isBlock later
    · exact unquoteFrom_escape escapes (by simp [same, escape?]) later
  split
  · next same => exact unquoteFrom_escape escapes (by simp [same, escape?]) later
  split
  · next same => exact unquoteFrom_escape escapes (by simp [same, escape?]) later
  split
  · next same => exact unquoteFrom_escape escapes (by simp [same, escape?]) later
  split
  · next control =>
    have small : c.toNat < 256 := by
      rcases control with low | rfl
      · have bound : c.toNat < ' '.toNat := low
        have blank : ' '.toNat = 32 := rfl
        omega
      · decide
    exact unquoteFrom_code escapes small later
  · next notTab _ _ _ notSlash visible =>
    rw [not_or, Char.not_lt] at visible
    exact unquoteFrom_plain (mark ▸ notQuote) (fun _ => notSlash)
      (by simp [isPlain, visible]) later

/-! The quotes of a block. -/

theorem unquoteFrom_mark (isBlock : quotation.isBlock = true)
    (few : (rest.takeWhile (· == quotation.mark)).length < 2)
    (later : unquoteFrom quotation rest = some (text, behind)) :
    unquoteFrom quotation (quotation.mark :: rest) = some (quotation.mark :: text, behind) := by
  refine readWith_go [quotation.mark] .plain ?_ later
  rw [step, plainStep, if_pos rfl, if_pos isBlock, blockMark, if_pos few]

theorem unquoteFrom_fence (quotation : Quotation) (isBlock : quotation.isBlock = true)
    (count : Nat) (few : count ≤ 2) (unquoted : rest.head? ≠ some quotation.mark) :
    unquoteFrom quotation (List.replicate count quotation.mark ++ (quotation.fence ++ rest)) =
      some (List.replicate count quotation.mark, rest) := by
  have marks : List.replicate count quotation.mark ++ (quotation.fence ++ rest) =
      quotation.mark :: (List.replicate (count + 2) quotation.mark ++ rest) := by
    rw [Quotation.fence, if_pos isBlock, ← List.append_assoc, List.replicate_append_replicate,
      List.replicate_succ, List.cons_append]
  have stop : rest.takeWhile (· == quotation.mark) = [] := by
    cases rest with
    | nil => rfl
    | cons c rest => exact List.takeWhile_cons_of_neg (by simpa using unquoted)
  have run : ((List.replicate (count + 2) quotation.mark ++ rest).takeWhile
      (· == quotation.mark)).length = count + 2 := by
    rw [List.takeWhile_append_of_pos (by simp), stop, List.append_nil, List.length_replicate]
  rw [marks]
  apply readWith_close
  have closing : min (count + 2) 4 = (List.replicate (count + 2) quotation.mark).length := by
    rw [List.length_replicate]
    omega
  rw [step, plainStep, if_pos rfl, if_pos isBlock, blockMark, run, if_neg (by omega),
    Nat.add_sub_cancel, Nat.min_eq_left few, closing, List.drop_left]

/-- The quotes that start the inside of a block stand for a text of one quote at most, or fewer than
two of them come before something else. -/
def FewMarks (mark : Char) (text inside behind : List Char) : Prop :=
  (∃ count ≤ 1, text = List.replicate count mark ∧ inside = text) ∨
    ((inside ++ behind).takeWhile (· == mark)).length < 2

theorem unquoteFrom_quote (quotation : Quotation) (isBlock : quotation.isBlock = true)
    (unquoted : rest.head? ≠ some quotation.mark) {inside : List Char}
    (marks : FewMarks quotation.mark text inside (quotation.fence ++ rest))
    (later : unquoteFrom quotation (inside ++ (quotation.fence ++ rest)) = some (text, rest)) :
    unquoteFrom quotation (quotation.mark :: inside ++ (quotation.fence ++ rest)) =
      some (quotation.mark :: text, rest) := by
  -- A quote inside a block, given that those behind it go on to the end of the block or are few.
  rcases marks with ⟨count, few, rfl, rfl⟩ | few
  · rw [← List.replicate_succ]
    exact unquoteFrom_fence quotation isBlock _ (by omega) unquoted
  · exact unquoteFrom_mark isBlock few later

end

/-! Whole texts. -/

theorem codedText_head (isBlock : Bool) (run : Nat) (c : Char) (text : List Char)
    (escaped : c ≠ '"' ∨ (if isBlock then 2 else 0) ≤ run) :
    ∃ first inside, codedText isBlock run (c :: text) = first :: inside ∧ first ≠ '"' ∧
      (first = '\n' → c = '\n') ∧ first ≠ '\r' := by
  rw [codedText]
  split
  · next quote =>
    rw [if_neg (Nat.not_lt.2 (escaped.resolve_left (absurd quote)))]
    exact ⟨_, _, rfl, by decide, by simp, by decide⟩
  · next notQuote =>
    unfold coded
    repeat' split
    all_goals refine ⟨_, _, rfl, ?_, ?_, ?_⟩ <;> simp_all

theorem unquoteFrom_basic (run : Nat) (text rest : List Char) :
    unquoteFrom .basic (codedText false run text ++ '"' :: rest) = some (text, rest) := by
  induction text generalizing run with
  | nil => exact readWith_close (by simp [step, plainStep, Quotation.mark, Quotation.isBlock])
  | cons c text ih =>
    rw [codedText]
    split
    · next quote =>
      rw [if_neg (by simp), quote]
      exact unquoteFrom_escape rfl (by decide) (ih 0)
    · next notQuote =>
      rw [List.append_assoc]
      exact unquoteFrom_coded .basic rfl notQuote (ih 0)

theorem unquoteFrom_literal {text : List Char} (plain : ∀ c ∈ text, isPlain c ∧ c ≠ '\'')
    (rest : List Char) : unquoteFrom .literal (text ++ '\'' :: rest) = some (text, rest) := by
  induction text with
  | nil => exact readWith_close (by simp [step, plainStep, Quotation.mark, Quotation.isBlock])
  | cons c text ih =>
    rw [List.forall_mem_cons] at plain
    exact unquoteFrom_plain plain.1.2 (by simp [Quotation.hasEscapes]) plain.1.1 (ih plain.2)

theorem codedText_marks {run : Nat} (text behind : List Char) :
    FewMarks '"' text (codedText true (run + 1) text) behind := by
  unfold FewMarks
  match text with
  | [] => exact .inl ⟨0, by decide, rfl, rfl⟩
  | c :: text =>
    by_cases escaped : c ≠ '"' ∨ 2 ≤ run + 1
    · obtain ⟨first, inside, whole, notQuote, -⟩ :=
        codedText_head true (run + 1) c text escaped
      simp [whole, notQuote]
    · obtain ⟨rfl, none⟩ : c = '"' ∧ run = 0 := by
        rw [not_or, Decidable.not_not] at escaped
        exact ⟨escaped.1, by omega⟩
      subst none
      match text with
      | [] => exact .inl ⟨1, by decide, rfl, rfl⟩
      | c :: text =>
        obtain ⟨first, inside, whole, notQuote, -⟩ :=
          codedText_head true 2 c text (.inr (by decide))
        rw [codedText, if_pos rfl, if_pos (by decide), whole]
        simp [notQuote]

theorem unquoteFrom_basicBlock (run : Nat) (text : List Char) {rest : List Char}
    (unquoted : rest.head? ≠ some '"') :
    unquoteFrom .basicBlock (codedText true run text ++ (Quotation.basicBlock.fence ++ rest)) =
      some (text, rest) := by
  induction text generalizing run with
  | nil => exact unquoteFrom_fence .basicBlock rfl 0 (by decide) unquoted
  | cons c text ih =>
    rw [codedText]
    split
    · next quote =>
      rw [quote]
      by_cases fits : run < 2
      · rw [if_pos (by simpa using fits)]
        exact unquoteFrom_quote .basicBlock rfl unquoted (codedText_marks text _)
          (ih (run + 1))
      · rw [if_neg (by simpa using fits)]
        exact unquoteFrom_escape rfl (by decide) (ih 0)
    · next notQuote =>
      rw [List.append_assoc]
      exact unquoteFrom_coded .basicBlock rfl notQuote (ih 0)

/-! Runs of quotes. -/

theorem le_longestRun (mark : Char) (run : Nat) (text : List Char) :
    run ≤ longestRun mark run text := by
  induction text generalizing run with
  | nil => exact Nat.le_refl run
  | cons c text ih =>
    rw [longestRun]
    split
    · exact Nat.le_trans (Nat.le_succ run) (ih (run + 1))
    · exact Nat.le_max_left _ _

theorem longestRun_mono (mark : Char) {run more : Nat} (le : run ≤ more) (text : List Char) :
    longestRun mark run text ≤ longestRun mark more text := by
  induction text generalizing run more with
  | nil => exact le
  | cons c text ih =>
    rw [longestRun, longestRun]
    split
    · exact ih (Nat.succ_le_succ le)
    · omega

theorem not_mem_of_longestRun {mark : Char} {text : List Char} (none : longestRun mark 0 text = 0) :
    mark ∉ text := by
  induction text with
  | nil => simp
  | cons c text ih =>
    rw [longestRun] at none
    split at none
    · have positive := le_longestRun mark (0 + 1) text
      omega
    · next other =>
      rw [List.mem_cons, not_or]
      exact ⟨fun same => other same.symm, ih (by omega)⟩

theorem literal_marks {mark : Char} {text : List Char} (few : longestRun mark 1 text ≤ 2)
    (behind : List Char) : FewMarks mark text text behind := by
  unfold FewMarks
  match text with
  | [] => exact .inl ⟨0, by decide, rfl, rfl⟩
  | c :: text =>
    by_cases same : c = mark
    · subst same
      rw [longestRun, if_pos rfl] at few
      match text with
      | [] => exact .inl ⟨1, by decide, rfl, rfl⟩
      | d :: text =>
        by_cases again : d = c
        · have three := le_longestRun c (1 + 1 + 1) text
          rw [longestRun, if_pos again] at few
          omega
        · simp [again]
    · simp [same]

theorem unquoteFrom_literalBlock {text rest : List Char}
    (plain : ∀ c ∈ text, isPlain c ∨ c = '\n') (few : longestRun '\'' 0 text ≤ 2)
    (unquoted : rest.head? ≠ some '\'') :
    unquoteFrom .literalBlock (text ++ (Quotation.literalBlock.fence ++ rest)) =
      some (text, rest) := by
  induction text with
  | nil =>
    exact unquoteFrom_fence .literalBlock rfl 0 (by decide) unquoted
  | cons c text ih =>
    rw [List.forall_mem_cons] at plain
    by_cases quote : c = '\''
    · rw [longestRun, if_pos quote] at few
      have later := ih plain.2 (Nat.le_trans (longestRun_mono _ (Nat.zero_le 1) text) few)
      rw [quote]
      exact unquoteFrom_quote .literalBlock rfl unquoted (literal_marks few _) later
    · rw [longestRun, if_neg quote, Nat.zero_max] at few
      have later := ih plain.2 few
      rcases plain.1 with inLine | rfl
      · exact unquoteFrom_plain quote (by simp [Quotation.hasEscapes]) inLine later
      · exact unquoteFrom_break rfl later

/-! The choice of a quotation. -/

def Quotation.Suits (text : List Char) : Quotation → Prop
  | .basic | .basicBlock => True
  | .literal => ∀ c ∈ text, isPlain c ∧ c ≠ '\''
  | .literalBlock => (∀ c ∈ text, isPlain c ∨ c = '\n') ∧ longestRun '\'' 0 text ≤ 2

theorem choose_suits (text : List Char) : (Quotation.choose text).Suits text := by
  have plain (uncoded : (!text.any needsCode) = true) : ∀ c ∈ text, isPlain c ∨ c = '\n' := by
    intro c member
    rw [Decidable.or_iff_not_imp_right]
    apply isPlain_of_not_needsCode
    simp_all
  unfold Quotation.choose
  dsimp only
  split
  · trivial
  split
  · next literal =>
    simp only [Bool.and_eq_true, decide_eq_true_eq] at literal
    obtain ⟨⟨uncoded, unbroken⟩, none⟩ := literal
    intro c member
    refine ⟨(plain uncoded c member).resolve_right ?_, ?_⟩
    · rintro rfl
      simp [member] at unbroken
    · rintro rfl
      exact not_mem_of_longestRun none member
  split
  · trivial
  split
  · next literal =>
    simp only [Bool.and_eq_true, decide_eq_true_eq] at literal
    exact ⟨plain literal.1, literal.2⟩
  split <;> trivial

/-! Quoted texts. -/

theorem dropBreak_of_head {c : Char} (rest : List Char) (noBreak : c ≠ '\n')
    (noReturn : c ≠ '\r') : dropBreak (c :: rest) = c :: rest := by
  unfold dropBreak
  split
  · next same => exact absurd (List.cons.inj same).1 noBreak
  · next same => exact absurd (List.cons.inj same).1 noReturn
  · rfl

theorem dropBreak_opening {text inside : List Char}
    (head : ∀ c, inside.head? = some c → c ≠ '\r' ∧ (c = '\n' → '\n' ∈ text)) :
    dropBreak ((if text.contains '\n' then ['\n'] else []) ++ inside) = inside := by
  split
  · rfl
  · next unbroken =>
    cases inside with
    | nil => rfl
    | cons c inside =>
      obtain ⟨noReturn, isBreak⟩ := head c rfl
      refine dropBreak_of_head inside ?_ noReturn
      intro same
      simp [isBreak same] at unbroken

theorem unquote?_basic {text : List Char} (single : ∀ rest, text ≠ '"' :: '"' :: rest) :
    unquote? ('"' :: text) = unquoteFrom .basic text := by
  unfold unquote?
  split
  · next block => exact absurd (List.cons.inj block).2 (single _)
  · next block => exact absurd (List.cons.inj block).1 (by decide)
  · rfl

theorem unquote?_literal {text : List Char} (single : ∀ rest, text ≠ '\'' :: '\'' :: rest) :
    unquote? ('\'' :: text) = unquoteFrom .literal text := by
  unfold unquote?
  split
  · next block => exact absurd (List.cons.inj block).1 (by decide)
  · next block => exact absurd (List.cons.inj block).2 (single _)
  · rfl

theorem unquote?_quotedBasic (text : List Char) {rest : List Char}
    (unquoted : rest.head? ≠ some '"') :
    unquote? (quotedAs .basic text ++ rest) = some (text, rest) := by
  have whole : quotedAs .basic text ++ rest = '"' :: (codedText false 0 text ++ '"' :: rest) := by
    simp [quotedAs, Quotation.fence, Quotation.isBlock, Quotation.hasEscapes, Quotation.mark]
  rw [whole, unquote?_basic, unquoteFrom_basic]
  intro behind tripled
  cases text with
  | nil =>
    have next : rest = '"' :: behind := (List.cons.inj tripled).2
    simp [next] at unquoted
  | cons c text =>
    obtain ⟨first, inside, start, notQuote, -⟩ :=
      codedText_head false 0 c text (.inr (Nat.zero_le _))
    rw [start] at tripled
    exact notQuote (List.cons.inj tripled).1

theorem unquote?_quotedLiteral {text rest : List Char} (plain : ∀ c ∈ text, isPlain c ∧ c ≠ '\'')
    (unquoted : rest.head? ≠ some '\'') :
    unquote? (quotedAs .literal text ++ rest) = some (text, rest) := by
  have whole : quotedAs .literal text ++ rest = '\'' :: (text ++ '\'' :: rest) := by
    simp [quotedAs, Quotation.fence, Quotation.isBlock, Quotation.hasEscapes, Quotation.mark]
  rw [whole, unquote?_literal, unquoteFrom_literal plain]
  intro behind tripled
  cases text with
  | nil =>
    have next : rest = '\'' :: behind := (List.cons.inj tripled).2
    simp [next] at unquoted
  | cons c text =>
    exact (plain c List.mem_cons_self).2 (List.cons.inj tripled).1

theorem unquote?_quotedBasicBlock (text : List Char) {rest : List Char}
    (unquoted : rest.head? ≠ some '"') :
    unquote? (quotedAs .basicBlock text ++ rest) = some (text, rest) := by
  have whole : quotedAs .basicBlock text ++ rest = '"' :: '"' :: '"' ::
      ((if text.contains '\n' then ['\n'] else []) ++
        (codedText true 0 text ++ (Quotation.basicBlock.fence ++ rest))) := by
    simp [quotedAs, Quotation.fence, Quotation.isBlock, Quotation.hasEscapes, Quotation.mark]
  rw [whole, unquote?, dropBreak_opening, unquoteFrom_basicBlock 0 text unquoted]
  intro first isFirst
  cases text with
  | nil =>
    obtain rfl : '"' = first := Option.some.inj isFirst
    exact ⟨by decide, by decide⟩
  | cons c text =>
    by_cases quote : c = '"'
    · subst quote
      obtain rfl : '"' = first := by simpa [codedText] using isFirst
      exact ⟨by decide, by simp⟩
    · obtain ⟨start, inside, written, -, isBreak, noReturn⟩ :=
        codedText_head true 0 c text (.inl quote)
      obtain rfl : start = first := by simpa [written] using isFirst
      exact ⟨noReturn, fun same => by simp [isBreak same]⟩

theorem unquote?_quotedLiteralBlock {text rest : List Char}
    (plain : ∀ c ∈ text, isPlain c ∨ c = '\n') (few : longestRun '\'' 0 text ≤ 2)
    (unquoted : rest.head? ≠ some '\'') :
    unquote? (quotedAs .literalBlock text ++ rest) = some (text, rest) := by
  have whole : quotedAs .literalBlock text ++ rest = '\'' :: '\'' :: '\'' ::
      ((if text.contains '\n' then ['\n'] else []) ++
        (text ++ (Quotation.literalBlock.fence ++ rest))) := by
    simp [quotedAs, Quotation.fence, Quotation.isBlock, Quotation.hasEscapes, Quotation.mark]
  rw [whole, unquote?, dropBreak_opening, unquoteFrom_literalBlock plain few unquoted]
  intro first isFirst
  cases text with
  | nil =>
    obtain rfl : '\'' = first := Option.some.inj isFirst
    exact ⟨by decide, by decide⟩
  | cons c text =>
    obtain rfl : c = first := Option.some.inj isFirst
    refine ⟨?_, fun same => by simp [same]⟩
    rintro rfl
    exact absurd (plain _ List.mem_cons_self) (by decide)

theorem unquote?_quoted (text : String) {rest : List Char} (unquoted : rest.head? ≠ some '"')
    (unticked : rest.head? ≠ some '\'') :
    unquote? ((quoted text).toList ++ rest) = some (text.toList, rest) := by
  have suits := choose_suits text.toList
  rw [quoted, String.toList_ofList]
  cases chosen : Quotation.choose text.toList with
  | basic => exact unquote?_quotedBasic text.toList unquoted
  | literal =>
    rw [chosen] at suits
    exact unquote?_quotedLiteral suits unticked
  | basicBlock => exact unquote?_quotedBasicBlock text.toList unquoted
  | literalBlock =>
    rw [chosen] at suits
    exact unquote?_quotedLiteralBlock suits.1 suits.2 unticked

theorem head?_quoted (text : String) :
    (quoted text).toList.head? = some '"' ∨ (quoted text).toList.head? = some '\'' := by
  rw [quoted, String.toList_ofList]
  cases Quotation.choose text.toList <;>
    simp [quotedAs, Quotation.fence, Quotation.isBlock, Quotation.mark, List.replicate_succ]

end ApiPages.Toml
