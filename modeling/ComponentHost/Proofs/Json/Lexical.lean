import ComponentHost.Json.Encode
import ComponentHost.Json.Lexical

/-! The words that the writer writes, read back: strings character by character, whole numbers
digit by digit. A number is read up to the first character that cannot go on with it, so what
follows a value is kept in view. -/

namespace ComponentHost.Json

open Text (hexValue? digitValue)

theorem skipBlanks_nil : skipBlanks [] = [] := rfl

theorem skipBlanks_cons {c : Char} {t : List Char} (h : isBlank c = false) :
    skipBlanks (c :: t) = c :: t := by
  simp [skipBlanks, h]

/-! ### Strings -/

theorem hexValue?_digitChar {n : Nat} (h : n < 16) : hexValue? (Nat.digitChar n) = some n := by
  have all : ∀ k : Fin 16, hexValue? (Nat.digitChar k) = some k.val := by decide
  exact all ⟨n, h⟩

theorem readUnit_unitDigits {n : Nat} (h : n < 256) (t : List Char) :
    readUnit (unitDigits n ++ t) = .ok (n, t) := by
  have zero : hexValue? '0' = some 0 := by decide
  have high := hexValue?_digitChar (show n / 16 < 16 by omega)
  have low := hexValue?_digitChar (show n % 16 < 16 by omega)
  simp only [unitDigits, List.cons_append, List.nil_append, readUnit, zero, high, low]
  congr 2
  omega

theorem readEscape_unit {c : Char} (h : c.toNat < 0x20) (t : List Char) :
    readEscape ('u' :: (unitDigits c.toNat ++ t)) = .ok (c, t) := by
  have leading : isLeading c.toNat = false := by simp [isLeading]; omega
  have trailing : isTrailing c.toNat = false := by simp [isTrailing]; omega
  simp [readEscape, readEscapedUnit, readUnit_unitDigits (show c.toNat < 256 by omega), leading,
    trailing, bind, Except.bind]

theorem writeChar_cases (c : Char) :
    (∃ d, writeChar c = ['\\', d] ∧ d ≠ 'u' ∧ escaped? d = some c) ∨
      (writeChar c = '\\' :: 'u' :: unitDigits c.toNat ∧ c.toNat < 0x20) ∨
      (writeChar c = [c] ∧ c ≠ '"' ∧ c ≠ '\\' ∧ ¬ c.toNat < 0x20) := by
  unfold writeChar
  iterate 7
    split
    case isTrue h => subst h; exact .inl ⟨_, rfl, by decide, rfl⟩
  split
  case isTrue control => exact .inr (.inl ⟨rfl, control⟩)
  case isFalse quote backslash _ _ _ _ _ printed =>
    exact .inr (.inr ⟨rfl, quote, backslash, printed⟩)

theorem readChars_writeChar (c : Char) (fuel : Nat) (t : List Char) :
    readChars readEscape (fuel + 1) (writeChar c ++ t) =
      (readChars readEscape fuel t).map fun (cs, t) => (c :: cs, t) := by
  rcases writeChar_cases c with ⟨d, written, notUnit, escaped⟩ | ⟨written, control⟩ |
    ⟨written, quote, backslash, printed⟩
  · simp [written, readChars, readEscape, notUnit, escaped, bind, Except.bind, Except.map]
  · simp [written, readChars, readEscape_unit control, bind, Except.bind, Except.map]
  · simp [written, readChars, quote, backslash, printed, bind, Except.bind, Except.map]

theorem readChars_flatMap (cs t : List Char) {fuel : Nat} (enough : cs.length < fuel) :
    readChars readEscape fuel (cs.flatMap writeChar ++ '"' :: t) = .ok (cs, t) := by
  induction cs generalizing fuel with
  | nil =>
    obtain ⟨fuel, rfl⟩ := Nat.exists_eq_add_of_lt enough
    simp [readChars]
  | cons c cs ih =>
    obtain _ | fuel := fuel
    · simp at enough
    · rw [List.flatMap_cons, List.append_assoc, readChars_writeChar,
        ih (by simpa using enough)]
      rfl

theorem length_le_flatMap_writeChar (cs : List Char) :
    cs.length ≤ (cs.flatMap writeChar).length := by
  induction cs with
  | nil => simp
  | cons c cs ih =>
    have nonempty : 1 ≤ (writeChar c).length := by
      unfold writeChar
      repeat' split
      all_goals simp
    simp only [List.length_cons, List.flatMap_cons, List.length_append]
    omega

theorem readString_written (s : String) (t : List Char) :
    readString (s.toList.flatMap writeChar ++ '"' :: t) = .ok (s, t) := by
  have enough := length_le_flatMap_writeChar s.toList
  rw [readString, readChars_flatMap s.toList t (by simp only [List.length_append]; omega)]
  simp [bind, Except.bind]

/-! ### Whole numbers -/

/-- The text that may follow a value: nothing, or what separates or closes values. -/
def Ends (t : List Char) : Prop := ∀ c ∈ t.head?, c = ',' ∨ c = ']' ∨ c = '\x7d'

theorem Ends.nil : Ends [] := by simp [Ends]

theorem Ends.comma (t : List Char) : Ends (',' :: t) := by simp [Ends]

theorem Ends.bracket (t : List Char) : Ends (']' :: t) := by simp [Ends]

theorem Ends.brace (t : List Char) : Ends ('\x7d' :: t) := by simp [Ends]

theorem Ends.not_number {t : List Char} (ends : Ends t) :
    t.head?.any Char.isDigit = false ∧ t.head?.any isExponentMark = false ∧
      ∀ rest, t ≠ '.' :: rest := by
  cases t with
  | nil => simp
  | cons c t => rcases ends c rfl with rfl | rfl | rfl <;> simp <;> decide

theorem digits_ne_nil (n : Nat) : Nat.toDigits 10 n ≠ [] :=
  List.ne_nil_of_length_pos Nat.length_toDigits_pos

theorem isDigit_of_mem_digits {n : Nat} {c : Char} (h : c ∈ Nat.toDigits 10 n) :
    c.isDigit = true :=
  Nat.isDigit_of_mem_toDigits (by decide) (by decide) h

theorem head_digits_ne_zero {n : Nat} (pos : 0 < n) : (Nat.toDigits 10 n).head? ≠ some '0' := by
  induction n using Nat.strongRecOn with
  | ind n ih =>
    by_cases small : n < 10
    · rw [Nat.toDigits_of_lt_base small]
      have all : ∀ k : Fin 10, 0 < k.val → Nat.digitChar k ≠ '0' := by decide
      simpa using all ⟨n, small⟩ pos
    · rw [Nat.toDigits_of_base_le (by decide) (by omega), List.head?_append,
        Option.or_of_isSome (by simp)]
      exact ih (n / 10) (by omega) (by omega)

theorem le_ofDigitChars (cs : List Char) (n : Nat) : n ≤ Nat.ofDigitChars 10 cs n := by
  induction cs generalizing n with
  | nil => simp [Nat.ofDigitChars]
  | cons c cs ih =>
    rw [Nat.ofDigitChars, List.foldl_cons]
    exact Nat.le_trans (by omega) (ih _)

theorem gather_eq (cs : List Char) (n taken : Nat)
    (fits : Nat.ofDigitChars 10 cs n ≤ maxUnsigned) :
    gather n taken cs = (Nat.ofDigitChars 10 cs n, taken + cs.length) := by
  induction cs generalizing n taken with
  | nil => rfl
  | cons c cs ih =>
    have step : Nat.ofDigitChars 10 (c :: cs) n =
        Nat.ofDigitChars 10 cs (n * 10 + digitValue c) := by
      simp [Nat.ofDigitChars, digitValue, Nat.mul_comm]
    rw [step] at fits
    have small : ¬ maxUnsigned < n * 10 + digitValue c :=
      Nat.not_lt.mpr (Nat.le_trans (le_ofDigitChars cs _) fits)
    rw [gather, if_neg small, ih _ _ fits, step, List.length_cons, Nat.add_right_comm,
      Nat.add_assoc]

theorem readNumber_writeNatural {n : Nat} (fits : n ≤ maxUnsigned) {t : List Char}
    (ends : Ends t) : readNumber false (writeNatural n ++ t) = .ok (.unsigned n, t) := by
  obtain ⟨notDigit, notMark, notPoint⟩ := ends.not_number
  have digits : ∀ c ∈ Nat.toDigits 10 n, c.isDigit = true := fun c => isDigit_of_mem_digits
  have stops : t.takeWhile Char.isDigit = [] ∧ t.dropWhile Char.isDigit = t := by
    cases t with
    | nil => simp
    | cons c t =>
      have head : c.isDigit = false := by simpa using notDigit
      simp [head]
  have taken : (Nat.toDigits 10 n ++ t).takeWhile Char.isDigit = Nat.toDigits 10 n := by
    rw [List.takeWhile_append_of_pos digits, stops.1, List.append_nil]
  have left : (Nat.toDigits 10 n ++ t).dropWhile Char.isDigit = t := by
    rw [List.dropWhile_append_of_pos digits, stops.2]
  have gathered : gather 0 0 (Nat.toDigits 10 n) = (n, (Nat.toDigits 10 n).length) := by
    have value : Nat.ofDigitChars 10 (Nat.toDigits 10 n) 0 = n :=
      Nat.ofDigitChars_toDigits (by decide) (by decide)
    rw [gather_eq _ _ _ (by rw [value]; exact fits), value, Nat.zero_add]
  rw [writeNatural]
  cases written : Nat.toDigits 10 n with
  | nil => exact absurd written (digits_ne_nil n)
  | cons first rest =>
    have isDigit : first.isDigit = true := digits first (by simp [written])
    have unpadded : ¬ (first = '0' ∧ (rest ++ t).head?.any Char.isDigit = true) := by
      rintro ⟨rfl, more⟩
      rcases Nat.eq_zero_or_pos n with rfl | pos
      · rw [Nat.toDigits_zero, List.cons.injEq] at written
        rw [← written.2] at more
        simp [notDigit] at more
      · exact head_digits_ne_zero pos (by simp [written])
    rw [written] at taken left gathered
    rw [List.cons_append] at taken left ⊢
    rw [readNumber]
    simp only [isDigit, Bool.not_true, Bool.false_eq_true, if_false, if_neg unpadded, taken, left,
      gathered, Nat.sub_self]
    simp [notMark, integer]

end ComponentHost.Json
