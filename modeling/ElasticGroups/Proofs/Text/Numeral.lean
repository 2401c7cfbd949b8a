import ElasticGroups.Text.Numeral
import Mathlib.Logic.Function.Basic

/-!
# Numerals

What is read as a decimal number is told by its digits (`count?_eq_some_iff`,
`unsigned?_eq_some_iff`), and decimal digits without a zero in front are those of their value
(`toDigits_ofDigitChars`). A number is read back from its hexadecimal digits, whatever width they are
padded to, so different numbers have different digits.

The module introduces `Count`, a text that is read as a count, which carries the proofs that it is
one (`count?_eq_some_iff_exists`).
-/

namespace ElasticGroups.Text

/-! ### Decimal numbers -/

/-- A count is one or more digits whose value fits a word. -/
theorem count?_eq_some_iff {cs : List Char} {n : Nat} :
    count? cs = some n ↔ cs ≠ [] ∧ (∀ c ∈ cs, c.isDigit = true) ∧
      Nat.ofDigitChars 10 cs 0 = n ∧ n < wordLimit := by
  rw [count?, Option.ite_none_right_eq_some, List.all_eq_true, Option.some_inj]
  constructor
  · rintro ⟨⟨hsome, hdigits, hfits⟩, rfl⟩
    exact ⟨hsome, hdigits, rfl, hfits⟩
  · rintro ⟨hsome, hdigits, rfl, hfits⟩
    exact ⟨⟨hsome, hdigits, hfits⟩, rfl⟩

/-- A digit is the one of its value. -/
theorem exists_digitChar_eq {c : Char} (h : c.isDigit = true) : ∃ d < 10, Nat.digitChar d = c := by
  have hbounds : 48 ≤ c.toNat ∧ c.toNat ≤ 57 := Char.isDigit_iff_toNat.mp h
  have hlt : c.toNat - 48 < 10 := by omega
  refine ⟨c.toNat - 48, hlt, Char.toNat_inj.mp ?_⟩
  rw [Nat.toNat_digitChar_of_lt_ten hlt]
  omega

/-- Digits behind those of a number are the digits of the number that both make up. -/
theorem toDigits_append {cs : List Char} (hdigits : ∀ c ∈ cs, c.isDigit = true) {n : Nat}
    (hpos : 0 < n) : Nat.toDigits 10 n ++ cs = Nat.toDigits 10 (Nat.ofDigitChars 10 cs n) := by
  induction cs generalizing n with
  | nil => rw [List.append_nil, Nat.ofDigitChars_nil]
  | cons c cs ih =>
    rw [List.forall_mem_cons] at hdigits
    obtain ⟨d, hd, rfl⟩ := exists_digitChar_eq hdigits.1
    have hnext : Nat.toDigits 10 n ++ [d.digitChar] = Nat.toDigits 10 (10 * n + d) := by
      rw [← Nat.toDigits_of_lt_base hd, Nat.toDigits_append_toDigits (by decide) hpos hd]
    rw [Nat.ofDigitChars_cons_digitChar_of_lt_ten hd, ← ih hdigits.2 (by omega), ← hnext,
      List.append_assoc, List.singleton_append]

/-- Digits without a zero in front are those of their value. -/
theorem toDigits_ofDigitChars {c : Char} {cs : List Char}
    (hdigits : ∀ d ∈ c :: cs, d.isDigit = true) (hzero : c = '0' → cs = []) :
    Nat.toDigits 10 (Nat.ofDigitChars 10 (c :: cs) 0) = c :: cs := by
  rw [List.forall_mem_cons] at hdigits
  obtain ⟨d, hd, rfl⟩ := exists_digitChar_eq hdigits.1
  rw [Nat.ofDigitChars_cons_digitChar_of_lt_ten hd, Nat.mul_zero, Nat.zero_add]
  -- The digits of zero cannot go on, those of any other number can.
  rcases Nat.eq_zero_or_pos d with rfl | hpos
  · rw [hzero rfl]
    rfl
  · rw [← toDigits_append hdigits.2 hpos, Nat.toDigits_of_lt_base hd, List.singleton_append]

/-- Only zero is written with a zero in front. -/
theorem eq_zero_of_toDigits_eq_cons {n : Nat} {cs : List Char}
    (h : Nat.toDigits 10 n = '0' :: cs) : n = 0 := by
  induction n using Nat.strongRecOn generalizing cs with
  | ind n ih =>
    by_cases hlt : n < 10
    · rw [Nat.toDigits_of_lt_base hlt, List.cons.injEq] at h
      exact Nat.digitChar_eq_zero.mp h.1
    · rw [Nat.toDigits_of_base_le (by decide) (Nat.le_of_not_lt hlt)] at h
      -- The first digit is that of the number without its last digit.
      obtain ⟨c, front, hfront⟩ :=
        List.exists_cons_of_ne_nil (Nat.toDigits_ne_nil (n := n / 10) (b := 10))
      rw [hfront, List.cons_append, List.cons.injEq] at h
      obtain ⟨rfl, -⟩ := h
      have hquotient := ih (n / 10) (by omega) hfront
      omega

/-- A text that is read as a count. -/
structure Count where
  /-- The text. -/
  digits : List Char
  digits_ne_nil : digits ≠ []
  isDigit_of_mem : ∀ c ∈ digits, c.isDigit = true
  /-- The value fits a word. -/
  fits : Nat.ofDigitChars 10 digits 0 < wordLimit

namespace Count

/-- The decimal value of a count. -/
def value (r : Count) : Nat := Nat.ofDigitChars 10 r.digits 0

/-- A number that fits a word, written with zeros in front. -/
def ofNat (zeros : Nat) {n : Nat} (h : n < wordLimit) : Count where
  digits := List.replicate zeros '0' ++ Nat.toDigits 10 n
  digits_ne_nil := List.append_ne_nil_of_right_ne_nil _ Nat.toDigits_ne_nil
  isDigit_of_mem := by
    refine List.forall_mem_append.mpr ⟨fun c hc => ?_, fun c hc => ?_⟩
    · rw [List.eq_of_mem_replicate hc]
      decide
    · exact Nat.isDigit_of_mem_toDigits (by decide) (by decide) hc
  fits := by
    rwa [Nat.ofDigitChars_append, Nat.ofDigitChars_replicate_zero, Nat.mul_zero,
      Nat.ofDigitChars_ten_toDigits]

/-- Zeros in front do not count. -/
theorem value_ofNat (zeros : Nat) {n : Nat} (h : n < wordLimit) : (ofNat zeros h).value = n := by
  rw [value, ofNat, Nat.ofDigitChars_append, Nat.ofDigitChars_replicate_zero, Nat.mul_zero,
    Nat.ofDigitChars_ten_toDigits]

end Count

/-- What is read is the value of a count. -/
theorem count?_eq_some_iff_exists {cs : List Char} {n : Nat} :
    count? cs = some n ↔ ∃ r : Count, r.digits = cs ∧ r.value = n := by
  rw [count?_eq_some_iff]
  constructor
  · rintro ⟨hsome, hdigits, rfl, hfits⟩
    exact ⟨⟨cs, hsome, hdigits, hfits⟩, rfl, rfl⟩
  · rintro ⟨r, rfl, rfl⟩
    exact ⟨r.digits_ne_nil, r.isDigit_of_mem, rfl, r.fits⟩

/-- The sign of a number: a plus sign or nothing. -/
def sign (plus : Bool) : List Char := if plus then ['+'] else []

theorem eq_of_mem_sign {plus : Bool} {c : Char} (h : c ∈ sign plus) : c = '+' := by
  cases plus with
  | true => exact List.mem_singleton.mp h
  | false => cases h

theorem sign_injective : Function.Injective sign := by
  rintro (_ | _) (_ | _) h
  · rfl
  · cases h
  · cases h
  · rfl

/-- An unsigned number is a count with a sign or none in front. -/
theorem unsigned?_eq_some_iff {cs : List Char} {n : Nat} :
    unsigned? cs = some n ↔ ∃ plus digits, cs = sign plus ++ digits ∧ count? digits = some n := by
  constructor
  · intro h
    unfold unsigned? at h
    split at h
    case h_1 digits => exact ⟨true, digits, rfl, h⟩
    case h_2 => exact ⟨false, cs, rfl, h⟩
  · rintro ⟨plus, digits, rfl, h⟩
    cases plus with
    | true => exact h
    | false =>
      -- A count begins with a digit, which is no plus sign.
      have hdigits := (count?_eq_some_iff.mp h).2.1
      show unsigned? digits = some n
      unfold unsigned?
      split
      case h_1 rest => exact absurd (hdigits '+' List.mem_cons_self) (by decide)
      case h_2 => exact h

/-! ### Hexadecimal digits -/

/-- Read one more digit behind a value. -/
def nextDigit? (base value : Nat) (c : Char) : Option Nat := do
  let digit ← hexDigit? c
  if digit < base then some (base * value + digit) else none

theorem digitsValue?_eq_foldlM (base : Nat) (cs : List Char) :
    digitsValue? base cs = cs.foldlM (nextDigit? base) 0 := rfl

/-- The digit of a number below sixteen has the number as its value. -/
theorem hexDigit?_digitChar {n : Nat} (h : n < 16) : hexDigit? n.digitChar = some n := by
  have hall : ∀ n : Fin 16, hexDigit? n.val.digitChar = some n.val := by decide
  exact hall ⟨n, h⟩

/-- A number is read back from its hexadecimal digits. -/
theorem digitsValue?_toDigits (n : Nat) : digitsValue? 16 (Nat.toDigits 16 n) = some n := by
  rw [digitsValue?_eq_foldlM]
  induction n using Nat.strongRecOn with
  | ind n ih =>
    by_cases h : n < 16
    · rw [Nat.toDigits_of_lt_base h, List.foldlM_cons, nextDigit?, hexDigit?_digitChar h]
      simp [h]
    · have hlast : n % 16 < 16 := Nat.mod_lt _ (by decide)
      rw [Nat.toDigits_of_base_le (by decide) (Nat.le_of_not_lt h), List.foldlM_append,
        ih (n / 16) (by omega)]
      simp only [Option.bind_eq_bind, Option.bind_some, List.foldlM_cons, List.foldlM_nil,
        nextDigit?, hexDigit?_digitChar hlast, hlast, if_true]
      exact congrArg some (Nat.div_add_mod n 16)

/-- Zeros in front do not count. -/
theorem digitsValue?_replicate_zero (count : Nat) (cs : List Char) :
    digitsValue? 16 (List.replicate count '0' ++ cs) = digitsValue? 16 cs := by
  induction count with
  | zero => rfl
  | succ count ih =>
    rw [List.replicate_succ, List.cons_append, digitsValue?_eq_foldlM, List.foldlM_cons]
    exact ih

/-- A number is read back from its padded hexadecimal digits. -/
theorem digitsValue?_hexadecimal (width n : Nat) :
    digitsValue? 16 (hexadecimal width n).toList = some n := by
  rw [hexadecimal, String.toList_ofList, digitsValue?_replicate_zero, digitsValue?_toDigits]

/-- Different numbers have different hexadecimal digits. -/
theorem hexadecimal_injective (width : Nat) : Function.Injective (hexadecimal width) := by
  intro m n h
  have hvalue := digitsValue?_hexadecimal width m
  rw [h, digitsValue?_hexadecimal] at hvalue
  exact (Option.some.inj hvalue).symm

end ElasticGroups.Text
