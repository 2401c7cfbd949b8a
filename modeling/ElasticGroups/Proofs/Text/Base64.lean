import ElasticGroups.Text.Base64
import Mathlib.Algebra.Group.Nat.Defs
import Mathlib.Data.List.Basic

/-!
# Bytes in groups of six bits

What the padded form of bytes is, said without cutting them in groups of three: its digits hold the
bits of the bytes, six in each, with zeros to fill the last digit up, and padding fills the digits up
to a multiple of four.

The module introduces:

* `Base64.alphabet` — the digits in the order of the numbers that they stand for;
* `Base64.bits` — the bits of a number, the most significant one first;
* `Base64.Form bytes` — the parts of a padded form of the bytes.

The digits of bytes are such a form (`Base64.exists_form_encode`), there are four of them for every
three bytes begun (`Base64.length_encode`), and the bytes are read back from them
(`Base64.decode?_encode`). So a text is told by its digits (`Base64.encodeText_injective`).
-/

namespace ElasticGroups.Text.Base64

/-- The digits in the order of the numbers that they stand for. -/
def alphabet : List Char :=
  "ABCDEFGHIJKLMNOPQRSTUVWXYZabcdefghijklmnopqrstuvwxyz0123456789+/".toList

/-- The `width` lowest bits of a number, the most significant one first. -/
def bits : Nat → Nat → List Bool
  | 0, _ => []
  | width + 1, n => bits width (n / 2) ++ [n % 2 == 1]

/-- The parts of a padded form of bytes. -/
structure Form (bytes : List UInt8) where
  /-- The numbers of six bits that are written. -/
  values : List Nat
  /-- The digits for them. -/
  digits : List Char
  /-- Each digit stands in the alphabet at its number. -/
  digit_eq : values.map (alphabet[·]?) = digits.map some
  /-- How many zeros fill the last digit up. -/
  zeros : Nat
  zeros_lt : zeros < 6
  /-- The digits hold the bits of the bytes, and the zeros behind them. -/
  bits_eq : values.flatMap (bits 6) =
    bytes.flatMap (fun byte => bits 8 byte.toNat) ++ List.replicate zeros false
  /-- How much padding there is. -/
  padding : Nat
  padding_lt : padding < 4
  /-- The padding fills the digits up to a multiple of four. -/
  dvd_length : 4 ∣ digits.length + padding

/-- The padded form. -/
def Form.text {bytes : List UInt8} (f : Form bytes) : List Char :=
  f.digits ++ List.replicate f.padding '='

/-! ### Digits -/

/-- The digit of a number stands in the alphabet at that number. -/
theorem getElem?_alphabet {n : Nat} (h : n < 64) : alphabet[n]? = some (digit n) := by
  have hall : ∀ n : Fin 64, alphabet[n.val]? = some (digit n.val) := by decide +kernel
  exact hall ⟨n, h⟩

/-- A number is read back from its digit. -/
theorem digitValue?_digit {n : Nat} (h : n < 64) : digitValue? (digit n) = some n := by
  have hall : ∀ n : Fin 64, digitValue? (digit n.val) = some n.val := by decide +kernel
  exact hall ⟨n, h⟩

/-- No digit is the mark of the padding. -/
theorem digit_ne_padding {n : Nat} (h : n < 64) : digit n ≠ '=' := by
  intro hdigit
  have hvalue := digitValue?_digit h
  rw [hdigit] at hvalue
  exact absurd hvalue (by simp [show digitValue? '=' = none from rfl])

/-! ### Bits -/

/-- Numbers that are put one behind the other have their bits one behind the other. -/
theorem bits_append {low : Nat} (width high : Nat) {n : Nat} (h : low < 2 ^ n) :
    bits (width + n) (high * 2 ^ n + low) = bits width high ++ bits n low := by
  induction n generalizing low with
  | zero =>
    obtain rfl : low = 0 := by simpa using h
    simp [bits]
  | succ n ih =>
    have hlow : low / 2 < 2 ^ n := by
      rw [Nat.pow_succ] at h
      omega
    have hhalf : (high * 2 ^ (n + 1) + low) / 2 = high * 2 ^ n + low / 2 := by
      rw [Nat.pow_succ, ← Nat.mul_assoc]
      omega
    have hlast : (high * 2 ^ (n + 1) + low) % 2 = low % 2 := by
      rw [Nat.pow_succ, ← Nat.mul_assoc]
      omega
    rw [← Nat.add_assoc, bits, bits, hhalf, hlast, ih hlow, List.append_assoc]

/-- Zero has zeros for its bits. -/
theorem bits_zero (width : Nat) : bits width 0 = List.replicate width false := by
  induction width with
  | zero => rfl
  | succ width ih => rw [bits, Nat.zero_div, ih, List.replicate_succ']; rfl

/-! ### Groups of digits -/

section Groups

variable {b c : Nat}

/-- One byte and four zeros fill two digits. -/
theorem bits_one (a : Nat) :
    bits 6 (a / 4) ++ bits 6 (a % 4 * 16) = bits 8 a ++ List.replicate 4 false := by
  calc bits 6 (a / 4) ++ bits 6 (a % 4 * 16)
      = bits (6 + 6) (a / 4 * 2 ^ 6 + a % 4 * 16) := (bits_append 6 _ (by omega)).symm
    _ = bits (8 + 4) (a * 2 ^ 4 + 0) := congrArg (bits 12) (by omega)
    _ = bits 8 a ++ List.replicate 4 false := by rw [bits_append 8 a (by decide), bits_zero]

/-- Two bytes and two zeros fill three digits. -/
theorem bits_two (a : Nat) (hb : b < 256) :
    bits 6 (a / 4) ++ bits 6 (a % 4 * 16 + b / 16) ++ bits 6 (b % 16 * 4) =
      bits 8 a ++ bits 8 b ++ List.replicate 2 false := by
  calc bits 6 (a / 4) ++ bits 6 (a % 4 * 16 + b / 16) ++ bits 6 (b % 16 * 4)
      = bits (6 + 6 + 6)
          ((a / 4 * 2 ^ 6 + (a % 4 * 16 + b / 16)) * 2 ^ 6 + b % 16 * 4) := by
        rw [bits_append _ _ (by omega), bits_append _ _ (by omega)]
    _ = bits (8 + 8 + 2) ((a * 2 ^ 8 + b) * 2 ^ 2 + 0) := congrArg (bits 18) (by omega)
    _ = bits 8 a ++ bits 8 b ++ List.replicate 2 false := by
        rw [bits_append _ _ (by decide), bits_append _ _ (by omega), bits_zero]

/-- Three bytes fill four digits. -/
theorem bits_three (a : Nat) (hb : b < 256) (hc : c < 256) :
    bits 6 (a / 4) ++ bits 6 (a % 4 * 16 + b / 16) ++ bits 6 (b % 16 * 4 + c / 64) ++
        bits 6 (c % 64) = bits 8 a ++ bits 8 b ++ bits 8 c := by
  calc bits 6 (a / 4) ++ bits 6 (a % 4 * 16 + b / 16) ++ bits 6 (b % 16 * 4 + c / 64) ++
        bits 6 (c % 64)
      = bits (6 + 6 + 6 + 6)
          (((a / 4 * 2 ^ 6 + (a % 4 * 16 + b / 16)) * 2 ^ 6 + (b % 16 * 4 + c / 64)) * 2 ^ 6 +
            c % 64) := by
        rw [bits_append _ _ (by omega), bits_append _ _ (by omega), bits_append _ _ (by omega)]
    _ = bits (8 + 8 + 8) ((a * 2 ^ 8 + b) * 2 ^ 8 + c) := congrArg (bits 24) (by omega)
    _ = bits 8 a ++ bits 8 b ++ bits 8 c := by
        rw [bits_append _ _ (by omega), bits_append _ _ (by omega)]

end Groups

/-! ### The form of bytes -/

/-- The digits of bytes are their padded form. -/
theorem exists_form_encode (bytes : List UInt8) : ∃ f : Form bytes, f.text = encode bytes := by
  -- Only the last group can have zeros and padding in it; a group of three bytes adds neither.
  fun_induction encode bytes with
  | case1 => exact ⟨⟨[], [], rfl, 0, by decide, rfl, 0, by decide, by decide⟩, rfl⟩
  | case2 a =>
    have ha := a.toNat_lt
    refine ⟨⟨[a.toNat / 4, a.toNat % 4 * 16], [digit (a.toNat / 4), digit (a.toNat % 4 * 16)], ?_,
      4, by decide, ?_, 2, by decide, ⟨1, rfl⟩⟩, rfl⟩
    · simp only [List.map_cons, List.map_nil]
      rw [getElem?_alphabet (by omega), getElem?_alphabet (by omega)]
    · simpa using bits_one a.toNat
  | case3 a b =>
    have ha := a.toNat_lt
    have hb := b.toNat_lt
    refine ⟨⟨[a.toNat / 4, a.toNat % 4 * 16 + b.toNat / 16, b.toNat % 16 * 4],
      [digit (a.toNat / 4), digit (a.toNat % 4 * 16 + b.toNat / 16), digit (b.toNat % 16 * 4)], ?_,
      2, by decide, ?_, 1, by decide, ⟨1, rfl⟩⟩, rfl⟩
    · simp only [List.map_cons, List.map_nil]
      rw [getElem?_alphabet (by omega), getElem?_alphabet (by omega), getElem?_alphabet (by omega)]
    · simpa using bits_two a.toNat hb
  | case4 a b c rest ih =>
    obtain ⟨f, hf⟩ := ih
    have ha := a.toNat_lt
    have hb := b.toNat_lt
    have hc := c.toNat_lt
    refine ⟨⟨a.toNat / 4 :: (a.toNat % 4 * 16 + b.toNat / 16) ::
        (b.toNat % 16 * 4 + c.toNat / 64) :: c.toNat % 64 :: f.values,
      digit (a.toNat / 4) :: digit (a.toNat % 4 * 16 + b.toNat / 16) ::
        digit (b.toNat % 16 * 4 + c.toNat / 64) :: digit (c.toNat % 64) :: f.digits, ?_,
      f.zeros, f.zeros_lt, ?_, f.padding, f.padding_lt, ?_⟩, ?_⟩
    · simp only [List.map_cons, f.digit_eq]
      rw [getElem?_alphabet (by omega), getElem?_alphabet (by omega), getElem?_alphabet (by omega),
        getElem?_alphabet (by omega)]
    · simp only [List.flatMap_cons, f.bits_eq]
      simpa using congrArg (· ++ (rest.flatMap (fun byte => bits 8 byte.toNat) ++
        List.replicate f.zeros false)) (bits_three a.toNat hb hc)
    · have hdvd := f.dvd_length
      simp only [List.length_cons]
      omega
    · rw [← hf]
      rfl

/-- There are four digits for every three bytes begun. -/
theorem length_encode (bytes : List UInt8) :
    (encode bytes).length = 4 * ((bytes.length + 2) / 3) := by
  fun_induction encode bytes with
  | case1 => rfl
  | case2 a => simp
  | case3 a b => simp
  | case4 a b c rest ih =>
    simp only [List.length_cons, ih]
    omega

/-! ### Reading the bytes back -/

section Decode

variable {w x y z : Nat}

/-- Two digits hold one byte. -/
theorem decode?_two (hw : w < 64) (hx : x < 64) (hleft : x % 16 = 0) :
    decode? [digit w, digit x, '=', '='] = some [.ofNat (w * 4 + x / 16)] := by
  rw [decode?, digitValue?_digit hw, digitValue?_digit hx]
  exact if_pos hleft

/-- Three digits hold two bytes. -/
theorem decode?_three (hw : w < 64) (hx : x < 64) (hy : y < 64) (hleft : y % 4 = 0) :
    decode? [digit w, digit x, digit y, '='] =
      some [.ofNat (w * 4 + x / 16), .ofNat (x % 16 * 16 + y / 4)] := by
  rw [decode?, digitValue?_digit hw, digitValue?_digit hx, digitValue?_digit hy]
  · exact if_pos hleft
  · exact digit_ne_padding hy

/-- Four digits hold three bytes. -/
theorem decode?_four (hw : w < 64) (hx : x < 64) (hy : y < 64) (hz : z < 64)
    {rest : List Char} {bytes : List UInt8} (hrest : decode? rest = some bytes) :
    decode? (digit w :: digit x :: digit y :: digit z :: rest) =
      some (.ofNat (w * 4 + x / 16) :: .ofNat (x % 16 * 16 + y / 4) ::
        .ofNat (y % 4 * 64 + z) :: bytes) := by
  rw [decode?, digitValue?_digit hw, digitValue?_digit hx, digitValue?_digit hy,
    digitValue?_digit hz, hrest]
  · rfl
  · exact fun hpadding => absurd hpadding (digit_ne_padding hy)
  · exact fun hpadding => absurd hpadding (digit_ne_padding hz)

end Decode

/-- A byte is told by its number. -/
theorem ofNat_eq (byte : UInt8) {n : Nat} (h : n = byte.toNat) : UInt8.ofNat n = byte :=
  h ▸ UInt8.ofNat_toNat

/-- The bytes are read back from their digits. -/
theorem decode?_encode (bytes : List UInt8) : decode? (encode bytes) = some bytes := by
  fun_induction encode bytes with
  | case1 => rfl
  | case2 a =>
    have ha := a.toNat_lt
    rw [decode?_two (by omega) (by omega) (by omega), ofNat_eq a (by omega)]
  | case3 a b =>
    have ha := a.toNat_lt
    have hb := b.toNat_lt
    rw [decode?_three (by omega) (by omega) (by omega) (by omega), ofNat_eq a (by omega),
      ofNat_eq b (by omega)]
  | case4 a b c rest ih =>
    have ha := a.toNat_lt
    have hb := b.toNat_lt
    have hc := c.toNat_lt
    rw [decode?_four (by omega) (by omega) (by omega) (by omega) ih, ofNat_eq a (by omega),
      ofNat_eq b (by omega), ofNat_eq c (by omega)]

/-! ### Texts -/

/-- There are as many bytes as the text has in UTF-8. -/
theorem length_utf8 (s : String) : (utf8 s).length = s.utf8ByteSize := rfl

/-- A text is told by its bytes. -/
theorem utf8_injective : Function.Injective utf8 := fun _ _ h =>
  String.toByteArray_inj.mp (ByteArray.ext (Array.toList_inj.mp h))

/-- The bytes of a text are read back from its digits. -/
theorem decode?_encodeText (s : String) : decode? (encodeText s).toList = some (utf8 s) := by
  rw [encodeText, String.toList_ofList, decode?_encode]

/-- Different texts have different digits. -/
theorem encodeText_injective : Function.Injective encodeText := by
  intro s t h
  have hbytes := decode?_encodeText s
  rw [h, decode?_encodeText] at hbytes
  exact utf8_injective (Option.some.inj hbytes).symm

end ElasticGroups.Text.Base64
