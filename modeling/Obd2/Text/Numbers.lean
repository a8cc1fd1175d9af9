import Obd2.Text.Lemmas

/-! Numbers in texts, written with a least width and read back. -/
namespace Obd2.Text

/-- `{:0width$}`. -/
def padded (width n : Nat) : Text :=
  let digits := Nat.toDigits 10 n
  List.replicate (width - digits.length) '0' ++ digits

/-- The number of a text of decimal digits. -/
def decimalOf (t : Text) : Nat := Nat.ofDigitChars 10 t 0

/-- The number of a text of the digits `hexDigit` writes. -/
def hexOf (t : Text) : Nat := t.foldl (fun n c => n * 16 + (hexValue c).toNat) 0

/-- What holds of every digit holds of the characters of a number. -/
theorem forall_toDigits {b : Nat} (hb : 1 < b) {P : Char → Prop} (h : ∀ d : Fin b, P (Nat.digitChar d)) (n : Nat) :
    ∀ c ∈ Nat.toDigits b n, P c := by
  induction n using Nat.base_induction b hb with
  | single m hm =>
    rw [Nat.toDigits_of_lt_base hm]
    exact List.forall_mem_singleton.mpr (h ⟨m, hm⟩)
  | digit m k hk hm ih =>
    rw [← Nat.toDigits_append_toDigits hb hm hk, Nat.toDigits_of_lt_base hk]
    exact List.forall_mem_append.mpr ⟨ih, List.forall_mem_singleton.mpr (h ⟨k, hk⟩)⟩

/-! ### Decimal numbers -/

theorem decimalOf_toDigits (n : Nat) : decimalOf (Nat.toDigits 10 n) = n := Nat.ofDigitChars_ten_toDigits

theorem decimalOf_padded (width n : Nat) : decimalOf (padded width n) = n := by
  rw [decimalOf, padded, Nat.ofDigitChars_append, Nat.ofDigitChars_replicate_zero, Nat.mul_zero]
  exact Nat.ofDigitChars_ten_toDigits

/-! ### Hexadecimal numbers -/

theorem hexValue_digitChar {n : Nat} (h : n < 16) : (hexValue (Nat.digitChar n).toUpper).toNat = n := by
  have hall : ∀ n : Fin 16, (hexValue (Nat.digitChar n).toUpper).toNat = n := by decide +kernel
  exact hall ⟨n, h⟩

theorem hexOf_append_digit (t : Text) (c : Char) : hexOf (t ++ [c]) = hexOf t * 16 + (hexValue c).toNat := by
  rw [hexOf, List.foldl_append]
  rfl

theorem hexOf_toDigits (n : Nat) : hexOf ((Nat.toDigits 16 n).map Char.toUpper) = n := by
  induction n using Nat.base_induction 16 (by decide) with
  | single m hm =>
    rw [Nat.toDigits_of_lt_base hm]
    have hsum : hexOf [(Nat.digitChar m).toUpper] = 0 * 16 + (hexValue (Nat.digitChar m).toUpper).toNat := rfl
    rw [List.map_singleton, hsum, hexValue_digitChar hm, Nat.zero_mul, Nat.zero_add]
  | digit m k hk hm ih =>
    rw [← Nat.toDigits_append_toDigits (by decide) hm hk, Nat.toDigits_of_lt_base hk, List.map_append,
      List.map_singleton, hexOf_append_digit, ih, hexValue_digitChar hk, Nat.mul_comm]

theorem hexOf_zeros (count : Nat) (t : Text) : hexOf (List.replicate count '0' ++ t) = hexOf t := by
  induction count with
  | zero => rfl
  | succ count ih =>
    rw [List.replicate_succ, List.cons_append, ← ih]
    rfl

/-- A number is read as it was written, whatever its width. -/
theorem hexOf_upperHex (width n : Nat) : hexOf (upperHex width n) = n := by
  rw [upperHex, hexOf_zeros, hexOf_toDigits]

/-- A number that fits fills its width exactly. -/
theorem length_upperHex {width n : Nat} (hwidth : 0 < width) (h : n < Nat.pow 16 width) :
    (upperHex width n).length = width := by
  have hdigits : (Nat.toDigits 16 n).length ≤ width := (Nat.length_toDigits_le_iff (by decide) hwidth).mpr h
  rw [upperHex, List.length_append, List.length_replicate, List.length_map]
  exact Nat.sub_add_cancel hdigits

/-- The digits are digits and capital letters. -/
theorem mem_upperHex {width n : Nat} {c : Char} (h : c ∈ upperHex width n) : c.isAlphanum = true := by
  have hdigit : ∀ n : Fin 16, (Nat.digitChar n).toUpper.isAlphanum = true := by decide +kernel
  rcases List.mem_append.mp h with hzero | hrest
  · rw [List.eq_of_mem_replicate hzero]
    rfl
  · obtain ⟨d, hd, rfl⟩ := List.mem_map.mp hrest
    exact forall_toDigits (P := fun d => d.toUpper.isAlphanum = true) (by decide) hdigit n d hd

end Obd2.Text
