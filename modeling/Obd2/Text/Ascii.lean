import Obd2.Protocol.Hex.Grammar
import Obd2.Text.Numbers
import Obd2.Transport.Logging.Lines

/-! ASCII texts: a byte for each character, and the text back from the bytes. -/
namespace Obd2.Text

def Ascii (t : Text) : Prop := ∀ c ∈ t, c.toNat < 128

theorem Ascii.append {s t : Text} (hs : Ascii s) (ht : Ascii t) : Ascii (s ++ t) := List.forall_mem_append.mpr ⟨hs, ht⟩

/-- For texts that are given. -/
theorem ascii_of_all {s : Text} (h : s.all (fun c => decide (c.toNat < 128)) = true) : Ascii s :=
  fun c hc => of_decide_eq_true (List.all_eq_true.mp h c hc)

theorem ascii_of_isAlphanum {c : Char} (h : c.isAlphanum = true) : c.toNat < 128 := by
  have hranges : (decide ('A'.val ≤ c.val ∧ c.val ≤ 'Z'.val) ||
      (decide ('a'.val ≤ c.val) && decide (c.val ≤ 'z'.val)) ||
      (decide ('0'.val ≤ c.val) && decide (c.val ≤ '9'.val))) = true := h
  simp only [Bool.or_eq_true, Bool.and_eq_true, decide_eq_true_eq, UInt32.le_iff_toNat_le] at hranges
  have hval : c.toNat = c.val.toNat := rfl
  rcases hranges with (⟨-, h⟩ | ⟨-, h⟩) | ⟨-, h⟩
  · exact Nat.lt_of_le_of_lt h (by decide)
  · exact Nat.lt_of_le_of_lt h (by decide)
  · exact Nat.lt_of_le_of_lt h (by decide)

theorem isAlphanum_toDigits (n : Nat) : ∀ c ∈ Nat.toDigits 10 n, c.isAlphanum = true :=
  forall_toDigits (by decide) (by decide) n

theorem isAlphanum_hexByte (b : UInt8) : ∀ c ∈ hexByte b, c.isAlphanum = true := by
  have hdigits : ∀ b : UInt8, (hexByte b).all Char.isAlphanum = true := forall_byte (by decide +kernel)
  exact List.all_eq_true.mp (hdigits b)

/-! ### Bytes -/

theorem bytes_of_ascii {t : Text} (h : Ascii t) : bytes t = t.map fun c => UInt8.ofNat c.toNat := by
  induction t with
  | nil => rfl
  | cons c t ih =>
    obtain ⟨b, hb, rfl⟩ := Hex.ofNat_ascii (h c List.mem_cons_self)
    have hrest := ih fun d hd => h d (List.mem_cons_of_mem _ hd)
    have hsame : ∀ b : UInt8, UInt8.ofNat (Char.ofNat b.toNat).toNat = b := forall_byte (by decide +kernel)
    rw [bytes_cons, utf8_ascii hb, List.singleton_append, List.map_cons, hrest, hsame]

theorem ofAscii_bytes {t : Text} (h : Ascii t) : ofAscii (bytes t) = t := by
  induction t with
  | nil => rfl
  | cons c t ih =>
    obtain ⟨b, hb, rfl⟩ := Hex.ofNat_ascii (h c List.mem_cons_self)
    have hrest := ih fun d hd => h d (List.mem_cons_of_mem _ hd)
    rw [bytes_cons, utf8_ascii hb, List.singleton_append]
    show Char.ofNat b.toNat :: ofAscii (bytes t) = _
    rw [hrest]

/-- The bytes are those of the characters. -/
theorem mem_bytes {t : Text} (h : Ascii t) {b : UInt8} (hb : b ∈ bytes t) : ∃ c ∈ t, b = UInt8.ofNat c.toNat := by
  rw [bytes_of_ascii h] at hb
  obtain ⟨c, hc, rfl⟩ := List.mem_map.mp hb
  exact ⟨c, hc, rfl⟩

/-- Characters are told apart by their bytes. -/
theorem not_mem_bytes {t : Text} (h : Ascii t) {d : Char} (hd : d.toNat < 128) (hnot : d ∉ t) :
    UInt8.ofNat d.toNat ∉ bytes t := by
  intro hb
  obtain ⟨c, hc, hsame⟩ := mem_bytes h hb
  have hvalue : d.toNat = c.toNat := by
    have hmod := congrArg UInt8.toNat hsame
    rw [UInt8.toNat_ofNat', UInt8.toNat_ofNat', Nat.mod_eq_of_lt (Nat.lt_trans hd (by decide)),
      Nat.mod_eq_of_lt (Nat.lt_trans (h c hc) (by decide))] at hmod
    exact hmod
  have hchar : d = c := by rw [← Char.ofNat_toNat d, hvalue, Char.ofNat_toNat]
  exact hnot (hchar ▸ hc)

/-- An ASCII text is read as it was written. -/
theorem fromUtf8Lossy_bytes {t : Text} (h : Ascii t) : fromUtf8Lossy (bytes t) = t := by
  have hbytes : ∀ b ∈ bytes t, b < 0x80 := by
    intro b hb
    obtain ⟨c, hc, rfl⟩ := mem_bytes h hb
    rw [UInt8.lt_iff_toNat_lt, UInt8.toNat_ofNat']
    exact Nat.lt_of_le_of_lt (Nat.mod_le _ _) (h c hc)
  rw [fromUtf8Lossy_ascii hbytes, ofAscii_bytes h]

end Obd2.Text
