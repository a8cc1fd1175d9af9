/-! Bytes: saturating counters, bit fields checked over all values, and big-endian numbers. -/
namespace Obd2

/-- `u8::saturating_add(1)`. -/
def saturatingSucc (b : UInt8) : UInt8 := if b = 255 then 255 else b + 1

theorem saturatingSucc_toNat (b : UInt8) : (saturatingSucc b).toNat = min (b.toNat + 1) 255 := by
  have hb := b.toNat_lt
  unfold saturatingSucc
  split
  · next h => rw [h]; rfl
  · next h =>
    have hne : b.toNat ≠ 255 := fun he => h (UInt8.toNat_inj.mp he)
    rw [UInt8.toNat_add]
    simp
    omega

/-- A statement about a byte holds if it does for each of the 256. -/
theorem forall_byte {P : UInt8 → Prop} (h : ∀ n : Fin 256, P (UInt8.ofNat n)) (b : UInt8) : P b := by
  have := h ⟨b.toNat, b.toNat_lt⟩
  rwa [UInt8.ofNat_toNat] at this

/-- A nibble tagged with a type in the high half keeps both. -/
theorem tagged_nibble (b : UInt8) :
    ((0x10 : UInt8) ||| (b &&& 0x0F)) >>> 4 = 1 ∧ (((0x10 : UInt8) ||| (b &&& 0x0F)) &&& 0x0F) = b &&& 0x0F ∧
      ((0x20 : UInt8) ||| (b &&& 0x0F)) >>> 4 = 2 ∧ (((0x20 : UInt8) ||| (b &&& 0x0F)) &&& 0x0F) = b &&& 0x0F := by
  revert b
  exact forall_byte (by decide +kernel)

theorem nibble_nibble (b : UInt8) : (b &&& 0x0F) &&& 0x0F = b &&& 0x0F := by
  revert b
  exact forall_byte (by decide +kernel)

/-- A length below sixteen is its own low nibble. -/
theorem nibble_ofNat {n : Nat} (h : n < 16) :
    UInt8.ofNat n >>> 4 = 0 ∧ (UInt8.ofNat n &&& 0x0F).toNat = n := by
  have : ∀ n : Fin 16, UInt8.ofNat n >>> 4 = 0 ∧ (UInt8.ofNat n &&& 0x0F).toNat = n := by decide
  exact this ⟨n, h⟩

/-- Twelve bits split into a nibble and a byte, and put together again. -/
theorem twelve_bits {n : Nat} (h : n < 4096) :
    ((UInt8.ofNat (n >>> 8) &&& 0x0F).toNat <<< 8) ||| (UInt8.ofNat (n &&& 0xFF)).toNat = n := by
  have hhigh : (UInt8.ofNat (n >>> 8) &&& 0x0F).toNat = n / 256 := by
    rw [Nat.shiftRight_eq_div_pow]
    exact (nibble_ofNat (by omega)).2
  have hlow : (UInt8.ofNat (n &&& 0xFF)).toNat = n % 256 := by
    rw [show (0xFF : Nat) = 2 ^ 8 - 1 from rfl, Nat.and_two_pow_sub_one_eq_mod, UInt8.toNat_ofNat']
    omega
  rw [hhigh, hlow, ← Nat.shiftLeft_add_eq_or_of_lt (show n % 256 < 2 ^ 8 by omega),
    Nat.shiftLeft_eq]
  omega

/-! ### Masks and shifts as arithmetic -/

theorem and_low_byte (x : UInt32) : ((x &&& 0xFF).toUInt8).toNat = x.toNat % 256 := by
  rw [UInt32.toNat_toUInt8, UInt32.toNat_and]
  show (x.toNat &&& 2 ^ 8 - 1) % 2 ^ 8 = _
  rw [Nat.and_two_pow_sub_one_eq_mod]
  omega

theorem shiftRight_eight (x : UInt32) : (x >>> 8).toNat = x.toNat / 256 := by
  rw [UInt32.toNat_shiftRight]
  exact Nat.shiftRight_eq_div_pow ..

theorem shiftRight_sixteen (x : UInt32) : (x >>> 16).toNat = x.toNat / 65536 := by
  rw [UInt32.toNat_shiftRight]
  exact Nat.shiftRight_eq_div_pow ..

/-- Bits that lie below the others are added to them. -/
theorem shiftLeft_or {a b k : Nat} (h : b < Nat.pow 2 k) : a <<< k ||| b = a * Nat.pow 2 k + b := by
  rw [← Nat.shiftLeft_add_eq_or_of_lt h, Nat.shiftLeft_eq]
  rfl

theorem shiftLeft_eight (b : UInt8) : (b.toUInt32 <<< 8).toNat = b.toNat <<< 8 := by
  have hb := b.toNat_lt
  rw [UInt32.toNat_shiftLeft, UInt8.toNat_toUInt32, Nat.shiftLeft_eq, Nat.shiftLeft_eq]
  exact Nat.mod_eq_of_lt (show b.toNat * 256 < 4294967296 by omega)

/-- Two bytes next to each other. -/
theorem two_bytes (high low : UInt8) :
    ((high.toUInt32 <<< 8) ||| low.toUInt32).toNat = high.toNat * 256 + low.toNat := by
  rw [UInt32.toNat_or, shiftLeft_eight, UInt8.toNat_toUInt32]
  exact shiftLeft_or low.toNat_lt

/-! ### Big-endian numbers -/

/-- The last `width` bytes of a number, the highest first. -/
def beBytes : Nat → Nat → List UInt8
  | 0, _ => []
  | width + 1, n => beBytes width (n / 256) ++ [UInt8.ofNat n]

def ofBeBytes (bytes : List UInt8) : Nat := bytes.foldl (fun n b => n * 256 + b.toNat) 0

@[simp] theorem length_beBytes (width n : Nat) : (beBytes width n).length = width := by
  induction width generalizing n with
  | zero => rfl
  | succ width ih => rw [beBytes, List.length_append, ih, List.length_singleton]

theorem ofBeBytes_concat (bytes : List UInt8) (b : UInt8) :
    ofBeBytes (bytes ++ [b]) = ofBeBytes bytes * 256 + b.toNat := by
  rw [ofBeBytes, List.foldl_append]
  rfl

theorem ofBeBytes_beBytes {width n : Nat} (h : n < Nat.pow 256 width) :
    ofBeBytes (beBytes width n) = n := by
  induction width generalizing n with
  | zero =>
    have hone : n < 1 := h
    have hzero : n = 0 := by omega
    rw [hzero]
    rfl
  | succ width ih =>
    have hlt : n < Nat.pow 256 width * 256 := h
    rw [beBytes, ofBeBytes_concat, ih (Nat.div_lt_of_lt_mul (Nat.mul_comm .. ▸ hlt)), UInt8.toNat_ofNat']
    omega

theorem beBytes_ofBeBytes (bytes : List UInt8) : beBytes bytes.length (ofBeBytes bytes) = bytes := by
  rw [← bytes.reverse_reverse]
  induction bytes.reverse with
  | nil => rfl
  | cons b rest ih =>
    have hb := b.toNat_lt
    have hhigh : (ofBeBytes rest.reverse * 256 + b.toNat) / 256 = ofBeBytes rest.reverse := by omega
    have hlow : UInt8.ofNat (ofBeBytes rest.reverse * 256 + b.toNat) = b := by
      apply UInt8.toNat_inj.mp
      rw [UInt8.toNat_ofNat']
      omega
    rw [List.reverse_cons, ofBeBytes_concat, List.length_append, List.length_singleton, beBytes, hhigh,
      hlow, ih]

theorem ofBeBytes_lt (bytes : List UInt8) : ofBeBytes bytes < Nat.pow 256 bytes.length := by
  rw [← bytes.reverse_reverse]
  induction bytes.reverse with
  | nil => exact Nat.one_pos
  | cons b rest ih =>
    have hb := b.toNat_lt
    have hpow : Nat.pow 256 (rest.reverse ++ [b]).length = Nat.pow 256 rest.reverse.length * 256 := by
      rw [List.length_append]
      rfl
    rw [List.reverse_cons, ofBeBytes_concat, hpow]
    omega

/-- Bytes of one width are those of their number. -/
theorem ofBeBytes_injective {bytes bytes' : List UInt8} (hlength : bytes.length = bytes'.length)
    (h : ofBeBytes bytes = ofBeBytes bytes') : bytes = bytes' := by
  rw [← beBytes_ofBeBytes bytes, ← beBytes_ofBeBytes bytes', hlength, h]

/-- `u32::from_be_bytes` of the first four bytes. -/
def u32OfBe (bytes : List UInt8) : UInt32 := UInt32.ofNat (ofBeBytes (bytes.take 4))

theorem u32OfBe_take (bytes : List UInt8) : u32OfBe (bytes.take 4) = u32OfBe bytes := by
  rw [u32OfBe, List.take_take]
  rfl

theorem u32OfBe_toNat {bytes : List UInt8} (h : bytes.length ≤ 4) : (u32OfBe bytes).toNat = ofBeBytes bytes := by
  have hlt := ofBeBytes_lt bytes
  have hle : Nat.pow 256 bytes.length ≤ Nat.pow 256 4 := Nat.pow_le_pow_right (by decide) h
  rw [u32OfBe, List.take_of_length_le h]
  exact UInt32.toNat_ofNat_of_lt' (Nat.lt_of_lt_of_le hlt hle)

/-- `u16::from_be_bytes`. -/
def u16FromBe (high low : UInt8) : UInt16 := UInt16.ofNat (ofBeBytes [high, low])

/-- `u16::to_be_bytes`. -/
def u16ToBe (n : UInt16) : List UInt8 := beBytes 2 n.toNat

theorem u16FromBe_toBe (n : UInt16) : ∃ high low, u16ToBe n = [high, low] ∧ u16FromBe high low = n := by
  refine ⟨_, _, rfl, ?_⟩
  have hwritten : ofBeBytes (u16ToBe n) = n.toNat := ofBeBytes_beBytes n.toNat_lt
  show UInt16.ofNat (ofBeBytes (u16ToBe n)) = n
  rw [hwritten, UInt16.ofNat_toNat]

/-- Two bytes are those of their number. -/
theorem u16ToBe_fromBe (high low : UInt8) : u16ToBe (u16FromBe high low) = [high, low] := by
  have hlt : ofBeBytes [high, low] < UInt16.size := by
    have hhigh := high.toNat_lt
    have hlow := low.toNat_lt
    show (0 * 256 + high.toNat) * 256 + low.toNat < 65536
    omega
  have hread : (u16FromBe high low).toNat = ofBeBytes [high, low] := UInt16.toNat_ofNat_of_lt' hlt
  rw [u16ToBe, hread]
  exact beBytes_ofBeBytes [high, low]

end Obd2
