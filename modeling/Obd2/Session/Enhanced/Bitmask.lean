import Obd2.Session.Enhanced

/-! Bitmasks of enhanced PIDs.

The data is read as a number, and a flag is one bit of it. Numbers of one, two and four bytes are
read; three bytes are read as two, and a bit that the number does not have is looked for with a
shift that overflows (`bitmask_exact_iff`). -/
namespace Obd2.Enhanced
open MayPanic

/-- The value is the number of the first four bytes, big-endian, and each flag is its bit of that. -/
def BitmaskExact (value : MayPanic Value) (bits : List (UInt8 × String)) (data : List UInt8) : Prop :=
  ∃ raw : UInt32, raw.toNat = ofBeBytes (data.take 4) ∧
    value = some (.bitfield ⟨raw, bits.map fun (bit, name) => (name, raw.toNat.testBit bit.toNat)⟩)

/-! ### The number -/

theorem ofBeBytes_four (a b c d : UInt8) (rest : List UInt8) :
    (u32OfBe (a :: b :: c :: d :: rest)).toNat = ofBeBytes [a, b, c, d] := by
  rw [← u32OfBe_take]
  exact u32OfBe_toNat (Nat.le_refl 4)

/-- All bytes are in the number, unless there are three. -/
theorem bitmaskRaw_eq_iff {data : List UInt8} (hdata : data ≠ []) :
    (bitmaskRaw data).toNat = ofBeBytes (data.take 4) ↔ (data.length = 3 → ∀ b ∈ data, b = 0) := by
  match data with
  | [] => exact absurd rfl hdata
  | [a] =>
    refine iff_of_true ?_ (fun h => by cases h)
    show a.toNat = 0 * 256 + a.toNat
    omega
  | [a, b] =>
    refine iff_of_true ?_ (fun h => by cases h)
    show ((a.toUInt32 <<< 8) ||| b.toUInt32).toNat = (0 * 256 + a.toNat) * 256 + b.toNat
    rw [two_bytes]
    omega
  | [a, b, c] =>
    have hzero : ∀ x : UInt8, x = 0 ↔ x.toNat = 0 := fun x => UInt8.toNat_inj.symm
    show ((a.toUInt32 <<< 8) ||| b.toUInt32).toNat = ((0 * 256 + a.toNat) * 256 + b.toNat) * 256 + c.toNat ↔ _
    simp only [two_bytes, List.length_cons, List.length_nil, List.forall_mem_cons, hzero, List.not_mem_nil,
      false_implies, implies_true, and_true, forall_const]
    omega
  | a :: b :: c :: d :: rest =>
    refine iff_of_true (ofBeBytes_four a b c d rest) (fun h => ?_)
    simp at h

/-! ### The flags -/

/-- A bit that the number has. -/
theorem flag_eq {raw : UInt32} {bit : UInt8} (h : bit < 32) :
    (raw >>> bit.toUInt32 &&& 1 == 1) = raw.toNat.testBit bit.toNat := by
  have hbit : bit.toNat < 32 := h
  have hshift : (raw >>> bit.toUInt32).toNat = raw.toNat / 2 ^ bit.toNat := by
    rw [UInt32.toNat_shiftRight, UInt8.toNat_toUInt32, Nat.mod_eq_of_lt hbit, Nat.shiftRight_eq_div_pow]
  have hlow : (raw >>> bit.toUInt32 &&& 1).toNat = raw.toNat / 2 ^ bit.toNat % 2 := by
    rw [UInt32.toNat_and, hshift]
    exact Nat.and_two_pow_sub_one_eq_mod _ 1
  rw [Nat.testBit_eq_decide_div_mod_eq, ← hlow, Bool.eq_iff_iff, beq_iff_eq, decide_eq_true_iff,
    ← UInt32.toNat_inj]
  rfl

/-- The flags are the bits of the number, if it has them all. -/
theorem flags_eq_iff (raw : UInt32) (bits : List (UInt8 × String)) :
    bitmaskFlags raw bits = some (bits.map fun (bit, name) => (name, raw.toNat.testBit bit.toNat)) ↔
      ∀ bit ∈ bits, bit.1 < 32 := by
  rw [bitmaskFlags, mapM_eq_map_iff]
  refine forall₂_congr fun bit _ => ?_
  obtain ⟨bit, name⟩ := bit
  by_cases hbit : bit < 32
  · simp [shiftRight, hbit, flag_eq hbit]
  · simp [shiftRight, hbit]

/-! ### The value -/

theorem decodeWithFormula_bitmask {epid : EnhancedPid} {bits : List (UInt8 × String)}
    (hformula : epid.formula = .bitmask bits) {data : List UInt8} (hdata : data ≠ []) :
    decodeWithFormula epid data =
      (bitmaskFlags (bitmaskRaw data) bits).map fun flags => .bitfield ⟨bitmaskRaw data, flags⟩ := by
  have hnonempty : ¬ data.isEmpty = true := by
    rw [List.isEmpty_iff]
    exact hdata
  rw [decodeWithFormula, if_neg hnonempty, hformula]
  exact (Option.map_eq_bind ..).symm

/-- **A bitmask is decoded exactly if its data is not three bytes, or nothing but zeros, and its
bits are below 32.** -/
theorem bitmask_exact_iff (spec : Option VehicleSpec) (did : UInt16) (module : ModuleId) (epid : EnhancedPid)
    (bits : List (UInt8 × String)) (data : List UInt8) (hfind : findEnhancedPid spec did module = some epid)
    (hformula : epid.formula = .bitmask bits) (hdata : data ≠ []) :
    BitmaskExact (decodeEnhancedValue spec did module data) bits data ↔
      (data.length = 3 → ∀ b ∈ data, b = 0) ∧ ∀ bit ∈ bits, bit.1 < 32 := by
  have hdecode : decodeEnhancedValue spec did module data = decodeWithFormula epid data := by
    rw [decodeEnhancedValue, hfind]
  rw [hdecode, decodeWithFormula_bitmask hformula hdata, ← bitmaskRaw_eq_iff hdata,
    ← flags_eq_iff (bitmaskRaw data)]
  constructor
  · intro hexact
    obtain ⟨raw, hraw, hvalue⟩ := hexact
    obtain ⟨flags, hflags, hsame⟩ := Option.map_eq_some_iff.mp hvalue
    cases hsame
    exact ⟨hraw, hflags⟩
  · intro hboth
    exact ⟨bitmaskRaw data, hboth.1, by rw [hboth.2]; rfl⟩

section Examples

/-- A specification with one bitmask. -/
def relaySpec (bits : List (UInt8 × String)) : VehicleSpec :=
  {communication := ⟨[]⟩, enhancedPids := [⟨0x22, 0x1940, .bitmask bits, "ecm", none⟩]}

/-- Two bytes, and a bit of each. -/
theorem bitmask_exact_relays :
    BitmaskExact (decodeEnhancedValue (some (relaySpec [(0, "A/C clutch"), (9, "Fan")])) 0x1940 ⟨"ecm"⟩ [0x02, 0x01])
      [(0, "A/C clutch"), (9, "Fan")] [0x02, 0x01] :=
  (bitmask_exact_iff _ _ _ _ _ _ rfl rfl (List.cons_ne_nil _ _)).mpr ⟨by decide, by decide⟩

/-- The last of three bytes is dropped, and bit 32 of any number is a shift that overflows. -/
theorem bitmask_misread :
    decodeEnhancedValue (some (relaySpec [])) 0x1940 ⟨"ecm"⟩ [0x01, 0x02, 0x03] =
        some (.bitfield ⟨0x0102, []⟩) ∧
      ¬ BitmaskExact (decodeEnhancedValue (some (relaySpec [])) 0x1940 ⟨"ecm"⟩ [0x01, 0x02, 0x03]) []
        [0x01, 0x02, 0x03] ∧
      decodeEnhancedValue (some (relaySpec [(32, "Fan")])) 0x1940 ⟨"ecm"⟩ [0x01] = none := by
  refine ⟨rfl, fun hexact => ?_, rfl⟩
  obtain ⟨raw, hraw, hvalue⟩ := hexact
  cases hvalue
  exact absurd hraw (by decide)

end Examples

end Obd2.Enhanced
