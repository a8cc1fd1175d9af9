import Obd2.Protocol.J1939.Transport
import Obd2.Text

/-! The 29-bit identifiers of J1939.

An identifier is four numbers next to each other: the priority, ten bits of which the lower eight
are the PDU format, the PDU specific byte, and the source. Which of the middle ones belong to the
PGN depends on the format. `ofDigits` is the identifier of four numbers; encoding and decoding are
between it and `layout`. -/
namespace Obd2.J1939

/-- J1939 global destination address. -/
def globalAddress : UInt8 := 0xFF

/-- Maximum 18-bit J1939 Parameter Group Number value. -/
def maxPgn : UInt32 := 0x03FFFF

namespace Pgn

def pduFormat (pgn : Pgn) : UInt8 := ((pgn.value >>> 8) &&& 0xFF).toUInt8

/-- Destination-specific. -/
def isPdu1 (pgn : Pgn) : Bool := pgn.pduFormat < 240

/-- A PDU1 PGN does not include the destination address in its low byte. -/
def normalized (pgn : Pgn) : Pgn :=
  if pgn.isPdu1 then ⟨pgn.value &&& 0x03FF00⟩ else ⟨pgn.value &&& maxPgn⟩

def isValid (pgn : Pgn) : Bool := pgn.value ≤ maxPgn

end Pgn

/-- Parsed 29-bit J1939 CAN identifier. -/
structure J1939CanId where
  priority : UInt8
  pgn : Pgn
  source : UInt8
  destination : Option UInt8
  deriving DecidableEq, Repr

namespace J1939CanId

def new (priority : UInt8) (pgn : Pgn) (source : UInt8) (destination : Option UInt8) :
    Except Obd2Error J1939CanId :=
  if priority > 7 then
    .error (.parseError s!"J1939 priority {priority} exceeds 3-bit range")
  else if ¬ pgn.isValid then
    .error (.parseError s!"PGN {pgn.value} exceeds 18-bit J1939 range")
  else if pgn.isPdu1 ∧ destination.isNone then
    .error (.parseError s!"PDU1 PGN {pgn.value} requires a destination address")
  else
    .ok ⟨priority, pgn.normalized, source, destination⟩

def encode (id : J1939CanId) : UInt32 :=
  let pgn := id.pgn.normalized
  let ps := if pgn.isPdu1 then (id.destination.getD globalAddress).toUInt32 else pgn.value &&& 0xFF
  let rdpPf := pgn.value &&& 0x03FF00
  (id.priority.toUInt32 <<< 26) ||| (rdpPf <<< 8) ||| (ps <<< 8) ||| id.source.toUInt32

def decode (identifier : UInt32) : Except Obd2Error J1939CanId :=
  if identifier > 0x1FFFFFFF then
    let hex := String.ofList (Text.upperHex 8 identifier.toNat)
    .error (.parseError s!"CAN identifier 0x{hex} exceeds 29-bit J1939 range")
  else
    let priority := ((identifier >>> 26) &&& 0x07).toUInt8
    let source := (identifier &&& 0xFF).toUInt8
    let pf := ((identifier >>> 16) &&& 0xFF).toUInt8
    let ps := ((identifier >>> 8) &&& 0xFF).toUInt8
    let rawPgn := (identifier >>> 8) &&& maxPgn
    if pf < 240 then .ok ⟨priority, ⟨rawPgn &&& 0x03FF00⟩, source, some ps⟩
    else .ok ⟨priority, ⟨rawPgn⟩, source, none⟩

end J1939CanId

/-! ### The masks of a PGN as arithmetic -/

theorem and_maxPgn (x : UInt32) : (x &&& maxPgn).toNat = x.toNat % 262144 := by
  rw [UInt32.toNat_and]
  show x.toNat &&& 2 ^ 18 - 1 = _
  rw [Nat.and_two_pow_sub_one_eq_mod]

/-- The ten bits above the lowest eight. -/
theorem and_high_bits (x : UInt32) : (x &&& 0x03FF00).toNat = x.toNat / 256 % 1024 * 256 := by
  have hbits : x.toNat &&& (1023 <<< 8) = ((x.toNat >>> 8) &&& 1023) <<< 8 := by
    apply Nat.eq_of_testBit_eq
    intro i
    rw [Nat.testBit_and, Nat.testBit_shiftLeft, Nat.testBit_shiftLeft, Nat.testBit_and, Nat.testBit_shiftRight]
    by_cases hi : 8 ≤ i
    · rw [Nat.add_sub_cancel' hi]
      simp [hi]
    · simp [hi]
  have hmod : (x.toNat >>> 8) &&& 1023 = x.toNat / 256 % 1024 := by
    rw [Nat.shiftRight_eq_div_pow]
    exact Nat.and_two_pow_sub_one_eq_mod (x.toNat / 256) 10
  rw [UInt32.toNat_and]
  show x.toNat &&& (1023 <<< 8) = _
  rw [hbits, hmod, Nat.shiftLeft_eq]

theorem and_priority (x : UInt32) : (((x >>> 26) &&& 0x07).toUInt8).toNat = x.toNat / 67108864 % 8 := by
  have hshift : (x >>> 26).toNat = x.toNat / 67108864 := by
    rw [UInt32.toNat_shiftRight]
    exact Nat.shiftRight_eq_div_pow ..
  rw [UInt32.toNat_toUInt8, UInt32.toNat_and, hshift]
  show (x.toNat / 67108864 &&& 2 ^ 3 - 1) % 2 ^ 8 = _
  rw [Nat.and_two_pow_sub_one_eq_mod]
  omega

/-! ### Four numbers -/

/-- The identifier of a priority, ten bits, a PDU specific byte and a source. -/
def layout (priority format specific source : Nat) : Nat :=
  priority * 67108864 + format * 65536 + specific * 256 + source

/-- What the four numbers say. -/
def ofDigits (priority format specific source : Nat) : J1939CanId :=
  if format % 256 < 240 then
    ⟨.ofNat priority, ⟨.ofNat (format * 256)⟩, .ofNat source, some (.ofNat specific)⟩
  else
    ⟨.ofNat priority, ⟨.ofNat (format * 256 + specific)⟩, .ofNat source, none⟩

theorem isPdu1_iff (pgn : Pgn) : pgn.isPdu1 = true ↔ pgn.value.toNat / 256 % 256 < 240 := by
  rw [Pgn.isPdu1, Pgn.pduFormat, decide_eq_true_iff, UInt8.lt_iff_toNat_lt, and_low_byte, shiftRight_eight]
  rfl

theorem normalized_pdu1 {pgn : Pgn} (h : pgn.isPdu1 = true) :
    pgn.normalized.value.toNat = pgn.value.toNat / 256 % 1024 * 256 := by
  rw [Pgn.normalized, if_pos h, and_high_bits]

theorem normalized_pdu2 {pgn : Pgn} (h : ¬ pgn.isPdu1 = true) :
    pgn.normalized.value.toNat = pgn.value.toNat % 262144 := by
  rw [Pgn.normalized, if_neg h, and_maxPgn]

/-- The format decides what is part of the PGN, and is part of it. -/
theorem isPdu1_normalized (pgn : Pgn) : pgn.normalized.isPdu1 = pgn.isPdu1 := by
  rw [Bool.eq_iff_iff, isPdu1_iff]
  by_cases h : pgn.isPdu1 = true
  · rw [normalized_pdu1 h, isPdu1_iff]
    omega
  · rw [normalized_pdu2 h, isPdu1_iff]
    omega

/-- The four fields do not overlap. -/
theorem fields_toNat {priority source : UInt8} {rdpPf ps : UInt32} {format specific : Nat}
    (hpriority : priority.toNat < 8) (hformat : format < 1024) (hspecific : specific < 256)
    (hrdp : rdpPf.toNat = format * 256) (hps : ps.toNat = specific) :
    ((priority.toUInt32 <<< 26) ||| (rdpPf <<< 8) ||| (ps <<< 8) ||| source.toUInt32).toNat =
      layout priority.toNat format specific source.toNat := by
  have hsource := source.toNat_lt
  have hp : (priority.toUInt32 <<< 26).toNat = priority.toNat <<< 26 := by
    rw [UInt32.toNat_shiftLeft, UInt8.toNat_toUInt32, Nat.shiftLeft_eq, Nat.shiftLeft_eq]
    exact Nat.mod_eq_of_lt (show priority.toNat * 67108864 < 4294967296 by omega)
  have hf : (rdpPf <<< 8).toNat = format <<< 16 := by
    rw [UInt32.toNat_shiftLeft, hrdp, Nat.shiftLeft_eq, Nat.shiftLeft_eq]
    show format * 256 * 256 % 4294967296 = format * 65536
    omega
  have hs : (ps <<< 8).toNat = specific <<< 8 := by
    rw [UInt32.toNat_shiftLeft, hps, Nat.shiftLeft_eq, Nat.shiftLeft_eq]
    exact Nat.mod_eq_of_lt (show specific * 256 < 4294967296 by omega)
  rw [UInt32.toNat_or, UInt32.toNat_or, UInt32.toNat_or, hp, hf, hs, UInt8.toNat_toUInt32]
  have hhigh : priority.toNat <<< 26 ||| format <<< 16 = (priority.toNat * 1024 + format) <<< 16 := by
    have hlow : format <<< 16 < Nat.pow 2 26 := by
      rw [Nat.shiftLeft_eq]
      show format * 65536 < 67108864
      omega
    rw [shiftLeft_or hlow, Nat.shiftLeft_eq, Nat.shiftLeft_eq]
    show priority.toNat * 67108864 + format * 65536 = (priority.toNat * 1024 + format) * 65536
    omega
  have hmiddle : (priority.toNat * 1024 + format) <<< 16 ||| specific <<< 8 =
      ((priority.toNat * 1024 + format) * 256 + specific) <<< 8 := by
    have hlow : specific <<< 8 < Nat.pow 2 16 := by
      rw [Nat.shiftLeft_eq]
      show specific * 256 < 65536
      omega
    rw [shiftLeft_or hlow, Nat.shiftLeft_eq, Nat.shiftLeft_eq]
    show (priority.toNat * 1024 + format) * 65536 + specific * 256 =
      ((priority.toNat * 1024 + format) * 256 + specific) * 256
    omega
  rw [hhigh, hmiddle, shiftLeft_or hsource, layout]
  show ((priority.toNat * 1024 + format) * 256 + specific) * 256 + source.toNat = _
  omega

section Digits
variable {priority format specific source : Nat}

theorem decode_layout (hpriority : priority < 8) (hformat : format < 1024) (hspecific : specific < 256)
    (hsource : source < 256) {i : UInt32} (hi : i.toNat = layout priority format specific source) :
    J1939CanId.decode i = .ok (ofDigits priority format specific source) := by
  rw [layout] at hi
  have hmax : ¬ i > 0x1FFFFFFF := by
    rw [gt_iff_lt, UInt32.lt_iff_toNat_lt]
    show ¬ 536870911 < i.toNat
    omega
  have hp : ((i >>> 26) &&& 0x07).toUInt8 = .ofNat priority := by
    apply UInt8.toNat_inj.mp
    rw [and_priority, UInt8.toNat_ofNat']
    omega
  have hs : (i &&& 0xFF).toUInt8 = .ofNat source := by
    apply UInt8.toNat_inj.mp
    rw [and_low_byte, UInt8.toNat_ofNat']
    omega
  have hps : ((i >>> 8) &&& 0xFF).toUInt8 = .ofNat specific := by
    apply UInt8.toNat_inj.mp
    rw [and_low_byte, shiftRight_eight, UInt8.toNat_ofNat']
    omega
  have hpf : ((i >>> 16) &&& 0xFF).toUInt8 < 240 ↔ format % 256 < 240 := by
    rw [UInt8.lt_iff_toNat_lt, and_low_byte, shiftRight_sixteen]
    show _ < 240 ↔ _
    omega
  have hraw : ((i >>> 8) &&& maxPgn).toNat = format * 256 + specific := by
    rw [and_maxPgn, shiftRight_eight]
    omega
  rw [J1939CanId.decode, if_neg hmax, ofDigits, hp, hs, hps]
  by_cases hpdu1 : format % 256 < 240
  · have hpgn : (i >>> 8) &&& maxPgn &&& 0x03FF00 = .ofNat (format * 256) := by
      apply UInt32.toNat_inj.mp
      rw [and_high_bits, hraw, UInt32.toNat_ofNat']
      omega
    rw [if_pos (hpf.mpr hpdu1), if_pos hpdu1, hpgn]
  · have hpgn : (i >>> 8) &&& maxPgn = .ofNat (format * 256 + specific) := by
      apply UInt32.toNat_inj.mp
      rw [hraw, UInt32.toNat_ofNat']
      omega
    rw [if_neg (mt hpf.mp hpdu1), if_neg hpdu1, hpgn]

end Digits

/-- What is encoded: of the PGN the upper bits, and its low byte unless the destination takes the place
of it. -/
theorem encode_toNat {id : J1939CanId} (hpriority : id.priority.toNat < 8) :
    id.encode.toNat = layout id.priority.toNat (id.pgn.value.toNat / 256 % 1024)
      (if id.pgn.isPdu1 then (id.destination.getD globalAddress).toNat else id.pgn.value.toNat % 256)
      id.source.toNat := by
  have hformat : id.pgn.value.toNat / 256 % 1024 < 1024 := Nat.mod_lt _ (by decide)
  unfold J1939CanId.encode
  dsimp only
  rw [isPdu1_normalized]
  by_cases h : id.pgn.isPdu1 = true
  · have hrdp : (id.pgn.normalized.value &&& 0x03FF00).toNat = id.pgn.value.toNat / 256 % 1024 * 256 := by
      rw [and_high_bits, normalized_pdu1 h]
      omega
    rw [if_pos h, if_pos h]
    exact fields_toNat hpriority hformat (UInt8.toNat_lt _) hrdp (UInt8.toNat_toUInt32 _)
  · have hrdp : (id.pgn.normalized.value &&& 0x03FF00).toNat = id.pgn.value.toNat / 256 % 1024 * 256 := by
      rw [and_high_bits, normalized_pdu2 h]
      omega
    have hps : (id.pgn.normalized.value &&& 0xFF).toNat = id.pgn.value.toNat % 256 := by
      rw [UInt32.toNat_and, normalized_pdu2 h]
      show id.pgn.value.toNat % 262144 &&& 2 ^ 8 - 1 = _
      rw [Nat.and_two_pow_sub_one_eq_mod]
      omega
    rw [if_neg h, if_neg h]
    exact fields_toNat hpriority hformat (Nat.mod_lt _ (by decide)) hrdp hps

/-- An identifier is the one of its four numbers. -/
theorem encode_ofDigits {priority format specific source : Nat} (hpriority : priority < 8)
    (hformat : format < 1024) (hspecific : specific < 256) (hsource : source < 256) :
    (ofDigits priority format specific source).encode.toNat = layout priority format specific source := by
  have hbyte : ∀ n, n < 256 → (UInt8.ofNat n).toNat = n := fun n hn => Nat.mod_eq_of_lt hn
  have hword : ∀ n, n < 262144 → (UInt32.ofNat n).toNat = n := fun n hn => Nat.mod_eq_of_lt (by omega)
  have hp := hbyte priority (by omega)
  unfold ofDigits
  split
  · next hpdu1 =>
    have hvalue := hword (format * 256) (by omega)
    have hformat' : format * 256 / 256 % 1024 = format := by omega
    have h1 : (Pgn.mk (.ofNat (format * 256))).isPdu1 = true := by
      rw [isPdu1_iff, hvalue]
      omega
    rw [encode_toNat (Nat.lt_of_le_of_lt (Nat.le_of_eq hp) hpriority)]
    simp only [h1, if_true, Option.getD_some, hvalue, hformat', hp, hbyte specific hspecific, hbyte source hsource]
  · next hpdu2 =>
    have hvalue := hword (format * 256 + specific) (by omega)
    have hformat' : (format * 256 + specific) / 256 % 1024 = format := by omega
    have hspecific' : (format * 256 + specific) % 256 = specific := by omega
    have h2 : (Pgn.mk (.ofNat (format * 256 + specific))).isPdu1 = false := by
      rw [← Bool.not_eq_true, isPdu1_iff, hvalue]
      omega
    rw [encode_toNat (Nat.lt_of_le_of_lt (Nat.le_of_eq hp) hpriority)]
    simp only [h2, Bool.false_eq_true, if_false, hvalue, hformat', hspecific', hp, hbyte source hsource]

/-! ### Round trips -/

/-- What the constructor accepts, and what it makes of it. -/
theorem new_eq_ok {priority source : UInt8} {pgn : Pgn} {destination : Option UInt8} {id : J1939CanId}
    (h : J1939CanId.new priority pgn source destination = .ok id) :
    id = ⟨priority, pgn.normalized, source, destination⟩ ∧ priority.toNat < 8 ∧ pgn.value.toNat < 262144 ∧
      (pgn.isPdu1 = true → destination ≠ none) := by
  unfold J1939CanId.new at h
  split at h
  · cases h
  next hpriority =>
  split at h
  · cases h
  next hvalid =>
  split at h
  · cases h
  next hdestination =>
  cases h
  refine ⟨rfl, ?_, ?_, fun hpdu1 hnone => hdestination ⟨hpdu1, by rw [hnone]; rfl⟩⟩
  · have := UInt8.le_iff_toNat_le.mp (UInt8.not_lt.mp hpriority)
    exact Nat.lt_succ_of_le this
  · have hle : pgn.value ≤ maxPgn := of_decide_eq_true (Decidable.of_not_not hvalid)
    exact Nat.lt_succ_of_le (UInt32.le_iff_toNat_le.mp hle)

/-- What an accepted identifier is decoded to: itself, but for the destination of a PDU2 PGN. -/
theorem decode_encode {priority source : UInt8} {pgn : Pgn} {destination : Option UInt8}
    (hpriority : priority.toNat < 8) (hvalue : pgn.value.toNat < 262144)
    (hdestination : pgn.isPdu1 = true → destination ≠ none) :
    J1939CanId.decode (J1939CanId.mk priority pgn.normalized source destination).encode =
      .ok ⟨priority, pgn.normalized, source, if pgn.isPdu1 then destination else none⟩ := by
  have hencoded := @encode_toNat ⟨priority, pgn.normalized, source, destination⟩ hpriority
  rw [isPdu1_normalized] at hencoded
  dsimp only at hencoded
  have hformat : pgn.normalized.value.toNat / 256 % 1024 = pgn.value.toNat / 256 := by
    by_cases h : pgn.isPdu1 = true
    · rw [normalized_pdu1 h]
      omega
    · rw [normalized_pdu2 h]
      omega
  rw [hformat] at hencoded
  by_cases h : pgn.isPdu1 = true
  · obtain ⟨d, rfl⟩ := Option.ne_none_iff_exists'.mp (hdestination h)
    have hpgn : UInt32.ofNat (pgn.value.toNat / 256 * 256) = pgn.normalized.value := by
      apply UInt32.toNat_inj.mp
      rw [normalized_pdu1 h, UInt32.toNat_ofNat']
      omega
    rw [if_pos h] at hencoded ⊢
    rw [decode_layout hpriority (by omega) d.toNat_lt source.toNat_lt hencoded, ofDigits,
      if_pos ((isPdu1_iff pgn).mp h), hpgn, UInt8.ofNat_toNat, UInt8.ofNat_toNat, UInt8.ofNat_toNat]
  · have hlow : pgn.normalized.value.toNat % 256 = pgn.value.toNat % 256 := by
      rw [normalized_pdu2 h]
      omega
    have hpgn : UInt32.ofNat (pgn.value.toNat / 256 * 256 + pgn.value.toNat % 256) = pgn.normalized.value := by
      apply UInt32.toNat_inj.mp
      rw [normalized_pdu2 h, UInt32.toNat_ofNat']
      omega
    rw [if_neg h, hlow] at hencoded
    rw [if_neg h, decode_layout hpriority (by omega) (Nat.mod_lt _ (by decide)) source.toNat_lt hencoded, ofDigits,
      if_neg (mt (isPdu1_iff pgn).mpr h), hpgn, UInt8.ofNat_toNat, UInt8.ofNat_toNat]

/-- **Identifiers round-trip exactly if no destination is given to a PDU2 PGN**: what the constructor
accepts, and every 29-bit identifier the other way round. -/
theorem canId_roundTrip_iff (priority source : UInt8) (pgn : Pgn) (destination : Option UInt8) (id : J1939CanId)
    (i : UInt32) :
    (J1939CanId.new priority pgn source destination = .ok id →
      (J1939CanId.decode id.encode = .ok id ↔ pgn.isPdu1 = true ∨ destination = none)) ∧
    (i ≤ 0x1FFFFFFF → ∃ id, J1939CanId.decode i = .ok id ∧ id.encode = i) := by
  constructor
  · intro hnew
    obtain ⟨rfl, hpriority, hvalue, hdestination⟩ := new_eq_ok hnew
    rw [decode_encode hpriority hvalue hdestination, Except.ok.injEq, J1939CanId.mk.injEq]
    by_cases h : pgn.isPdu1 = true
    · simp [h]
    · simp [h, eq_comm]
  · intro hi
    have hlt : i.toNat < 536870912 := Nat.lt_succ_of_le (UInt32.le_iff_toNat_le.mp hi)
    have hdigits : i.toNat =
        layout (i.toNat / 67108864) (i.toNat / 65536 % 1024) (i.toNat / 256 % 256) (i.toNat % 256) := by
      rw [layout]
      omega
    have hpriority : i.toNat / 67108864 < 8 := by omega
    have hformat : i.toNat / 65536 % 1024 < 1024 := Nat.mod_lt _ (by decide)
    have hspecific : i.toNat / 256 % 256 < 256 := Nat.mod_lt _ (by decide)
    have hsource : i.toNat % 256 < 256 := Nat.mod_lt _ (by decide)
    refine ⟨_, decode_layout hpriority hformat hspecific hsource hdigits, ?_⟩
    apply UInt32.toNat_inj.mp
    rw [encode_ofDigits hpriority hformat hspecific hsource]
    exact hdigits.symm

/-- The identifier of an engine controller. -/
theorem canId_roundTrip_engine :
    J1939CanId.decode (J1939CanId.encode ⟨6, ⟨61444⟩, 0x00, none⟩) = .ok ⟨6, ⟨61444⟩, 0x00, none⟩ :=
  ((canId_roundTrip_iff 6 0x00 ⟨61444⟩ none ⟨6, ⟨61444⟩, 0x00, none⟩ 0).1 rfl).mpr (.inr rfl)

/-- DM1 to one address is an identifier, and is decoded to DM1 to all. -/
theorem pdu2_destination_lost :
    J1939CanId.new 6 ⟨65226⟩ 0x00 (some 0x21) = .ok ⟨6, ⟨65226⟩, 0x00, some 0x21⟩ ∧
      J1939CanId.decode (J1939CanId.encode ⟨6, ⟨65226⟩, 0x00, some 0x21⟩) = .ok ⟨6, ⟨65226⟩, 0x00, none⟩ :=
  ⟨rfl, rfl⟩

end Obd2.J1939
