import Obd2.Protocol.J1939.Dm

/-! Payloads made of four-byte entries.

An entry holds an SPN of nineteen bits, five bits next to it and a last byte; trouble codes and
supported SPNs are read from it and written to it without loss (`EntryCodec`). A list of entries is
parsed but for those to skip, and what is parsed is encoded as the entries that were kept. -/
namespace Obd2.J1939

@[simp] theorem FourBytes.length_bytes (entry : FourBytes) : entry.bytes.length = 4 := rfl

/-! ### The bits of an entry -/

theorem and_five_bits (b : UInt8) : (b &&& 0x1F).toNat = b.toNat % 32 := by
  revert b
  exact forall_byte (by decide +kernel)

/-- Bits next to five others. -/
theorem five_bits_below (high low : UInt8) :
    ((high <<< 5) ||| (low &&& 0x1F)).toNat = high.toNat % 8 * 32 + low.toNat % 32 := by
  have hhigh : (high <<< 5).toNat = (high.toNat % 8) <<< 5 := by
    revert high
    exact forall_byte (by decide +kernel)
  rw [UInt8.toNat_or, hhigh, and_five_bits, shiftLeft_or (by show _ < 32; omega)]

theorem seven_bits_below (high low : UInt8) :
    (((high &&& 0x01) <<< 7) ||| (low &&& 0x7F)).toNat = high.toNat % 2 * 128 + low.toNat % 128 := by
  have hhigh : ((high &&& 0x01) <<< 7).toNat = (high.toNat % 2) <<< 7 := by
    revert high
    exact forall_byte (by decide +kernel)
  have hlow : (low &&& 0x7F).toNat = low.toNat % 128 := by
    revert low
    exact forall_byte (by decide +kernel)
  rw [UInt8.toNat_or, hhigh, hlow, shiftLeft_or (by show _ < 128; omega)]

theorem spnOfBytes_toNat (b0 b1 b2 : UInt8) :
    (spnOfBytes b0 b1 b2).toNat = b2.toNat / 32 * 65536 + b1.toNat * 256 + b0.toNat := by
  have h0 := b0.toNat_lt
  have h1 := b1.toNat_lt
  have h2 := b2.toNat_lt
  have hlow : (u16FromBe b1 b0).toUInt32.toNat = b1.toNat * 256 + b0.toNat := by
    show UInt16.toNat (u16FromBe b1 b0) = _
    rw [u16FromBe, UInt16.toNat_ofNat_of_lt' (by show (0 * 256 + b1.toNat) * 256 + b0.toNat < 65536; omega)]
    show (0 * 256 + b1.toNat) * 256 + b0.toNat = _
    omega
  have hhigh : ((b2 >>> 5) &&& 0x07).toUInt32.toNat = b2.toNat / 32 := by
    revert b2
    exact forall_byte (by decide +kernel)
  have hshift : (((b2 >>> 5) &&& 0x07).toUInt32 <<< 16).toNat = (b2.toNat / 32) <<< 16 := by
    rw [UInt32.toNat_shiftLeft, hhigh]
    show _ <<< 16 % 4294967296 = _
    rw [Nat.mod_eq_of_lt]
    rw [Nat.shiftLeft_eq]
    omega
  rw [spnOfBytes, UInt32.toNat_or, hlow, hshift, Nat.or_comm, shiftLeft_or (by show _ < 65536; omega)]
  show _ * 65536 + _ = _
  omega

/-- Every three bytes hold an SPN of the 19-bit range. -/
theorem spnOfBytes_le (b0 b1 b2 : UInt8) : ¬ spnOfBytes b0 b1 b2 > maxSpn := by
  have h0 := b0.toNat_lt
  have h1 := b1.toNat_lt
  have h2 := b2.toNat_lt
  rw [gt_iff_lt, UInt32.lt_iff_toNat_lt, spnOfBytes_toNat]
  show ¬ 524287 < _
  omega

/-- The bytes of an SPN are those it was read from. -/
theorem spnEntry_ofBytes (b0 b1 b2 last : UInt8) :
    spnEntry (spnOfBytes b0 b1 b2) (b2 &&& 0x1F) last = ⟨b0, b1, b2, last⟩ := by
  have h0 := b0.toNat_lt
  have h1 := b1.toNat_lt
  have h2 := b2.toNat_lt
  have hspn := spnOfBytes_toNat b0 b1 b2
  have hb0 : (spnOfBytes b0 b1 b2 &&& 0xFF).toUInt8 = b0 := by
    apply UInt8.toNat_inj.mp
    rw [and_low_byte, hspn]
    omega
  have hb1 : ((spnOfBytes b0 b1 b2 >>> 8) &&& 0xFF).toUInt8 = b1 := by
    apply UInt8.toNat_inj.mp
    rw [and_low_byte, shiftRight_eight, hspn]
    omega
  have hb2 : ((spnOfBytes b0 b1 b2 >>> 16).toUInt8 <<< 5) ||| ((b2 &&& 0x1F) &&& 0x1F) = b2 := by
    apply UInt8.toNat_inj.mp
    rw [five_bits_below, UInt32.toNat_toUInt8, shiftRight_sixteen, and_five_bits, hspn]
    omega
  rw [spnEntry, hb0, hb1, hb2]

section Entry
variable {spn : UInt32} {low last : UInt8}

/-- The bytes of an entry as numbers. -/
theorem spnEntry_toNat :
    (spnEntry spn low last).b0.toNat = spn.toNat % 256 ∧
      (spnEntry spn low last).b1.toNat = spn.toNat / 256 % 256 ∧
      (spnEntry spn low last).b2.toNat = spn.toNat / 65536 % 8 * 32 + low.toNat % 32 := by
  refine ⟨and_low_byte spn, ?_, ?_⟩
  · rw [spnEntry, and_low_byte, shiftRight_eight]
  · rw [spnEntry, five_bits_below, UInt32.toNat_toUInt8, shiftRight_sixteen]
    omega

/-- An SPN of the 19-bit range is read from its bytes. -/
theorem spnOfBytes_entry (h : ¬ spn > maxSpn) :
    spnOfBytes (spnEntry spn low last).b0 (spnEntry spn low last).b1 (spnEntry spn low last).b2 = spn := by
  have hle : ¬ 524287 < spn.toNat := h
  obtain ⟨h0, h1, h2⟩ := @spnEntry_toNat spn low last
  apply UInt32.toNat_inj.mp
  rw [spnOfBytes_toNat, h0, h1, h2]
  omega

theorem spnEntry_low (h : ¬ low > 31) : (spnEntry spn low last).b2 &&& 0x1F = low := by
  have hle : ¬ 31 < low.toNat := h
  apply UInt8.toNat_inj.mp
  rw [and_five_bits, spnEntry_toNat.2.2]
  omega

end Entry

/-! ### Chunks of four -/

theorem chunksExact_append (entries : List FourBytes) {rest : List UInt8} (h : rest.length < 4) :
    chunksExact (entries.flatMap FourBytes.bytes ++ rest) = (entries, rest) := by
  induction entries with
  | nil =>
    match rest with
    | [] | [_] | [_, _] | [_, _, _] => rfl
    | _ :: _ :: _ :: _ :: _ => simp at h; omega
  | cons entry entries ih =>
    show chunksExact (entry.b0 :: entry.b1 :: entry.b2 :: entry.b3 ::
      (entries.flatMap FourBytes.bytes ++ rest)) = _
    rw [chunksExact, ih]

/-- The chunks and the remainder make up the payload, the remainder being shorter than a chunk. -/
theorem chunksExact_spec (data : List UInt8) :
    data = (chunksExact data).1.flatMap FourBytes.bytes ++ (chunksExact data).2 ∧
      (chunksExact data).2.length = data.length % 4 := by
  fun_induction chunksExact data with
  | case1 b0 b1 b2 b3 rest ih =>
    obtain ⟨hparts, hlength⟩ := ih
    constructor
    · exact congrArg (fun rest => b0 :: b1 :: b2 :: b3 :: rest) hparts
    · simp only [List.length_cons, hlength]
      omega
  | case2 rest hshort =>
    refine ⟨rfl, ?_⟩
    match rest with
    | [] | [_] | [_, _] | [_, _, _] => rfl
    | b0 :: b1 :: b2 :: b3 :: rest => exact absurd rfl (hshort b0 b1 b2 b3 rest)

theorem chunksExact_remainder (data : List UInt8) :
    (chunksExact data).2 = data.drop (data.length - data.length % 4) := by
  obtain ⟨hparts, hlength⟩ := chunksExact_spec data
  have hfront : ((chunksExact data).1.flatMap FourBytes.bytes).length = data.length - data.length % 4 := by
    have hall := congrArg List.length hparts
    rw [List.length_append] at hall
    omega
  rw [← hfront]
  conv => rhs; arg 2; rw [hparts]
  exact List.drop_left.symm

/-! ### Encodings one after the other -/

/-- What a mapped result was mapped from. -/
theorem map_eq_ok {α β : Type} {f : α → β} {x : Except Obd2Error α} {b : β} (h : x.map f = .ok b) :
    ∃ a, x = .ok a ∧ f a = b := by
  cases x with
  | error e => nomatch h
  | ok a => exact ⟨a, rfl, Except.ok.inj h⟩

section Encodings
variable {α : Type} {encode : α → Except Obd2Error (List UInt8)} {a : α} {as : List α}

theorem encodeAll_cons {bytes others : List UInt8} (ha : encode a = .ok bytes)
    (has : encodeAll encode as = .ok others) : encodeAll encode (a :: as) = .ok (bytes ++ others) := by
  rw [encodeAll, ha, has]

theorem encodeAll_cons_inv {payload : List UInt8} (h : encodeAll encode (a :: as) = .ok payload) :
    ∃ bytes others, encode a = .ok bytes ∧ encodeAll encode as = .ok others ∧ payload = bytes ++ others := by
  rw [encodeAll] at h
  split at h
  · nomatch h
  · next bytes ha =>
    split at h
    · nomatch h
    · next others has => exact ⟨bytes, others, ha, has, (Except.ok.inj h).symm⟩

end Encodings

/-! ### Lists of entries -/

/-- Every entry is parsed to what is encoded as it, and what can be encoded is parsed back. -/
structure EntryCodec {α : Type} (parse : FourBytes → Except Obd2Error α)
    (encode : α → Except Obd2Error FourBytes) : Prop where
  parses : ∀ entry, ∃ a, parse entry = .ok a ∧ encode a = .ok entry
  encodes : ∀ a entry, encode a = .ok entry → parse entry = .ok a

section Entries
variable {α : Type} {skip : FourBytes → Bool} {parse : FourBytes → Except Obd2Error α}
  {encode : α → Except Obd2Error FourBytes}

/-- The entries that are not skipped. -/
def kept (skip : FourBytes → Bool) (entries : List FourBytes) : List FourBytes :=
  entries.filter fun entry => ! skip entry

/-- Skipped entries leave no trace. -/
theorem parseEntries_kept (entries : List FourBytes) :
    parseEntries skip parse (kept skip entries) = parseEntries skip parse entries := by
  induction entries with
  | nil => rfl
  | cons entry rest ih =>
    cases hskip : skip entry with
    | true =>
      have hkept : kept skip (entry :: rest) = kept skip rest := by simp [kept, hskip]
      rw [hkept, ih, parseEntries, hskip, if_pos rfl]
    | false =>
      have hkept : kept skip (entry :: rest) = entry :: kept skip rest := by simp [kept, hskip]
      rw [hkept, parseEntries, parseEntries, ih]

/-- Entries are always parsed, and encoded as what was kept of them. -/
theorem EntryCodec.parse_encode (h : EntryCodec parse encode) (entries : List FourBytes) :
    ∃ as, parseEntries skip parse entries = .ok as ∧
      encodeAll (fun a => (encode a).map FourBytes.bytes) as =
        .ok ((kept skip entries).flatMap FourBytes.bytes) := by
  induction entries with
  | nil => exact ⟨[], rfl, rfl⟩
  | cons entry rest ih =>
    obtain ⟨as, hparsed, hencoded⟩ := ih
    cases hskip : skip entry with
    | true =>
      have hkept : kept skip (entry :: rest) = kept skip rest := by simp [kept, hskip]
      refine ⟨as, ?_, ?_⟩
      · rw [parseEntries, hskip, if_pos rfl, hparsed]
      · rw [hkept, hencoded]
    | false =>
      have hkept : kept skip (entry :: rest) = entry :: kept skip rest := by simp [kept, hskip]
      obtain ⟨a, hparse, hencode⟩ := h.parses entry
      refine ⟨a :: as, ?_, ?_⟩
      · simp [parseEntries, hskip, hparse, hparsed]
      · rw [hkept, List.flatMap_cons]
        apply encodeAll_cons _ hencoded
        rw [hencode]
        rfl

/-- What was encoded is parsed back, if nothing of it is to be skipped. -/
theorem EntryCodec.encode_parse (h : EntryCodec parse encode) {as : List α} {payload : List UInt8}
    (hpayload : encodeAll (fun a => (encode a).map FourBytes.bytes) as = .ok payload)
    (hkept : ∀ a ∈ as, ∀ entry, encode a = .ok entry → skip entry = false) :
    ∃ entries, payload = entries.flatMap FourBytes.bytes ∧ parseEntries skip parse entries = .ok as := by
  induction as generalizing payload with
  | nil => exact ⟨[], (Except.ok.inj hpayload).symm, rfl⟩
  | cons a as ih =>
    obtain ⟨bytes, others, ha, hothers, rfl⟩ := encodeAll_cons_inv hpayload
    obtain ⟨entry, hencode, rfl⟩ := map_eq_ok ha
    obtain ⟨entries, rfl, hparsed⟩ := ih hothers fun a ha => hkept a (List.mem_cons_of_mem _ ha)
    have hskip := hkept a (List.mem_cons_self ..) entry hencode
    exact ⟨entry :: entries, rfl, by simp [parseEntries, hskip, h.encodes a entry hencode, hparsed]⟩

end Entries

/-! ### Trouble codes and supported SPNs -/

/-- The bits of the last byte of a trouble code. -/
theorem last_byte (b : UInt8) :
    ¬ b &&& 0x7F > 127 ∧ ¬ (b >>> 7) &&& 0x01 > 1 ∧
      ((((b >>> 7) &&& 0x01) &&& 0x01) <<< 7) ||| ((b &&& 0x7F) &&& 0x7F) = b := by
  revert b
  exact forall_byte (by decide +kernel)

theorem last_byte_toNat (b : UInt8) :
    ((b >>> 7) &&& 0x01).toNat = b.toNat / 128 ∧ (b &&& 0x7F).toNat = b.toNat % 128 := by
  revert b
  exact forall_byte (by decide +kernel)

/-- A trouble code is its four bytes. -/
theorem J1939Dtc.fromBytes_toBytes (chunk : FourBytes) :
    ∃ dtc, J1939Dtc.fromBytes chunk.bytes = some dtc ∧ dtc.toBytes = .ok chunk := by
  refine ⟨_, rfl, ?_⟩
  have hfmi : ¬ chunk.b2 &&& 0x1F > 31 := by
    rw [gt_iff_lt, UInt8.lt_iff_toNat_lt, and_five_bits]
    show ¬ 31 < _
    omega
  obtain ⟨hcount, hmethod, hlast⟩ := last_byte chunk.b3
  rw [J1939Dtc.toBytes, if_neg (spnOfBytes_le _ _ _), if_neg hfmi, if_neg hcount, if_neg hmethod, hlast,
    spnEntry_ofBytes]

/-- What can be encoded, and as what. -/
theorem J1939Dtc.toBytes_eq_ok {dtc : J1939Dtc} {chunk : FourBytes} (h : dtc.toBytes = .ok chunk) :
    ¬ dtc.spn > maxSpn ∧ ¬ dtc.fmi > 31 ∧ ¬ dtc.occurrenceCount > 127 ∧ ¬ dtc.conversionMethod > 1 ∧
      chunk = spnEntry dtc.spn dtc.fmi
        (((dtc.conversionMethod &&& 0x01) <<< 7) ||| (dtc.occurrenceCount &&& 0x7F)) := by
  rw [J1939Dtc.toBytes] at h
  by_cases hspn : dtc.spn > maxSpn
  · simp [hspn] at h
  by_cases hfmi : dtc.fmi > 31
  · simp [hspn, hfmi] at h
  by_cases hcount : dtc.occurrenceCount > 127
  · simp [hspn, hfmi, hcount] at h
  by_cases hmethod : dtc.conversionMethod > 1
  · simp [hspn, hfmi, hcount, hmethod] at h
  rw [if_neg hspn, if_neg hfmi, if_neg hcount, if_neg hmethod] at h
  exact ⟨hspn, hfmi, hcount, hmethod, (Except.ok.inj h).symm⟩

/-- Two numbers of one and seven bits are read back from their byte. -/
theorem last_byte_fields {method count : UInt8} (hmethod : ¬ method > 1) (hcount : ¬ count > 127) {last : UInt8}
    (h : last = ((method &&& 0x01) <<< 7) ||| (count &&& 0x7F)) :
    (last >>> 7) &&& 0x01 = method ∧ last &&& 0x7F = count := by
  have hmethod : ¬ 1 < method.toNat := hmethod
  have hcount : ¬ 127 < count.toNat := hcount
  have hlast : last.toNat = method.toNat % 2 * 128 + count.toNat % 128 := by rw [h, seven_bits_below]
  obtain ⟨hhigh, hlow⟩ := last_byte_toNat last
  constructor
  · apply UInt8.toNat_inj.mp
    rw [hhigh, hlast]
    omega
  · apply UInt8.toNat_inj.mp
    rw [hlow, hlast]
    omega

/-- A trouble code is read back from its bytes. -/
theorem J1939Dtc.toBytes_fromBytes {dtc : J1939Dtc} {chunk : FourBytes} (h : dtc.toBytes = .ok chunk) :
    J1939Dtc.fromBytes chunk.bytes = some dtc := by
  obtain ⟨hspn, hfmi, hcount, hmethod, rfl⟩ := J1939Dtc.toBytes_eq_ok h
  obtain ⟨spn, fmi, count, method⟩ := dtc
  let last := ((method &&& 0x01) <<< 7) ||| (count &&& 0x7F)
  obtain ⟨hhigh, hlow⟩ : (last >>> 7) &&& 0x01 = method ∧ last &&& 0x7F = count := last_byte_fields hmethod hcount rfl
  show some (J1939Dtc.mk (spnOfBytes _ _ _) ((spnEntry spn fmi last).b2 &&& 0x1F) (last &&& 0x7F)
    ((last >>> 7) &&& 0x01)) = _
  rw [spnOfBytes_entry hspn, spnEntry_low hfmi, hhigh, hlow]

/-- A DM24 entry is its four bytes. -/
theorem parseDm24Entry_toPayload (chunk : FourBytes) :
    ∃ entry, parseDm24Entry chunk = .ok entry ∧ entry.toPayload = .ok chunk := by
  refine ⟨_, rfl, ?_⟩
  have hbits : ¬ chunk.b2 &&& 0x1F > 31 := by
    rw [gt_iff_lt, UInt8.lt_iff_toNat_lt, and_five_bits]
    show ¬ 31 < _
    omega
  rw [Dm24Entry.toPayload, if_neg (spnOfBytes_le _ _ _), if_neg hbits, spnEntry_ofBytes]

theorem Dm24Entry.toPayload_parse {entry : Dm24Entry} {chunk : FourBytes} (h : entry.toPayload = .ok chunk) :
    parseDm24Entry chunk = .ok entry := by
  rw [Dm24Entry.toPayload] at h
  split at h
  · nomatch h
  · next hspn =>
    split at h
    · nomatch h
    · next hbits =>
      obtain rfl := Except.ok.inj h
      rw [parseDm24Entry, spnOfBytes_entry hspn, spnEntry_low hbits]
      rfl

end Obd2.J1939
