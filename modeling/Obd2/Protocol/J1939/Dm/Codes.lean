import Obd2.Protocol.J1939.Dm.Entries

/-! DM1 and DM2 payloads, both ways.

A payload is two lamp bytes, entries of four bytes, and up to three bytes left over. `Fills` says
which bytes stand for nothing: all 0x00 or all 0xFF. A payload whose last bytes fill is accepted,
whatever its entries are, and encoded without those that fill and without the last bytes; a message
none of whose codes looks like filling is read back from its encoding (`dmDtc_exact`). -/
namespace Obd2.J1939

/-! ### Lamps -/

section Lamps
variable {x y z w : UInt8}

/-- Four numbers of two bits are read back from their byte. -/
theorem pack_fields (hx : x < 4) (hy : y < 4) (hz : z < 4) (hw : w < 4) :
    DmLampStatus.pack x y z w &&& 0x03 = x ∧ (DmLampStatus.pack x y z w >>> 2) &&& 0x03 = y ∧
      (DmLampStatus.pack x y z w >>> 4) &&& 0x03 = z ∧ (DmLampStatus.pack x y z w >>> 6) &&& 0x03 = w := by
  have hall : ∀ x y z w : Fin 4, ∀ packed, packed = DmLampStatus.pack (.ofNat x) (.ofNat y) (.ofNat z) (.ofNat w) →
      packed &&& 0x03 = .ofNat x ∧ (packed >>> 2) &&& 0x03 = .ofNat y ∧ (packed >>> 4) &&& 0x03 = .ofNat z ∧
        (packed >>> 6) &&& 0x03 = .ofNat w := by
    simp only [forall_eq]
    decide +kernel
  have := hall ⟨x.toNat, hx⟩ ⟨y.toNat, hy⟩ ⟨z.toNat, hz⟩ ⟨w.toNat, hw⟩ _ rfl
  simpa using this

end Lamps

theorem LampStatus.fromBits_eq {b : UInt8} {lamp : LampStatus} (h : b &&& 0x03 = lamp.bits) :
    LampStatus.fromBits b = lamp := by
  rw [LampStatus.fromBits, h]
  cases lamp <;> rfl

theorem LampFlash.fromBits_eq {b : UInt8} {flash : LampFlash} (h : b &&& 0x03 = flash.bits) :
    LampFlash.fromBits b = flash := by
  rw [LampFlash.fromBits, h]
  cases flash <;> rfl

theorem LampStatus.bits_lt (lamp : LampStatus) : lamp.bits < 4 := by cases lamp <;> decide

theorem LampFlash.bits_lt (flash : LampFlash) : flash.bits < 4 := by cases flash <;> decide

/-- The raw bytes are those of the lamps. -/
def DmLampStatus.Consistent (lamps : DmLampStatus) : Prop := lamps.toBytes = [lamps.rawStatus, lamps.rawFlash]

/-- The lamp bytes of a payload are encoded as they were. -/
theorem DmLampStatus.parse_consistent (status flash : UInt8) :
    (DmLampStatus.parse status flash).toBytes = [status, flash] := by
  have hstatus : pack (LampStatus.fromBits status).bits (LampStatus.fromBits (status >>> 2)).bits
      (LampStatus.fromBits (status >>> 4)).bits (LampStatus.fromBits (status >>> 6)).bits = status := by
    revert status
    exact forall_byte (by decide +kernel)
  have hflash : pack (LampFlash.fromBits flash).bits (LampFlash.fromBits (flash >>> 2)).bits
      (LampFlash.fromBits (flash >>> 4)).bits (LampFlash.fromBits (flash >>> 6)).bits = flash := by
    revert flash
    exact forall_byte (by decide +kernel)
  simp only [toBytes, parse, hstatus, hflash]

/-- Lamps whose raw bytes are theirs are read back from them. -/
theorem DmLampStatus.parse_of_consistent {lamps : DmLampStatus} (h : lamps.Consistent) :
    DmLampStatus.parse lamps.rawStatus lamps.rawFlash = lamps := by
  obtain ⟨hstatus, htail⟩ := List.cons.inj h
  obtain ⟨hflash, -⟩ := List.cons.inj htail
  obtain ⟨status, flash, protect, amber, red, mil, protectFlash, amberFlash, redFlash, milFlash⟩ := lamps
  dsimp only at hstatus hflash ⊢
  obtain ⟨h0, h1, h2, h3⟩ := pack_fields protect.bits_lt amber.bits_lt red.bits_lt mil.bits_lt
  obtain ⟨g0, g1, g2, g3⟩ :=
    pack_fields protectFlash.bits_lt amberFlash.bits_lt redFlash.bits_lt milFlash.bits_lt
  rw [hstatus] at h0 h1 h2 h3
  rw [hflash] at g0 g1 g2 g3
  rw [parse, LampStatus.fromBits_eq h0, LampStatus.fromBits_eq h1, LampStatus.fromBits_eq h2,
    LampStatus.fromBits_eq h3, LampFlash.fromBits_eq g0, LampFlash.fromBits_eq g1, LampFlash.fromBits_eq g2,
    LampFlash.fromBits_eq g3]

/-! ### Filling -/

/-- Bytes that stand for nothing. -/
def Fills (bytes : List UInt8) : Prop := (∀ b ∈ bytes, b = 0x00) ∨ ∀ b ∈ bytes, b = 0xFF

instance (bytes : List UInt8) : Decidable (Fills bytes) := inferInstanceAs (Decidable (_ ∨ _))

theorem isPaddingBytes_eq (bytes : List UInt8) : isPaddingBytes bytes = decide (Fills bytes) := by
  rw [Bool.eq_iff_iff, decide_eq_true_iff]
  simp [isPaddingBytes, Fills, or_comm]

/-- The entries of a payload that do not fill. -/
theorem kept_filling (entries : List FourBytes) :
    kept (fun chunk => isPaddingBytes chunk.bytes) entries = entries.filter fun entry => ¬ Fills entry.bytes := by
  rw [kept]
  congr 1
  funext entry
  rw [isPaddingBytes_eq]
  simp

/-! ### Messages -/

/-- A trouble code of a payload is its four bytes, under every label. -/
theorem dtcCodec (label : String) : EntryCodec (DmDtcMessage.parseDtc label) J1939Dtc.toBytes where
  parses entry := by
    obtain ⟨dtc, hparse, hencode⟩ := J1939Dtc.fromBytes_toBytes entry
    exact ⟨dtc, by rw [DmDtcMessage.parseDtc, hparse], hencode⟩
  encodes dtc entry h := by rw [DmDtcMessage.parseDtc, J1939Dtc.toBytes_fromBytes h]

section Messages
variable {label : String} {status flash : UInt8} {entries : List FourBytes} {trailing : List UInt8}

/-- How a payload with its parts apart is parsed. -/
theorem parseDmDtcMessage_parts (h : trailing.length < 4) :
    parseDmDtcMessage (status :: flash :: (entries.flatMap FourBytes.bytes ++ trailing)) label =
      if Fills trailing then
        (parseEntries (fun chunk => isPaddingBytes chunk.bytes) (DmDtcMessage.parseDtc label) entries).map
          fun dtcs => ⟨.parse status flash, dtcs⟩
      else .error (.parseError s!"{label} DTC payload has {trailing.length} trailing bytes") := by
  rw [parseDmDtcMessage, chunksExact_append entries h]
  by_cases hfills : Fills trailing
  · rw [if_pos hfills]
    simp [isPaddingBytes_eq, hfills]
  · have hne : trailing ≠ [] := by
      intro hnil
      exact hfills (.inl (by simp [hnil]))
    rw [if_neg hfills]
    simp [isPaddingBytes_eq, hfills, hne]

/-- A payload that is long enough is made of its parts. -/
theorem payload_parts {data : List UInt8} (h : 2 ≤ data.length) :
    ∃ (status flash : UInt8) (entries : List FourBytes) (trailing : List UInt8),
      data = status :: flash :: (entries.flatMap FourBytes.bytes ++ trailing) ∧ trailing.length < 4 ∧
        trailing = data.drop (data.length - (data.length - 2) % 4) := by
  match data with
  | status :: flash :: rest =>
    obtain ⟨hparts, hlength⟩ := chunksExact_spec rest
    refine ⟨status, flash, (chunksExact rest).1, (chunksExact rest).2, ?_, ?_, ?_⟩
    · rw [← hparts]
    · omega
    · have hdrop : (status :: flash :: rest).length - ((status :: flash :: rest).length - 2) % 4 =
          rest.length - rest.length % 4 + 2 := by
        simp only [List.length_cons]
        omega
      rw [chunksExact_remainder, hdrop]
      rfl

/-- What a payload says without its filling. -/
def withoutFilling (status flash : UInt8) (entries : List FourBytes) : List UInt8 :=
  status :: flash :: (entries.filter fun entry => ¬ Fills entry.bytes).flatMap FourBytes.bytes

/-- A payload whose last bytes fill is accepted, and encoded without its filling. -/
theorem parseDmDtcMessage_encode (hlength : trailing.length < 4) (hfills : Fills trailing) :
    ∃ message,
      parseDmDtcMessage (status :: flash :: (entries.flatMap FourBytes.bytes ++ trailing)) label = .ok message ∧
        message.toPayload = .ok (withoutFilling status flash entries) ∧
        parseDmDtcMessage (withoutFilling status flash entries) label = .ok message := by
  obtain ⟨dtcs, hparsed, hencoded⟩ :=
    @EntryCodec.parse_encode _ (fun chunk => isPaddingBytes chunk.bytes) _ _ (dtcCodec label) entries
  have hnone : Fills [] := .inl (by simp)
  refine ⟨⟨.parse status flash, dtcs⟩, ?_, ?_, ?_⟩
  · rw [parseDmDtcMessage_parts hlength, if_pos hfills, hparsed]
    rfl
  · rw [DmDtcMessage.toPayload, hencoded, DmLampStatus.parse_consistent, kept_filling]
    rfl
  · rw [withoutFilling, ← kept_filling, ← List.append_nil (List.flatMap ..),
      parseDmDtcMessage_parts (by decide), if_pos hnone, parseEntries_kept, hparsed]
    rfl

/-- A message whose codes are not taken for filling is read back. -/
theorem parseDmDtcMessage_toPayload {message : DmDtcMessage} {payload : List UInt8}
    (hpayload : message.toPayload = .ok payload) (hlamps : message.lamps.Consistent)
    (hcodes : ∀ dtc ∈ message.dtcs, ∀ entry, dtc.toBytes = .ok entry → ¬ Fills entry.bytes) :
    parseDmDtcMessage payload label = .ok message := by
  obtain ⟨bytes, hencoded, rfl⟩ := map_eq_ok hpayload
  have hkept : ∀ dtc ∈ message.dtcs, ∀ entry, dtc.toBytes = .ok entry → isPaddingBytes entry.bytes = false := by
    intro dtc hdtc entry hentry
    simp [isPaddingBytes_eq, hcodes dtc hdtc entry hentry]
  obtain ⟨entries, rfl, hparsed⟩ := (dtcCodec label).encode_parse hencoded hkept
  have hnone : Fills [] := .inl (by simp)
  rw [hlamps, ← List.append_nil (List.flatMap ..)]
  show parseDmDtcMessage (_ :: _ :: (entries.flatMap FourBytes.bytes ++ [])) label = _
  rw [parseDmDtcMessage_parts (by decide), if_pos hnone, hparsed, DmLampStatus.parse_of_consistent hlamps]
  rfl

end Messages

/-- **DM1 and DM2 are exact.** A payload is accepted exactly if it has the lamp bytes and what is left
over of its last entry fills; what is parsed is encoded as the payload without its filling, and
read back from that; and a message whose lamps agree with their raw bytes, none of whose codes fills,
is read back from its encoding. -/
theorem dmDtc_exact (label : String) :
    (∀ data, (∃ message, parseDmDtcMessage data label = .ok message) ↔
        2 ≤ data.length ∧ Fills (data.drop (data.length - (data.length - 2) % 4))) ∧
      (∀ data message, parseDmDtcMessage data label = .ok message →
        ∃ (status flash : UInt8) (entries : List FourBytes) (trailing : List UInt8),
          data = status :: flash :: (entries.flatMap FourBytes.bytes ++ trailing) ∧ trailing.length < 4 ∧
            message.toPayload = .ok (withoutFilling status flash entries) ∧
            parseDmDtcMessage (withoutFilling status flash entries) label = .ok message) ∧
      ∀ (message : DmDtcMessage) payload, message.toPayload = .ok payload → message.lamps.Consistent →
        (∀ dtc ∈ message.dtcs, ∀ entry, dtc.toBytes = .ok entry → ¬ Fills entry.bytes) →
          parseDmDtcMessage payload label = .ok message := by
  have haccepted : ∀ data message, parseDmDtcMessage data label = .ok message →
      2 ≤ data.length ∧ Fills (data.drop (data.length - (data.length - 2) % 4)) := by
    intro data message h
    have hlong : 2 ≤ data.length := by
      match data with
      | [] | [_] => nomatch h
      | _ :: _ :: _ => exact Nat.le_add_left ..
    obtain ⟨status, flash, entries, trailing, hdata, hshort, htrailing⟩ := payload_parts hlong
    refine ⟨hlong, ?_⟩
    rw [← htrailing]
    rw [hdata, parseDmDtcMessage_parts hshort] at h
    split at h
    · assumption
    · nomatch h
  refine ⟨fun data => ⟨?_, ?_⟩, ?_, ?_⟩
  · intro h
    obtain ⟨message, h⟩ := h
    exact haccepted data message h
  · intro h
    obtain ⟨status, flash, entries, trailing, hdata, hshort, htrailing⟩ := payload_parts h.1
    obtain ⟨message, hparsed, -⟩ := parseDmDtcMessage_encode hshort (htrailing ▸ h.2)
    exact ⟨message, hdata ▸ hparsed⟩
  · intro data message h
    obtain ⟨hlong, hfills⟩ := haccepted data message h
    obtain ⟨status, flash, entries, trailing, rfl, hshort, htrailing⟩ := payload_parts hlong
    obtain ⟨message', hparsed, hencoded, hagain⟩ := parseDmDtcMessage_encode hshort (htrailing ▸ hfills)
    obtain rfl := Except.ok.inj (hparsed.symm.trans h)
    exact ⟨status, flash, entries, trailing, rfl, hshort, hencoded, hagain⟩
  · intro message payload hpayload hlamps hcodes
    exact parseDmDtcMessage_toPayload hpayload hlamps hcodes

end Obd2.J1939
