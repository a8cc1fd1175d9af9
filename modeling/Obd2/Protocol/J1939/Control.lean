import Obd2.Protocol.J1939.Transport

/-! TP.CM control messages and acknowledgements, both ways.

A message is eight bytes: the control byte first, the PGN last, the lowest byte of a number before
the others. What a message has no field for is sent as 0xFF and not looked at when it is received,
so a payload is not read back from its message, but every message is from its payload, if it can be
told from the others (`IsCanonical`); and those that were received can be. -/
namespace Obd2.J1939

/-! ### Little-endian numbers -/

/-- `u16::from_le_bytes`. -/
def u16FromLe (low high : UInt8) : UInt16 := u16FromBe high low

/-- `u16::to_le_bytes`. -/
def u16ToLe (n : UInt16) : List UInt8 := (u16ToBe n).reverse

namespace Pgn

/-- Build a PGN from the 3-byte little-endian wire order used in Request/TP.CM data. -/
def fromLeBytes (b0 b1 b2 : UInt8) : Pgn := ⟨b0.toUInt32 ||| (b1.toUInt32 <<< 8) ||| (b2.toUInt32 <<< 16)⟩

def toLeBytes (pgn : Pgn) : List UInt8 :=
  [(pgn.value &&& 0xFF).toUInt8, ((pgn.value >>> 8) &&& 0xFF).toUInt8, ((pgn.value >>> 16) &&& 0xFF).toUInt8]

/-- Three bytes hold it. -/
def Fits (pgn : Pgn) : Prop := pgn.value < 0x1000000

end Pgn

theorem u16FromLe_toLe (n : UInt16) : ∃ low high, u16ToLe n = [low, high] ∧ u16FromLe low high = n := by
  obtain ⟨high, low, hbytes, hread⟩ := u16FromBe_toBe n
  exact ⟨low, high, by rw [u16ToLe, hbytes]; rfl, hread⟩

theorem Pgn.fromLeBytes_toNat (b0 b1 b2 : UInt8) :
    (fromLeBytes b0 b1 b2).value.toNat = b2.toNat * 65536 + b1.toNat * 256 + b0.toNat := by
  have h0 := b0.toNat_lt
  have h1 := b1.toNat_lt
  have h2 := b2.toNat_lt
  have hhigh : (b2.toUInt32 <<< 16).toNat = b2.toNat <<< 16 := by
    rw [UInt32.toNat_shiftLeft, UInt8.toNat_toUInt32, Nat.shiftLeft_eq, Nat.shiftLeft_eq]
    exact Nat.mod_eq_of_lt (show b2.toNat * 65536 < 4294967296 by omega)
  have hlow : b1.toNat <<< 8 ||| b0.toNat = b1.toNat * 256 + b0.toNat := shiftLeft_or h0
  rw [fromLeBytes, UInt32.toNat_or, UInt32.toNat_or, shiftLeft_eight, hhigh, UInt8.toNat_toUInt32,
    Nat.or_comm b0.toNat, hlow, Nat.or_comm, shiftLeft_or (by show _ < 65536; omega)]
  show _ * 65536 + _ = _
  omega

/-- What is read from three bytes fits in them. -/
theorem Pgn.fits_fromLeBytes (b0 b1 b2 : UInt8) : (fromLeBytes b0 b1 b2).Fits := by
  have h0 := b0.toNat_lt
  have h1 := b1.toNat_lt
  have h2 := b2.toNat_lt
  rw [Fits, UInt32.lt_iff_toNat_lt, fromLeBytes_toNat]
  show _ < 16777216
  omega

/-- What fits in three bytes is read from them. -/
theorem Pgn.fromLeBytes_toLe {pgn : Pgn} (h : pgn.Fits) :
    ∃ b0 b1 b2, pgn.toLeBytes = [b0, b1, b2] ∧ fromLeBytes b0 b1 b2 = pgn := by
  have hlt : pgn.value.toNat < 16777216 := UInt32.lt_iff_toNat_lt.mp h
  refine ⟨_, _, _, rfl, ?_⟩
  have hvalue : (fromLeBytes (pgn.value &&& 0xFF).toUInt8 ((pgn.value >>> 8) &&& 0xFF).toUInt8
      ((pgn.value >>> 16) &&& 0xFF).toUInt8).value = pgn.value := by
    apply UInt32.toNat_inj.mp
    rw [fromLeBytes_toNat, and_low_byte, and_low_byte, and_low_byte, shiftRight_eight, shiftRight_sixteen]
    omega
  exact congrArg Pgn.mk hvalue

/-! ### Acknowledgements -/

/-- J1939 acknowledgement control byte. -/
inductive AcknowledgementControl where
  | ack
  | negativeAck
  | accessDenied
  | cannotRespond
  | reserved (value : UInt8)
  deriving DecidableEq, Repr

namespace AcknowledgementControl

def fromByte (byte : UInt8) : AcknowledgementControl :=
  match byte with
  | 0 => .ack
  | 1 => .negativeAck
  | 2 => .accessDenied
  | 3 => .cannotRespond
  | other => .reserved other

def asByte : AcknowledgementControl → UInt8
  | ack => 0
  | negativeAck => 1
  | accessDenied => 2
  | cannotRespond => 3
  | reserved value => value

/-- A reserved byte is not one of those that have a name. -/
def IsCanonical : AcknowledgementControl → Prop
  | reserved value => value ∉ ([0, 1, 2, 3] : List UInt8)
  | _ => True

end AcknowledgementControl

/-- J1939 acknowledgement PGN payload. -/
structure Acknowledgement where
  control : AcknowledgementControl
  groupFunctionValue : UInt8
  addressAcknowledged : UInt8
  pgn : Pgn
  deriving DecidableEq, Repr

namespace Acknowledgement

def parse : List UInt8 → Except Obd2Error Acknowledgement
  | b0 :: b1 :: _ :: _ :: b4 :: b5 :: b6 :: b7 :: _ =>
    .ok ⟨.fromByte b0, b1, b4, .fromLeBytes b5 b6 b7⟩
  | payload => .error (.parseError s!"J1939 acknowledgement requires 8 bytes, got {payload.length}")

def toPayload (message : Acknowledgement) : List UInt8 :=
  [message.control.asByte, message.groupFunctionValue, 0xFF, 0xFF, message.addressAcknowledged] ++
    message.pgn.toLeBytes

/-- The control byte is told from those that have a name, and the PGN fits. -/
def IsCanonical (message : Acknowledgement) : Prop := message.control.IsCanonical ∧ message.pgn.Fits

end Acknowledgement

theorem AcknowledgementControl.fromByte_asByte {control : AcknowledgementControl} (h : control.IsCanonical) :
    fromByte control.asByte = control := by
  cases control with
  | reserved value =>
    have hvalue : value ∉ ([0, 1, 2, 3] : List UInt8) := h
    unfold fromByte asByte
    split <;> simp_all
  | _ => rfl

theorem AcknowledgementControl.isCanonical_fromByte (byte : UInt8) : (fromByte byte).IsCanonical := by
  unfold fromByte
  split <;> simp_all [IsCanonical]

/-- An acknowledgement is read back from its payload. -/
theorem Acknowledgement.parse_toPayload {message : Acknowledgement} (h : message.IsCanonical) :
    parse message.toPayload = .ok message := by
  obtain ⟨b0, b1, b2, hbytes, hread⟩ := Pgn.fromLeBytes_toLe h.2
  rw [toPayload, hbytes]
  show Except.ok (⟨.fromByte message.control.asByte, _, _, .fromLeBytes b0 b1 b2⟩ : Acknowledgement) = _
  rw [AcknowledgementControl.fromByte_asByte h.1, hread]

theorem Acknowledgement.isCanonical_of_parse {payload : List UInt8} {message : Acknowledgement}
    (h : parse payload = .ok message) : message.IsCanonical := by
  unfold parse at h
  split at h
  · cases h
    exact ⟨AcknowledgementControl.isCanonical_fromByte _, Pgn.fits_fromLeBytes ..⟩
  · cases h

/-! ### TP.CM -/

/-- The bytes of an unknown message. -/
theorem vector_seven (data : Vector UInt8 7) :
    ∃ b1 b2 b3 b4 b5 b6 b7, data = #v[b1, b2, b3, b4, b5, b6, b7] := by
  obtain ⟨⟨bytes⟩, hlength⟩ := data
  match bytes with
  | [b1, b2, b3, b4, b5, b6, b7] => exact ⟨b1, b2, b3, b4, b5, b6, b7, rfl⟩

namespace TpControlMessage

def rts : UInt8 := 0x10
def cts : UInt8 := 0x11
def eomAck : UInt8 := 0x13
def bam : UInt8 := 0x20
def abort : UInt8 := 0xFF

def parse : List UInt8 → Except Obd2Error TpControlMessage
  | b0 :: b1 :: b2 :: b3 :: b4 :: b5 :: b6 :: b7 :: _ =>
    let messageSize := u16FromLe b1 b2
    let pgn := Pgn.fromLeBytes b5 b6 b7
    if b0 = rts then .ok (.requestToSend messageSize b3 b4 pgn)
    else if b0 = cts then .ok (.clearToSend b1 b2 pgn)
    else if b0 = eomAck then .ok (.endOfMessageAck messageSize b3 pgn)
    else if b0 = bam then .ok (.broadcastAnnounce messageSize b3 pgn)
    else if b0 = abort then .ok (.connectionAbort b1 pgn)
    else .ok (.unknown b0 #v[b1, b2, b3, b4, b5, b6, b7])
  | payload => .error (.parseError s!"TP.CM payload requires 8 bytes, got {payload.length}")

def toPayload : TpControlMessage → List UInt8
  | requestToSend messageSize packets maxPacketsPerCts pgn =>
    rts :: (u16ToLe messageSize ++ [packets, maxPacketsPerCts] ++ pgn.toLeBytes)
  | clearToSend packetsToSend nextPacket pgn => [cts, packetsToSend, nextPacket, 0xFF, 0xFF] ++ pgn.toLeBytes
  | endOfMessageAck messageSize packets pgn =>
    eomAck :: (u16ToLe messageSize ++ [packets, 0xFF] ++ pgn.toLeBytes)
  | broadcastAnnounce messageSize packets pgn =>
    bam :: (u16ToLe messageSize ++ [packets, 0xFF] ++ pgn.toLeBytes)
  | connectionAbort reason pgn => [abort, reason, 0xFF, 0xFF, 0xFF] ++ pgn.toLeBytes
  | unknown control data => control :: data.toList

def pgn : TpControlMessage → Option Pgn
  | requestToSend _ _ _ pgn | clearToSend _ _ pgn | endOfMessageAck _ _ pgn | broadcastAnnounce _ _ pgn
  | connectionAbort _ pgn => some pgn
  | unknown _ _ => none

/-- The PGN fits, and an unknown control byte is not one of those that have a name. -/
def IsCanonical (message : TpControlMessage) : Prop :=
  (∀ pgn ∈ message.pgn, pgn.Fits) ∧
    ∀ control data, message = .unknown control data → control ∉ [rts, cts, eomAck, bam, abort]

/-- A message is read back from its payload. -/
theorem parse_toPayload {message : TpControlMessage} (h : message.IsCanonical) :
    parse message.toPayload = .ok message := by
  obtain ⟨hpgn, hcontrol⟩ := h
  cases message with
  | requestToSend messageSize packets maxPacketsPerCts pgn =>
    obtain ⟨low, high, hsize, hread⟩ := u16FromLe_toLe messageSize
    obtain ⟨b0, b1, b2, hbytes, hpgn⟩ := Pgn.fromLeBytes_toLe (hpgn pgn rfl)
    rw [toPayload, hsize, hbytes, ← hread, ← hpgn]
    rfl
  | clearToSend packetsToSend nextPacket pgn =>
    obtain ⟨b0, b1, b2, hbytes, hpgn⟩ := Pgn.fromLeBytes_toLe (hpgn pgn rfl)
    rw [toPayload, hbytes, ← hpgn]
    rfl
  | endOfMessageAck messageSize packets pgn =>
    obtain ⟨low, high, hsize, hread⟩ := u16FromLe_toLe messageSize
    obtain ⟨b0, b1, b2, hbytes, hpgn⟩ := Pgn.fromLeBytes_toLe (hpgn pgn rfl)
    rw [toPayload, hsize, hbytes, ← hread, ← hpgn]
    rfl
  | broadcastAnnounce messageSize packets pgn =>
    obtain ⟨low, high, hsize, hread⟩ := u16FromLe_toLe messageSize
    obtain ⟨b0, b1, b2, hbytes, hpgn⟩ := Pgn.fromLeBytes_toLe (hpgn pgn rfl)
    rw [toPayload, hsize, hbytes, ← hread, ← hpgn]
    rfl
  | connectionAbort reason pgn =>
    obtain ⟨b0, b1, b2, hbytes, hpgn⟩ := Pgn.fromLeBytes_toLe (hpgn pgn rfl)
    rw [toPayload, hbytes, ← hpgn]
    rfl
  | unknown control data =>
    obtain ⟨b1, b2, b3, b4, b5, b6, b7, rfl⟩ := vector_seven data
    have hother := hcontrol control _ rfl
    simp only [List.mem_cons, List.not_mem_nil, or_false, not_or] at hother
    obtain ⟨hrts, hcts, heom, hbam, habort⟩ := hother
    show parse [control, b1, b2, b3, b4, b5, b6, b7] = _
    rw [parse, if_neg hrts, if_neg hcts, if_neg heom, if_neg hbam, if_neg habort]

/-- What is received can be told from the others. -/
theorem isCanonical_of_parse {payload : List UInt8} {message : TpControlMessage}
    (h : parse payload = .ok message) : message.IsCanonical := by
  match payload with
  | b0 :: b1 :: b2 :: b3 :: b4 :: b5 :: b6 :: b7 :: rest =>
    have hfits := Pgn.fits_fromLeBytes b5 b6 b7
    have hnamed : ∀ named : TpControlMessage, named.pgn = some (.fromLeBytes b5 b6 b7) → named.IsCanonical := by
      intro named hpgn
      refine ⟨fun pgn hmem => ?_, fun control data hunknown => ?_⟩
      · rw [hpgn] at hmem
        cases hmem
        exact hfits
      · rw [hunknown] at hpgn
        cases hpgn
    rw [parse] at h
    split at h
    · cases h
      exact hnamed _ rfl
    next hrts =>
    split at h
    · cases h
      exact hnamed _ rfl
    next hcts =>
    split at h
    · cases h
      exact hnamed _ rfl
    next heom =>
    split at h
    · cases h
      exact hnamed _ rfl
    next hbam =>
    split at h
    · cases h
      exact hnamed _ rfl
    next habort =>
    cases h
    refine ⟨fun pgn hpgn => ?_, fun control data hsame => ?_⟩
    · cases hpgn
    · cases hsame
      simp [hrts, hcts, heom, hbam, habort]
  | [] | [_] | [_, _] | [_, _, _] | [_, _, _, _] | [_, _, _, _, _] | [_, _, _, _, _, _]
  | [_, _, _, _, _, _, _] => cases h

end TpControlMessage

/-- **TP.CM and acknowledgements round-trip.** Parsing what a received message is sent as gives the
message again; and so it does for every message whose PGN fits in three bytes and whose unknown or
reserved control byte is not that of another. -/
theorem control_roundTrip :
    (∀ payload message, TpControlMessage.parse payload = .ok message →
      TpControlMessage.parse message.toPayload = .ok message) ∧
    (∀ payload message, Acknowledgement.parse payload = .ok message →
      Acknowledgement.parse message.toPayload = .ok message) ∧
    (∀ message : TpControlMessage, message.IsCanonical →
      TpControlMessage.parse message.toPayload = .ok message) ∧
    ∀ message : Acknowledgement, message.IsCanonical → Acknowledgement.parse message.toPayload = .ok message :=
  ⟨fun _ _ h => TpControlMessage.parse_toPayload (TpControlMessage.isCanonical_of_parse h),
    fun _ _ h => Acknowledgement.parse_toPayload (Acknowledgement.isCanonical_of_parse h),
    fun _ h => TpControlMessage.parse_toPayload h, fun _ h => Acknowledgement.parse_toPayload h⟩

end Obd2.J1939
