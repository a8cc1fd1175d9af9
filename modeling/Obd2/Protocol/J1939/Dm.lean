import Obd2.Byte
import Obd2.Error
import Obd2.Text

/-! J1939 diagnostic messages: trouble codes (DM1 and DM2), supported SPNs (DM24) and freeze frames
(DM25).

Trouble codes and SPN entries are four bytes each, and a payload is filled up with bytes that stand
for nothing. Freeze frames are as long as their first byte says. Indexing and slicing are checked
here as the language checks them: past the end there is no value. -/
namespace Obd2.J1939

/-- `[u8; 4]`. -/
structure FourBytes where
  b0 : UInt8
  b1 : UInt8
  b2 : UInt8
  b3 : UInt8
  deriving DecidableEq, Repr

def FourBytes.bytes (entry : FourBytes) : List UInt8 := [entry.b0, entry.b1, entry.b2, entry.b3]

/-- `chunks_exact(4)`: the chunks, and the remainder. -/
def chunksExact : List UInt8 → List FourBytes × List UInt8
  | b0 :: b1 :: b2 :: b3 :: rest => (⟨b0, b1, b2, b3⟩ :: (chunksExact rest).1, (chunksExact rest).2)
  | rest => ([], rest)

/-- `data[start..stop]`, which is not there unless the bounds are. -/
def slice? (data : List UInt8) (start stop : Nat) : Option (List UInt8) :=
  if start ≤ stop ∧ stop ≤ data.length then some ((data.drop start).take (stop - start)) else none

/-- Encodings one after the other; the first that fails is the failure of all. -/
def encodeAll {α : Type} (encode : α → Except Obd2Error (List UInt8)) :
    List α → Except Obd2Error (List UInt8)
  | [] => .ok []
  | a :: rest =>
    match encode a with
    | .error e => .error e
    | .ok bytes =>
      match encodeAll encode rest with
      | .error e => .error e
      | .ok others => .ok (bytes ++ others)

/-- The entries of a payload but those to skip; the first that fails is the failure of all. -/
def parseEntries {α : Type} (skip : FourBytes → Bool) (parse : FourBytes → Except Obd2Error α) :
    List FourBytes → Except Obd2Error (List α)
  | [] => .ok []
  | entry :: rest =>
    if skip entry then parseEntries skip parse rest
    else
      match parse entry with
      | .error e => .error e
      | .ok a =>
        match parseEntries skip parse rest with
        | .error e => .error e
        | .ok others => .ok (a :: others)

/-! ### SPNs -/

/-- Highest 19-bit Suspect Parameter Number value. -/
def maxSpn : UInt32 := 0x07FFFF

/-- A Suspect Parameter Number. -/
structure Spn where
  value : UInt32
  deriving DecidableEq, Repr

/-- SPN bits 0-15 are little-endian, bits 16-18 the upper bits of the third byte. -/
def spnOfBytes (b0 b1 b2 : UInt8) : UInt32 :=
  let spnLow := (u16FromBe b1 b0).toUInt32
  let spnHigh := ((b2 >>> 5) &&& 0x07).toUInt32
  spnLow ||| (spnHigh <<< 16)

/-- Four bytes of an SPN, five bits next to it and a last byte. -/
def spnEntry (spn : UInt32) (low last : UInt8) : FourBytes :=
  ⟨(spn &&& 0xFF).toUInt8, ((spn >>> 8) &&& 0xFF).toUInt8, ((spn >>> 16).toUInt8 <<< 5) ||| (low &&& 0x1F), last⟩

/-! ### Trouble codes -/

/-- A J1939 Diagnostic Trouble Code. -/
structure J1939Dtc where
  spn : UInt32
  fmi : UInt8
  occurrenceCount : UInt8
  conversionMethod : UInt8
  deriving DecidableEq, Repr

namespace J1939Dtc

def fromBytes (data : List UInt8) : Option J1939Dtc :=
  match data with
  | b0 :: b1 :: b2 :: b3 :: _ =>
    some
      { spn := spnOfBytes b0 b1 b2
        fmi := b2 &&& 0x1F
        conversionMethod := (b3 >>> 7) &&& 0x01
        occurrenceCount := b3 &&& 0x7F }
  | _ => none

def toBytes (dtc : J1939Dtc) : Except Obd2Error FourBytes :=
  if dtc.spn > maxSpn then
    .error (.parseError s!"SPN {dtc.spn} exceeds 19-bit J1939 range")
  else if dtc.fmi > 31 then
    .error (.parseError s!"FMI {dtc.fmi} exceeds 5-bit J1939 range")
  else if dtc.occurrenceCount > 127 then
    .error (.parseError s!"DTC occurrence count {dtc.occurrenceCount} exceeds 7-bit J1939 range")
  else if dtc.conversionMethod > 1 then
    .error (.parseError s!"DTC conversion method {dtc.conversionMethod} exceeds 1-bit J1939 range")
  else
    .ok (spnEntry dtc.spn dtc.fmi
      (((dtc.conversionMethod &&& 0x01) <<< 7) ||| (dtc.occurrenceCount &&& 0x7F)))

end J1939Dtc

/-! ### Lamps -/

/-- J1939 DM lamp on/off status. -/
inductive LampStatus where
  | off
  | on
  | reserved
  | notAvailable
  deriving DecidableEq, Repr

namespace LampStatus

def fromBits (bits : UInt8) : LampStatus :=
  match bits &&& 0x03 with
  | 0 => .off
  | 1 => .on
  | 2 => .reserved
  | _ => .notAvailable

def bits : LampStatus → UInt8
  | off => 0
  | on => 1
  | reserved => 2
  | notAvailable => 3

end LampStatus

/-- J1939 DM lamp flashing status. -/
inductive LampFlash where
  | slowFlash
  | fastFlash
  | reserved
  | notAvailable
  deriving DecidableEq, Repr

namespace LampFlash

def fromBits (bits : UInt8) : LampFlash :=
  match bits &&& 0x03 with
  | 0 => .slowFlash
  | 1 => .fastFlash
  | 2 => .reserved
  | _ => .notAvailable

def bits : LampFlash → UInt8
  | slowFlash => 0
  | fastFlash => 1
  | reserved => 2
  | notAvailable => 3

end LampFlash

/-- DM1/DM2 lamp bytes decoded into the four legislated lamps. -/
structure DmLampStatus where
  rawStatus : UInt8
  rawFlash : UInt8
  protect : LampStatus
  amberWarning : LampStatus
  redStop : LampStatus
  malfunctionIndicator : LampStatus
  protectFlash : LampFlash
  amberWarningFlash : LampFlash
  redStopFlash : LampFlash
  malfunctionIndicatorFlash : LampFlash
  deriving DecidableEq, Repr

namespace DmLampStatus

def parse (status flash : UInt8) : DmLampStatus :=
  { rawStatus := status
    rawFlash := flash
    protect := .fromBits status
    amberWarning := .fromBits (status >>> 2)
    redStop := .fromBits (status >>> 4)
    malfunctionIndicator := .fromBits (status >>> 6)
    protectFlash := .fromBits flash
    amberWarningFlash := .fromBits (flash >>> 2)
    redStopFlash := .fromBits (flash >>> 4)
    malfunctionIndicatorFlash := .fromBits (flash >>> 6) }

/-- Four two-bit fields in a byte. -/
def pack (x y z w : UInt8) : UInt8 := x ||| (y <<< 2) ||| (z <<< 4) ||| (w <<< 6)

def toBytes (lamps : DmLampStatus) : List UInt8 :=
  [pack lamps.protect.bits lamps.amberWarning.bits lamps.redStop.bits lamps.malfunctionIndicator.bits,
    pack lamps.protectFlash.bits lamps.amberWarningFlash.bits lamps.redStopFlash.bits
      lamps.malfunctionIndicatorFlash.bits]

end DmLampStatus

/-! ### DM1 and DM2 -/

/-- Parsed DM1 or DM2 diagnostic message. -/
structure DmDtcMessage where
  lamps : DmLampStatus
  dtcs : List J1939Dtc
  deriving DecidableEq, Repr

def isPaddingBytes (bytes : List UInt8) : Bool := bytes.all (· == 0xFF) || bytes.all (· == 0x00)

namespace DmDtcMessage

def toPayload (message : DmDtcMessage) : Except Obd2Error (List UInt8) :=
  (encodeAll (fun dtc : J1939Dtc => dtc.toBytes.map FourBytes.bytes) message.dtcs).map (message.lamps.toBytes ++ ·)

/-- A chunk of a DM1 or DM2 payload. -/
def parseDtc (label : String) (chunk : FourBytes) : Except Obd2Error J1939Dtc :=
  match J1939Dtc.fromBytes chunk.bytes with
  | some dtc => .ok dtc
  | none => .error (.parseError s!"{label} contains an invalid DTC chunk")

end DmDtcMessage

def parseDmDtcMessage (data : List UInt8) (label : String) : Except Obd2Error DmDtcMessage :=
  match data with
  | status :: flash :: rest =>
    let (chunks, remainder) := chunksExact rest
    if ¬ remainder.isEmpty ∧ ¬ isPaddingBytes remainder then
      .error (.parseError s!"{label} DTC payload has {remainder.length} trailing bytes")
    else
      (parseEntries (fun chunk => isPaddingBytes chunk.bytes) (DmDtcMessage.parseDtc label) chunks).map
        fun dtcs => ⟨.parse status flash, dtcs⟩
  | _ => .error (.parseError s!"{label} requires 2 lamp-status bytes, got {data.length}")

def parseDm1 (data : List UInt8) : Except Obd2Error DmDtcMessage := parseDmDtcMessage data "DM1"

def parseDm2 (data : List UInt8) : Except Obd2Error DmDtcMessage := parseDmDtcMessage data "DM2"

/-! ### DM24 -/

/-- One DM24 supported-SPN entry. -/
structure Dm24Entry where
  spn : Spn
  supportBits : UInt8
  dataLength : UInt8
  deriving DecidableEq, Repr

def Dm24Entry.toPayload (entry : Dm24Entry) : Except Obd2Error FourBytes :=
  if entry.spn.value > maxSpn then
    .error (.parseError s!"SPN {entry.spn.value} exceeds 19-bit J1939 range")
  else if entry.supportBits > 31 then
    let hex := String.ofList (Text.hexByte entry.supportBits)
    .error (.parseError s!"DM24 support bits 0x{hex} exceed 5-bit J1939 range")
  else
    .ok (spnEntry entry.spn.value entry.supportBits entry.dataLength)

/-- Parsed DM24 SPNs Supported message. -/
structure Dm24 where
  entries : List Dm24Entry
  deriving DecidableEq, Repr

def Dm24.toPayload (message : Dm24) : Except Obd2Error (List UInt8) :=
  encodeAll (fun entry : Dm24Entry => entry.toPayload.map FourBytes.bytes) message.entries

def parseDm24Entry (chunk : FourBytes) : Except Obd2Error Dm24Entry :=
  .ok ⟨⟨spnOfBytes chunk.b0 chunk.b1 chunk.b2⟩, chunk.b2 &&& 0x1F, chunk.b3⟩

def parseDm24 (data : List UInt8) : Except Obd2Error Dm24 :=
  let (chunks, remainder) := chunksExact data
  if ¬ remainder.isEmpty then
    .error (.parseError s!"DM24 payload length {data.length} is not divisible by 4")
  else
    (parseEntries (· == ⟨0xFF, 0xFF, 0xFF, 0xFF⟩) parseDm24Entry chunks).map Dm24.mk

def encodeDm24 (message : Dm24) : Except Obd2Error (List UInt8) := message.toPayload

/-! ### DM25 -/

/-- One DM25 expanded-freeze-frame block. -/
structure Dm25FreezeFrame where
  length : UInt8
  dtc : J1939Dtc
  data : List UInt8
  deriving DecidableEq, Repr

def Dm25FreezeFrame.toPayload (frame : Dm25FreezeFrame) : Except Obd2Error (List UInt8) :=
  let actualLen := 4 + frame.data.length
  if actualLen > 255 then
    .error (.parseError s!"DM25 freeze-frame data length {frame.data.length} exceeds 251 byte maximum")
  else if frame.length.toNat ≠ actualLen then
    .error (.parseError
      s!"DM25 freeze-frame length {frame.length} does not match DTC+data length {actualLen}")
  else
    frame.dtc.toBytes.map fun dtc => frame.length :: dtc.bytes ++ frame.data

/-- Parsed DM25 Expanded Freeze Frame message. -/
structure Dm25 where
  frames : List Dm25FreezeFrame
  deriving DecidableEq, Repr

def Dm25.toPayload (message : Dm25) : Except Obd2Error (List UInt8) :=
  encodeAll Dm25FreezeFrame.toPayload message.frames

/-- The loop from `offset` on; there is no result where it reads past the end. Offsets stay far below
the range of `usize`. -/
def parseDm25From (data : List UInt8) (offset : Nat) (frames : List Dm25FreezeFrame) :
    Option (Except Obd2Error Dm25) :=
  if offset < data.length then do
    let remaining ← slice? data offset data.length
    if remaining.all (· == 0xFF) then
      some (.ok ⟨frames⟩)
    else
      let first ← data[offset]?
      let length := first.toNat
      if length = 0 then
        some (.ok ⟨frames⟩)
      else if length < 4 then
        some (.error (.parseError s!"DM25 freeze-frame length {length} is too short for a DTC"))
      else
        let stop := offset + (1 + length)
        if stop > data.length then
          some (.error (.parseError s!"DM25 freeze-frame length {length} exceeds remaining payload"))
        else
          let code ← slice? data (offset + 1) (offset + 5)
          match J1939Dtc.fromBytes code with
          | none => some (.error (.parseError "DM25 freeze frame missing 4-byte DTC"))
          | some dtc =>
            let record ← slice? data (offset + 5) stop
            parseDm25From data stop (frames ++ [⟨first, dtc, record⟩])
  else
    some (.ok ⟨frames⟩)
termination_by data.length - offset

def parseDm25 (data : List UInt8) : Option (Except Obd2Error Dm25) := parseDm25From data 0 []

def encodeDm25 (message : Dm25) : Except Obd2Error (List UInt8) := message.toPayload

end Obd2.J1939
