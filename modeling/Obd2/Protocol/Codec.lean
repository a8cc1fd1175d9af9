import Obd2.Protocol.Hex

/-! Framing of the bus families, as the adapter prints frames with headers on. -/
namespace Obd2.Codec
open Hex

inductive BusFamily where
  | can
  | j1850
  | iso9141
  | kwp2000
  deriving DecidableEq, Repr

inductive CanFrameKind where
  | single
  | first
  | consecutive
  | flowControl
  deriving DecidableEq, Repr

structure CanFrame where
  identifier : UInt32
  source : Option UInt32
  target : Option UInt32
  kind : CanFrameKind
  payload : List UInt8
  declaredLength : Option Nat
  deriving DecidableEq, Repr

structure J1850Frame where
  priority : UInt8
  target : UInt8
  source : UInt8
  payload : List UInt8
  checksum : Option UInt8
  deriving DecidableEq, Repr

structure IsoKLineFrame where
  format : UInt8
  target : UInt8
  source : UInt8
  payload : List UInt8
  checksum : UInt8
  checksumValid : Bool
  deriving DecidableEq, Repr

/-- The digits of a number below 2^32; more than that is an overflow. -/
def digitsToUInt32 : UInt64 → List UInt8 → Option UInt32
  | value, [] => some value.toUInt32
  | value, digit :: rest =>
    match hexNibble digit with
    | none => none
    | some nibble =>
      let value := value * 16 + nibble.toUInt64
      if value > 0xFFFFFFFF then none else digitsToUInt32 value rest

/-- `u32::from_str_radix(_, 16)`: a plus sign may come first, and there is some digit. -/
def u32FromHex (token : Text) : Option UInt32 :=
  match Text.bytes token with
  | [] => none
  | 43 :: [] => none
  | 43 :: digits => digitsToUInt32 0 digits
  | digits => digitsToUInt32 0 digits

/-- The kind a PCI byte gives a frame. -/
def canFrameKind (pci : UInt8) : Except Obd2Error CanFrameKind :=
  match pci >>> 4 with
  | 0x0 => .ok .single
  | 0x1 => .ok .first
  | 0x2 => .ok .consecutive
  | 0x3 => .ok .flowControl
  | _ =>
    let hex := String.ofList (Text.hexByte pci)
    .error (.parseError s!"unsupported CAN PCI type: {hex}")

/-- The payload of a frame of a kind, and the length its PCI declares. -/
def canPayload (kind : CanFrameKind) (pci : UInt8) (rest : List UInt8) : List UInt8 × Option Nat :=
  match kind with
  | .single =>
    let len := (pci &&& 0x0F).toNat
    (rest.take len, some len)
  | .first => (rest.drop 1, some (((pci &&& 0x0F).toNat <<< 8) ||| (rest.getD 0 0).toNat))
  | .consecutive => (rest, none)
  | .flowControl => (rest, none)

/-- The source and target an identifier names. -/
def canAddresses (identifier : UInt32) : Option UInt32 × Option UInt32 :=
  if identifier ≤ 0x7FF then
    (if 0x7E8 ≤ identifier ∧ identifier ≤ 0x7EF then some (identifier - 0x08) else none,
      if 0x7E0 ≤ identifier ∧ identifier ≤ 0x7E7 then some identifier else none)
  else
    let pduFormat := (identifier >>> 16) &&& 0xFF
    (some (identifier &&& 0xFF), if pduFormat < 0xF0 then some ((identifier >>> 8) &&& 0xFF) else none)

def decodeCanHeadersOn (line : Text) : Except Obd2Error CanFrame :=
  match Text.splitWhitespace line with
  | first :: second :: third :: rest =>
    match u32FromHex first with
    | none => .error (.parseError s!"invalid CAN identifier: {String.ofList first}")
    | some identifier =>
      match parseHexTokens (second :: third :: rest) with
      | .error e => .error e
      | .ok [] => .error (.parseError "CAN frame missing PCI byte")
      | .ok (pci :: bytes) =>
        match canFrameKind pci with
        | .error e => .error e
        | .ok kind =>
          let (payload, declaredLength) := canPayload kind pci bytes
          let (source, target) := canAddresses identifier
          .ok ⟨identifier, source, target, kind, payload, declaredLength⟩
  | _ => .error (.parseError s!"invalid CAN frame: {String.ofList line}")

/-- A line whose tokens are an identifier and the bytes of a frame. -/
theorem decodeCanHeadersOn_frame {line first second third : Text} {rest : List Text} {identifier : UInt32}
    {pci : UInt8} {bytes : List UInt8} {kind : CanFrameKind}
    (hsplit : Text.splitWhitespace line = first :: second :: third :: rest)
    (hidentifier : u32FromHex first = some identifier)
    (hparse : parseHexTokens (second :: third :: rest) = .ok (pci :: bytes)) (hkind : canFrameKind pci = .ok kind) :
    ∃ frame, decodeCanHeadersOn line = .ok frame ∧ frame.kind = kind ∧
      (frame.payload, frame.declaredLength) = canPayload kind pci bytes := by
  rw [decodeCanHeadersOn, hsplit]
  dsimp only
  rw [hidentifier]
  dsimp only
  rw [hparse]
  dsimp only
  rw [hkind]
  exact ⟨_, rfl, rfl, rfl⟩

def decodeJ1850HeadersOn (line : Text) : Except Obd2Error J1850Frame :=
  match parseHexLine line with
  | .error e => .error e
  | .ok (priority :: target :: source :: fourth :: rest) =>
    let tail := fourth :: rest
    .ok ⟨priority, target, source, tail.dropLast, tail.getLast?⟩
  | .ok _ => .error (.parseError s!"invalid J1850 frame: {String.ofList line}")

def decodeIsoKLineHeadersOn (line : Text) : Except Obd2Error IsoKLineFrame :=
  match parseHexLine line with
  | .error e => .error e
  | .ok (format :: target :: source :: fourth :: fifth :: rest) =>
    let tail := fourth :: fifth :: rest
    let checksum := (fifth :: rest).getLast (List.cons_ne_nil _ _)
    let computed := (format :: target :: source :: tail.dropLast).foldl (· + ·) 0
    .ok ⟨format, target, source, tail.dropLast, checksum, checksum == computed⟩
  | .ok _ => .error (.parseError s!"invalid ISO/KWP frame: {String.ofList line}")

end Obd2.Codec
