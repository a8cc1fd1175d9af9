import Obd2.Protocol.Codec
import Obd2.Transport.IsoTp

/-! Two decoders of one format.

The PCI byte of a single frame declares how many of the bytes behind it are the message. The
adapter's frames come as lines of text and are decoded by `decodeCanHeadersOn`, raw frames by
`decodeSingleFrame`. The second refuses a frame that declares more than it has; the first takes
what is there, and a frame that lost its end is a shorter message (`decoders_agree_iff`). -/
namespace Obd2.IsoTp
open Codec

/-- A line that prints a frame, its identifier first. -/
def Prints (line : Text) (identifier : UInt32) (bytes : List UInt8) : Prop :=
  ∃ first, u32FromHex first = some identifier ∧ Text.splitWhitespace line = first :: bytes.map Text.hexByte

/-- Both decoders take a frame for a single frame, or neither does; and if they do, they find one
message, as long as was declared. -/
def Agree (config : IsoTpConfig) (line : Text) (frame : CanDataFrame) : Prop :=
  ((∃ decoded, decodeCanHeadersOn line = .ok decoded ∧ decoded.kind = .single) ↔
    ∃ pdu, decodeSingleFrame config frame = .ok pdu) ∧
  ∀ decoded pdu, decodeCanHeadersOn line = .ok decoded → decoded.kind = .single →
    decodeSingleFrame config frame = .ok pdu →
    decoded.payload = pdu ∧ decoded.declaredLength = some pdu.length

section Single
variable {config : IsoTpConfig} {line : Text} {identifier : UInt32} {frame : CanDataFrame} {pci : UInt8}
  {rest : List UInt8}

/-- The line is decoded to as much of the message as there is. -/
theorem decodeCanHeadersOn_line (hline : Prints line identifier (pci :: rest)) (hrest : rest ≠ [])
    (hpci : pci >>> 4 = 0) :
    ∃ decoded, decodeCanHeadersOn line = .ok decoded ∧ decoded.kind = .single ∧
      decoded.payload = rest.take (pci &&& 0x0F).toNat ∧ decoded.declaredLength = some (pci &&& 0x0F).toNat := by
  obtain ⟨first, hidentifier, hsplit⟩ := hline
  obtain ⟨b, rest, rfl⟩ := List.exists_cons_of_ne_nil hrest
  have hkind : canFrameKind pci = .ok .single := by
    rw [canFrameKind, hpci]
    rfl
  obtain ⟨decoded, hdecoded, hsingle, hparts⟩ :=
    decodeCanHeadersOn_frame hsplit hidentifier (Hex.parseHexTokens_map (pci :: b :: rest)) hkind
  exact ⟨decoded, hdecoded, hsingle, congrArg Prod.fst hparts, congrArg Prod.snd hparts⟩

/-- The frame is decoded to the whole message, if all of it is there. -/
theorem decodeSingleFrame_frame (hframe : frame.data = pci :: rest)
    (hlimit : (pci &&& 0x0F).toNat ≤ config.maxPayloadLen) (pdu : List UInt8) :
    decodeSingleFrame config frame = .ok pdu ↔
      (pci &&& 0x0F).toNat ≤ rest.length ∧ pdu = rest.take (pci &&& 0x0F).toNat := by
  have hfirst : firstPciByte frame = .ok pci := by rw [firstPciByte, hframe]
  have hvalid : validatePduLen config (pci &&& 0x0F).toNat = .ok () := by
    rw [validatePduLen, if_neg (Nat.not_lt.mpr hlimit)]
  rw [decodeSingleFrame, hfirst]
  show (if frame.data.length < (pci &&& 0x0F).toNat + 1 then _ else _) = _ ↔ _
  rw [hframe, List.length_cons]
  split
  · next hshort =>
    constructor
    · intro h
      cases h
    · intro h
      omega
  · next hlong =>
    rw [hvalid]
    show Except.ok (rest.take (pci &&& 0x0F).toNat) = _ ↔ _
    rw [Except.ok.injEq, eq_comm]
    exact ⟨fun h => ⟨by omega, h⟩, And.right⟩

end Single

/-- **The decoders agree exactly on the frames that have what they declare.** -/
theorem decoders_agree_iff (config : IsoTpConfig) (line : Text) (identifier : UInt32) (frame : CanDataFrame)
    (pci : UInt8) (rest : List UInt8) (hframe : frame.data = pci :: rest)
    (hlength : 2 ≤ frame.data.length ∧ frame.data.length ≤ 8) (hpci : pci >>> 4 = 0)
    (hlimit : (pci &&& 0x0F).toNat ≤ config.maxPayloadLen) (hline : Prints line identifier frame.data) :
    Agree config line frame ↔ (pci &&& 0x0F).toNat ≤ rest.length := by
  have hrest : rest ≠ [] := by
    rintro rfl
    rw [hframe] at hlength
    exact absurd hlength.1 (Nat.not_succ_le_self 1)
  rw [hframe] at hline
  obtain ⟨decoded, hdecoded, hsingle, hpayload, hdeclared⟩ := decodeCanHeadersOn_line hline hrest hpci
  have hpdu := decodeSingleFrame_frame hframe hlimit
  constructor
  · intro hagree
    obtain ⟨pdu, hdecodes⟩ := hagree.1.mp ⟨decoded, hdecoded, hsingle⟩
    exact ((hpdu pdu).mp hdecodes).1
  · intro hfits
    refine ⟨iff_of_true ⟨decoded, hdecoded, hsingle⟩ ⟨_, (hpdu _).mpr ⟨hfits, rfl⟩⟩, ?_⟩
    intro decoded' pdu hdecoded' _ hdecodes
    obtain rfl := Except.ok.inj (hdecoded.symm.trans hdecoded')
    obtain ⟨-, rfl⟩ := (hpdu pdu).mp hdecodes
    refine ⟨hpayload, ?_⟩
    rw [hdeclared, List.length_take, Nat.min_eq_left hfits]

/-- A frame that has what it declares, and a byte of padding. -/
theorem decoders_agree_padded :
    Agree (.new 0x7E0 0x7E8) "7E8 03 41 0D 20 00".toList ⟨0x7E8, [0x03, 0x41, 0x0D, 0x20, 0x00], false⟩ :=
  (decoders_agree_iff _ _ 0x7E8 ⟨0x7E8, [0x03, 0x41, 0x0D, 0x20, 0x00], false⟩ 0x03 [0x41, 0x0D, 0x20, 0x00] rfl
    ⟨by decide, by decide⟩ rfl (by decide) ⟨"7E8".toList, by decide, by decide⟩).mpr (by decide)

/-- A frame that declares seven bytes and has two: a message of two bytes for one decoder, an error
for the other. -/
theorem short_frame_accepted :
    let frame : CanDataFrame := ⟨0x7E8, [0x07, 0x41, 0x0C], false⟩
    Prints "7E8 07 41 0C".toList 0x7E8 frame.data ∧
      (∃ decoded, decodeCanHeadersOn "7E8 07 41 0C".toList = .ok decoded ∧ decoded.kind = .single ∧
        decoded.payload = [0x41, 0x0C]) ∧
      (∃ e, decodeSingleFrame (.new 0x7E0 0x7E8) frame = .error e) ∧
      ¬ Agree (.new 0x7E0 0x7E8) "7E8 07 41 0C".toList frame := by
  intro frame
  have haccepted : ∃ decoded, decodeCanHeadersOn "7E8 07 41 0C".toList = .ok decoded ∧ decoded.kind = .single ∧
      decoded.payload = [0x41, 0x0C] := ⟨_, rfl, rfl, rfl⟩
  refine ⟨⟨"7E8".toList, by decide, by decide⟩, haccepted, ⟨_, rfl⟩, fun hagree => ?_⟩
  obtain ⟨decoded, hdecoded, hsingle, -⟩ := haccepted
  obtain ⟨pdu, hdecodes⟩ := hagree.1.mp ⟨decoded, hdecoded, hsingle⟩
  cases hdecodes

end Obd2.IsoTp
