import Obd2.Protocol.Dtc

/-! Decoders of the diagnostic modes. -/
namespace Obd2.Modes

/-- The trouble codes of a Mode 03/07/0A response, pair by pair; 00 00 is no code. -/
def decodeDtcBytes (status : DtcStatus) : List UInt8 → List Dtc
  | a :: b :: rest =>
    if a = 0 ∧ b = 0 then decodeDtcBytes status rest
    else {Dtc.fromBytes a b with status} :: decodeDtcBytes status rest
  | _ => []

end Obd2.Modes
