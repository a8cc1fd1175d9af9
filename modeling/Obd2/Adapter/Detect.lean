import Obd2.Adapter

/-! Chipset detection from the replies to the reset and to the STN probe. -/
namespace Obd2.AdapterInfo

/-- The text from the first occurrence of `pattern` on. -/
def find (pattern : Text) : Text → Option Text
  | [] => if pattern.isEmpty then some [] else none
  | c :: rest => if pattern.isPrefixOf (c :: rest) then some (c :: rest) else find pattern rest

/-- Digits, and at most one point among them. -/
def isDecimal (digits : Text) : Bool :=
  digits.any Char.isDigit && (digits.filter (· == '.')).length ≤ 1

/-- Whether a decimal text parses to a single-precision number of at least 2.0. The numbers from
2 - 2^-24 (33554431/16777216) on round to it; what does not parse counts as 0. -/
def atLeastTwo (digits : Text) : Bool :=
  let fraction := (digits.dropWhile (· != '.')).drop 1
  let mantissa := (digits.filter Char.isDigit).foldl (fun n c => n * 10 + (c.toNat - 48)) 0
  isDecimal digits && 33554431 * Nat.pow 10 fraction.length ≤ mantissa * 16777216

def detectElmVersion (response : Text) : Chipset × Text :=
  let response := Text.trim response
  match find "ELM327".toList response with
  | some rest =>
    let firmware := Text.trim rest
    let version := (find "v".toList firmware).orElse fun _ => find "V".toList firmware
    match version with
    | some version =>
      let digits := (version.drop 1).takeWhile fun c => c.isDigit || c == '.'
      if atLeastTwo digits then (.elm327Genuine, firmware) else (.elm327Clone, firmware)
    | none => (.elm327Clone, firmware)
  | none => (.unknown, response)

def capabilitiesOf : Chipset → Capabilities
  | .stn => ⟨true, true, true, true, true, true, true, true, true, true, true⟩
  | .elm327Genuine => ⟨true, false, true, true, true, true, true, true, true, true, true⟩
  | .elm327Clone => {Capabilities.none with batteryVoltage := true}
  | .unknown => .none

def detect (atzResponse : Text) (stiResponse : Option Text) : AdapterInfo :=
  let (chipset, firmware) :=
    match stiResponse with
    | some sti =>
      if Text.contains sti "STN".toList then (.stn, Text.trim sti) else detectElmVersion atzResponse
    | none => detectElmVersion atzResponse
  { chipset, firmware, protocol := .auto, capabilities := capabilitiesOf chipset }

end Obd2.AdapterInfo
