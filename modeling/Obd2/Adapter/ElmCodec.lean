import Obd2.Protocol.Codec

/-! Decoding of the adapter's ASCII responses.

A response is taken line by line. The loop is `acceptLine` folded over the lines: what it
carries along is whether the expected prefix was seen, the payloads that are complete,
and the one that is being put together. -/
namespace Obd2.ElmCodec
open Codec Hex

/-- The response prefix a command asks for: its service, acknowledged, and the request bytes
that are echoed. -/
def expectedResponsePrefix (command : Text) (skipBytes : Nat) : Option (List UInt8) :=
  if skipBytes = 0 then none
  else
    match parseCompactHex command with
    | .error _ => none
    | .ok request =>
      if request.length < skipBytes then none
      else
        match request with
        | [] => none
        | service :: rest => some ((service + 0x40) :: rest.take (skipBytes - 1))

def expectedPrefixIsUsed (echoCommand : Option Text) (skipBytes : Nat) : Bool :=
  echoCommand.isSome && decide (0 < skipBytes)

def isLikelyResponseService (service : UInt8) : Bool :=
  [0x41, 0x42, 0x43, 0x44, 0x45, 0x46, 0x47, 0x49, 0x4A, 0x61, 0x62, 0x7F].contains service

def shouldTreatAsHeadersOff (bytes : List UInt8) (skipBytes : Nat)
    (expectedPrefix : Option (List UInt8)) : Bool :=
  (match expectedPrefix with
    | some expected => expected.isPrefixOf bytes
    | none => false) ||
  (decide (0 < skipBytes) &&
    match bytes with
    | service :: _ => isLikelyResponseService service
    | [] => false)

/-- The bytes of a line with its frame header, which is kept where it tells the sender. -/
def decodeHeadersOn (line : Text) (family : BusFamily) : Except Obd2Error (List UInt8) :=
  match family with
  | .can =>
    match decodeCanHeadersOn line with
    | .ok frame => .ok frame.payload
    | .error _ => parseHexLine line
  | .j1850 =>
    match decodeJ1850HeadersOn line with
    | .ok frame => .ok (frame.priority :: frame.target :: frame.source :: frame.payload)
    | .error _ => parseHexLine line
  | .iso9141 | .kwp2000 =>
    match decodeIsoKLineHeadersOn line with
    | .ok frame =>
      if frame.checksumValid then .ok (frame.format :: frame.target :: frame.source :: frame.payload)
      else parseHexLine line
    | .error _ => parseHexLine line

def looksLikeHeadersOn (line : Text) (family : BusFamily) : Bool :=
  let tokens := Text.splitWhitespace line
  match family with
  | .can =>
    match tokens with
    | first :: _ => decide ((Text.bytes first).length > 2)
    | [] => false
  | .j1850 | .iso9141 | .kwp2000 => decide (tokens.length ≥ 6)

def decodeLine (line : Text) (family : BusFamily) (skipBytes : Nat)
    (expectedPrefix : Option (List UInt8)) : Except Obd2Error (List UInt8) :=
  let headersOff :=
    match parseHexLine line with
    | .ok bytes => if shouldTreatAsHeadersOff bytes skipBytes expectedPrefix then some bytes else none
    | .error _ => none
  match headersOff with
  | some bytes => .ok bytes
  | none => if looksLikeHeadersOn line family then decodeHeadersOn line family else parseHexLine line

def isStatusNoiseLine (line : Text) : Bool :=
  line == "NO DATA".toList || line == "STOPPED".toList || line == "BUS BUSY".toList

/-- The bytes of a text that are not ASCII whitespace. -/
def visibleBytes (text : Text) : List UInt8 :=
  (Text.bytes text).filter fun b => !Text.isAsciiWhitespace b

/-- Equal but for the case of ASCII letters. -/
def eqBytesIgnoreCase : List UInt8 → List UInt8 → Bool
  | [], [] => true
  | a :: as, b :: bs => Text.eqIgnoreAsciiCase a b && eqBytesIgnoreCase as bs
  | _, _ => false

def lineMatchesCommandEcho (line command : Text) : Bool :=
  !(visibleBytes line).isEmpty && eqBytesIgnoreCase (visibleBytes line) (visibleBytes command)

/-! ### The loop over the lines -/

structure Accumulator where
  matchedExpected : Bool
  payloads : List (List UInt8)
  current : List UInt8
  deriving DecidableEq, Repr

/-- The lines of a response as the loop sees them, without their prompt. -/
def responseLines (response : Text) : List Text :=
  (response.splitOnP fun c => c == '\r' || c == '\n').map fun rawLine =>
    Text.trimEndWhile (· == '>') (Text.trim rawLine)

/-- A line the loop has nothing to do with, whatever it has seen: blank, a progress message, or
the command itself. -/
def isSkipped (echoCommand : Option Text) (line : Text) : Bool :=
  line.isEmpty || line == "SEARCHING...".toList ||
    (match echoCommand with
      | some command => lineMatchesCommandEcho line command
      | none => false) ||
    (Text.splitWhitespace line).isEmpty

/-- What decoded bytes do to the accumulator. -/
def accept (expectedPrefix : Option (List UInt8)) (acc : Accumulator) (decoded : List UInt8) :
    Accumulator :=
  match expectedPrefix with
  | some expected =>
    if expected.isPrefixOf decoded then
      let data := decoded.drop expected.length
      if acc.matchedExpected && !acc.current.isEmpty then
        ⟨true, acc.payloads ++ [acc.current], data⟩
      else
        ⟨true, acc.payloads, acc.current ++ data⟩
    else if acc.matchedExpected then {acc with current := acc.current ++ decoded}
    else acc
  | none => {acc with current := acc.current ++ decoded}

/-- One round of the loop. -/
def acceptLine (family : BusFamily) (skipBytes : Nat) (echoCommand : Option Text)
    (expectedPrefix : Option (List UInt8)) (acc : Accumulator) (line : Text) :
    Except Obd2Error Accumulator :=
  if isSkipped echoCommand line then .ok acc
  else if acc.matchedExpected && expectedPrefix.isSome && isStatusNoiseLine line then .ok acc
  else
    match decodeLine line family skipBytes expectedPrefix with
    | .ok decoded => .ok (accept expectedPrefix acc decoded)
    | .error e => .error e

def acceptLines (family : BusFamily) (skipBytes : Nat) (echoCommand : Option Text)
    (expectedPrefix : Option (List UInt8)) : Accumulator → List Text → Except Obd2Error Accumulator
  | acc, [] => .ok acc
  | acc, line :: rest =>
    match acceptLine family skipBytes echoCommand expectedPrefix acc line with
    | .ok acc => acceptLines family skipBytes echoCommand expectedPrefix acc rest
    | .error e => .error e

/-- The payloads once the last line was taken. -/
def Accumulator.finish (acc : Accumulator) : List (List UInt8) :=
  if acc.current.isEmpty then acc.payloads else acc.payloads ++ [acc.current]

def decodeElmResponsePayloadsForCommand (response : Text) (family : BusFamily) (skipBytes : Nat)
    (echoCommand : Option Text) : Except Obd2Error (List (List UInt8)) :=
  let expectedPrefix := echoCommand.bind (expectedResponsePrefix · skipBytes)
  match acceptLines family skipBytes echoCommand expectedPrefix ⟨expectedPrefix.isNone, [], []⟩
      (responseLines response) with
  | .error e => .error e
  | .ok acc =>
    if acc.finish.isEmpty then
      .error (.parseError s!"no valid payload in response: {String.ofList (Text.trim response)}")
    else
      .ok acc.finish

/-- Of several payloads the first is the response. -/
def decodeElmResponsePayloadForCommand (response : Text) (family : BusFamily) (skipBytes : Nat)
    (echoCommand : Option Text) : Except Obd2Error (List UInt8) :=
  match decodeElmResponsePayloadsForCommand response family skipBytes echoCommand with
  | .error e => .error e
  | .ok payloads =>
    let payload := payloads.headD []
    if expectedPrefixIsUsed echoCommand skipBytes then .ok payload
    else if skipBytes ≥ payload.length then .ok []
    else .ok (payload.drop skipBytes)

end Obd2.ElmCodec
