import Obd2.Error

/-! How errors are printed. -/
namespace Obd2

/-- The digits of a number, at least two. -/
def twoDigits (digits : List Char) : String := String.ofList (List.replicate (2 - digits.length) '0' ++ digits)

/-- `{:#04x}` of a byte. -/
def hexLiteral (b : UInt8) : String := "0x" ++ twoDigits (Nat.toDigits 16 b.toNat)

/-- `{:?}`. -/
def NegativeResponse.name : NegativeResponse → String
  | generalReject => "GeneralReject"
  | serviceNotSupported => "ServiceNotSupported"
  | subFunctionNotSupported => "SubFunctionNotSupported"
  | incorrectMessageLength => "IncorrectMessageLength"
  | responseTooLong => "ResponseTooLong"
  | conditionsNotCorrect => "ConditionsNotCorrect"
  | requestOutOfRange => "RequestOutOfRange"
  | securityAccessDenied => "SecurityAccessDenied"
  | invalidKey => "InvalidKey"
  | exceededAttempts => "ExceededAttempts"
  | timeDelayNotExpired => "TimeDelayNotExpired"
  | generalProgrammingFailure => "GeneralProgrammingFailure"
  | responsePending => "ResponsePending"
  | unknown code => s!"Unknown({code})"

instance : ToString NegativeResponse where
  toString nrc := s!"{nrc.name} (0x{twoDigits ((Nat.toDigits 16 nrc.code.toNat).map Char.toUpper)})"

instance : ToString Obd2Error where
  toString
    | .transport message => s!"transport error: {message}"
    | .adapter message => s!"adapter error: {message}"
    | .adapterBusy => "adapter is busy (stop polling first)"
    | .timeout => "timeout waiting for response"
    | .noData => "no data (vehicle did not respond)"
    | .unsupportedPid pid => s!"PID {hexLiteral pid} not supported by this vehicle"
    | .moduleNotFound module => s!"module '{module}' not found in vehicle spec"
    | .negativeResponse service nrc => s!"negative response: {nrc} for service {hexLiteral service}"
    | .securityRequired => "security access required (call enter_diagnostic_session + security_access first)"
    | .noSpec => "no vehicle spec matched — load a spec or call identify_vehicle()"
    | .busNotAvailable bus => s!"bus '{bus}' not available on this vehicle"
    | .specParse message => s!"spec parse error: {message}"
    | .parseError message => s!"parse error: {message}"
    | .io message => s!"IO error: {message}"
    | .other message => message

end Obd2
