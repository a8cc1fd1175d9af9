/-! Error types of the library.

Every fallible operation of the model returns `Except Obd2Error` (or, where it
awaits, a computation that can fail with one). The message texts are the source's;
an I/O error and a boxed foreign error keep their rendered text only. -/
namespace Obd2

/-- OBD-II / UDS negative response code. -/
inductive NegativeResponse where
  | generalReject
  | serviceNotSupported
  | subFunctionNotSupported
  | incorrectMessageLength
  | responseTooLong
  | conditionsNotCorrect
  | requestOutOfRange
  | securityAccessDenied
  | invalidKey
  | exceededAttempts
  | timeDelayNotExpired
  | generalProgrammingFailure
  | responsePending
  | unknown (code : UInt8)
  deriving DecidableEq, Repr

namespace NegativeResponse

def fromByte (b : UInt8) : Option NegativeResponse :=
  match b with
  | 0x10 => some .generalReject
  | 0x11 => some .serviceNotSupported
  | 0x12 => some .subFunctionNotSupported
  | 0x13 => some .incorrectMessageLength
  | 0x14 => some .responseTooLong
  | 0x22 => some .conditionsNotCorrect
  | 0x31 => some .requestOutOfRange
  | 0x33 => some .securityAccessDenied
  | 0x35 => some .invalidKey
  | 0x36 => some .exceededAttempts
  | 0x37 => some .timeDelayNotExpired
  | 0x72 => some .generalProgrammingFailure
  | 0x78 => some .responsePending
  | _ => none

def fromByteOrUnknown (b : UInt8) : NegativeResponse := (fromByte b).getD (.unknown b)

def code : NegativeResponse → UInt8
  | generalReject => 0x10
  | serviceNotSupported => 0x11
  | subFunctionNotSupported => 0x12
  | incorrectMessageLength => 0x13
  | responseTooLong => 0x14
  | conditionsNotCorrect => 0x22
  | requestOutOfRange => 0x31
  | securityAccessDenied => 0x33
  | invalidKey => 0x35
  | exceededAttempts => 0x36
  | timeDelayNotExpired => 0x37
  | generalProgrammingFailure => 0x72
  | responsePending => 0x78
  | unknown code => code

/-- The code table is one table: a named response carries the byte it was read from. -/
theorem code_fromByteOrUnknown (b : UInt8) : (fromByteOrUnknown b).code = b := by
  unfold fromByteOrUnknown fromByte
  split <;> rfl

end NegativeResponse

/-- Errors returned by the library's operations. -/
inductive Obd2Error where
  | transport (message : String)
  | adapter (message : String)
  | adapterBusy
  | timeout
  | noData
  | unsupportedPid (pid : UInt8)
  | moduleNotFound (module : String)
  | negativeResponse (service : UInt8) (nrc : NegativeResponse)
  | securityRequired
  | noSpec
  | busNotAvailable (bus : String)
  | specParse (message : String)
  | parseError (message : String)
  | io (message : String)
  | other (message : String)
  deriving DecidableEq, Repr

end Obd2
