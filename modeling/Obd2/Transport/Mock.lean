import Obd2.Transport.Link
import Obd2.Text

/-! The mock transport: command/response pairs, each used once. -/
namespace Obd2

structure MockTransport where
  expectations : List (Text × Text)
  pendingResponse : List Text

namespace MockTransport

/-- `MockTransport::new`, with `expect` called for each pair. -/
def expecting (expectations : List (Text × Text)) : MockTransport := ⟨expectations, []⟩

/-- The response of the first expectation a command meets, and the others. -/
def consume (cmd : Text) : List (Text × Text) → Option (Text × List (Text × Text))
  | [] => none
  | (expected, response) :: rest =>
    if cmd = expected || Text.contains cmd expected then some (response, rest)
    else
      match consume cmd rest with
      | some (found, others) => some (found, (expected, response) :: others)
      | none => none

instance : Link MockTransport where
  write data := do
    let cmd := Text.trim (Text.fromUtf8Lossy data)
    let mock ← .get
    match consume cmd mock.expectations with
    | some (response, expectations) => .set ⟨expectations, mock.pendingResponse ++ [response]⟩
    | none => .set {mock with pendingResponse := mock.pendingResponse ++ ["NO DATA\r>".toList]}
  read := do
    let mock ← .get
    match mock.pendingResponse with
    | response :: rest =>
      .set {mock with pendingResponse := rest}
      pure (Text.bytes response)
    | [] => .throw .timeout

end MockTransport

end Obd2
