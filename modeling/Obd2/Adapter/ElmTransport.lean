import Obd2.Adapter.Elm327.Answer
import Obd2.Transport.Framed

/-! The ELM327 adapter as a transport of diagnostic requests. -/
namespace Obd2.ElmTransport
open Elm327Adapter

section Exchange
variable {L : Type} [Link L]

/-- `Transport for ElmTransport`; `Adapter::request` of a broadcast is a routed request. -/
def exchange (req : TransportRequest) : Elm L (List UInt8) :=
  if req.target ≠ .broadcast then
    .throw (.adapter "ELM framed transport supports broadcast requests only")
  else
    match req.pdu with
    | [] => .throw (.parseError "ELM framed request missing service byte")
    | serviceId :: data => routedRequest ⟨serviceId, data, .broadcast⟩

def transport (L : Type) [Link L] : Transport (Elm L) := ⟨exchange⟩

end Exchange

end Obd2.ElmTransport
