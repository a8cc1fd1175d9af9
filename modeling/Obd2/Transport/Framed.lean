import Obd2.Error

/-! Transport-neutral diagnostic request/response exchange.

This layer deals in framed diagnostic PDUs. Command text of an adapter, links and physical
routing stay below it. -/
namespace Obd2

/-- Logical target for one framed diagnostic exchange. -/
inductive TransportTarget where
  | broadcast
  | physical (id : UInt32)
  | functional (id : UInt32)
  | pgn (pgn : UInt32)
  deriving DecidableEq, Repr

structure TransportRequest where
  target : TransportTarget
  pdu : List UInt8
  deriving DecidableEq, Repr

namespace TransportRequest

def diagnostic (target : TransportTarget) (serviceId : UInt8) (data : List UInt8) : TransportRequest :=
  ⟨target, serviceId :: data⟩

def broadcastDiagnostic (serviceId : UInt8) (data : List UInt8) : TransportRequest :=
  diagnostic .broadcast serviceId data

end TransportRequest

/-- Framed diagnostic transport; `m` is what its exchanges run in. -/
structure Transport (m : Type → Type) where
  /-- Exchange one diagnostic request; what is returned are the response payload bytes. -/
  exchange : TransportRequest → m (List UInt8)

end Obd2
