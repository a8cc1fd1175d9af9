import Obd2.Async
import Obd2.Error

/-! The byte link to an adapter.

A link is a state with two awaited operations; what a read returns is up to the link.
Raw capture, which a link may keep beside its traffic, is not part of it here. -/
namespace Obd2

/-- Raw byte-level connection to an OBD-II adapter. -/
class Link (L : Type) where
  /-- Send raw bytes to the adapter. -/
  write : List UInt8 → Async Obd2Error L Unit
  /-- The complete response of the adapter. -/
  read : Async Obd2Error L (List UInt8)

end Obd2
