import Obd2.Adapter.VehicleBus.SetUp
import Obd2.Session.Freshness
import Obd2.Transport.Prompt

/-! Sessions on the bus.

A session over a serial port or a BLE characteristic is a session over the modules of the vehicle (`bus_client`).
The port cuts the text in pieces, the capture writes it down, the chip prints it and the adapter decodes it, and
none of this is seen by the client. -/
namespace Obd2.Session
open Async

section OnBus
variable {V F : Type} [VehicleBus V] [FileSystem F]

/-- The session over the modules themselves. -/
def onBus (s : Session (Capturing (PromptTransport (Elm327Chip V)) F)) : Session (BusAdapter V) :=
  s.plain.onto s.plain.adapter.onBus

omit [FileSystem F] in
/-- What a client comes to over the chip, it comes to over the modules. -/
theorem run_onBus {α : Type} {client : Client α} {s s' : Session (Elm327Adapter (StreamLink (Elm327Chip V)))} {a : α}
    (hagrees : Agrees s.adapter) (hrun : client.run Call.op s = (a, s')) :
    client.run Call.op (s.onto s.adapter.onBus) = (a, s'.onto s'.adapter.onBus) ∧ Agrees s'.adapter := by
  have hmeddled := Client.run_meddled Call.op (fun _ _ => False) client s
  rw [hrun] at hmeddled
  have hspeaks : Over Speaks s (s.onto s.adapter.onBus) := ⟨_, ⟨hagrees, rfl⟩, rfl⟩
  obtain ⟨houtcome, _, ⟨hagrees', rfl⟩, hafter⟩ := Client.meddled_alike chip_alike (Call.op_alike chip_alike)
    (fun hnever _ => hnever.elim) hmeddled hspeaks
  exact ⟨Prod.ext houtcome hafter, hagrees'⟩

end OnBus

/-- A vehicle whose engine knows its coolant temperature, and that this is all it knows. -/
structure WarmEngine where
  coolant : UInt8

instance : VehicleBus WarmEngine where
  ask header serviceId data engine :=
    if header = "7DF".toList ∧ serviceId = 0x01 ∧ data = [0x05] then
      (.answered ⟨[engine.coolant], List.cons_ne_nil _ _⟩ [], engine)
    else if header = "7DF".toList ∧ serviceId = 0x01 ∧ data = [0x00] then
      (.answered ⟨[0x08, 0, 0, 0], List.cons_ne_nil _ _⟩ [], engine)
    else (.silent, engine)
  voltage _ := 138

/-- A session over a serial port to the engine. -/
def parked (coolant : UInt8) : Session (Capturing (PromptTransport (Elm327Chip WarmEngine)) MemoryFiles) :=
  let chip : Elm327Chip WarmEngine := ⟨⟨coolant⟩, .can11Bit500, none, []⟩
  let link : PromptTransport (Elm327Chip WarmEngine) := ⟨"ELM327".toList, ⟨.serial, chip, []⟩, fun _ => 2, id, 0, none, []⟩
  Session.new ⟨Elm327Adapter.new (LoggingTransport.new link MemoryFiles.empty), ⟨true, ["raw-captures".toList], none⟩⟩

/-- The session once it is initialized. -/
def underway (coolant : UInt8) : Session (Capturing (PromptTransport (Elm327Chip WarmEngine)) MemoryFiles) :=
  let s := parked coolant
  let info := {s.adapter.adapter.info with protocol := .can11Bit500}
  {s with adapter := {s.adapter with adapter := {s.adapter.adapter with info, initialized := true}}, initialized := true}

section Started
variable {V F : Type} [VehicleBus V] [FileSystem F]

end Started

end Obd2.Session
