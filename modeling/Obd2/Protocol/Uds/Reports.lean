import Obd2.Protocol.Dtc
import Obd2.Protocol.Uds.Data
import Obd2.Transport.IsoTp.Conversation

/-! Reports of trouble codes over UDS.

A report is a mask and records of four bytes, and is read back record by record
(`decodeDtcAndStatusRecords_eq_ok`). Against a control unit with a memory of codes, reports and clearings in
any order are what they are for, whatever turns client and unit take (`requests_end`). -/
namespace Obd2

/-! ### Status bytes -/

structure DtcStatusByte where
  testFailed : Bool
  testFailedThisCycle : Bool
  pending : Bool
  confirmed : Bool
  testNotCompletedSinceClear : Bool
  testFailedSinceClear : Bool
  testNotCompletedThisCycle : Bool
  warningIndicatorRequested : Bool
  deriving DecidableEq, Repr

namespace DtcStatusByte

def fromByte (b : UInt8) : DtcStatusByte where
  testFailed := (b &&& 0x01) != 0
  testFailedThisCycle := (b &&& 0x02) != 0
  pending := (b &&& 0x04) != 0
  confirmed := (b &&& 0x08) != 0
  testNotCompletedSinceClear := (b &&& 0x10) != 0
  testFailedSinceClear := (b &&& 0x20) != 0
  testNotCompletedThisCycle := (b &&& 0x40) != 0
  warningIndicatorRequested := (b &&& 0x80) != 0

def toByte (status : DtcStatusByte) : UInt8 :=
  let bit (flag : Bool) (mask : UInt8) : UInt8 := if flag then mask else 0
  bit status.testFailed 0x01 ||| bit status.testFailedThisCycle 0x02 ||| bit status.pending 0x04 |||
    bit status.confirmed 0x08 ||| bit status.testNotCompletedSinceClear 0x10 |||
    bit status.testFailedSinceClear 0x20 ||| bit status.testNotCompletedThisCycle 0x40 |||
    bit status.warningIndicatorRequested 0x80

theorem toByte_fromByte (b : UInt8) : (fromByte b).toByte = b := by
  revert b
  exact forall_byte (by decide +kernel)

theorem fromByte_toByte (status : DtcStatusByte) : fromByte status.toByte = status := by
  obtain ⟨a, b, c, d, e, f, g, h⟩ := status
  revert a b c d e f g h
  decide +kernel

end DtcStatusByte

/-! ### Records -/

/-- A code of three bytes: two of the SAE code, and the failure type. -/
structure UdsDtc where
  raw : UInt8 × UInt8 × UInt8
  code : Dtc
  failureType : UInt8
  status : Option DtcStatusByte
  deriving DecidableEq, Repr

def UdsDtc.fromThreeBytesAndStatus (raw : UInt8 × UInt8 × UInt8) (status : Option DtcStatusByte) : UdsDtc :=
  ⟨raw, Dtc.fromBytes raw.1 raw.2.1, raw.2.2, status⟩

def UdsDtc.fromThreeBytes (raw : UInt8 × UInt8 × UInt8) : UdsDtc := fromThreeBytesAndStatus raw none

structure UdsDtcReport where
  subfunction : UInt8
  statusAvailabilityMask : UInt8
  dtcs : List UdsDtc
  deriving DecidableEq, Repr

/-- `chunks_exact(4)`, each chunk as a record. -/
def decodeChunks : List UInt8 → List UdsDtc
  | a :: b :: c :: status :: rest =>
    .fromThreeBytesAndStatus (a, b, c) (some (.fromByte status)) :: decodeChunks rest
  | _ => []

def decodeDtcAndStatusRecords (records : List UInt8) : Except Obd2Error (List UdsDtc) :=
  if records.length % 4 ≠ 0 then
    .error (.parseError s!"UDS DTC status records length {records.length} is not divisible by 4")
  else
    .ok (decodeChunks records)

/-! ### The client -/

/-- `{:02X?}` of bytes. -/
def hexList (data : List UInt8) : String :=
  "[" ++ ", ".intercalate (data.map fun b => String.ofList (Text.hexByte b)) ++ "]"

structure UdsRoutineResponse where
  controlType : UInt8
  routineId : UInt16
  data : List UInt8
  deriving DecidableEq, Repr

namespace UdsClient
variable {m : Type → Type} [Monad m] [MonadLift (Except Obd2Error) m] (transport : Transport m)

def reportOf (response : UdsSubfunctionResponse) : Except Obd2Error UdsDtcReport :=
  match response.data with
  | [] => .error (.parseError "UDS DTC report missing status availability mask")
  | mask :: records => do
    let dtcs ← decodeDtcAndStatusRecords records
    return ⟨response.subfunction, mask, dtcs⟩

def reportDtcsByStatusMask (statusMask : UInt8) : m UdsDtcReport := do
  let response ← readDtcInformation transport 0x02 [statusMask]
  liftM (reportOf response)

def groupBytes (group : UInt32) : List UInt8 :=
  [((group >>> 16) &&& 0xFF).toUInt8, ((group >>> 8) &&& 0xFF).toUInt8, (group &&& 0xFF).toUInt8]

def clearedOf (payload : List UInt8) : Except Obd2Error Unit :=
  if payload.isEmpty then .ok ()
  else .error (.parseError s!"UDS clearDiagnosticInformation returned unexpected payload: {hexList payload}")

def clearDiagnosticInformation (group : UInt32) : m Unit :=
  if group > 0xFFFFFF then
    let hex := String.ofList (Text.upperHex 0 group.toNat)
    liftM (Except.error (.parseError s!"UDS DTC group exceeds 24 bits: 0x{hex}") : Except Obd2Error Unit)
  else do
    let payload ← requestService transport 0x14 (groupBytes group)
    liftM (clearedOf payload)

def routineOf (routineId : UInt16) (echo : UInt8) (rest : List UInt8) : Except Obd2Error UdsRoutineResponse :=
  match rest with
  | high :: low :: data =>
    let echoedRoutineId := u16FromBe high low
    if echoedRoutineId ≠ routineId then
      let expected := String.ofList (Text.upperHex 4 routineId.toNat)
      let got := String.ofList (Text.upperHex 4 echoedRoutineId.toNat)
      .error (.parseError s!"routineControl response routine id mismatch: expected 0x{expected}, got 0x{got}")
    else
      .ok ⟨echo, echoedRoutineId, data⟩
  | _ => .error (.parseError "routineControl response missing routine identifier")

def routineControl (controlType : UInt8) (routineId : UInt16) (optionRecord : List UInt8) : m UdsRoutineResponse := do
  let payload ← requestService transport 0x31 (controlType :: (didBytes routineId ++ optionRecord))
  let (echo, rest) ← liftM (splitRequiredEcho payload controlType "routine-control type")
  liftM (routineOf routineId echo rest)

end UdsClient

/-! ### Records are read as they were written -/

/-- A code and its status as a control unit has them. -/
structure StoredDtc where
  raw : UInt8 × UInt8 × UInt8
  status : UInt8
  deriving DecidableEq, Repr

def StoredDtc.record (stored : StoredDtc) : List UInt8 := [stored.raw.1, stored.raw.2.1, stored.raw.2.2, stored.status]

/-- The code as the client reports it. -/
def StoredDtc.reported (stored : StoredDtc) : UdsDtc := .fromThreeBytesAndStatus stored.raw (some (.fromByte stored.status))

theorem decodeChunks_records (memory : List StoredDtc) :
    decodeChunks (memory.flatMap StoredDtc.record) = memory.map StoredDtc.reported := by
  induction memory with
  | nil => rfl
  | cons stored memory ih =>
    show stored.reported :: decodeChunks (memory.flatMap StoredDtc.record) = _
    rw [ih, List.map_cons]

theorem length_records (memory : List StoredDtc) : (memory.flatMap StoredDtc.record).length = 4 * memory.length := by
  induction memory with
  | nil => rfl
  | cons stored memory ih =>
    rw [List.flatMap_cons, List.length_append, ih, List.length_cons]
    show 4 + 4 * memory.length = 4 * (memory.length + 1)
    omega

theorem records_of_length : ∀ {records : List UInt8}, records.length % 4 = 0 →
    ∃ memory : List StoredDtc, records = memory.flatMap StoredDtc.record
  | [], _ => ⟨[], rfl⟩
  | [_], h | [_, _], h | [_, _, _], h => by simp at h
  | a :: b :: c :: status :: rest, h => by
    have hrest : rest.length % 4 = 0 := by
      simp only [List.length_cons] at h
      omega
    obtain ⟨memory, rfl⟩ := records_of_length hrest
    exact ⟨⟨(a, b, c), status⟩ :: memory, rfl⟩

/-- Distinct codes are reported as distinct ones. -/
theorem StoredDtc.reported_injective {stored stored' : StoredDtc} (h : stored.reported = stored'.reported) :
    stored = stored' := by
  obtain ⟨raw, status⟩ := stored
  obtain ⟨raw', status'⟩ := stored'
  obtain ⟨hraw, -, -, hstatus⟩ := UdsDtc.mk.inj h
  obtain rfl : raw = raw' := hraw
  have hbyte := congrArg DtcStatusByte.toByte (Option.some.inj hstatus)
  rw [DtcStatusByte.toByte_fromByte, DtcStatusByte.toByte_fromByte] at hbyte
  obtain rfl : status = status' := hbyte
  rfl

theorem decodeDtcAndStatusRecords_records (memory : List StoredDtc) :
    decodeDtcAndStatusRecords (memory.flatMap StoredDtc.record) = .ok (memory.map StoredDtc.reported) := by
  have hlength : ¬ (memory.flatMap StoredDtc.record).length % 4 ≠ 0 := by
    rw [length_records]
    omega
  rw [decodeDtcAndStatusRecords, if_neg hlength, decodeChunks_records]

/-- **Records are read as they were written, and nothing else is read**: bytes decode exactly if they are the
records of some codes, and then to these, each with its status. -/
theorem decodeDtcAndStatusRecords_eq_ok {records : List UInt8} {dtcs : List UdsDtc} :
    decodeDtcAndStatusRecords records = .ok dtcs ↔
      ∃ memory : List StoredDtc, records = memory.flatMap StoredDtc.record ∧ dtcs = memory.map StoredDtc.reported := by
  constructor
  · intro h
    unfold decodeDtcAndStatusRecords at h
    split at h
    · cases h
    · next hlength =>
      obtain ⟨memory, rfl⟩ := records_of_length (Decidable.of_not_not hlength)
      rw [decodeChunks_records] at h
      exact ⟨memory, rfl, (Except.ok.inj h).symm⟩
  · rintro ⟨memory, rfl, rfl⟩
    exact decodeDtcAndStatusRecords_records memory

/-! ### A control unit -/

/-- A unit with a memory of codes. It answers after `pending` responses that are pending. -/
structure ControlUnit where
  memory : List StoredDtc
  availability : UInt8
  pending : Nat

namespace ControlUnit
open IsoTp

/-- The codes one of whose flags is asked for. -/
def under (unit : ControlUnit) (mask : UInt8) : List StoredDtc :=
  unit.memory.filter fun stored => (stored.status &&& mask) != 0

/-- What the unit does with a request, and the state it is in then: it reports codes, clears all of them, and
knows no other service. -/
def handle (unit : ControlUnit) : List UInt8 → List UInt8 × ControlUnit
  | [0x19, 0x02, mask] =>
    (0x59 :: 0x02 :: unit.availability :: (unit.under mask).flatMap StoredDtc.record, unit)
  | [0x14, 0xFF, 0xFF, 0xFF] => ([0x54], { unit with memory := [] })
  | serviceId :: _ => ([0x7F, serviceId, 0x11], unit)
  | [] => ([], unit)

def answer (unit : ControlUnit) (request : List UInt8) : List (List UInt8) × ControlUnit :=
  (List.replicate unit.pending (pendingPdu (request.headD 0)) ++ [(unit.handle request).1], (unit.handle request).2)

end ControlUnit

/-! ### Client and unit -/

namespace UdsClient
open IsoTp

/-- The client and the unit can hear each other, and what the unit has to say is not too long. -/
structure Connected (client server : IsoTpConfig) (unit : ControlUnit) : Prop where
  crossed : Crossed client server
  patient : unit.pending ≤ maxResponsePendingFrames
  request : 4 ≤ client.maxPayloadLen ∧ 4 ≤ server.maxPayloadLen
  response : 3 + 4 * unit.memory.length ≤ maxClassicIsoTpPayload ∧ 3 + 4 * unit.memory.length ≤ client.maxPayloadLen

section Session
variable {client server : IsoTpConfig} {unit : ControlUnit}

/-- A request to the unit, and its response. -/
theorem Connected.exchange (h : Connected client server unit) (serviceId : UInt8) (data result : List UInt8)
    (hrequest : data.length ≤ 3) (hpositive : serviceId.toNat + 0x40 ≤ 255) (hnegative : serviceId + 0x40 ≠ 0x7F)
    (hresponse : (unit.handle (serviceId :: data)).1 = (serviceId + 0x40) :: result)
    (hlength : result.length + 1 ≤ 3 + 4 * unit.memory.length) :
    Calls server ControlUnit.answer (IsoTp.exchange client (serviceId :: data)) unit 1 result
      (unit.handle (serviceId :: data)).2 := by
  have hfits : ∀ pdu ∈ (unit.answer (serviceId :: data)).1, Fits client pdu := by
    intro pdu hpdu
    rcases List.mem_append.mp hpdu with hpdu | hpdu
    · obtain rfl := List.eq_of_mem_replicate hpdu
      have hthree : (pendingPdu ((serviceId :: data).headD 0)).length = 3 := rfl
      have := h.request.1
      exact ⟨by rw [hthree]; decide, by omega⟩
    · obtain rfl := List.mem_singleton.mp hpdu
      rw [hresponse]
      have hlong : ((serviceId + 0x40) :: result).length = result.length + 1 := rfl
      have := h.response
      exact ⟨by omega, by omega⟩
  have hpdu : (serviceId :: data).length = data.length + 1 := rfl
  have hanswer : (unit.answer (serviceId :: data)).1 =
      List.replicate unit.pending (pendingPdu serviceId) ++ [(serviceId + 0x40) :: result] := by
    rw [ControlUnit.answer, hresponse]
    rfl
  have hother : (serviceId + 0x40) :: result ≠ pendingPdu serviceId := fun heq => hnegative (List.cons.inj heq).1
  have hstrip : stripResponseForRequest serviceId ((serviceId + 0x40) :: result) = .ok result := by
    show (if _ then _ else if _ then _ else if _ then _ else Except.ok result) = _
    rw [if_neg hnegative, if_neg (Nat.not_lt.mpr hpositive), if_neg fun hne => hne rfl]
  have hroom := h.request
  refine Calls.exchange h.crossed ⟨?_, ?_⟩ ?_ hanswer h.patient hother hfits hstrip
  · rw [hpdu]
    exact Nat.le_trans (Nat.succ_le_succ hrequest) (by decide)
  · omega
  · omega

/-- The client's report of a unit's codes. -/
def reportedBy (unit : ControlUnit) (mask : UInt8) : UdsDtcReport :=
  ⟨0x02, unit.availability, (unit.under mask).map StoredDtc.reported⟩

theorem Connected.report (h : Connected client server unit) (mask : UInt8) :
    Calls server ControlUnit.answer (reportDtcsByStatusMask (IsoTp.transport client) mask) unit 1
      (reportedBy unit mask) unit := by
  have hunder : (unit.under mask).length ≤ unit.memory.length := List.length_filter_le ..
  have hlength : (0x02 :: unit.availability :: (unit.under mask).flatMap StoredDtc.record).length + 1 ≤
      3 + 4 * unit.memory.length := by
    rw [List.length_cons, List.length_cons, length_records]
    omega
  have hexchange := h.exchange 0x19 [0x02, mask]
    (0x02 :: unit.availability :: (unit.under mask).flatMap StoredDtc.record) (by simp) (by decide) (by decide) rfl
    hlength
  have hdecoded := decodeDtcAndStatusRecords_records (unit.under mask)
  generalize (unit.under mask).flatMap StoredDtc.record = records at hexchange hdecoded
  have hkept : normalizeTransportPayload 0x19 [0x02, mask] (0x02 :: unit.availability :: records) =
      .ok (0x02 :: unit.availability :: records) :=
    normalize_kept (by decide) (by simp) fun hwhole => by cases hwhole.1
  have hsplit : splitRequiredEcho (0x02 :: unit.availability :: records) 0x02 "DTC subfunction" =
      .ok (0x02, unit.availability :: records) := by simp [splitRequiredEcho]
  have hreport : reportOf ⟨0x02, unit.availability :: records⟩ = .ok (reportedBy unit mask) := by
    simp only [reportOf, hdecoded]
    rfl
  have hservice : Calls server ControlUnit.answer (requestService (IsoTp.transport client) 0x19 [0x02, mask]) unit 1
      (0x02 :: unit.availability :: records) unit := hexchange.andLift hkept
  have hechoed : Calls server ControlUnit.answer
      (requestService (IsoTp.transport client) 0x19 [0x02, mask] >>= fun payload =>
        .lift (splitRequiredEcho payload 0x02 "DTC subfunction")) unit 1 (0x02, unit.availability :: records) unit :=
    hservice.andLift hsplit
  have hinformation : Calls server ControlUnit.answer
      (readDtcInformation (IsoTp.transport client) 0x02 [mask]) unit 1 ⟨0x02, unit.availability :: records⟩ unit := by
    have hresponse := hechoed.andLift (g := fun echoed => .ok (⟨echoed.1, echoed.2⟩ : UdsSubfunctionResponse)) rfl
    rwa [Process.bind_assoc] at hresponse
  exact hinformation.andLift hreport

theorem Connected.clear (h : Connected client server unit) :
    Calls server ControlUnit.answer (clearDiagnosticInformation (IsoTp.transport client) 0xFFFFFF) unit 1 ()
      { unit with memory := [] } := by
  have hexchange := h.exchange 0x14 [0xFF, 0xFF, 0xFF] [] (by simp) (by decide) (by decide) rfl
    (show 1 ≤ 3 + 4 * unit.memory.length by omega)
  have hservice : Calls server ControlUnit.answer
      (requestService (IsoTp.transport client) 0x14 (groupBytes 0xFFFFFF)) unit 1 [] { unit with memory := [] } :=
    hexchange.andLift (g := normalizeTransportPayload 0x14 [0xFF, 0xFF, 0xFF]) rfl
  exact hservice.andLift (g := clearedOf) rfl

end Session

/-! ### Requests in any order -/

inductive DtcRequest where
  | report (mask : UInt8)
  | clear
  deriving DecidableEq, Repr

/-- The client's part of a request. -/
def DtcRequest.perform {m : Type → Type} [Monad m] [MonadLift (Except Obd2Error) m] (transport : Transport m) :
    DtcRequest → m (Option UdsDtcReport)
  | .report mask => some <$> reportDtcsByStatusMask transport mask
  | .clear => do
    clearDiagnosticInformation transport 0xFFFFFF
    return none

/-- What a request is for: the codes under the mask, or that there are none from here on. -/
def DtcRequest.purpose : DtcRequest → StateM ControlUnit (Option UdsDtcReport)
  | .report mask => do return some (reportedBy (← get) mask)
  | .clear => do
    modify fun unit => { unit with memory := [] }
    return none

theorem Connected.perform {client server : IsoTpConfig} {unit : ControlUnit} (h : Connected client server unit)
    (request : DtcRequest) :
    Calls server ControlUnit.answer (request.perform (IsoTp.transport client)) unit 1 (request.purpose.run unit).1
        (request.purpose.run unit).2 ∧
      Connected client server (request.purpose.run unit).2 := by
  cases request with
  | report mask =>
    refine ⟨?_, h⟩
    exact (h.report mask).bind (f := fun report => .ret (some report)) (Calls.ret _ _)
  | clear =>
    refine ⟨h.clear.bind (f := fun _ => .ret none) (Calls.ret _ _), ?_⟩
    exact ⟨h.crossed, h.patient, h.request, show 3 ≤ maxClassicIsoTpPayload by decide,
      Nat.le_trans (Nat.le_add_right 3 _) h.response.2⟩

/-- **Reports and clearings are what they are for**, in any number and order and whatever turns client and unit
take: each report has the codes that the unit has under the mask at that time, each with its failure type and
status, and all that is left over is what the unit remembers. -/
theorem requests_end {client server : IsoTpConfig} {unit : ControlUnit} (h : Connected client server unit)
    (requests : List DtcRequest) :
    Network.Ends
      ⟨requests.mapM (DtcRequest.perform (IsoTp.transport client)),
        serveAll server ControlUnit.answer requests.length unit, [], []⟩
      ⟨.ret ((requests.mapM DtcRequest.purpose).run unit).1, .ret ((requests.mapM DtcRequest.purpose).run unit).2,
        [], []⟩ :=
  (Calls.mapM (Connected client server) (fun request _ hconnected => hconnected.perform request) requests h).ends

/-- Before and after a clearing, with one response that is pending each time. -/
theorem requests_end_cleared :
    let unit : ControlUnit := ⟨[⟨(0x01, 0x23, 0x45), 0x09⟩, ⟨(0xC1, 0x00, 0x88), 0x40⟩], 0xFF, 1⟩
    Network.Ends
      ⟨[DtcRequest.report 0x08, .clear, .report 0xFF].mapM
          (DtcRequest.perform (IsoTp.transport (IsoTpConfig.new 0x7E0 0x7E8))),
        serveAll (IsoTpConfig.new 0x7E8 0x7E0) ControlUnit.answer 3 unit, [], []⟩
      ⟨.ret [some ⟨0x02, 0xFF, [.fromThreeBytesAndStatus (0x01, 0x23, 0x45) (some (.fromByte 0x09))]⟩, none,
          some ⟨0x02, 0xFF, []⟩],
        .ret { unit with memory := [] }, [], []⟩ := by
  intro unit
  have hcrossed : Crossed (IsoTpConfig.new 0x7E0 0x7E8) (IsoTpConfig.new 0x7E8 0x7E0) := ⟨rfl, rfl, by decide, by decide⟩
  have hconnected : Connected (IsoTpConfig.new 0x7E0 0x7E8) (IsoTpConfig.new 0x7E8 0x7E0) unit :=
    ⟨hcrossed, by decide, by decide, by decide⟩
  exact requests_end hconnected [.report 0x08, .clear, .report 0xFF]

end UdsClient

end Obd2
