import Obd2.Protocol.Pid.Formulas
import Obd2.Session.Requests

/-! Readings of standard PIDs, live and from a freeze frame, and the vehicle information.

An answer repeats the service and, but for what it skips, the request. Two bytes are skipped of
the answers to services 0x02 and 0x09, so the number of the freeze frame and the count of messages
come first in the data: the frame's data is shifted by one byte, and so is the calibration
verification number. Both are right only if the shift does not show (`echoed_bytes_iff`). -/
namespace Obd2.Session
open ElmCodec Elm327Adapter

/-! ### Operations -/

structure VehicleInfo where
  vin : Text
  calibrationIds : List Text
  cvns : List UInt32
  ecuName : Option Text
  deriving DecidableEq, Repr

section Operations
variable {A : Type} [Adapter A]

def readPid (pid : Pid) : Op A Reading := do
  ensureInitialized
  let data ← sendRequest (.readPid pid)
  let value ← .lift (pid.parse data)
  pure ⟨value, pid.unit, data, .live⟩

def readFreezeFrame (pid : Pid) (frame : UInt8) : Op A Reading := do
  ensureInitialized
  let data ← sendRequest ⟨0x02, [pid.code, frame], .broadcast⟩
  let value ← .lift (pid.parse data)
  pure ⟨value, pid.unit, data, .freezeFrame⟩

def calibrationIdsRequest : ServiceRequest := ⟨0x09, [0x04], .broadcast⟩
def cvnRequest : ServiceRequest := ⟨0x09, [0x06], .broadcast⟩
def ecuNameRequest : ServiceRequest := ⟨0x09, [0x0A], .broadcast⟩

/-- The printable characters of an answer. -/
def printableText (data : List UInt8) : Text := (data.filter isPrintable).map fun b => Char.ofNat b.toNat

def calibrationIdsOf : Except Obd2Error (List UInt8) → List Text
  | .ok data => if printableText data = [] then [] else [printableText data]
  | .error _ => []

def cvnsOf : Except Obd2Error (List UInt8) → List UInt32
  | .ok data => if data.length ≥ 4 then [u32OfBe data] else []
  | .error _ => []

def ecuNameOf : Except Obd2Error (List UInt8) → Option Text
  | .ok data => if printableText data = [] then none else some (printableText data)
  | .error _ => none

def readVehicleInfo : Op A VehicleInfo := do
  ensureInitialized
  let vin ← readVin
  let calibrationIds ← (sendRequest calibrationIdsRequest).attempt
  let cvns ← (sendRequest cvnRequest).attempt
  let ecuName ← (sendRequest ecuNameRequest).attempt
  pure ⟨vin, calibrationIdsOf calibrationIds, cvnsOf cvns, ecuNameOf ecuName⟩

end Operations

/-- The value or the failure of a reading. -/
def valueOf : Outcome Obd2Error Reading → Outcome Obd2Error Value
  | .ok reading => .ok reading.value
  | .error e => .error e
  | .dropped => .dropped

/-! ### A shift by one byte -/

/-- Data behind another byte, cut to its length, is the same if it is that byte throughout. -/
theorem take_cons_eq_iff {b : UInt8} {data : List UInt8} :
    (b :: data).take data.length = data ↔ ∀ x ∈ data, x = b := by
  induction data generalizing b with
  | nil => simp
  | cons x rest ih =>
    rw [List.length_cons, List.take_succ_cons, List.cons.injEq, ih, List.forall_mem_cons, eq_comm]
    constructor
    · rintro ⟨rfl, hrest⟩
      exact ⟨rfl, hrest⟩
    · rintro ⟨rfl, hrest⟩
      exact ⟨rfl, hrest⟩

/-- What a PID makes of two data of its length is the same if the data is, or if there is no formula. -/
theorem parse_eq_iff {pid : Pid} {data data' : List UInt8} (hdata : data.length = pid.responseBytes)
    (hdata' : data'.length = pid.responseBytes) :
    pid.parse data = pid.parse data' ↔ pid.formula = none ∨ data = data' := by
  unfold Pid.parse
  dsimp only
  rw [if_neg (Nat.not_lt_of_le hdata.ge), if_neg (Nat.not_lt_of_le hdata'.ge)]
  cases hformula : pid.formula with
  | none => simp
  | some formula =>
    rw [Pid.responseBytes_eq_width hformula] at hdata hdata'
    constructor
    · intro h
      exact .inr (Formula.decode_injective hdata hdata' (Except.ok.inj h))
    · rintro (h | rfl)
      · cases h
      · rfl

/-- A number behind a one, cut to four bytes, is the same if it is ones throughout. -/
theorem u32OfBe_cons_eq_iff (c : UInt32) : u32OfBe (0x01 :: beBytes 4 c.toNat) = c ↔ c = 0x01010101 := by
  have hlength := length_beBytes 4 c.toNat
  have hc : ofBeBytes (beBytes 4 c.toNat) = c.toNat := ofBeBytes_beBytes c.toNat_lt
  constructor
  · intro h
    have hshifted : ofBeBytes ((0x01 :: beBytes 4 c.toNat).take 4) = ofBeBytes (beBytes 4 c.toNat) := by
      have hcut : ((0x01 :: beBytes 4 c.toNat).take 4).length = 4 := by simp
      rw [← u32OfBe_toNat (Nat.le_of_eq hcut), u32OfBe_take, h, hc]
    have hsame := ofBeBytes_injective (by simp) hshifted
    have hones : beBytes 4 c.toNat = List.replicate 4 0x01 := by
      refine List.eq_replicate_iff.mpr ⟨hlength, take_cons_eq_iff.mp ?_⟩
      rw [hlength]
      exact hsame
    rw [hones] at hc
    exact UInt32.toNat_inj.mp hc.symm
  · rintro rfl
    decide +kernel

/-! ### Reading -/

/-- A reading has the value that was parsed, and none if parsing failed. -/
theorem valueOf_reading {A : Type} (value : Except Obd2Error Value) (reading : Value → Reading)
    (hreading : ∀ v, (reading v).value = v) (s : Session A) :
    valueOf ((Async.lift value >>= fun v => pure (reading v) : Op A Reading).run s).1 =
      Outcome.ofExcept value := by
  cases value with
  | ok v => exact congrArg Outcome.ok (hreading v)
  | error e => rfl

section Reading
variable {L : Type} [Link L] {s : Session (Elm327Adapter L)} {pid : Pid} {data : List UInt8}

/-- The device answers a request, and its answer is read as these bytes. -/
def AnswersWith (s : Session (Elm327Adapter L)) (req : ServiceRequest) (bytes : List UInt8) : Prop :=
  ∃ response, Answered s req response ∧
    Reads (requestCommand req.serviceId req.data) (responseLines response) [bytes]

theorem AnswersWith.initialized {req : ServiceRequest} {bytes : List UInt8} (h : AnswersWith s req bytes) :
    s.initialized = true := by
  obtain ⟨_, hanswered, _⟩ := h
  exact hanswered.initialized

/-- What is read of an answer is what follows the bytes that are skipped. -/
theorem sendRequest_answersWith (req : ServiceRequest) {rest : List UInt8} (hrest : rest ≠ [])
    (hlen : skipOf req.serviceId ≤ req.data.length + 1)
    (h : AnswersWith s req (acknowledged req.serviceId req.data (skipOf req.serviceId) ++ rest)) :
    ∃ s', (sendRequest req).run s = (.ok (truncateKnownPayload req.serviceId req.data rest), s') := by
  obtain ⟨response, hanswered, hreads⟩ := h
  have hnonempty : ∀ payload ∈ [rest], payload ≠ [] := by
    intro payload hpayload
    rw [List.mem_singleton.mp hpayload]
    exact hrest
  exact sendRequest_payload hanswered hlen hnonempty hreads

/-- A live reading is what the PID makes of the data. -/
theorem readPid_value (hdata : data.length = pid.responseBytes)
    (h : AnswersWith s (.readPid pid) (0x41 :: pid.code :: data)) :
    valueOf ((readPid pid).run s).1 = Outcome.ofExcept (pid.parse data) := by
  have hnonempty : data ≠ [] := List.ne_nil_of_length_pos (hdata ▸ pid.responseBytes_pos)
  have hwhole : truncateKnownPayload 0x01 [pid.code] data = data := List.take_of_length_le hdata.le
  have hready := ensureInitialized_ready h.initialized
  rw [ServiceRequest.readPid] at h
  obtain ⟨s', hsend⟩ := sendRequest_answersWith ⟨0x01, [pid.code], .broadcast⟩ hnonempty (Nat.le_refl 2) h
  rw [hwhole] at hsend
  rw [readPid, Async.run_bind_ok hready, ServiceRequest.readPid, Async.run_bind_ok hsend]
  exact valueOf_reading _ _ (fun _ => rfl) s'

/-- A reading of a freeze frame is what the PID makes of the data behind the number of the frame. -/
theorem readFreezeFrame_value {frame : UInt8}
    (h : AnswersWith s ⟨0x02, [pid.code, frame], .broadcast⟩ (0x42 :: pid.code :: frame :: data)) :
    valueOf ((readFreezeFrame pid frame).run s).1 =
      Outcome.ofExcept (pid.parse ((frame :: data).take pid.responseBytes)) := by
  obtain ⟨s', hsend⟩ := sendRequest_answersWith ⟨0x02, [pid.code, frame], .broadcast⟩
    (List.cons_ne_nil frame data) (Nat.le_succ 2) h
  rw [readFreezeFrame, Async.run_bind_ok (ensureInitialized_ready h.initialized), Async.run_bind_ok hsend]
  exact valueOf_reading _ _ (fun _ => rfl) s'

/-- A freeze frame is read as its data exactly if the number of the frame in front of it does not show. -/
theorem freezeFrame_iff {L' : Type} [Link L'] {s' : Session (Elm327Adapter L')} {frame : UInt8}
    (hdata : data.length = pid.responseBytes)
    (hfrozen : AnswersWith s ⟨0x02, [pid.code, frame], .broadcast⟩ (0x42 :: pid.code :: frame :: data))
    (hlive : AnswersWith s' (.readPid pid) (0x41 :: pid.code :: data)) :
    valueOf ((readFreezeFrame pid frame).run s).1 = valueOf ((readPid pid).run s').1 ↔
      pid.formula = none ∨ ∀ b ∈ data, b = frame := by
  have hcut : ((frame :: data).take pid.responseBytes).length = pid.responseBytes := by
    rw [List.length_take, List.length_cons, hdata]
    omega
  rw [readFreezeFrame_value hfrozen, readPid_value hdata hlive, ← take_cons_eq_iff, hdata,
    ← parse_eq_iff hcut hdata]
  exact Outcome.ofExcept_inj

/-! ### Calibration verification numbers -/

/-- Reading the vehicle information comes to the request of the number, in the state `asking`, and
the request after that ends. -/
structure AsksCvn (s asking : Session (Elm327Adapter L)) : Prop where
  before : ∃ s₀ s₁ vin calibrationIds, ensureInitialized.run s = (.ok (), s₀) ∧ readVin.run s₀ = (.ok vin, s₁) ∧
    (sendRequest calibrationIdsRequest).run s₁ = (Outcome.ofExcept calibrationIds, asking)
  after : ∃ ecuName s', (sendRequest ecuNameRequest).run ((sendRequest cvnRequest).run asking).2 =
    (Outcome.ofExcept ecuName, s')

/-- The session when the number is asked for. -/
def askingCvn (s : Session (Elm327Adapter L)) : Session (Elm327Adapter L) :=
  ((sendRequest calibrationIdsRequest).run (readVin.run s).2).2

theorem asksCvn_of_ends {vin : Text} {calibrationIds ecuName : Except Obd2Error (List UInt8)}
    (hinitialized : s.initialized = true) (hvin : (readVin.run s).1 = .ok vin)
    (hcalibration : ((sendRequest calibrationIdsRequest).run (readVin.run s).2).1 = .ofExcept calibrationIds)
    (hname : ((sendRequest ecuNameRequest).run ((sendRequest cvnRequest).run (askingCvn s)).2).1 = .ofExcept ecuName) :
    AsksCvn s (askingCvn s) :=
  ⟨⟨_, _, vin, calibrationIds, ensureInitialized_ready hinitialized, Prod.ext hvin rfl, Prod.ext hcalibration rfl⟩,
    ⟨ecuName, _, Prod.ext hname rfl⟩⟩

/-- What is reported is the number behind the count of messages, cut to four bytes. -/
theorem readVehicleInfo_cvns {asking : Session (Elm327Adapter L)} {c : List UInt8} (hasks : AsksCvn s asking)
    (hc : c.length = 4) (h : AnswersWith asking cvnRequest (0x49 :: 0x06 :: 0x01 :: c)) :
    ∃ info, (readVehicleInfo.run s).1 = .ok info ∧ info.cvns = [u32OfBe (0x01 :: c)] := by
  obtain ⟨s₀, s₁, vin, calibrationIds, hready, hvin, hcalibration⟩ := hasks.before
  obtain ⟨ecuName, s', hname⟩ := hasks.after
  obtain ⟨s₂, hsend⟩ := sendRequest_answersWith cvnRequest (List.cons_ne_nil 0x01 c) (Nat.le_refl 2) h
  have hcvns : (sendRequest cvnRequest).run asking = (Outcome.ofExcept (.ok (0x01 :: c)), s₂) := hsend
  have hlong : cvnsOf (.ok (0x01 :: c)) = [u32OfBe (0x01 :: c)] := by
    rw [cvnsOf, if_pos]
    rw [List.length_cons, hc]
    decide
  rw [hcvns] at hname
  rw [readVehicleInfo, Async.run_bind_ok hready, Async.run_bind_ok hvin,
    Async.run_bind_ok (Async.run_attempt_of_ends hcalibration), Async.run_bind_ok (Async.run_attempt_of_ends hcvns),
    Async.run_bind_ok (Async.run_attempt_of_ends hname), hlong]
  exact ⟨_, rfl, rfl⟩

/-- The number is reported exactly if the count in front of it does not show. -/
theorem cvn_iff {asking : Session (Elm327Adapter L)} {c : UInt32} (hasks : AsksCvn s asking)
    (h : AnswersWith asking cvnRequest (0x49 :: 0x06 :: 0x01 :: beBytes 4 c.toNat)) :
    ∃ info, (readVehicleInfo.run s).1 = .ok info ∧ (info.cvns = [c] ↔ c = 0x01010101) := by
  obtain ⟨info, hrun, hcvns⟩ := readVehicleInfo_cvns hasks (length_beBytes 4 c.toNat) h
  refine ⟨info, hrun, ?_⟩
  rw [hcvns, List.cons.injEq, u32OfBe_cons_eq_iff]
  exact and_iff_left rfl

/-- **Bytes that an answer repeats are decoded as data, unless the data is the same without them.** -/
theorem echoed_bytes_iff {L' : Type} [Link L'] :
    (∀ (s : Session (Elm327Adapter L)) (s' : Session (Elm327Adapter L')) (pid : Pid) (frame : UInt8)
      (data : List UInt8), data.length = pid.responseBytes →
      AnswersWith s ⟨0x02, [pid.code, frame], .broadcast⟩ (0x42 :: pid.code :: frame :: data) →
      AnswersWith s' (.readPid pid) (0x41 :: pid.code :: data) →
      (valueOf ((readFreezeFrame pid frame).run s).1 = valueOf ((readPid pid).run s').1 ↔
        pid.formula = none ∨ ∀ b ∈ data, b = frame)) ∧
    (∀ (s asking : Session (Elm327Adapter L)) (c : UInt32), AsksCvn s asking →
      AnswersWith asking cvnRequest (0x49 :: 0x06 :: 0x01 :: beBytes 4 c.toNat) →
      ∃ info, (readVehicleInfo.run s).1 = .ok info ∧ (info.cvns = [c] ↔ c = 0x01010101)) :=
  ⟨fun _ _ _ _ _ => freezeFrame_iff, fun _ _ _ => cvn_iff⟩

end Reading

/-! ### Examples -/

section Examples

/-- Coolant temperature. -/
def coolantTemp : Pid := ⟨0x05⟩

/-- A session that answers one command with one line. -/
def answeringOnce (command line : String) : Session (Elm327Adapter MockTransport) :=
  readySession .can11Bit500 [(command.toList, line.toList)]

theorem answersWith_once {command line : String} {service : UInt8} {data bytes : List UInt8}
    (hexchange : ((exchange (requestCommand service data)).run (answeringOnce command line).adapter.transport).1 =
      .ok line.toList)
    (hreads : Reads (requestCommand service data) (responseLines line.toList) [bytes]) :
    AnswersWith (answeringOnce command line) ⟨service, data, .broadcast⟩ bytes :=
  ⟨line.toList, answered_broadcast rfl rfl rfl hexchange, hreads⟩

/-- A session that answers the requests for the vehicle information. -/
def calibrated : Session (Elm327Adapter MockTransport) :=
  readySession .can11Bit500
    [("0902".toList, "49 02 01 31 47 43 48 4B 32 33 32 32 34 46 30 30 30 30 30 31\r>".toList),
      ("0904".toList, "49 04 01 43 41 4C 31\r>".toList), ("0906".toList, "49 06 01 12 34 56 78\r>".toList),
      ("090A".toList, "49 0A 01 45 43 4D\r>".toList)]

/-- What the session reads before and after the number, and where it is when it asks. -/
theorem calibrated_runs :
    (readVin.run calibrated).1 = .ok "1GCHK23224F000001".toList ∧
      ((sendRequest calibrationIdsRequest).run (readVin.run calibrated).2).1 =
        .ofExcept (.ok [0x01, 0x43, 0x41, 0x4C, 0x31]) ∧
      ((sendRequest ecuNameRequest).run ((sendRequest cvnRequest).run (askingCvn calibrated)).2).1 =
        .ofExcept (.ok [0x01, 0x45, 0x43, 0x4D]) ∧
      (askingCvn calibrated).initialized = true ∧ (askingCvn calibrated).requestInFlight = false ∧
      (askingCvn calibrated).adapter.currentHeader = none ∧
      ((exchange (requestCommand 0x09 [0x06])).run (askingCvn calibrated).adapter.transport).1 =
        .ok "49 06 01 12 34 56 78\r>".toList := by
  decide +kernel

theorem asksCvn_calibrated : AsksCvn calibrated (askingCvn calibrated) := by
  obtain ⟨hvin, hcalibration, hname, -⟩ := calibrated_runs
  exact asksCvn_of_ends rfl hvin hcalibration hname

theorem answers_calibrated :
    AnswersWith (askingCvn calibrated) cvnRequest (0x49 :: 0x06 :: 0x01 :: [0x12, 0x34, 0x56, 0x78]) := by
  obtain ⟨-, -, -, hinitialized, hidle, hheader, hexchange⟩ := calibrated_runs
  exact ⟨_, answered_broadcast hinitialized hidle hheader hexchange, .bytes rfl (.skipped rfl .nil)⟩

/-- Frame 0x41 of a coolant temperature that is 0x41 too is read as it is, and the number 12345678 is not. -/
theorem echoed_bytes_hidden :
    valueOf ((readFreezeFrame coolantTemp 0x41).run (answeringOnce "020541" "42 05 41 41\r>")).1 =
        valueOf ((readPid coolantTemp).run (answeringOnce "0105" "41 05 41\r>")).1 ∧
      ∃ info, (readVehicleInfo.run calibrated).1 = .ok info ∧ info.cvns ≠ [0x12345678] := by
  have hfrozen : AnswersWith (answeringOnce "020541" "42 05 41 41\r>") ⟨0x02, [0x05, 0x41], .broadcast⟩
      [0x42, 0x05, 0x41, 0x41] := answersWith_once (by decide +kernel) (.bytes rfl (.skipped rfl .nil))
  have hlive : AnswersWith (answeringOnce "0105" "41 05 41\r>") (.readPid coolantTemp) [0x41, 0x05, 0x41] :=
    answersWith_once (by decide +kernel) (.bytes rfl (.skipped rfl .nil))
  obtain ⟨hfreeze, hcvn⟩ := @echoed_bytes_iff MockTransport _ MockTransport _
  refine ⟨(hfreeze _ _ coolantTemp 0x41 [0x41] rfl hfrozen hlive).mpr (.inr (by simp)), ?_⟩
  obtain ⟨info, hrun, hiff⟩ := hcvn calibrated (askingCvn calibrated) 0x12345678 asksCvn_calibrated answers_calibrated
  exact ⟨info, hrun, fun h => absurd (hiff.mp h) (by decide)⟩

/-- A freeze frame 0 reads another coolant temperature than its data, and another number is reported. -/
theorem echoed_bytes_decoded :
    (AnswersWith (answeringOnce "020500" "42 05 00 7B\r>") ⟨0x02, [0x05, 0x00], .broadcast⟩
        [0x42, 0x05, 0x00, 0x7B] ∧
      AnswersWith (answeringOnce "0105" "41 05 7B\r>") (.readPid coolantTemp) [0x41, 0x05, 0x7B] ∧
      valueOf ((readFreezeFrame coolantTemp 0x00).run (answeringOnce "020500" "42 05 00 7B\r>")).1 ≠
        valueOf ((readPid coolantTemp).run (answeringOnce "0105" "41 05 7B\r>")).1) ∧
    (AsksCvn calibrated (askingCvn calibrated) ∧
      AnswersWith (askingCvn calibrated) cvnRequest (0x49 :: 0x06 :: 0x01 :: [0x12, 0x34, 0x56, 0x78]) ∧
      ∃ info, (readVehicleInfo.run calibrated).1 = .ok info ∧ info.cvns = [0x01123456]) := by
  have hfrozen : AnswersWith (answeringOnce "020500" "42 05 00 7B\r>") ⟨0x02, [0x05, 0x00], .broadcast⟩
      [0x42, 0x05, 0x00, 0x7B] := answersWith_once (by decide +kernel) (.bytes rfl (.skipped rfl .nil))
  have hlive : AnswersWith (answeringOnce "0105" "41 05 7B\r>") (.readPid coolantTemp) [0x41, 0x05, 0x7B] :=
    answersWith_once (by decide +kernel) (.bytes rfl (.skipped rfl .nil))
  refine ⟨⟨hfrozen, hlive, fun h => ?_⟩,
    asksCvn_calibrated, answers_calibrated, readVehicleInfo_cvns asksCvn_calibrated rfl answers_calibrated⟩
  have hfreeze : valueOf ((readFreezeFrame coolantTemp 0x00).run (answeringOnce "020500" "42 05 00 7B\r>")).1 =
      Outcome.ofExcept (coolantTemp.parse [0x00]) := readFreezeFrame_value hfrozen
  have hread : valueOf ((readPid coolantTemp).run (answeringOnce "0105" "41 05 7B\r>")).1 =
      Outcome.ofExcept (coolantTemp.parse [0x7B]) := readPid_value rfl hlive
  rw [hfreeze, hread, Outcome.ofExcept_inj, parse_eq_iff rfl rfl] at h
  rcases h with hnone | hsame
  · cases hnone
  · cases hsame

end Examples

end Obd2.Session
