import Obd2.Adapter.Backend
import Obd2.Process.Noise
import Obd2.Transport.IsoTp

/-! Native CAN interfaces, and the channel that keeps a route's frames.

A channel sends classic frames whose identifiers are in range. Of the frames on the bus it hands on those that
the route's filters accept, and it passes over 32 others at most while it waits for one. -/
namespace Obd2

/-! ### Identifiers and filters -/

inductive CanRouteError where
  | identifierOutOfRange (id : UInt32) (bits : UInt8)
  | mixedIdentifierWidth
  deriving DecidableEq, Repr

/-- `{:?}`. -/
def CanRouteError.name : CanRouteError → String
  | .identifierOutOfRange id bits => s!"IdentifierOutOfRange \x7b id: {id}, bits: {bits} \x7d"
  | .mixedIdentifierWidth => "MixedIdentifierWidth"

namespace CanIdentifier

/-- `CanIdentifier::standard`. -/
def ofStandard (id : UInt16) : Except CanRouteError CanIdentifier :=
  if id ≤ 0x7FF then .ok (.standard id) else .error (.identifierOutOfRange id.toUInt32 11)

/-- `CanIdentifier::extended`. -/
def ofExtended (id : UInt32) : Except CanRouteError CanIdentifier :=
  if id ≤ 0x1FFFFFFF then .ok (.extended id) else .error (.identifierOutOfRange id 29)

def raw : CanIdentifier → UInt32
  | .standard id => id.toUInt32
  | .extended id => id

def maxMask : CanIdentifier → CanIdentifier
  | .standard _ => .standard 0x7FF
  | .extended _ => .extended 0x1FFFFFFF

def sameWidth : CanIdentifier → CanIdentifier → Bool
  | .standard _, .standard _ => true
  | .extended _, .extended _ => true
  | _, _ => false

/-- An identifier of its width, as the constructors that check make them. -/
def InRange : CanIdentifier → Prop
  | .standard id => id ≤ 0x7FF
  | .extended id => id ≤ 0x1FFFFFFF

end CanIdentifier

namespace CanRouteFilter

/-- `CanRouteFilter::new`. -/
def new (id mask : CanIdentifier) : Except CanRouteError CanRouteFilter :=
  if id.sameWidth mask then .ok ⟨id, mask⟩ else .error .mixedIdentifierWidth

def exact (id : CanIdentifier) : CanRouteFilter := ⟨id, id.maxMask⟩

def matchesId (filter : CanRouteFilter) (frameId : CanIdentifier) : Bool :=
  filter.id.sameWidth frameId && (frameId.raw &&& filter.mask.raw) == (filter.id.raw &&& filter.mask.raw)

end CanRouteFilter

/-- `CanFilterSet::accepts`: no filters accept everything. -/
def CanRouteConfig.accepts (route : CanRouteConfig) (frameId : CanIdentifier) : Bool :=
  route.filters.isEmpty || route.filters.any fun filter => filter.matchesId frameId

/-! ### Capabilities and routes -/

def nativeCanLinks : List LinkKind := [.nativeCan, .usb]

def nativeCanTransports : List TransportKind := [.isoTp, .j1939, .rawCan, .rawCanFd]

def nativeCanSecondary : List SecondaryBus := [.msCan125, .swCanGmlan33, .msGmlan95]

def nativeCanClassicalBackendCaps : BackendCaps :=
  ⟨.nativeCan, nativeCanLinks, nativeCanTransports, false, 1, nativeCanSecondary, 4096, ⟨false, false, false, false, true⟩⟩

def nativeCanFdBackendCaps : BackendCaps := { nativeCanClassicalBackendCaps with canFd := true }

def CapabilityRequest.withMinPdu (request : CapabilityRequest) (minPdu : Nat) : CapabilityRequest :=
  { request with minPdu := minPdu }

def CanRouteConfig.rawCanRequirement (route : CanRouteConfig) : CapabilityRequest :=
  let request :=
    if route.frameMode.isFd then (CapabilityRequest.new .rawCanFd).requireCanFd else CapabilityRequest.new .rawCan
  let request :=
    match route.secondaryBus with
    | none => request
    | some bus => request.withSecondaryBus bus
  request.withMinPdu (if route.frameMode.isFd then 64 else 8)

inductive NativeCanDriver where
  | socketCan
  | gsUsb
  deriving DecidableEq, Repr

structure NativeCanBackend where
  driver : NativeCanDriver
  interface : Text
  channels : UInt8
  canFd : Bool

structure NativeCanRoutePlan where
  driver : NativeCanDriver
  interface : Text
  negotiated : NegotiatedBackend
  route : CanRouteConfig

namespace NativeCanBackend

def socketcan (interface : Text) : NativeCanBackend := ⟨.socketCan, interface, 1, false⟩

def socketcanFd (interface : Text) : NativeCanBackend := { socketcan interface with canFd := true }

def gsUsb (interface : Text) : NativeCanBackend := ⟨.gsUsb, interface, 1, false⟩

def capabilities (backend : NativeCanBackend) : BackendCaps :=
  { if backend.canFd then nativeCanFdBackendCaps else nativeCanClassicalBackendCaps with channels := backend.channels }

def planRoute (backend : NativeCanBackend) (route : CanRouteConfig) : Except CapabilityMismatch NativeCanRoutePlan := do
  let negotiated ← backend.capabilities.negotiate route.rawCanRequirement
  return ⟨backend.driver, backend.interface, negotiated, route⟩

end NativeCanBackend

/-! ### The channel -/

namespace NativeCanChannel
open IsoTp

def maxUnrelatedFrames : Nat := 32

def frameIdentifier (frame : CanDataFrame) : Except Obd2Error CanIdentifier :=
  if frame.isExtendedId then
    (CanIdentifier.ofExtended frame.id).mapError fun err => .adapter s!"invalid extended CAN id: {err.name}"
  else if frame.id ≤ 0x7FF then
    (CanIdentifier.ofStandard frame.id.toUInt16).mapError fun err => .adapter s!"invalid standard CAN id: {err.name}"
  else
    let hex := String.ofList (Text.upperHex 0 frame.id.toNat)
    .error (.adapter s!"standard CAN frame id 0x{hex} exceeds 11 bits")

def sendFrame (route : CanRouteConfig) (frame : CanDataFrame) : IsoTp Unit :=
  match route.frameMode with
  | .fd _ => .fail (.adapter "native CAN classic channel cannot send CAN-FD frames")
  | .classical => do
    let _identifier ← .lift (frameIdentifier frame)
    .send frame (.ret ())

/-- One round of the loop, and so many after it. -/
def recvFrameFrom (route : CanRouteConfig) : Nat → IsoTp CanDataFrame
  | 0 => .recv fun frame => do
    let identifier ← .lift (frameIdentifier frame)
    if route.accepts identifier then .ret frame else .fail .timeout
  | rounds + 1 => .recv fun frame => do
    let identifier ← .lift (frameIdentifier frame)
    if route.accepts identifier then .ret frame else recvFrameFrom route rounds

/-- `CanFrameIo for NativeCanChannel`. -/
def channel (route : CanRouteConfig) : Layer Obd2Error CanDataFrame CanDataFrame CanDataFrame CanDataFrame where
  send := sendFrame route
  recv := recvFrameFrom route maxUnrelatedFrames

/-! ### A channel is a screen -/

/-- What a channel lets through, and what it passes over. -/
def screen (route : CanRouteConfig) : Screen Obd2Error CanDataFrame CanDataFrame where
  vet frame :=
    match route.frameMode with
    | .fd _ => .error (.adapter "native CAN classic channel cannot send CAN-FD frames")
    | .classical => (frameIdentifier frame).map fun _ => ()
  judge frame := (frameIdentifier frame).map route.accepts
  gaveUp := .timeout
  most := maxUnrelatedFrames

theorem recvFrameFrom_eq (route : CanRouteConfig) (rounds : Nat) :
    recvFrameFrom route rounds = .skipping (screen route).judge .timeout rounds := by
  have hround : ∀ (k : IsoTp CanDataFrame) (frame : CanDataFrame),
      (do
        let identifier ← .lift (frameIdentifier frame)
        if route.accepts identifier then .ret frame else k : IsoTp CanDataFrame) =
      (do if ← .lift ((screen route).judge frame) then .ret frame else k) := by
    intro k frame
    show _ = Process.lift ((frameIdentifier frame).map route.accepts) >>= _
    cases frameIdentifier frame <;> rfl
  induction rounds with
  | zero => exact congrArg Process.recv (funext fun frame => hround (.fail .timeout) frame)
  | succ rounds ih =>
    rw [recvFrameFrom, Process.skipping]
    refine congrArg Process.recv (funext fun frame => ?_)
    rw [ih]
    exact hround _ frame

theorem channel_eq (route : CanRouteConfig) : channel route = (screen route).layer := by
  have hsend : (channel route).send = (screen route).layer.send := by
    funext frame
    show sendFrame route frame = Process.lift ((screen route).vet frame) >>= fun _ => .send frame (.ret ())
    cases hmode : route.frameMode with
    | fd config => simp only [sendFrame, screen, hmode, Process.lift_error, Process.fail_bind]
    | classical =>
      cases hid : frameIdentifier frame with
      | error e => simp only [sendFrame, screen, hmode, hid, Except.map, Process.lift_error, Process.fail_bind]
      | ok identifier => simp only [sendFrame, screen, hmode, hid, Except.map, Process.lift_ok, Process.ret_bind]
  have hrecv : (channel route).recv = (screen route).layer.recv := recvFrameFrom_eq route maxUnrelatedFrames
  show Layer.mk (channel route).send (channel route).recv = _
  rw [hsend, hrecv]

end NativeCanChannel

/-- The channel is bound to a route of classic frames. -/
def NativeCanBackend.bindClassicalIo (debug : CapabilityMismatch → String) (backend : NativeCanBackend)
    (route : CanRouteConfig) :
    Except Obd2Error (NativeCanRoutePlan × Layer Obd2Error IsoTp.CanDataFrame IsoTp.CanDataFrame IsoTp.CanDataFrame
      IsoTp.CanDataFrame) :=
  if route.frameMode.isFd then .error (.adapter "native CAN classic channel cannot bind a CAN-FD route")
  else
    match backend.planRoute route with
    | .error err => .error (.adapter s!"native CAN route rejected: {debug err}")
    | .ok plan => .ok (plan, NativeCanChannel.channel plan.route)

/-! ### Which routes are granted -/

theorem rawCanRequirement_eq (route : CanRouteConfig) :
    route.rawCanRequirement =
      ⟨none, if route.frameMode.isFd then .rawCanFd else .rawCan, route.secondaryBus, route.frameMode.isFd, 1,
        if route.frameMode.isFd then 64 else 8⟩ := by
  unfold CanRouteConfig.rawCanRequirement
  cases route.secondaryBus with
  | none => cases route.frameMode <;> rfl
  | some bus => cases route.frameMode <;> rfl

theorem NativeCanBackend.planRoute_route {backend : NativeCanBackend} {route : CanRouteConfig}
    {plan : NativeCanRoutePlan} (h : backend.planRoute route = .ok plan) : plan.route = route := by
  unfold planRoute at h
  cases hnegotiate : backend.capabilities.negotiate route.rawCanRequirement with
  | error mismatch =>
    rw [hnegotiate] at h
    cases h
  | ok negotiated =>
    rw [hnegotiate] at h
    cases h
    rfl

/-- A native interface grants every route for which it has a channel, and CAN FD if the frames need it. -/
theorem NativeCanBackend.planRoute_ok_iff (backend : NativeCanBackend) (route : CanRouteConfig) :
    (∃ plan, backend.planRoute route = .ok plan) ↔
      1 ≤ backend.channels ∧ (route.frameMode.isFd = true → backend.canFd = true) := by
  have hplan : (∃ plan, backend.planRoute route = .ok plan) ↔
      ∃ negotiated, backend.capabilities.negotiate route.rawCanRequirement = .ok negotiated := by
    unfold planRoute
    cases backend.capabilities.negotiate route.rawCanRequirement with
    | error mismatch => simp [bind, Except.bind]
    | ok negotiated => simp [bind, Except.bind, pure, Except.pure]
  have hbuses : ∀ bus, backend.capabilities.supportsSecondaryBus bus = true := by
    intro bus
    unfold capabilities BackendCaps.supportsSecondaryBus
    cases backend.canFd <;> cases bus <;> rfl
  have htransport : backend.capabilities.supportsTransport
      (if route.frameMode.isFd then .rawCanFd else .rawCan) = true := by
    unfold capabilities BackendCaps.supportsTransport
    cases backend.canFd <;> cases route.frameMode <;> rfl
  have hfd : backend.capabilities.canFd = backend.canFd := by
    unfold capabilities
    cases backend.canFd <;> rfl
  have hmax : backend.capabilities.maxPdu = 4096 := by
    unfold capabilities
    cases backend.canFd <;> rfl
  have hpdu : (if route.frameMode.isFd then 64 else 8) ≤ backend.capabilities.maxPdu := by
    rw [hmax]
    split <;> decide
  have hchannels : backend.capabilities.channels = backend.channels := rfl
  rw [hplan, negotiate_ok_iff, rawCanRequirement_eq]
  simp only [htransport, hbuses, hfd, hpdu, hchannels, implies_true, and_true, true_and, Option.mem_def,
    reduceCtorEq, false_implies]
  cases route.frameMode.isFd with
  | true => simp [and_comm]
  | false => simp

/-! ### What the filters accept -/

namespace CanRouteFilter
open CanIdentifier

/-- **A filter accepts by width and by the bits of its mask.** -/
theorem matchesId_iff {filter : CanRouteFilter} {frameId : CanIdentifier} :
    filter.matchesId frameId = true ↔
      filter.id.sameWidth frameId = true ∧
        ∀ bit < 32, filter.mask.raw.toNat.testBit bit = true →
          frameId.raw.toNat.testBit bit = filter.id.raw.toNat.testBit bit := by
  rw [matchesId, Bool.and_eq_true, beq_iff_eq]
  refine and_congr_right fun _ => ?_
  rw [← UInt32.toNat_inj, UInt32.toNat_and, UInt32.toNat_and]
  constructor
  · intro h bit _ hmask
    have hbit := congrArg (Nat.testBit · bit) h
    simpa [Nat.testBit_and, hmask] using hbit
  · intro h
    refine Nat.eq_of_testBit_eq fun bit => ?_
    rw [Nat.testBit_and, Nat.testBit_and]
    cases hmask : filter.mask.raw.toNat.testBit bit with
    | false => rw [Bool.and_false, Bool.and_false]
    | true =>
      have hlt : bit < 32 := by
        by_contra hge
        have hsmall : filter.mask.raw.toNat < 2 ^ bit :=
          Nat.lt_of_lt_of_le filter.mask.raw.toNat_lt (Nat.pow_le_pow_right (by decide) (Nat.le_of_not_lt hge))
        rw [Nat.testBit_lt_two_pow hsmall] at hmask
        cases hmask
      rw [h bit hlt hmask]

theorem raw_and_maxMask {id : CanIdentifier} (h : id.InRange) (other : CanIdentifier)
    (hwidth : other.sameWidth id = true) : id.raw &&& other.maxMask.raw = id.raw := by
  have hlow : ∀ (x : UInt32) (width : Nat), x.toNat < 2 ^ width → width ≤ 32 →
      x &&& UInt32.ofNat (2 ^ width - 1) = x := by
    intro x width hx hwidth
    apply UInt32.toNat_inj.mp
    have hmask : 2 ^ width - 1 < 2 ^ 32 := by
      have := Nat.pow_le_pow_right (show 0 < 2 by decide) hwidth
      have := Nat.two_pow_pos width
      omega
    rw [UInt32.toNat_and, UInt32.toNat_ofNat_of_lt' hmask, Nat.and_two_pow_sub_one_eq_mod, Nat.mod_eq_of_lt hx]
  cases id with
  | standard id =>
    cases other with
    | standard other =>
      have hid : id.toUInt32.toNat < 2 ^ 11 := by
        rw [UInt16.toNat_toUInt32]
        exact Nat.lt_succ_of_le (UInt16.le_iff_toNat_le.mp h)
      exact hlow id.toUInt32 11 hid (by decide)
    | extended other => cases hwidth
  | extended id =>
    cases other with
    | standard other => cases hwidth
    | extended other => exact hlow id 29 (Nat.lt_succ_of_le (UInt32.le_iff_toNat_le.mp h)) (by decide)

/-- An exact filter accepts its identifier and no other. -/
theorem exact_matchesId_iff {id frameId : CanIdentifier} (hid : id.InRange) (hframe : frameId.InRange) :
    (exact id).matchesId frameId = true ↔ frameId = id := by
  rw [matchesId, Bool.and_eq_true, beq_iff_eq]
  show id.sameWidth frameId = true ∧ frameId.raw &&& id.maxMask.raw = id.raw &&& id.maxMask.raw ↔ _
  have hself : id.sameWidth id = true := by cases id <;> rfl
  constructor
  · rintro ⟨hwidth, hbits⟩
    rw [raw_and_maxMask hframe id hwidth, raw_and_maxMask hid id hself] at hbits
    cases id with
    | standard id =>
      cases frameId with
      | standard frameId =>
        have hnat := congrArg UInt32.toNat hbits
        rw [raw, raw, UInt16.toNat_toUInt32, UInt16.toNat_toUInt32] at hnat
        rw [UInt16.toNat_inj.mp hnat]
      | extended frameId => cases hwidth
    | extended id =>
      cases frameId with
      | standard frameId => cases hwidth
      | extended frameId => exact congrArg _ hbits
  · rintro rfl
    exact ⟨hself, rfl⟩

end CanRouteFilter

end Obd2
