import Obd2.Adapter

/-! What a backend can do, and what a CAN route asks of it.

A request is checked against the capabilities before anything is configured; it is granted where
each check holds (`negotiate_ok_iff`). -/
namespace Obd2

inductive BackendKind where
  | elm327
  | stn
  | nativeCan
  | unknown
  deriving DecidableEq, Repr

inductive LinkKind where
  | serial
  | ble
  | usb
  | tcp
  | nativeCan
  | mock
  deriving DecidableEq, Repr

inductive TransportKind where
  | isoTp
  | j1850Vpw
  | j1850Pwm
  | kLine
  | j1939
  | doIp
  | rawCan
  | rawCanFd
  deriving DecidableEq, Repr

inductive SecondaryBus where
  | msCan125
  | swCanGmlan33
  | msGmlan95
  deriving DecidableEq, Repr

structure QuirkFlags where
  elmPromptFraming : Bool
  elmCloneVersionLie : Bool
  smallRxBuffer : Bool
  stnCommandSet : Bool
  nativeCanInterface : Bool
  deriving DecidableEq, Repr

structure BackendCaps where
  backend : BackendKind
  links : List LinkKind
  transports : List TransportKind
  canFd : Bool
  channels : UInt8
  secondaryCan : List SecondaryBus
  maxPdu : Nat
  quirks : QuirkFlags

inductive CapabilityMismatchKind where
  | unsupportedLink (link : LinkKind)
  | unsupportedTransport (transport : TransportKind)
  | secondaryCanUnavailable (bus : SecondaryBus)
  | canFdUnavailable
  | insufficientChannels (required available : UInt8)
  | insufficientPdu (required available : Nat)
  deriving DecidableEq, Repr

structure CapabilityMismatch where
  backend : BackendKind
  kind : CapabilityMismatchKind
  deriving DecidableEq, Repr

structure CapabilityRequest where
  link : Option LinkKind
  transport : TransportKind
  secondaryBus : Option SecondaryBus
  canFd : Bool
  minChannels : UInt8
  minPdu : Nat

structure NegotiatedBackend where
  backend : BackendKind
  link : Option LinkKind
  transport : TransportKind
  secondaryBus : Option SecondaryBus
  canFd : Bool
  channels : UInt8
  maxPdu : Nat
  quirks : QuirkFlags
  deriving DecidableEq, Repr

/-! ### Negotiation -/

def BackendCaps.supportsLink (caps : BackendCaps) (link : LinkKind) : Bool := caps.links.contains link

def BackendCaps.supportsTransport (caps : BackendCaps) (transport : TransportKind) : Bool :=
  caps.transports.contains transport

def BackendCaps.supportsSecondaryBus (caps : BackendCaps) (bus : SecondaryBus) : Bool :=
  caps.secondaryCan.contains bus

/-- Nothing, or the mismatch that is returned early. -/
def BackendCaps.require (caps : BackendCaps) (supported : Bool) (kind : CapabilityMismatchKind) :
    Except CapabilityMismatch Unit :=
  if supported then .ok () else .error ⟨caps.backend, kind⟩

def BackendCaps.negotiate (caps : BackendCaps) (request : CapabilityRequest) :
    Except CapabilityMismatch NegotiatedBackend := do
  match request.link with
  | some link => caps.require (caps.supportsLink link) (.unsupportedLink link)
  | none => pure ()
  caps.require (caps.supportsTransport request.transport) (.unsupportedTransport request.transport)
  caps.require (!request.canFd || caps.canFd) .canFdUnavailable
  match request.secondaryBus with
  | some bus => caps.require (caps.supportsSecondaryBus bus) (.secondaryCanUnavailable bus)
  | none => pure ()
  caps.require (request.minChannels ≤ caps.channels) (.insufficientChannels request.minChannels caps.channels)
  caps.require (request.minPdu ≤ caps.maxPdu) (.insufficientPdu request.minPdu caps.maxPdu)
  return {
    backend := caps.backend
    link := request.link.or caps.links.head?
    transport := request.transport
    secondaryBus := request.secondaryBus
    canFd := request.canFd
    channels := caps.channels
    maxPdu := caps.maxPdu
    quirks := caps.quirks }

theorem require_bind_ok {caps : BackendCaps} {supported : Bool} {kind : CapabilityMismatchKind} {α : Type}
    {rest : Except CapabilityMismatch α} {a : α} :
    (do caps.require supported kind; rest) = .ok a ↔ supported = true ∧ rest = .ok a := by
  cases supported with
  | false => simp [BackendCaps.require, bind, Except.bind]
  | true => simp [BackendCaps.require, bind, Except.bind]

theorem require_map_ok {caps : BackendCaps} {supported : Bool} {kind : CapabilityMismatchKind} {α : Type}
    {f : Unit → α} {a : α} : f <$> caps.require supported kind = .ok a ↔ supported = true ∧ f () = a := by
  cases supported with
  | false => simp [BackendCaps.require, Functor.map, Except.map]
  | true => simp [BackendCaps.require, Functor.map, Except.map]

/-- A request is granted if the capabilities have all that it asks for. -/
theorem negotiate_ok_iff {caps : BackendCaps} {request : CapabilityRequest} :
    (∃ backend, caps.negotiate request = .ok backend) ↔
      (∀ link ∈ request.link, caps.supportsLink link = true) ∧
      caps.supportsTransport request.transport = true ∧
      (request.canFd = false ∨ caps.canFd = true) ∧
      (∀ bus ∈ request.secondaryBus, caps.supportsSecondaryBus bus = true) ∧
      request.minChannels ≤ caps.channels ∧ request.minPdu ≤ caps.maxPdu := by
  unfold BackendCaps.negotiate
  cases request.link with
  | none =>
    cases request.secondaryBus with
    | none => simp [require_bind_ok, require_map_ok]
    | some bus => simp [require_bind_ok, require_map_ok]
  | some link =>
    cases request.secondaryBus with
    | none => simp [require_bind_ok, require_map_ok]
    | some bus => simp [require_bind_ok, require_map_ok]

/-! ### Requests -/

def CapabilityRequest.new (transport : TransportKind) : CapabilityRequest :=
  ⟨none, transport, none, false, 1, 0⟩

def CapabilityRequest.withSecondaryBus (request : CapabilityRequest) (bus : SecondaryBus) : CapabilityRequest :=
  { request with secondaryBus := some bus }

def CapabilityRequest.requireCanFd (request : CapabilityRequest) : CapabilityRequest :=
  { request with canFd := true }

/-! ### Capabilities of the chipsets -/

def elmAtLinks : List LinkKind := [.serial, .ble]

def elmAtTransports : List TransportKind := [.isoTp, .j1850Vpw, .j1850Pwm, .kLine, .j1939]

def stnSecondaryCan : List SecondaryBus := [.msCan125, .swCanGmlan33, .msGmlan95]

def elm327CloneBackendCaps : BackendCaps :=
  ⟨.elm327, elmAtLinks, elmAtTransports, false, 1, [], 512, ⟨true, true, true, false, false⟩⟩

def elm327GenuineBackendCaps : BackendCaps :=
  ⟨.elm327, elmAtLinks, elmAtTransports, false, 1, [], 512, ⟨true, false, true, false, false⟩⟩

def stnBackendCaps : BackendCaps :=
  ⟨.stn, elmAtLinks, elmAtTransports, false, 1, stnSecondaryCan, 4096, ⟨true, false, false, true, false⟩⟩

def unknownBackendCaps : BackendCaps :=
  ⟨.unknown, [], [], false, 0, [], 0, ⟨false, false, false, false, false⟩⟩

def AdapterInfo.backendCaps (info : AdapterInfo) : BackendCaps :=
  match info.chipset with
  | .elm327Clone => elm327CloneBackendCaps
  | .elm327Genuine => elm327GenuineBackendCaps
  | .stn => stnBackendCaps
  | .unknown => unknownBackendCaps

def AdapterInfo.negotiateBackend (info : AdapterInfo) (request : CapabilityRequest) :
    Except CapabilityMismatch NegotiatedBackend :=
  info.backendCaps.negotiate request

/-! ### Routes -/

/-- An identifier of 11 or of 29 bits. -/
inductive CanIdentifier where
  | standard (id : UInt16)
  | extended (id : UInt32)
  deriving DecidableEq, Repr

structure CanRouteFilter where
  id : CanIdentifier
  mask : CanIdentifier
  deriving DecidableEq, Repr

structure CanFdConfig where
  dataBitrateBps : UInt32
  bitrateSwitch : Bool
  isoMode : Bool
  deriving DecidableEq, Repr

inductive CanFrameMode where
  | classical
  | fd (config : CanFdConfig)
  deriving DecidableEq, Repr

def CanFrameMode.isFd : CanFrameMode → Bool
  | .classical => false
  | .fd _ => true

inductive CanRouteBus where
  | primary
  | secondary (bus : SecondaryBus)
  deriving DecidableEq, Repr

structure CanRouteConfig where
  bus : CanRouteBus
  arbitrationBitrateBps : UInt32
  frameMode : CanFrameMode
  filters : List CanRouteFilter
  deriving DecidableEq, Repr

def CanRouteConfig.secondaryBus (route : CanRouteConfig) : Option SecondaryBus :=
  match route.bus with
  | .primary => none
  | .secondary bus => some bus

def CanRouteConfig.isotpRequirement (route : CanRouteConfig) : CapabilityRequest :=
  let request := CapabilityRequest.new .isoTp
  let request := if route.frameMode.isFd then request.requireCanFd else request
  match route.secondaryBus with
  | none => request
  | some bus => request.withSecondaryBus bus

/-- What a route asks for: ISO-TP, CAN FD if its frames are, and its bus if that is not the primary one. -/
theorem isotpRequirement_eq (route : CanRouteConfig) :
    route.isotpRequirement = ⟨none, .isoTp, route.secondaryBus, route.frameMode.isFd, 1, 0⟩ := by
  unfold CanRouteConfig.isotpRequirement
  cases route.secondaryBus with
  | none =>
    cases route.frameMode with
    | classical => rfl
    | fd config => rfl
  | some bus =>
    cases route.frameMode with
    | classical => rfl
    | fd config => rfl

/-- STN has every secondary bus, and no CAN FD. -/
theorem stn_negotiate_ok_iff {route : CanRouteConfig} :
    (∃ backend, stnBackendCaps.negotiate route.isotpRequirement = .ok backend) ↔
      route.frameMode.isFd = false := by
  have hbuses : ∀ bus, stnBackendCaps.supportsSecondaryBus bus = true := by
    intro bus
    cases bus <;> rfl
  have htransport : stnBackendCaps.supportsTransport .isoTp = true := rfl
  have hfd : stnBackendCaps.canFd = false := rfl
  have hchannels : 1 ≤ stnBackendCaps.channels := by decide
  rw [negotiate_ok_iff, isotpRequirement_eq]
  simp [hbuses, htransport, hfd, hchannels]

/-- A route is granted by a known chipset if its frames are classical ones, and by STN alone if its bus is
a secondary one. -/
theorem negotiateBackend_ok_iff {info : AdapterInfo} {route : CanRouteConfig} :
    (∃ backend, info.negotiateBackend route.isotpRequirement = .ok backend) ↔
      info.chipset ≠ .unknown ∧ route.frameMode.isFd = false ∧
        (route.bus ≠ .primary → info.chipset = .stn) := by
  unfold AdapterInfo.negotiateBackend AdapterInfo.backendCaps
  cases info.chipset with
  | elm327Clone =>
    rw [negotiate_ok_iff, isotpRequirement_eq, CanRouteConfig.secondaryBus]
    cases route.bus with
    | primary => simp [elm327CloneBackendCaps, elmAtTransports, BackendCaps.supportsTransport]
    | secondary bus => simp [elm327CloneBackendCaps, BackendCaps.supportsSecondaryBus]
  | elm327Genuine =>
    rw [negotiate_ok_iff, isotpRequirement_eq, CanRouteConfig.secondaryBus]
    cases route.bus with
    | primary => simp [elm327GenuineBackendCaps, elmAtTransports, BackendCaps.supportsTransport]
    | secondary bus => simp [elm327GenuineBackendCaps, BackendCaps.supportsSecondaryBus]
  | stn => simp [stn_negotiate_ok_iff]
  | unknown =>
    rw [negotiate_ok_iff, isotpRequirement_eq]
    simp [unknownBackendCaps, BackendCaps.supportsTransport]

end Obd2
