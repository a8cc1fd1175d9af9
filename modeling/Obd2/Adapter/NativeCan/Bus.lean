import Obd2.Adapter.NativeCan
import Obd2.Transport.IsoTp.Conversation

/-! ISO-TP over the channel of a native interface.

On a bus there are frames of others. An exchange over a channel ends as it does on the frames that the channel
hands on (`exchange_over_channel`), and a client and a server on two channels never return anything but what
they do alone on the bus, whatever others send and when (`exchange_on_bus`). -/
namespace Obd2.NativeCanChannel
open IsoTp Process Network

/-! ### Frames of a transport -/

/-- The identifier of the frames that are sent under `id`. -/
def identifierOf (id : UInt32) : CanIdentifier := if id > 0x7FF then .extended id else .standard id.toUInt16

theorem frameIdentifier_frameOf {config : IsoTpConfig} (hid : config.requestId ≤ 0x1FFFFFFF) (data : List UInt8) :
    frameIdentifier (frameOf config data) = .ok (identifierOf config.requestId) := by
  unfold frameIdentifier identifierOf
  by_cases hwide : config.requestId > 0x7FF
  · have hextended : (frameOf config data).isExtendedId = true := decide_eq_true hwide
    rw [if_pos hextended, if_pos hwide, CanIdentifier.ofExtended, if_pos (show (frameOf config data).id ≤ 0x1FFFFFFF from hid)]
    rfl
  · have hstandard : (frameOf config data).isExtendedId = false := decide_eq_false hwide
    have hle : config.requestId ≤ 0x7FF := UInt32.not_lt.mp hwide
    have hsmall : config.requestId.toUInt16 ≤ 0x7FF := by
      have hnat := UInt32.le_iff_toNat_le.mp hle
      rw [UInt16.le_iff_toNat_le, UInt32.toNat_toUInt16]
      exact Nat.le_trans (Nat.mod_le ..) hnat
    rw [hstandard, if_neg Bool.false_ne_true, if_pos (show (frameOf config data).id ≤ 0x7FF from hle), if_neg hwide,
      CanIdentifier.ofStandard, if_pos (show (frameOf config data).id.toUInt16 ≤ 0x7FF from hsmall)]
    rfl

section Bound
variable {route : CanRouteConfig}

theorem vet_frameOf (hmode : route.frameMode = .classical) {config : IsoTpConfig}
    (hid : config.requestId ≤ 0x1FFFFFFF) {frame : CanDataFrame} (h : IsFrameOf config frame) :
    (screen route).vet frame = .ok () := by
  obtain ⟨data, rfl⟩ := h
  simp only [screen, hmode, frameIdentifier_frameOf hid, Except.map]

theorem accepts_frameOf {config : IsoTpConfig} (hid : config.requestId ≤ 0x1FFFFFFF)
    (haccepts : route.accepts (identifierOf config.requestId) = true) {frame : CanDataFrame}
    (h : IsFrameOf config frame) : (screen route).accepts frame = true := by
  obtain ⟨data, rfl⟩ := h
  refine (screen route).accepts_of_judge ?_
  show (frameIdentifier (frameOf config data)).map route.accepts = _
  rw [frameIdentifier_frameOf hid, Except.map, haccepts]

end Bound

/-- A channel that is bound is one of classic frames. -/
theorem bindClassicalIo_eq_ok {debug : CapabilityMismatch → String} {backend : NativeCanBackend}
    {route : CanRouteConfig} {plan : NativeCanRoutePlan}
    {layer : Layer Obd2Error CanDataFrame CanDataFrame CanDataFrame CanDataFrame}
    (h : backend.bindClassicalIo debug route = .ok (plan, layer)) :
    route.frameMode = .classical ∧ layer = channel route := by
  unfold NativeCanBackend.bindClassicalIo at h
  split at h
  · cases h
  · next hmode =>
    cases hplan : backend.planRoute route with
    | error mismatch =>
      rw [hplan] at h
      cases h
    | ok plan' =>
      rw [hplan] at h
      cases h
      refine ⟨?_, by rw [NativeCanBackend.planRoute_route hplan]⟩
      cases hroute : route.frameMode with
      | classical => rfl
      | fd config =>
        rw [hroute] at hmode
        exact absurd rfl hmode

/-! ### One end, and a stream of frames -/

/-- The frames of the route, among those on the bus. -/
def ofRoute (route : CanRouteConfig) (frame : CanDataFrame) : Bool :=
  match frameIdentifier frame with
  | .ok identifier => route.accepts identifier
  | .error _ => false

theorem accepts_screen (route : CanRouteConfig) : (screen route).accepts = ofRoute route := by
  funext frame
  show (((frameIdentifier frame).map route.accepts).toOption == some true) = ofRoute route frame
  rw [ofRoute]
  cases frameIdentifier frame with
  | error e => rfl
  | ok identifier =>
    show (some (route.accepts identifier) == some true) = route.accepts identifier
    cases route.accepts identifier <;> rfl

/-- **An exchange over a channel ends as it does on the frames that the channel hands on**, with what ends the
channel behind them: a frame without an identifier, a gap that is too long, or the end of the stream. If neither
of the first two is there, these frames are all those of the route. -/
theorem exchange_over_channel {debug : CapabilityMismatch → String} {backend : NativeCanBackend}
    {route : CanRouteConfig} {plan : NativeCanRoutePlan}
    {layer : Layer Obd2Error CanDataFrame CanDataFrame CanDataFrame CanDataFrame}
    (h : backend.bindClassicalIo debug route = .ok (plan, layer)) (config : IsoTpConfig) (pdu : List UInt8)
    (closed : Obd2Error) (stream : List CanDataFrame) :
    let handed := heard (screen route).judge .timeout closed maxUnrelatedFrames maxUnrelatedFrames stream
    let run := (through layer (exchange config pdu)).run closed stream
    run.result = ((exchange config pdu).run handed.2 handed.1).result ∧
      run.sent = ((exchange config pdu).run handed.2 handed.1).sent ∧
      ((∀ frame ∈ stream, ∃ identifier, frameIdentifier frame = .ok identifier) →
        (∀ gap, gap <:+: stream → (∀ frame ∈ gap, ofRoute route frame = false) → gap.length ≤ maxUnrelatedFrames) →
        handed = (stream.filter (ofRoute route), closed)) := by
  obtain ⟨hmode, rfl⟩ := bindClassicalIo_eq_ok h
  intro handed run
  have hserves := Layer.skipping_serves (screen route).vet (screen route).judge .timeout closed maxUnrelatedFrames
  have hends : run.result = ((exchange config pdu).run handed.2 handed.1).result ∧
      run.sent = ((exchange config pdu).run handed.2 handed.1).sent := by
    show ((through (channel route) (exchange config pdu)).run closed stream).result = _ ∧
      ((through (channel route) (exchange config pdu)).run closed stream).sent = _
    rw [channel_eq]
    by_cases hid : config.requestId ≤ 0x1FFFFFFF
    · have hsends := (exchange_frames config pdu).mono fun _ hframe => vet_frameOf hmode hid hframe
      have hheard : heard (screen route).judge .timeout closed maxUnrelatedFrames maxUnrelatedFrames stream =
          (handed.1, handed.2) := rfl
      obtain ⟨hresult, hsent, -⟩ := hserves.run_over hsends hheard
      exact ⟨hresult, hsent.trans (List.map_id _)⟩
    · obtain ⟨e, he⟩ := exchange_fails config (fun h => absurd h hid) pdu
      rw [he]
      exact ⟨rfl, rfl⟩
  refine ⟨hends.1, hends.2, fun hvalid hgaps => ?_⟩
  have hrejected : ∀ frame, (screen route).judge frame = .ok false → ofRoute route frame = false := by
    intro frame hframe
    rw [← accepts_screen, Screen.accepts, hframe]
    rfl
  have hjudged : ∀ frame ∈ stream, ∃ accepted, (screen route).judge frame = .ok accepted := by
    intro frame hframe
    obtain ⟨identifier, hid⟩ := hvalid frame hframe
    refine ⟨route.accepts identifier, ?_⟩
    show (frameIdentifier frame).map route.accepts = _
    rw [hid, Except.map]
  rw [← accepts_screen]
  exact heard_eq_filter closed hjudged
    fun gap hgap hgapped => hgaps gap hgap fun frame hframe => hrejected frame (hgapped frame hframe)

/-- A response behind a frame of another module. -/
theorem exchange_over_channel_tester :
    let route : CanRouteConfig := ⟨.primary, 500000, .classical, [.exact (.standard 0x7E8)]⟩
    let stream : List CanDataFrame := [⟨0x123, [1], false⟩, ⟨0x7E8, [2, 0x7E, 0x00], false⟩]
    ((through (channel route) (exchange (IsoTpConfig.new 0x7E0 0x7E8) [0x3E, 0x00])).run .timeout stream).result =
      ((exchange (IsoTpConfig.new 0x7E0 0x7E8) [0x3E, 0x00]).run .timeout [⟨0x7E8, [2, 0x7E, 0x00], false⟩]).result := by
  intro route stream
  obtain ⟨plan, hplan⟩ := ((NativeCanBackend.socketcan "can0".toList).planRoute_ok_iff route).mpr
    ⟨by decide, fun h => by cases h⟩
  have hroute := NativeCanBackend.planRoute_route hplan
  have hbound : (NativeCanBackend.socketcan "can0".toList).bindClassicalIo (fun _ => "") route =
      .ok (plan, channel route) := by
    rw [NativeCanBackend.bindClassicalIo, if_neg (by decide), hplan, ← hroute]
  exact (exchange_over_channel hbound (IsoTpConfig.new 0x7E0 0x7E8) [0x3E, 0x00] .timeout stream).1

/-! ### Two ends on a bus -/

/-- A frame that is none of the route's. -/
def Foreign (route : CanRouteConfig) (frame : CanDataFrame) : Prop := ofRoute route frame = false

/-- **On a bus with any other traffic an exchange comes to the server's response, or fails.** The client and
the server are each on a channel that accepts the frames of the other, and frames of others come in between, in
whatever number and at whatever time. The client returns nothing but the data of the response; and where neither
of the two can take another turn, it has returned them, or one of the two has given up. -/
theorem exchange_on_bus {client server : IsoTpConfig} (h : Crossed client server)
    {clientRoute serverRoute : CanRouteConfig}
    (hclient : clientRoute.accepts (identifierOf server.requestId) = true)
    (hserver : serverRoute.accepts (identifierOf client.requestId) = true) {serviceId : UInt8}
    {data : List UInt8} {answer : List UInt8 → List (List UInt8)} {pending : Nat} {response result : List UInt8}
    (hrequest : Fits server (serviceId :: data)) (hlimit : (serviceId :: data).length ≤ client.maxPayloadLen)
    (hanswer : answer (serviceId :: data) = List.replicate pending (pendingPdu serviceId) ++ [response])
    (hpending : pending ≤ maxResponsePendingFrames) (hresponse : response ≠ pendingPdu serviceId)
    (hfits : ∀ pdu ∈ answer (serviceId :: data), Fits client pdu)
    (hresult : stripResponseForRequest serviceId response = .ok result)
    {after : Network Obd2Error CanDataFrame CanDataFrame (List UInt8) Unit}
    (hrun : NoisySteps (Foreign serverRoute) (Foreign clientRoute)
      ⟨through (channel clientRoute) (exchange client (serviceId :: data)),
        through (channel serverRoute) (serve server answer), [], []⟩ after) :
    (∀ returned, after.left = .ret returned → returned = result) ∧
      (Terminal after → after.left = .ret result ∨ (∃ e, after.left = .fail e) ∨ ∃ e, after.right = .fail e) := by
  have hreaches := h.exchanges hrequest hlimit hanswer hpending hresponse hfits
  rw [hresult] at hreaches
  have hends := hreaches.ends (done_terminal result ())
  unfold Foreign at hrun
  rw [channel_eq, channel_eq, ← accepts_screen, ← accepts_screen] at hrun
  have hclientSends := (exchange_frames client (serviceId :: data)).mono
    fun _ => accepts_frameOf h.senderValid hserver
  have hserverSends := (serve_frames server answer).mono fun _ => accepts_frameOf h.receiverValid hclient
  refine ⟨(noisy_safe hclientSends hserverSends rfl rfl hends hrun).1, fun hterminal => ?_⟩
  by_cases hleft : ∃ e, after.left = .fail e
  · exact .inr (.inl hleft)
  by_cases hright : ∃ e, after.right = .fail e
  · exact .inr (.inr hright)
  exact .inl (noisy_complete hclientSends hserverSends rfl rfl hends hrun hterminal
    (fun e he => hleft ⟨e, he⟩) fun e he => hright ⟨e, he⟩).1

/-- A tester that is answered in one frame, after one of another module. -/
theorem exchange_on_bus_tester :
    let clientRoute : CanRouteConfig := ⟨.primary, 500000, .classical, [.exact (.standard 0x7E8)]⟩
    let serverRoute : CanRouteConfig := ⟨.primary, 500000, .classical, [.exact (.standard 0x7E0)]⟩
    ∃ after : Network Obd2Error CanDataFrame CanDataFrame (List UInt8) Unit,
      after.left = .ret [0x00] ∧
      NoisySteps (Foreign serverRoute) (Foreign clientRoute)
        ⟨through (channel clientRoute) (exchange (IsoTpConfig.new 0x7E0 0x7E8) [0x3E, 0x00]),
          through (channel serverRoute) (serve (IsoTpConfig.new 0x7E8 0x7E0) fun _ => [[0x7E, 0x00]]), [], []⟩ after ∧
      ∀ returned, after.left = .ret returned → returned = [0x00] := by
  intro clientRoute serverRoute
  have hforeign : Foreign clientRoute ⟨0x123, [1], false⟩ := rfl
  have hcrossed : Crossed (IsoTpConfig.new 0x7E0 0x7E8) (IsoTpConfig.new 0x7E8 0x7E0) := ⟨rfl, rfl, by decide, by decide⟩
  have hrequest : Fits (IsoTpConfig.new 0x7E8 0x7E0) [0x3E, 0x00] := ⟨by decide, by decide⟩
  have hanswer : (fun _ : List UInt8 => [[(0x7E : UInt8), 0x00]]) [0x3E, 0x00] =
      List.replicate 0 (pendingPdu 0x3E) ++ [[0x7E, 0x00]] := rfl
  have hresponse : [(0x7E : UInt8), 0x00] ≠ pendingPdu 0x3E := by decide
  have hfits : ∀ pdu ∈ [[(0x7E : UInt8), 0x00]], Fits (IsoTpConfig.new 0x7E0 0x7E8) pdu := by
    unfold Fits
    decide
  have hrun : ∃ after : Network Obd2Error CanDataFrame CanDataFrame (List UInt8) Unit, after.left = .ret [0x00] ∧
      NoisySteps (Foreign serverRoute) (Foreign clientRoute)
        ⟨through (channel clientRoute) (exchange (IsoTpConfig.new 0x7E0 0x7E8) [0x3E, 0x00]),
          through (channel serverRoute) (serve (IsoTpConfig.new 0x7E8 0x7E0) fun _ => [[0x7E, 0x00]]), [], []⟩ after := by
    refine ⟨_, ?_, .head (.toLeft hforeign) (.head (.turn .leftSend) (.head (.turn .rightRecv)
      (.head (.turn .rightSend) (.head (.turn .leftRecv) (.head (.turn .leftRecv) (.refl _))))))⟩
    rfl
  obtain ⟨after, hleft, hsteps⟩ := hrun
  exact ⟨after, hleft, hsteps, (exchange_on_bus hcrossed rfl rfl hrequest (by decide) hanswer (Nat.zero_le _) hresponse
    hfits rfl hsteps).1⟩

end Obd2.NativeCanChannel
