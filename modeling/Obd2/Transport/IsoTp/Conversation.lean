import Obd2.Process.Noise
import Obd2.Transport.IsoTp.Pending

/-! A client and a server.

The client makes an exchange; the server takes a PDU, and sends what it has to answer, one PDU after the
other. With responses that are pending and then one that is not, the exchange comes to that response,
whatever turns the two take (`exchange_with_server`). What a client does in several requests to a server with a state
is put together request by request (`Calls`). -/
namespace Obd2.IsoTp
open Network Process

/-- A server of one request. -/
def serve (config : IsoTpConfig) (answer : List UInt8 → List (List UInt8)) : IsoTp Unit := do
  let requestPdu ← recvPdu config
  (answer requestPdu).forM (sendPdu config)

/-- The PDU is one that a transport can send and its peer has room for. -/
def Fits (receiver : IsoTpConfig) (pdu : List UInt8) : Prop :=
  pdu.length ≤ maxClassicIsoTpPayload ∧ pdu.length ≤ receiver.maxPayloadLen

section Ends
variable {client server : IsoTpConfig} {α β : Type}

theorem Crossed.swap (h : Crossed client server) : Crossed server client :=
  ⟨h.toSender, h.toReceiver, h.receiverValid, h.senderValid⟩

theorem Crossed.delivers (h : Crossed client server) {pdu : List UInt8} (hfits : Fits server pdu) :
    Reaches (⟨sendPdu client pdu, recvPdu server, [], []⟩ : Network _ _ _ Unit (List UInt8))
      ⟨.ret (), .ret pdu, [], []⟩ := by
  by_cases h7 : pdu.length ≤ 7
  · rw [sendPdu, if_pos h7]
    exact h.single h7 hfits.2
  · rw [sendPdu, if_neg h7]
    exact h.multi (by omega) hfits.1 hfits.2

/-- A PDU from the client to the server, and what either end does then. -/
theorem Crossed.request (h : Crossed client server) {pdu : List UInt8} (hfits : Fits server pdu)
    (p : IsoTp α) (k : List UInt8 → IsoTp β) :
    Reaches (⟨sendPdu client pdu >>= fun _ => p, recvPdu server >>= k, [], []⟩ : Network _ _ _ α β)
      ⟨p, k pdu, [], []⟩ := (h.delivers hfits).bind (fun _ => p) k

/-- A PDU the other way. -/
theorem Crossed.respond (h : Crossed client server) {pdu : List UInt8} (hfits : Fits client pdu)
    (k : List UInt8 → IsoTp α) (q : IsoTp β) :
    Reaches (⟨recvPdu client >>= k, sendPdu server pdu >>= fun _ => q, [], []⟩ : Network _ _ _ α β)
      ⟨k pdu, q, [], []⟩ := (h.swap.request hfits q k).swap

/-- Pending responses are waited out, and the first other one is the answer. -/
theorem Crossed.answers (h : Crossed client server) {serviceId : UInt8} {response : List UInt8}
    (hresponse : response ≠ pendingPdu serviceId) (hfits : Fits client response)
    {pending allowed : Nat} (hallowed : pending ≤ allowed) (hpending : pending ≠ 0 → Fits client (pendingPdu serviceId)) :
    Reaches
      (⟨recvPdu client >>= awaitResponse client serviceId allowed,
        (List.replicate pending (pendingPdu serviceId) ++ [response]).forM (sendPdu server), [], []⟩ :
          Network _ _ _ (List UInt8) Unit)
      ⟨.lift (stripResponseForRequest serviceId response), .ret (), [], []⟩ := by
  induction pending generalizing allowed with
  | zero =>
    have hanswer : isResponsePendingFor serviceId response = false := beq_eq_false_iff_ne.mpr hresponse
    have hended : awaitResponse client serviceId allowed response =
        .lift (stripResponseForRequest serviceId response) := awaitResponse_not_pending hanswer allowed
    rw [← hended]
    exact h.respond hfits (awaitResponse client serviceId allowed) (.ret ())
  | succ pending ih =>
    obtain ⟨left, rfl⟩ : ∃ left, allowed = left + 1 := ⟨allowed - 1, by omega⟩
    have hwait : isResponsePendingFor serviceId (pendingPdu serviceId) = true := beq_self_eq_true _
    have hnext : awaitResponse client serviceId (left + 1) (pendingPdu serviceId) =
        recvPdu client >>= awaitResponse client serviceId left := by
      rw [awaitResponse, if_pos hwait]
    rw [List.replicate_succ, List.cons_append]
    refine (h.respond (hpending (Nat.succ_ne_zero pending)) (awaitResponse client serviceId (left + 1)) _).trans ?_
    rw [hnext]
    exact ih (Nat.le_of_succ_le_succ hallowed) fun _ => hpending (Nat.succ_ne_zero pending)

/-- A request, and its response behind those that are pending. -/
theorem Crossed.exchanges (h : Crossed client server) {serviceId : UInt8} {data : List UInt8}
    {answer : List UInt8 → List (List UInt8)} {pending : Nat} {response : List UInt8}
    (hrequest : Fits server (serviceId :: data)) (hlimit : (serviceId :: data).length ≤ client.maxPayloadLen)
    (hanswer : answer (serviceId :: data) = List.replicate pending (pendingPdu serviceId) ++ [response])
    (hpending : pending ≤ maxResponsePendingFrames) (hresponse : response ≠ pendingPdu serviceId)
    (hfits : ∀ pdu ∈ answer (serviceId :: data), Fits client pdu) :
    Reaches (⟨exchange client (serviceId :: data), serve server answer, [], []⟩ :
        Network _ _ _ (List UInt8) Unit)
      ⟨.lift (stripResponseForRequest serviceId response), .ret (), [], []⟩ := by
  rw [hanswer] at hfits
  have hwait : pending ≠ 0 → Fits client (pendingPdu serviceId) := by
    intro hne
    exact hfits _ (List.mem_append_left _ (List.mem_replicate.mpr ⟨hne, rfl⟩))
  have hlast : Fits client response := hfits _ (List.mem_append_right _ List.mem_cons_self)
  rw [exchange_fits hlimit]
  refine (h.request hrequest (awaitAnswer client serviceId) _).trans ?_
  rw [hanswer]
  exact h.answers hresponse hlast hpending hwait

end Ends

/-- **An exchange with a server ends, and comes to the server's response**, whatever turns the two take: the
data of a positive response, or the error that another one stands for. Nothing is left over. -/
theorem exchange_with_server {client server : IsoTpConfig} (h : Crossed client server) {serviceId : UInt8}
    {data : List UInt8} {answer : List UInt8 → List (List UInt8)} {pending : Nat} {response : List UInt8}
    (hrequest : Fits server (serviceId :: data)) (hlimit : (serviceId :: data).length ≤ client.maxPayloadLen)
    (hanswer : answer (serviceId :: data) = List.replicate pending (pendingPdu serviceId) ++ [response])
    (hpending : pending ≤ maxResponsePendingFrames) (hresponse : response ≠ pendingPdu serviceId)
    (hfits : ∀ pdu ∈ answer (serviceId :: data), Fits client pdu) :
    Ends ⟨exchange client (serviceId :: data), serve server answer, [], []⟩
      ⟨.lift (stripResponseForRequest serviceId response), .ret (), [], []⟩ := by
  have hterminal : Terminal (⟨.lift (stripResponseForRequest serviceId response), .ret (), [], []⟩ :
      Network Obd2Error CanDataFrame CanDataFrame (List UInt8) Unit) := by
    intro t hstep
    cases hresult : stripResponseForRequest serviceId response with
    | ok a =>
      rw [hresult] at hstep
      cases hstep
    | error e =>
      rw [hresult] at hstep
      cases hstep
  exact (h.exchanges hrequest hlimit hanswer hpending hresponse hfits).ends hterminal

/-- A request in one frame, two responses that are pending, and one of three frames. -/
theorem exchange_with_server_vin :
    let response : List UInt8 := 0x62 :: 0xF1 :: 0x90 :: List.replicate 17 0x41
    Ends ⟨exchange (IsoTpConfig.new 0x7E0 0x7E8) [0x22, 0xF1, 0x90],
        serve (IsoTpConfig.new 0x7E8 0x7E0) fun _ => List.replicate 2 (pendingPdu 0x22) ++ [response], [], []⟩
      ⟨.ret (0xF1 :: 0x90 :: List.replicate 17 0x41), .ret (), [], []⟩ := by
  intro response
  have hcrossed : Crossed (IsoTpConfig.new 0x7E0 0x7E8) (IsoTpConfig.new 0x7E8 0x7E0) := ⟨rfl, rfl, by decide, by decide⟩
  have hrequest : Fits (IsoTpConfig.new 0x7E8 0x7E0) [0x22, 0xF1, 0x90] := ⟨by decide, by decide⟩
  have hanswer : (fun _ : List UInt8 => List.replicate 2 (pendingPdu 0x22) ++ [response]) [0x22, 0xF1, 0x90] =
      List.replicate 2 (pendingPdu 0x22) ++ [response] := rfl
  have hfits : ∀ pdu ∈ List.replicate 2 (pendingPdu 0x22) ++ [response], Fits (IsoTpConfig.new 0x7E0 0x7E8) pdu := by
    unfold Fits
    decide
  have hpending : 2 ≤ maxResponsePendingFrames := by decide
  have hresponse : response ≠ pendingPdu 0x22 := by decide
  exact exchange_with_server hcrossed hrequest (by decide) hanswer hpending hresponse hfits

/-! ### Requests in a row -/

/-- A server with a state, of so many requests. -/
def serveAll {σ : Type} (config : IsoTpConfig) (answer : σ → List UInt8 → List (List UInt8) × σ) : Nat → σ → IsoTp σ
  | 0, s => .ret s
  | requests + 1, s => do
    let requestPdu ← recvPdu config
    (answer s requestPdu).1.forM (sendPdu config)
    serveAll config answer requests (answer s requestPdu).2

section Calls
variable {σ α β : Type} {client : IsoTpConfig} (server : IsoTpConfig) (answer : σ → List UInt8 → List (List UInt8) × σ)

/-- The client's part comes to `a` with so many requests, and the server from one state to another, whatever
the two do afterwards. -/
def Calls (p : IsoTp α) (s : σ) (requests : Nat) (a : α) (s' : σ) : Prop :=
  ∀ (γ : Type) (f : α → IsoTp γ) (more : Nat),
    Reaches (⟨p >>= f, serveAll server answer (requests + more) s, [], []⟩ :
        Network Obd2Error CanDataFrame CanDataFrame γ σ)
      ⟨f a, serveAll server answer more s', [], []⟩

variable {server answer}

theorem Calls.ret (a : α) (s : σ) : Calls server answer (.ret a) s 0 a s := by
  intro γ f more
  rw [Nat.zero_add]
  exact .refl _

theorem Calls.lift {x : Except Obd2Error α} {a : α} (h : x = .ok a) (s : σ) :
    Calls server answer (.lift x) s 0 a s := by
  rw [h]
  exact Calls.ret a s

theorem Calls.bind {p : IsoTp α} {f : α → IsoTp β} {s s' s'' : σ} {m n : Nat} {a : α} {b : β}
    (hp : Calls server answer p s m a s') (hf : Calls server answer (f a) s' n b s'') :
    Calls server answer (p >>= f) s (m + n) b s'' := by
  intro γ g more
  rw [Process.bind_assoc, Nat.add_assoc]
  exact (hp γ (fun a => f a >>= g) (n + more)).trans (hf γ g more)

/-- A fallible pure step behind it. -/
theorem Calls.andLift {p : IsoTp α} {s s' : σ} {requests : Nat} {a : α} {g : α → Except Obd2Error β} {b : β}
    (hp : Calls server answer p s requests a s') (h : g a = .ok b) :
    Calls server answer (p >>= fun a => .lift (g a)) s requests b s' :=
  hp.bind (f := fun a => .lift (g a)) (Calls.lift h s')

/-- A request that is answered, pending responses first. -/
theorem Calls.exchange (h : Crossed client server) {s : σ} {serviceId : UInt8} {data : List UInt8} {pending : Nat}
    {response result : List UInt8} (hrequest : Fits server (serviceId :: data))
    (hlimit : (serviceId :: data).length ≤ client.maxPayloadLen)
    (hanswer : (answer s (serviceId :: data)).1 = List.replicate pending (pendingPdu serviceId) ++ [response])
    (hpending : pending ≤ maxResponsePendingFrames) (hresponse : response ≠ pendingPdu serviceId)
    (hfits : ∀ pdu ∈ (answer s (serviceId :: data)).1, Fits client pdu)
    (hresult : stripResponseForRequest serviceId response = .ok result) :
    Calls server answer (exchange client (serviceId :: data)) s 1 result (answer s (serviceId :: data)).2 := by
  intro γ f more
  rw [hanswer] at hfits
  have hwait : pending ≠ 0 → Fits client (pendingPdu serviceId) := by
    intro hne
    exact hfits _ (List.mem_append_left _ (List.mem_replicate.mpr ⟨hne, rfl⟩))
  have hlast : Fits client response := hfits _ (List.mem_append_right _ List.mem_cons_self)
  rw [exchange_fits hlimit, Process.bind_assoc, Nat.add_comm 1 more]
  refine (h.request hrequest (awaitAnswer client serviceId >>= f) _).trans ?_
  rw [hanswer]
  have hanswers := (h.answers hresponse hlast hpending hwait).bind f
    fun _ => serveAll server answer more (answer s (serviceId :: data)).2
  rwa [hresult] at hanswers

/-- Requests one after the other. What each comes to is told by `g`, as long as the server's state satisfies `I`. -/
theorem Calls.mapM {κ : Type} {f : κ → IsoTp β} {g : κ → StateM σ β} (I : σ → Prop)
    (hf : ∀ k s, I s → Calls server answer (f k) s 1 ((g k).run s).1 ((g k).run s).2 ∧ I ((g k).run s).2)
    (ks : List κ) {s : σ} (hs : I s) :
    Calls server answer (ks.mapM f) s ks.length ((ks.mapM g).run s).1 ((ks.mapM g).run s).2 := by
  induction ks generalizing s with
  | nil =>
    rw [List.mapM_nil, List.mapM_nil]
    exact Calls.ret [] s
  | cons k ks ih =>
    obtain ⟨hfirst, hafter⟩ := hf k s hs
    have hrest := (ih hafter).bind (f := fun bs => .ret (((g k).run s).1 :: bs)) (Calls.ret _ _)
    rw [List.mapM_cons, List.mapM_cons, List.length_cons, Nat.add_comm]
    exact hfirst.bind (f := fun b => ks.mapM f >>= fun bs => .ret (b :: bs)) hrest

/-- Where the client's part is all there is, both end, whatever turns they take. -/
theorem Calls.ends {p : IsoTp α} {s s' : σ} {requests : Nat} {a : α} (h : Calls server answer p s requests a s') :
    Ends ⟨p, serveAll server answer requests s, [], []⟩ ⟨.ret a, .ret s', [], []⟩ := by
  have hreaches := h α .ret 0
  rw [Process.bind_ret, Nat.add_zero] at hreaches
  exact hreaches.ends (done_terminal a s')

end Calls

/-! ### What is sent -/

/-- A frame that the transport makes. -/
def IsFrameOf (config : IsoTpConfig) (frame : CanDataFrame) : Prop := ∃ data, frame = frameOf config data

section Sent
variable (config : IsoTpConfig)

theorem sendPdu_frames (pdu : List UInt8) : SendsOnly (IsFrameOf config) (sendPdu config pdu) := by
  refine .of_emits (sendPdu_emits config pdu) fun frame hframe => ?_
  obtain ⟨data, -, rfl⟩ := List.mem_map.mp hframe
  exact ⟨data, rfl⟩

theorem isFrameOf_flowControl {frame : CanDataFrame} (h : IsFlowControl config frame) : IsFrameOf config frame :=
  ⟨_, h⟩

theorem recvPdu_frames : SendsOnly (IsFrameOf config) (recvPdu config) :=
  recvPdu_sendsOnly.mono fun _ => isFrameOf_flowControl config

theorem exchange_frames (pdu : List UInt8) : SendsOnly (IsFrameOf config) (exchange config pdu) := by
  unfold exchange
  split
  · exact .fail _
  · refine (SendsOnly.lift _).bind fun _ => (sendPdu_frames config _).bind fun _ => (recvPdu_frames config).bind ?_
    exact fun responsePdu => (awaitResponse_sendsOnly ..).mono fun _ => isFrameOf_flowControl config

theorem serve_frames (answer : List UInt8 → List (List UInt8)) : SendsOnly (IsFrameOf config) (serve config answer) := by
  have hall : ∀ pdus : List (List UInt8), SendsOnly (IsFrameOf config) (pdus.forM (sendPdu config)) := by
    intro pdus
    induction pdus with
    | nil => exact .ret ()
    | cons pdu pdus ih => exact (sendPdu_frames config pdu).bind fun _ => ih
  exact (recvPdu_frames config).bind fun requestPdu => hall _

end Sent

end Obd2.IsoTp
