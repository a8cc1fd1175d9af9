import Obd2.Adapter.Elm327.Kept
import Obd2.Adapter.Elm327.Targeting

/-! The header cache over whole runs.

Initialization resets the device and sets no header, so it ends with nothing cached and nothing
set. From there on, whatever is requested of whom, every request is sent under the header of its
target (`sent_under_target`), unless the adapter missed something that happened to the device: a
lost reply to an AT SH is enough (`stale_header`). -/
namespace Obd2.Elm327Adapter
open Device Async

/-! ### Initialization -/

section Initialization

/-- Nothing is cached, set or confirmed. -/
structure Cleared (adapter : Elm327Adapter Device) : Prop where
  cached : adapter.currentHeader = none
  header : adapter.transport.header = none
  confirmed : adapter.transport.confirmed = none

theorem Cleared.coherent {adapter : Elm327Adapter Device} (h : Cleared adapter) : Coherent adapter := by
  have hcached : adapter.cached = none := congrArg (Option.map lineOf) h.cached
  exact ⟨h.header.trans hcached.symm, h.confirmed.trans hcached.symm⟩

/-- A step that sets no header. -/
structure Quiet (a b : Elm327Adapter Device) : Prop where
  info : b.info = a.info
  cleared : Cleared a → Cleared b

theorem Quiet.refl (a : Elm327Adapter Device) : Quiet a a := ⟨rfl, id⟩

theorem Quiet.trans {a b c : Elm327Adapter Device} (h : Quiet a b) (h' : Quiet b c) : Quiet a c :=
  ⟨h'.info.trans h.info, fun ha => h'.cleared (h.cleared ha)⟩

def givesHeader (command : DeviceCommand) : Bool :=
  match command with
  | .header _ => true
  | _ => false

/-- The command sets no header. -/
abbrev SetsNone (cmd : Text) : Prop := givesHeader (.of (lineOf cmd)) = false

theorem raw_quiet {cmd : Text} (hcmd : SetsNone cmd) : Across Quiet (sendCommandRaw cmd) := by
  intro a
  obtain ⟨events, hrun⟩ := sendCommandRaw_run cmd a
  rw [exchange_run] at hrun
  rw [hrun]
  refine ⟨rfl, fun h => ⟨h.cached, ?_, ?_⟩⟩
  · show headerAfter (.of (lineOf cmd)) a.transport.nextExchange a.transport.header = none
    unfold headerAfter
    rw [h.header]
    cases hcommand : DeviceCommand.of (lineOf cmd) with
    | header header => rw [SetsNone, hcommand] at hcmd; cases hcmd
    | reset => simp only [ite_self]
    | forgetEvents => exact ite_self _
    | setting => exact ite_self _
    | diagnostic => exact ite_self _
  · show confirmedAfter (.of (lineOf cmd)) a.transport.nextExchange a.transport.confirmed = none
    rw [h.confirmed]
    cases hcommand : DeviceCommand.of (lineOf cmd) with
    | header header => rw [SetsNone, hcommand] at hcmd; cases hcmd
    | forgetEvents =>
      unfold confirmedAfter
      dsimp only
      split <;> rfl
    | reset => rfl
    | setting => rfl
    | diagnostic => rfl

theorem kept_quiet : Kept SetsNone Quiet where
  refl := Quiet.refl
  trans := Quiet.trans
  raw := raw_quiet
  events _ _ := ⟨rfl, fun h => ⟨h.cached, h.header, h.confirmed⟩⟩
  forget _ := ⟨rfl, fun h => ⟨rfl, h.header, h.confirmed⟩⟩
  recovery cmd hcmd := by
    rcases List.mem_cons.mp hcmd with rfl | hcmd
    · decide
    · rw [SetsNone, command_default hcmd]
      rfl

/-- The reset at the beginning: once it is answered, the device sends under its default header. -/
theorem sendReset_cleared :
    Triple (fun a : Elm327Adapter Device => a.currentHeader = none ∧ a.transport.confirmed = none)
      (sendCommand "ATZ".toList)
      fun o a =>
        match o with
        | .ok _ => Cleared a
        | _ => True := by
  have hraw : Triple (fun a : Elm327Adapter Device => a.currentHeader = none ∧ a.transport.confirmed = none)
      (sendCommandRaw "ATZ".toList) fun o a =>
        match o with
        | .ok _ => Cleared a
        | _ => True := by
    intro a ⟨hcached, hconfirmed⟩
    obtain ⟨events, hrun⟩ := sendCommandRaw_run "ATZ".toList a
    rw [exchange_run] at hrun
    rw [hrun]
    cases hok : a.transport.nextExchange.outcome with
    | error e => trivial
    | ok text =>
      refine ⟨hcached, ?_, hconfirmed⟩
      show headerAfter .reset a.transport.nextExchange a.transport.header = none
      unfold headerAfter
      rw [(Exchange.of_outcome hok).1]
      exact ite_self none
  unfold sendCommand
  refine hraw.bind (fun response => ?_) (fun _ _ _ => trivial) (fun _ _ => trivial)
  have hrest : Across Quiet (do
      pushEvents (responseEvents response)
      handleFaultRecovery response
      pure response : Elm Device Text) := by
    refine kept_quiet.next (kept_quiet.pushEvents _) fun _ => ?_
    exact kept_quiet.next (kept_quiet.handleFaultRecovery response) fun _ => kept_quiet.done response
  refine (hrest.triple fun _ _ h => h.cleared).weaken (fun _ h => h) fun o a h => ?_
  cases o with
  | ok text => exact h
  | error e => trivial
  | dropped => trivial

/-- The end of initialization: if it succeeds, there is a protocol. -/
def Initialized {α : Type} (o : Outcome Obd2Error α) (adapter : Elm327Adapter Device) : Prop :=
  match o with
  | .ok _ => Cleared adapter ∧ adapter.info.protocol ≠ .auto
  | _ => True

/-- A quiet step on the way there. -/
theorem Quiet.next {α β : Type} {x : Elm Device α} {f : α → Elm Device β} (hx : Across Quiet x)
    (hf : ∀ a, Triple Cleared (f a) Initialized) : Triple Cleared (x >>= f) Initialized :=
  (hx.triple fun _ _ h => h.cleared).bind hf (fun _ _ _ => trivial) (fun _ _ => trivial)

/-- What is left once the protocol is known. -/
theorem select_initialized (info : AdapterInfo) (probeAttempts : List ProbeAttempt)
    (hprotocol : info.protocol ≠ .auto) :
    Triple Cleared (do
      pushEvent (.protocolSelected info.protocol) none
      .modify fun adapter => {adapter with info}
      applyProtocolRuntimePolicy info.protocol
      .modify fun adapter => {adapter with initialized := true}
      let events ← drain
      pure (⟨info, probeAttempts, events⟩ : InitializationReport) : Elm Device InitializationReport)
      Initialized := by
  have hpolicy : ∀ cmd ∈ protocolRuntimePolicy info.protocol, SetsNone cmd := by
    cases info.protocol with
    | iso9141 init => cases init <;> decide
    | kwp2000 init => cases init <;> decide
    | _ => decide
  refine Quiet.next (kept_quiet.pushEvents _) fun _ => ?_
  refine Triple.modify (fun a => Cleared a ∧ a.info.protocol ≠ .auto)
    (fun a h => ⟨⟨h.cached, h.header, h.confirmed⟩, hprotocol⟩) ?_
  refine Triple.bind ((kept_quiet.sendCommandsRaw hpolicy).triple fun a b h ha =>
      (⟨h.cleared ha.1, by rw [h.info]; exact ha.2⟩ : Cleared b ∧ b.info.protocol ≠ .auto))
    (fun _ => ?_) (fun _ _ _ => trivial) (fun _ _ => trivial)
  exact fun a h => ⟨⟨h.1.cached, h.1.header, h.1.confirmed⟩, h.2⟩

/-- **An initialized adapter has a protocol, and nothing cached or set.** -/
theorem initialize_cleared {device : Device} (hconfirmed : device.confirmed = none)
    (h : (initializeAdapter.run (new device)).1.isOk = true) :
    Cleared (initializeAdapter.run (new device)).2 ∧
      (initializeAdapter.run (new device)).2.info.protocol ≠ .auto := by
  have hinit : Initialized (initializeAdapter.run (new device)).1 (initializeAdapter.run (new device)).2 := by
    unfold initializeAdapter
    rw [run_bind_ok (run_get _), if_neg (show ¬ (new device).initialized = true from nofun)]
    refine Triple.modify (P := fun a => a.currentHeader = none ∧ a.transport.confirmed = none)
      (fun a => a.currentHeader = none ∧ a.transport.confirmed = none) (fun _ h => h) ?_ (new device)
      ⟨rfl, hconfirmed⟩
    refine sendReset_cleared.bind (fun atzResponse => ?_) (fun _ _ _ => trivial) (fun _ _ => trivial)
    refine Quiet.next (Across.attempt (kept_quiet.sendCommand (by decide))) fun stiReply => ?_
    refine Quiet.next (kept_quiet.sendCommands (by decide)) fun _ => ?_
    refine Quiet.next (kept_quiet.pushEvents _) fun _ => ?_
    refine Quiet.next (kept_quiet.selectProtocol (by decide) (by decide) (by decide)) fun found => ?_
    obtain ⟨probeAttempts, protocol⟩ := found
    dsimp only
    split
    · exact fun _ _ => trivial
    · next hprotocol => exact select_initialized _ probeAttempts hprotocol
  cases ho : (initializeAdapter.run (new device)).1 with
  | ok report => rw [ho] at hinit; exact hinit
  | error e => rw [ho] at h; cases h
  | dropped => rw [ho] at h; cases h

end Initialization

/-! ### Runs -/

/-- The adapter after a request, whatever comes of it. -/
def afterRequest (adapter : Elm327Adapter Device) (req : RoutedRequest) : Elm327Adapter Device :=
  ((routedRequest req).run adapter).2

/-- What a request makes the adapter transmit. -/
def sent (adapter : Elm327Adapter Device) (req : RoutedRequest) : List Transmission :=
  (afterRequest adapter req).transport.log.drop adapter.transport.log.length

/-- The runs from a successful initialization whose requests meet a condition. The device may
come with any header. -/
inductive Run (Meets : Elm327Adapter Device → RoutedRequest → Prop) : Elm327Adapter Device → Prop where
  | initialized {device : Device} : device.confirmed = none →
      (initializeAdapter.run (new device)).1.isOk = true → Run Meets (initializeAdapter.run (new device)).2
  | requested {adapter : Elm327Adapter Device} (req : RoutedRequest) : Run Meets adapter →
      Meets adapter req → Run Meets (afterRequest adapter req)

/-- The adapter sees all that happens while it serves the request, and if it must restore a
broadcast header it knows it. -/
structure Followed (adapter : Elm327Adapter Device) (req : RoutedRequest) : Prop where
  target : Targetable adapter.info.protocol req.target adapter
  seen : ∀ t ∈ sent adapter req, t.Seen

/-- One request: what it sends is sent under the right header, and the cache stays right. -/
theorem request_coherent {adapter : Elm327Adapter Device} {req : RoutedRequest}
    (hcoherent : Coherent adapter) (hprotocol : adapter.info.protocol ≠ .auto)
    (h : Followed adapter req) :
    (∀ t ∈ sent adapter req, t.command = .diagnostic →
        RightHeader adapter.info.protocol req.target t.header) ∧
      Coherent (afterRequest adapter req) ∧
      (afterRequest adapter req).info.protocol = adapter.info.protocol := by
  have hstart : Since adapter.info.protocol adapter.transport.log
      (RightHeader adapter.info.protocol req.target) Coherent adapter :=
    ⟨rfl, [], (List.append_nil _).symm, fun _ => ⟨fun _ ht => absurd ht List.not_mem_nil, hcoherent⟩⟩
  obtain ⟨hinfo, transmissions, hlog, hX⟩ := routedRequest_since hprotocol req adapter ⟨hstart, h.target⟩
  have hsent : sent adapter req = transmissions := by
    unfold sent afterRequest
    rw [hlog, List.drop_left]
  obtain ⟨hright, hafter⟩ := hX (hsent ▸ h.seen)
  exact ⟨hsent ▸ hright, hafter, hinfo⟩

theorem run_coherent {adapter : Elm327Adapter Device} (h : Run Followed adapter) :
    Coherent adapter ∧ adapter.info.protocol ≠ .auto := by
  induction h with
  | initialized hconfirmed hinit =>
    obtain ⟨hcleared, hprotocol⟩ := initialize_cleared hconfirmed hinit
    exact ⟨hcleared.coherent, hprotocol⟩
  | requested req _ hmeets ih =>
    obtain ⟨-, hafter, hinfo⟩ := request_coherent ih.1 ih.2 hmeets
    exact ⟨hafter, by rw [hinfo]; exact ih.2⟩

/-- **Whatever was requested before, a request is sent under the header of its target**, if the
adapter saw what happened to the device. -/
theorem sent_under_target {adapter : Elm327Adapter Device} (hrun : Run Followed adapter)
    (req : RoutedRequest) (h : Followed adapter req) :
    ∀ t ∈ sent adapter req, t.command = .diagnostic →
      RightHeader adapter.info.protocol req.target t.header := by
  obtain ⟨hcoherent, hprotocol⟩ := run_coherent hrun
  exact (request_coherent hcoherent hprotocol h).1

/-! ### Runs on one bus -/

section Examples

def reply (text : String) : Exchange := .received false (Text.bytes text.toList) .delivered

theorem seen_reply {text : String} (hfault : reportsFault (Exchange.textOf (Text.bytes text.toList)) = false)
    {t : Transmission} (ht : t.exchange = reply text) : t.Seen := by
  constructor
  · intro h _ htakes
    rw [ht] at htakes ⊢
    have hyes : Exchange.saysOk (Exchange.textOf (Text.bytes text.toList)) = true := htakes
    exact iff_of_true hyes hfault
  · intro _
    rw [ht]
    exact .inl ⟨_, rfl⟩

/-- A device that is initialized for an 11-bit CAN bus, and then does what the script says. -/
def scripted (script : List Exchange) : Device :=
  { script :=
      [reply "ELM327 v2.1\r\r>", reply "?\r\r>", reply "OK\r\r>", reply "OK\r\r>", reply "OK\r\r>",
        reply "OK\r\r>", reply "OK\r\r>", reply "OK\r\r>", reply "41 00 BE 3F A8 13\r\r>",
        reply "6\r\r>", reply "OK\r\r>", reply "OK\r\r>"] ++ script
    header := none
    confirmed := none
    log := []
    pending := .error .timeout }

def initializedAdapter (script : List Exchange) : Elm327Adapter Device :=
  (initializeAdapter.run (new (scripted script))).2

def toEngine : RoutedRequest := ⟨0x22, [0x12, 0x34], .addressed (.can11Bit 0x7E0 0x7E8)⟩

def toAll : RoutedRequest := ⟨0x01, [0x0C], .broadcast⟩

/-- Every command is answered. -/
def answered : List Exchange :=
  [reply "OK\r\r>", reply "62 12 34 55\r\r>", reply "OK\r\r>", reply "41 0C 1A F8\r\r>"]

/-- A broadcast after a request to one ECU is sent under the default header, set again. -/
theorem sent_under_target_restored :
    ∃ t ∈ sent (afterRequest (initializedAdapter answered) toEngine) toAll, t.command = .diagnostic ∧
      RightHeader (afterRequest (initializedAdapter answered) toEngine).info.protocol .broadcast
        t.header := by
  have hinit : Run Followed (initializedAdapter answered) := .initialized rfl (by decide +kernel)
  have hfirst : Followed (initializedAdapter answered) toEngine := by
    refine ⟨nofun, ?_⟩
    have hsent : sent (initializedAdapter answered) toEngine =
        [⟨lineOf "AT SH 7E0".toList, none, none, reply "OK\r\r>"⟩,
          ⟨lineOf "221234".toList, some (lineOf "7E0".toList), some (lineOf "7E0".toList),
            reply "62 12 34 55\r\r>"⟩] := by decide +kernel
    rw [hsent]
    simp only [List.forall_mem_cons, List.not_mem_nil, false_imp_iff, implies_true, and_true]
    exact ⟨seen_reply (by decide +kernel) rfl, seen_reply (by decide +kernel) rfl⟩
  have hsent : sent (afterRequest (initializedAdapter answered) toEngine) toAll =
      [⟨lineOf "AT SH 7DF".toList, some (lineOf "7E0".toList), some (lineOf "7E0".toList),
          reply "OK\r\r>"⟩,
        ⟨lineOf "010C".toList, some (lineOf "7DF".toList), some (lineOf "7DF".toList),
          reply "41 0C 1A F8\r\r>"⟩] := by decide +kernel
  have hsecond : Followed (afterRequest (initializedAdapter answered) toEngine) toAll := by
    refine ⟨fun _ => .inr (by decide +kernel), ?_⟩
    rw [hsent]
    simp only [List.forall_mem_cons, List.not_mem_nil, false_imp_iff, implies_true, and_true]
    exact ⟨seen_reply (by decide +kernel) rfl, seen_reply (by decide +kernel) rfl⟩
  have hdiagnostic : (⟨lineOf "010C".toList, some (lineOf "7DF".toList), some (lineOf "7DF".toList),
      reply "41 0C 1A F8\r\r>"⟩ : Transmission) ∈
        sent (afterRequest (initializedAdapter answered) toEngine) toAll := by
    rw [hsent]
    exact List.mem_cons_of_mem _ (List.mem_singleton_self _)
  exact ⟨_, hdiagnostic, by decide +kernel,
    sent_under_target (.requested toEngine hinit hfirst) toAll hsecond _ hdiagnostic (by decide +kernel)⟩

/-- The device takes a header, and its OK is lost. -/
def lost : List Exchange :=
  [.received true (Text.bytes "OK\r\r>".toList) (.readFailed .timeout), reply "41 0C 1A F8\r\r>"]

/-- The adapter believes that no header is set, and sends the next broadcast to one ECU. -/
theorem stale_header :
    Run (fun _ _ => True) (afterRequest (initializedAdapter lost) toEngine) ∧
      ∃ t ∈ sent (afterRequest (initializedAdapter lost) toEngine) toAll, t.command = .diagnostic ∧
        ¬ RightHeader (afterRequest (initializedAdapter lost) toEngine).info.protocol .broadcast
          t.header := by
  have hsent : sent (afterRequest (initializedAdapter lost) toEngine) toAll =
      [⟨lineOf "010C".toList, some (lineOf "7E0".toList), none, reply "41 0C 1A F8\r\r>"⟩] := by
    decide +kernel
  have hprotocol : (afterRequest (initializedAdapter lost) toEngine).info.protocol = .can11Bit500 := by
    decide +kernel
  refine ⟨.requested toEngine (.initialized rfl (by decide +kernel)) trivial, ?_⟩
  rw [hsent, hprotocol]
  refine ⟨_, List.mem_singleton_self _, by decide +kernel, ?_⟩
  rintro (hnone | hdefault)
  · cases hnone
  · exact absurd hdefault (by decide +kernel)

end Examples

end Obd2.Elm327Adapter
