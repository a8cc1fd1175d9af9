import Obd2.Adapter.Elm327.Device

/-! The header a request is sent under.

The adapter caches the header it has set, so that requests to one target do not set it again.
The cache is right as long as the adapter sees what happens to the device (`Transmission.Seen`):
then cache, header and last confirmation agree after every command (`sendCommand_since`), and
whatever requests came before, each goes out under the header of its target
(`sent_under_target`). -/
namespace Obd2
open Device Async

/-- What the adapter must see of a transmission. A header that the device takes is confirmed by
an OK that arrives, unless a reset takes it away again: then no OK may arrive. The report of a
reset and the answer to ATFE arrive, unless no header is confirmed that they would concern. -/
structure Transmission.Seen (t : Transmission) : Prop where
  header : ∀ h, t.command = .header h → t.exchange.takes = true →
    (t.exchange.confirms = true ↔ t.exchange.resets = false)
  fault : t.command = .forgetEvents ∨ t.exchange.resets = true →
    (∃ text, t.exchange.outcome = .ok text) ∨ t.confirmed = none

namespace Elm327Adapter

/-- The default header of a protocol, as documented. -/
def documentedHeader (protocol : Protocol) : Option Text :=
  match protocol with
  | .j1850Pwm => some "616AF1".toList
  | .j1850Vpw | .iso9141 _ => some "686AF1".toList
  | .kwp2000 _ => some "C033F1".toList
  | .can11Bit500 | .can11Bit250 => some "7DF".toList
  | .can29Bit500 | .can29Bit250 => some "18DB33F1".toList
  | .auto => none

/-- The header is that of the target. With none set, the device sends under the default of its
protocol. -/
def RightHeader (protocol : Protocol) (target : PhysicalTarget) (header : Option (List UInt8)) : Prop :=
  match target with
  | .broadcast => header = none ∨ header = (documentedHeader protocol).map lineOf
  | .addressed address => header ≠ none ∧ header = (headerOf address).map lineOf

/-! ### What the adapter knows of the device -/

/-- The cached header as it stands on the line. -/
def cached (adapter : Elm327Adapter Device) : Option (List UInt8) := adapter.currentHeader.map lineOf

structure Knows (header confirmed : Option (List UInt8))
    (adapter : Elm327Adapter Device) : Prop where
  header : adapter.transport.header = header
  confirmed : adapter.transport.confirmed = confirmed

/-- The cache is right. -/
abbrev Coherent (adapter : Elm327Adapter Device) : Prop :=
  Knows adapter.cached adapter.cached adapter

/-- The cache was right when the device was reset. -/
abbrev Faulted (adapter : Elm327Adapter Device) : Prop :=
  Knows none adapter.cached adapter

/-- A command was answered by `text`, and the cache is not changed yet. -/
def Replied (command : DeviceCommand) (text : Text)
    (adapter : Elm327Adapter Device) : Prop :=
  match command with
  | .header h =>
    if Exchange.saysOk text then Knows (some h) (some h) adapter else Coherent adapter
  | _ => Coherent adapter

theorem Replied.of_coherent {command : DeviceCommand} {text : Text}
    {adapter : Elm327Adapter Device} (hyes : ∀ h, command = .header h → Exchange.saysOk text = false)
    (h : Coherent adapter) : Replied command text adapter := by
  cases command with
  | header header =>
    simp only [Replied, hyes header rfl, Bool.false_eq_true, if_false]
    exact h
  | reset => exact h
  | forgetEvents => exact h
  | setting => exact h
  | diagnostic => exact h

theorem Replied.events {command : DeviceCommand} {text : Text}
    {a : Elm327Adapter Device} (h : Replied command text a) (events : List AdapterEvent) :
    Replied command text {a with events} := by
  have hkeep {header confirmed} (h : Knows header confirmed a) :
      Knows header confirmed {a with events} := ⟨h.header, h.confirmed⟩
  cases command with
  | header header =>
    unfold Replied at h ⊢
    dsimp only at h ⊢
    split
    · next hyes => rw [if_pos hyes] at h; exact hkeep h
    · next hyes => rw [if_neg hyes] at h; exact hkeep h
  | reset => exact hkeep h
  | forgetEvents => exact hkeep h
  | setting => exact hkeep h
  | diagnostic => exact hkeep h

/-- Since its log was `log`, all that was sent was sent under an allowed header and `X` holds, if
the adapter saw what happened. -/
def Since (protocol : Protocol) (log : List Transmission) (allowed : Option (List UInt8) → Prop)
    (X : Elm327Adapter Device → Prop) (adapter : Elm327Adapter Device) : Prop :=
  adapter.info.protocol = protocol ∧ ∃ sent, adapter.transport.log = log ++ sent ∧
    ((∀ t ∈ sent, t.Seen) → (∀ t ∈ sent, t.command = .diagnostic → allowed t.header) ∧ X adapter)

section Since
variable {protocol : Protocol} {log : List Transmission} {allowed : Option (List UInt8) → Prop}

theorem Since.imp {X Y : Elm327Adapter Device → Prop} {a b : Elm327Adapter Device}
    (h : Since protocol log allowed X a) (hinfo : b.info = a.info)
    (hlog : b.transport.log = a.transport.log) (hXY : X a → Y b) : Since protocol log allowed Y b := by
  obtain ⟨hprotocol, sent, hsent, hX⟩ := h
  exact ⟨(congrArg AdapterInfo.protocol hinfo).trans hprotocol, sent, hlog.trans hsent,
    fun hseen => (hX hseen).imp_right hXY⟩

/-- A command, by what it does if the adapter sees it. -/
theorem sendCommandRaw_since {X : Elm327Adapter Device → Prop}
    {Q : Outcome Obd2Error Text → Elm327Adapter Device → Prop} {cmd : Text}
    (hallowed : ∀ a, X a → DeviceCommand.of (lineOf cmd) = .diagnostic → allowed a.transport.header)
    (hstep : ∀ a events, X a → (a.transport.transmission (lineOf cmd)).Seen →
      Q (Outcome.ofExcept a.transport.nextExchange.outcome)
        {a with transport := a.transport.after (lineOf cmd), events}) :
    Triple (Since protocol log allowed X) (sendCommandRaw cmd) fun o => Since protocol log allowed (Q o) := by
  intro a ha
  obtain ⟨hprotocol, sent, hsent, hX⟩ := ha
  obtain ⟨events, hrun⟩ := sendCommandRaw_run cmd a
  rw [exchange_run] at hrun
  rw [hrun]
  refine ⟨hprotocol, sent ++ [a.transport.transmission (lineOf cmd)], ?_, fun hseen => ?_⟩
  · rw [← List.append_assoc, ← hsent]
    rfl
  · have hbefore := hX fun t ht => hseen t (List.mem_append_left _ ht)
    refine ⟨fun t ht hdiagnostic => ?_, hstep a events hbefore.2 (hseen _ (by simp))⟩
    rcases List.mem_append.mp ht with ht | ht
    · exact hbefore.1 t ht hdiagnostic
    · rw [List.mem_singleton.mp ht] at hdiagnostic ⊢
      exact hallowed a hbefore.2 hdiagnostic

end Since

/-! ### One command -/

section Command
variable {t : Transmission} {text : Text}

theorem header_of_fault (hok : t.exchange.outcome = .ok text) (hfault : reportsFault text = true) :
    headerAfter t.command t.exchange t.header = none := by
  unfold headerAfter
  rw [if_pos ((Exchange.of_outcome hok).2.1.trans hfault)]

/-- If no reply comes, nothing has happened that concerns the header. -/
theorem kept_of_error {e : Obd2Error} (herror : t.exchange.outcome = .error e)
    (hreset : t.command ≠ .reset) (hseen : t.Seen) (hknown : t.confirmed = none → t.header = none) :
    headerAfter t.command t.exchange t.header = t.header ∧
      confirmedAfter t.command t.exchange t.confirmed = t.confirmed := by
  have hconfirms := Exchange.confirms_error herror
  constructor
  · unfold headerAfter
    cases hresets : t.exchange.resets with
    | true =>
      rcases hseen.fault (.inr hresets) with ⟨text, htext⟩ | hnone
      · rw [herror] at htext
        cases htext
      · rw [hknown hnone]
        rfl
    | false =>
      cases hcommand : t.command with
      | header h =>
        have htakes : t.exchange.takes = false := by
          refine Bool.eq_false_iff.mpr fun htakes => ?_
          have := (hseen.header h hcommand htakes).mpr hresets
          rw [hconfirms] at this
          cases this
        rw [htakes]
        rfl
      | reset => exact absurd hcommand hreset
      | forgetEvents => rfl
      | setting => rfl
      | diagnostic => rfl
  · cases hcommand : t.command with
    | header h => rw [confirmedAfter, hconfirms]; rfl
    | forgetEvents => rw [confirmedAfter, herror]
    | reset => rfl
    | setting => rfl
    | diagnostic => rfl

/-- After a reply without fault the header is the one it confirms, or else the one before. -/
theorem replied_of_ok (hok : t.exchange.outcome = .ok text) (hfault : reportsFault text = false)
    (hreset : t.command ≠ .reset) (hforget : t.command ≠ .forgetEvents) (hseen : t.Seen) :
    (∃ h, t.command = .header h ∧ Exchange.saysOk text = true ∧
        headerAfter t.command t.exchange t.header = some h ∧
        confirmedAfter t.command t.exchange t.confirmed = some h) ∨
      ((∀ h, t.command = .header h → Exchange.saysOk text = false) ∧
        headerAfter t.command t.exchange t.header = t.header ∧
        confirmedAfter t.command t.exchange t.confirmed = t.confirmed) := by
  obtain ⟨-, hresets, hconfirms⟩ := Exchange.of_outcome hok
  rw [hfault] at hresets
  unfold headerAfter
  rw [hresets]
  cases hcommand : t.command with
  | header h =>
    cases hyes : Exchange.saysOk text with
    | true =>
      rw [hyes] at hconfirms
      rw [confirmedAfter, hconfirms, Exchange.takes_of_confirms hconfirms]
      exact .inl ⟨h, rfl, rfl, rfl, rfl⟩
    | false =>
      rw [hyes] at hconfirms
      have htakes : t.exchange.takes = false := by
        refine Bool.eq_false_iff.mpr fun htakes => ?_
        have := (hseen.header h hcommand htakes).mpr hresets
        rw [hconfirms] at this
        cases this
      rw [confirmedAfter, hconfirms, htakes]
      exact .inr ⟨fun _ _ => rfl, rfl, rfl⟩
  | reset => exact absurd hcommand hreset
  | forgetEvents => exact absurd hcommand hforget
  | setting => exact .inr ⟨nofun, rfl, rfl⟩
  | diagnostic => exact .inr ⟨nofun, rfl, rfl⟩

/-- A fault in the reply to an AT SH comes without OK, and confirms nothing. -/
theorem unconfirmed_of_fault (hok : t.exchange.outcome = .ok text) (hfault : reportsFault text = true)
    (hforget : t.command ≠ .forgetEvents) (hseen : t.Seen) :
    (∀ h, t.command = .header h → Exchange.saysOk text = false) ∧
      confirmedAfter t.command t.exchange t.confirmed = t.confirmed := by
  obtain ⟨-, hresets, hconfirms⟩ := Exchange.of_outcome hok
  rw [hfault] at hresets
  cases hcommand : t.command with
  | header h =>
    have hyes : Exchange.saysOk text = false := by
      refine Bool.eq_false_iff.mpr fun hyes => ?_
      rw [hyes] at hconfirms
      have := (hseen.header h hcommand (Exchange.takes_of_confirms hconfirms)).mp hconfirms
      rw [hresets] at this
      cases this
    rw [hyes] at hconfirms
    rw [confirmedAfter, hconfirms]
    exact ⟨fun _ _ => hyes, rfl⟩
  | forgetEvents => exact absurd hcommand hforget
  | reset => exact ⟨nofun, rfl⟩
  | setting => exact ⟨nofun, rfl⟩
  | diagnostic => exact ⟨nofun, rfl⟩

end Command

section Commands
variable {log : List Transmission} {allowed : Option (List UInt8) → Prop} {protocol : Protocol} {known : Prop}

/-- What a command comes to before its reply is looked at. -/
def AfterCommand (command : DeviceCommand) (o : Outcome Obd2Error Text)
    (adapter : Elm327Adapter Device) : Prop :=
  match o with
  | .ok text =>
    (reportsFault text = true →
      Faulted adapter ∧ ∀ h, command = .header h → Exchange.saysOk text = false) ∧
    (reportsFault text = false → Replied command text adapter)
  | _ => Coherent adapter

theorem raw_coherent {X : Elm327Adapter Device → Prop} (hX : ∀ a, X a → Coherent a) {cmd : Text}
    (hreset : DeviceCommand.of (lineOf cmd) ≠ .reset)
    (hforget : DeviceCommand.of (lineOf cmd) ≠ .forgetEvents)
    (hallowed : ∀ a, X a → DeviceCommand.of (lineOf cmd) = .diagnostic →
      allowed a.transport.header) :
    Triple (Since protocol log allowed X) (sendCommandRaw cmd)
      fun o => Since protocol log allowed (AfterCommand (.of (lineOf cmd)) o) := by
  refine sendCommandRaw_since hallowed fun a events h hseen => ?_
  replace h := hX a h
  cases hok : a.transport.nextExchange.outcome with
  | error e =>
    obtain ⟨hheader, hconfirmed⟩ := kept_of_error (t := a.transport.transmission (lineOf cmd)) hok hreset
      hseen fun hnone => h.header.trans (h.confirmed.symm.trans hnone)
    exact ⟨hheader.trans h.header, hconfirmed.trans h.confirmed⟩
  | ok text =>
    constructor
    · intro hfault
      obtain ⟨hyes, hconfirmed⟩ := unconfirmed_of_fault (t := a.transport.transmission (lineOf cmd)) hok
        hfault hforget hseen
      have hheader := header_of_fault (t := a.transport.transmission (lineOf cmd)) hok hfault
      exact ⟨⟨hheader, hconfirmed.trans h.confirmed⟩, hyes⟩
    · intro hfault
      rcases replied_of_ok (t := a.transport.transmission (lineOf cmd)) hok hfault hreset hforget hseen with
        ⟨header, hcommand, hyes, hheader, hconfirmed⟩ | ⟨hyes, hheader, hconfirmed⟩
      · have hcommand : DeviceCommand.of (lineOf cmd) = .header header := hcommand
        rw [hcommand]
        simp only [Replied, hyes, if_true]
        exact ⟨hheader, hconfirmed⟩
      · exact Replied.of_coherent hyes ⟨hheader.trans h.header, hconfirmed.trans h.confirmed⟩

/-- Once nothing is cached and nothing set, no plain command changes that. -/
theorem raw_cleared {cmd : Text} (hcmd : DeviceCommand.of (lineOf cmd) = .setting) :
    Triple (Since protocol log allowed fun a => Coherent a ∧ a.currentHeader = none ∧ known) (sendCommandRaw cmd)
      fun _ => Since protocol log allowed fun a => Coherent a ∧ a.currentHeader = none ∧ known := by
  refine sendCommandRaw_since (fun a _ hdiagnostic => ?_) fun a events h hseen => ?_
  · rw [hcmd] at hdiagnostic
    cases hdiagnostic
  · obtain ⟨h, hnone, hknown⟩ := h
    have hcached : a.cached = none := congrArg (Option.map lineOf) hnone
    refine ⟨⟨?_, ?_⟩, hnone, hknown⟩
    · show headerAfter (.of (lineOf cmd)) a.transport.nextExchange a.transport.header = a.cached
      rw [h.header, hcached, hcmd]
      unfold headerAfter
      split <;> rfl
    · show confirmedAfter (.of (lineOf cmd)) a.transport.nextExchange a.transport.confirmed = a.cached
      rw [h.confirmed, hcmd]
      rfl

theorem raws_cleared {cmds : List Text} (hcmds : ∀ cmd ∈ cmds, DeviceCommand.of (lineOf cmd) = .setting) :
    Triple (Since protocol log allowed fun a => Coherent a ∧ a.currentHeader = none ∧ known) (sendCommandsRaw cmds)
      fun _ => Since protocol log allowed fun a => Coherent a ∧ a.currentHeader = none ∧ known := by
  induction cmds with
  | nil => exact fun a ha => ha
  | cons cmd rest ih =>
    exact (raw_cleared (hcmds cmd List.mem_cons_self)).bind
      (fun _ => ih fun c hc => hcmds c (List.mem_cons_of_mem cmd hc)) (fun _ _ h => h) (fun _ h => h)

/-- The answer to ATFE arrives, or else there is nothing cached to forget. -/
theorem raw_forget :
    Triple (Since protocol log allowed fun a => Faulted a ∧ known) (sendCommandRaw "ATFE".toList)
      fun o => Since protocol log allowed fun a =>
        match o with
        | .ok _ => Knows none none a ∧ known
        | _ => Coherent a ∧ known := by
  refine sendCommandRaw_since (fun _ _ hdiagnostic => by cases hdiagnostic) fun a events h hseen => ?_
  obtain ⟨h, hknown⟩ := h
  cases hok : a.transport.nextExchange.outcome with
  | ok text =>
    refine ⟨⟨?_, ?_⟩, hknown⟩
    · show headerAfter .forgetEvents a.transport.nextExchange a.transport.header = none
      rw [h.header]
      unfold headerAfter
      split <;> rfl
    · show confirmedAfter .forgetEvents a.transport.nextExchange a.transport.confirmed = none
      rw [confirmedAfter, hok]
  | error e =>
    obtain ⟨hheader, hconfirmed⟩ := kept_of_error (t := a.transport.transmission (lineOf "ATFE".toList)) hok
      (show DeviceCommand.of (lineOf "ATFE".toList) ≠ .reset by decide) hseen fun _ => h.header
    have hnone : a.transport.confirmed = none := by
      rcases hseen.fault (.inl rfl) with ⟨text, htext⟩ | hnone
      · have htext : a.transport.nextExchange.outcome = .ok text := htext
        rw [hok] at htext
        cases htext
      · exact hnone
    have hcached : a.cached = none := h.confirmed.symm.trans hnone
    exact ⟨⟨(hheader.trans h.header).trans hcached.symm, hconfirmed.trans h.confirmed⟩, hknown⟩

/-- **After a fault the cache is right again**, whether the recovery comes to its end or not. -/
theorem recover_coherent :
    Triple (Since protocol log allowed fun a => Faulted a ∧ known) recoverFromAdapterFault
      fun _ => Since protocol log allowed fun a => Coherent a ∧ known := by
  unfold recoverFromAdapterFault
  refine Triple.modify (Since protocol log allowed fun a => Faulted a ∧ known)
    (fun a ha => ha.imp rfl rfl fun ⟨h, hknown⟩ => ⟨⟨h.header, h.confirmed⟩, hknown⟩) ?_
  refine raw_forget.bind (fun _ => ?_) (fun _ _ h => h) (fun _ h => h)
  refine Triple.modify
    (Since protocol log allowed fun a => Coherent a ∧ a.currentHeader = none ∧ known)
    (fun a ha => ha.imp rfl rfl fun ⟨h, hknown⟩ => ⟨⟨h.header, h.confirmed⟩, rfl, hknown⟩) ?_
  exact (raws_cleared fun _ => command_default).weaken (fun _ h => h) fun _ a ha =>
    ha.imp rfl rfl fun ⟨h, _, hknown⟩ => ⟨h, hknown⟩

/-- **After every command the cache is right**, but for an AT SH that was confirmed: then the
header in force is the one it set. -/
theorem sendCommand_since {X : Elm327Adapter Device → Prop} (hX : ∀ a, X a → Coherent a) {cmd : Text}
    (hreset : DeviceCommand.of (lineOf cmd) ≠ .reset)
    (hforget : DeviceCommand.of (lineOf cmd) ≠ .forgetEvents)
    (hallowed : ∀ a, X a → DeviceCommand.of (lineOf cmd) = .diagnostic →
      allowed a.transport.header) :
    Triple (Since protocol log allowed X) (sendCommand cmd) fun o =>
      Since protocol log allowed fun a =>
        match o with
        | .ok text => Replied (.of (lineOf cmd)) text a
        | _ => Coherent a := by
  unfold sendCommand
  refine (raw_coherent hX hreset hforget hallowed).bind (fun text => ?_) (fun _ _ h => h) (fun _ h => h)
  unfold handleFaultRecovery
  cases hfault : reportsFault text with
  | false => exact fun a ha => ha.imp rfl rfl fun h => (h.2 hfault).events _
  | true =>
    refine Triple.modify (Since protocol log allowed fun a => Faulted a ∧
      ∀ h, DeviceCommand.of (lineOf cmd) = .header h → Exchange.saysOk text = false) ?_ ?_
    · intro a ha
      refine ha.imp rfl rfl fun h => ?_
      obtain ⟨h, hyes⟩ := h.1 hfault
      exact ⟨⟨h.header, h.confirmed⟩, hyes⟩
    · refine recover_coherent.bind (fun _ => ?_) (fun _ _ h => h.imp rfl rfl And.left)
        (fun _ h => h.imp rfl rfl And.left)
      exact Triple.pure fun a ha => ha.imp rfl rfl fun ⟨h, hyes⟩ => Replied.of_coherent hyes h

end Commands

/-! ### One request -/

section Requests
variable {log : List Transmission} {allowed : Option (List UInt8) → Prop} {protocol : Protocol}

/-- An AT SH: once confirmed, its header is in force. -/
theorem sendHeader_since (header : Text) :
    Triple (Since protocol log allowed Coherent) (sendCommand ("AT SH ".toList ++ header)) fun o =>
      Since protocol log allowed fun a =>
        match o with
        | .ok text => Replied (.header (lineOf header)) text a
        | _ => Coherent a := by
  have hcommand := command_setHeader header
  rw [← hcommand]
  refine sendCommand_since (fun _ h => h) ?_ ?_ fun _ _ hdiagnostic => ?_
  · rw [hcommand]
    exact nofun
  · rw [hcommand]
    exact nofun
  · rw [hcommand] at hdiagnostic
    cases hdiagnostic

theorem setHeader_since (header : Text) :
    Triple (Since protocol log allowed Coherent) (setHeader header) fun o =>
      Since protocol log allowed fun a => Coherent a ∧ (o = .ok () → a.currentHeader = some header) := by
  unfold setHeader
  refine Triple.get fun a ha => ?_
  split
  · next hcached => exact ha.imp rfl rfl fun h => ⟨h, fun _ => hcached⟩
  · refine Triple.bind (R := fun o => Since protocol log allowed fun a =>
        Coherent a ∧ (o = .ok () → a.currentHeader = some header))
      (sendHeader_since header) (fun text => ?_) (fun _ _ h => h.imp rfl rfl fun h => ⟨h, nofun⟩)
      (fun _ h => h.imp rfl rfl fun h => ⟨h, nofun⟩) a ha
    by_cases hyes : Text.contains text "OK".toList = true
    · rw [if_pos hyes]
      refine fun a ha => ha.imp rfl rfl fun h => ?_
      have h : Knows (some (lineOf header)) (some (lineOf header)) a := by
        simpa only [Replied, Exchange.saysOk, hyes, if_true] using h
      exact ⟨⟨h.header, h.confirmed⟩, fun _ => rfl⟩
    · rw [if_neg hyes]
      refine fun a ha => ha.imp rfl rfl fun h => ?_
      have h : Coherent a := by
        simpa only [Replied, Exchange.saysOk, hyes, Bool.false_eq_true, if_false] using h
      exact ⟨h, nofun⟩

/-- What the next request needs to know: a protocol, and for a broadcast from a header of its
own, that the protocol's is known as documented. -/
def Targetable (protocol : Protocol) (target : PhysicalTarget) (adapter : Elm327Adapter Device) : Prop :=
  target = .broadcast → adapter.currentHeader = none ∨
    defaultBroadcastHeader protocol = documentedHeader protocol

theorem default_of_selected (hprotocol : protocol ≠ .auto) :
    ∃ header, defaultBroadcastHeader protocol = some header := by
  cases protocol with
  | auto => exact absurd rfl hprotocol
  | _ => exact ⟨_, rfl⟩

theorem clearTargeting_since (hprotocol : protocol ≠ .auto) :
    Triple (fun a => Since protocol log allowed Coherent a ∧ Targetable protocol .broadcast a)
      clearTargeting
      fun o => Since protocol log allowed fun a =>
        Coherent a ∧ (o = .ok () → RightHeader protocol .broadcast a.cached) := by
  unfold clearTargeting
  refine Triple.get fun a ⟨ha, htargetable⟩ => ?_
  split
  · next hnone => exact ha.imp rfl rfl fun h => ⟨h, fun _ => .inl (congrArg (Option.map lineOf) hnone)⟩
  · next hcached =>
    have hdocumented := (htargetable rfl).resolve_left hcached
    obtain ⟨header, hdefault⟩ := default_of_selected hprotocol
    rw [ha.1, hdefault]
    refine Triple.bind (R := fun o => Since protocol log allowed fun a =>
        Coherent a ∧ (o = .ok () → RightHeader protocol .broadcast a.cached))
      (setHeader_since header) (fun _ => ?_) (fun _ _ h => h.imp rfl rfl fun h => ⟨h.1, nofun⟩)
      (fun _ h => h.imp rfl rfl fun h => ⟨h.1, nofun⟩) a ha
    refine fun b hb => hb.imp rfl rfl fun h => ⟨⟨h.1.header, h.1.confirmed⟩, fun _ => .inr ?_⟩
    rw [← hdocumented, hdefault]
    exact congrArg (Option.map lineOf) (h.2 rfl)

/-- **A target is in force once it is applied.** -/
theorem applyTarget_since (hprotocol : protocol ≠ .auto) (target : PhysicalTarget) :
    Triple (fun a => Since protocol log allowed Coherent a ∧ Targetable protocol target a)
      (applyTarget target)
      fun o => Since protocol log allowed fun a =>
        Coherent a ∧ (o = .ok () → RightHeader protocol target a.cached) := by
  unfold applyTarget
  cases target with
  | broadcast => exact clearTargeting_since hprotocol
  | addressed address =>
    dsimp only
    cases hheader : headerOf address with
    | none => exact Triple.throw fun a ha => ha.1.imp rfl rfl fun h => ⟨h, nofun⟩
    | some header =>
      refine (setHeader_since header).weaken (fun a ha => ha.1) fun o a ha => ?_
      refine ha.imp rfl rfl fun h => ⟨h.1, fun hok => ?_⟩
      have hcached : a.cached = some (lineOf header) := congrArg (Option.map lineOf) (h.2 hok)
      rw [RightHeader, hheader, hcached]
      exact ⟨nofun, rfl⟩

/-- **What a request sends, it sends under the header of its target.** -/
theorem routedRequest_since (hprotocol : protocol ≠ .auto) (req : RoutedRequest) :
    Triple (fun a => Since protocol log (RightHeader protocol req.target) Coherent a ∧
        Targetable protocol req.target a) (routedRequest req)
      fun _ => Since protocol log (RightHeader protocol req.target) Coherent := by
  unfold routedRequest sendRoutedCommand
  refine (applyTarget_since hprotocol req.target).bind (fun _ => ?_) (fun _ _ h => h.imp rfl rfl And.left)
    (fun _ h => h.imp rfl rfl And.left)
  have hcommand := command_request req.serviceId req.data
  have hsend : Triple (Since protocol log (RightHeader protocol req.target) fun a =>
      Coherent a ∧ (Outcome.ok () = (.ok () : Outcome Obd2Error Unit) →
        RightHeader protocol req.target a.cached))
      (sendCommand (requestCommand req.serviceId req.data))
      fun _ => Since protocol log (RightHeader protocol req.target) Coherent := by
    refine (sendCommand_since (fun _ h => h.1) ?_ ?_ fun a h _ => ?_).weaken (fun _ h => h) fun o a h => ?_
    · rw [hcommand]
      exact nofun
    · rw [hcommand]
      exact nofun
    · rw [h.1.header]
      exact h.2 rfl
    · rw [hcommand] at h
      cases o with
      | ok text => exact h
      | error e => exact h
      | dropped => exact h
  refine hsend.bind (fun response => Triple.get fun a ha => ?_) (fun _ _ h => h) (fun _ h => h)
  rw [run_lift]
  exact ha

end Requests

end Elm327Adapter

end Obd2
