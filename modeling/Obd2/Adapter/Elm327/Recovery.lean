import Obd2.Adapter.Elm327.Initialization
import Obd2.Adapter.Elm327.Settings

/-! What a recovery leaves of the configuration.

Whatever was set before, the settings after a recovery are the factory's with the defaults of the
adapter on top (`recovered`). Initialization ends with these too, but for what it sets besides: the
protocol, if one had to be probed for, and the wakeup message and interval of a K-line protocol. A
recovery sets none of the two again (`recovery_restores_iff`). -/
namespace Obd2.Elm327Adapter
open Async ElmDevice

/-- The protocols with a wakeup message. -/
def kLine : Protocol → Bool
  | .iso9141 _ | .kwp2000 _ => true
  | _ => false

/-- The reply shows a protocol at work. -/
def showsProtocol : Except Obd2Error (List UInt8) → Bool
  | .ok reply => showsSupportedPids (Exchange.textOf reply)
  | .error _ => false

/-- The first search finds the protocol. -/
def foundAtOnce (replies : List (Except Obd2Error (List UInt8))) : Bool := replies.head?.any showsProtocol

/-- The reply that shows the protocol reports a fault as well. -/
def foundUnderFault (replies : List (Except Obd2Error (List UInt8))) : Bool :=
  (replies.find? showsProtocol).any ElmDevice.reportsFault

/-- The defaults, with this protocol selected. -/
def selecting (protocol : Option Char) : ElmSettings := {recovered with protocol := protocol}

@[simp] theorem selecting_none : selecting none = recovered := rfl

section Steps
variable {settings : ElmSettings} {replies : List (Except Obd2Error (List UInt8))}
  {adapter after : Elm327Adapter ElmDevice} {cmd : Text}

/-- The command goes to the vehicle, or asks something: the settings do not depend on it. -/
structure Inert (cmd : Text) : Prop where
  none : settingOf cmd = none
  noReset : commandOf (Device.lineOf cmd) ≠ "ATZ".toList

theorem inert_sti : Inert "STI".toList := ⟨by rfl, by decide +kernel⟩
theorem inert_search : Inert "0100".toList := ⟨by rfl, by decide +kernel⟩
theorem inert_protocol : Inert "ATDPN".toList := ⟨by rfl, by decide +kernel⟩

theorem Inert.settingsAfter_ok (h : Inert cmd) {reply : List UInt8} (hfault : reportsFault (Exchange.textOf reply) = false) :
    settingsAfter (commandOf (Device.lineOf cmd)) (.ok reply) settings = settings := by
  refine if_neg ?_
  rintro (hreset | hreply)
  · exact h.noReset hreset
  · rw [ElmDevice.reportsFault, hfault] at hreply
    cases hreply

theorem Inert.settingsAfter_error (h : Inert cmd) (e : Obd2Error) :
    settingsAfter (commandOf (Device.lineOf cmd)) (.error e) settings = settings := by
  refine if_neg ?_
  rintro (hreset | hreply)
  · exact h.noReset hreset
  · cases hreply

theorem Inert.returned {response : Text} (hcmd : Inert cmd) (h : At settings replies adapter)
    (hrun : (sendCommand cmd).run adapter = (.ok response, after)) :
    ∃ reply rest, replies = .ok reply :: rest ∧ response = Exchange.textOf reply ∧
      At (if reportsFault response then recovered else settings) rest after := by
  obtain ⟨reply, rest, hreplies, hresponse, hafter⟩ := send_returned h hcmd.none hrun
  refine ⟨reply, rest, hreplies, hresponse, ?_⟩
  by_cases hfault : reportsFault response = true
  · rwa [if_pos hfault] at hafter ⊢
  · have hquiet : reportsFault (Exchange.textOf reply) = false := by rwa [← hresponse, ← Bool.not_eq_true]
    rw [if_neg hfault, hcmd.settingsAfter_ok hquiet] at hafter
    rwa [if_neg hfault]

theorem Inert.sent (hcmd : Inert cmd) (h : At settings replies adapter) :
    ∃ outcome after settings', (sendCommand cmd).run adapter = (Outcome.ofExcept outcome, after) ∧
      (settings' = settings ∨ settings' = recovered) ∧ At settings' replies.tail after := by
  cases hhead : replies.headD (.error .timeout) with
  | error e =>
    obtain ⟨after, hrun, hafter⟩ := send_unanswered h hcmd.none hhead
    rw [hcmd.settingsAfter_error] at hafter
    exact ⟨.error e, after, settings, hrun, .inl rfl, hafter⟩
  | ok reply =>
    cases replies with
    | nil => cases hhead
    | cons first rest =>
      obtain rfl : first = .ok reply := hhead
      obtain ⟨after, hrun, hafter⟩ := send_answered h hcmd.none
      by_cases hfault : reportsFault (Exchange.textOf reply) = true
      · rw [if_pos hfault] at hafter
        exact ⟨.ok _, after, recovered, hrun, .inr rfl, hafter⟩
      · rw [if_neg hfault, hcmd.settingsAfter_ok (Bool.not_eq_true _ ▸ hfault)] at hafter
        exact ⟨.ok _, after, settings, hrun, .inl rfl, hafter⟩

/-- A command whose failure is caught. -/
theorem Inert.attempted {outcome : Except Obd2Error Text} (hcmd : Inert cmd) (h : At settings replies adapter)
    (hrun : (sendCommand cmd).attempt.run adapter = (.ok outcome, after)) :
    ∃ settings', (settings' = settings ∨ settings' = recovered) ∧ At settings' replies.tail after := by
  obtain ⟨sent, next, settings', hsent, hsettings, hnext⟩ := hcmd.sent h
  rw [run_attempt, hsent] at hrun
  cases sent with
  | ok response =>
    cases hrun
    exact ⟨settings', hsettings, hnext⟩
  | error e =>
    cases hrun
    exact ⟨settings', hsettings, hnext⟩

end Steps

/-! ### Initialization -/

section Initialization
variable {replies : List (Except Obd2Error (List UInt8))} {adapter after : Elm327Adapter ElmDevice}

/-- The settings that initialization makes are those of a recovery. -/
theorem configured_recovered {settings : ElmSettings} (h : settings = .factory ∨ settings = recovered) :
    configured ["ATE0".toList, "ATL0".toList, "ATH0".toList, "ATS0".toList, "ATAT1".toList, "ATSP0".toList] settings =
      recovered := by
  rcases h with rfl | rfl
  · decide +kernel
  · decide +kernel

theorem prepare_device {settings : ElmSettings} {info : AdapterInfo} (h : At settings replies adapter)
    (hrun : prepare.run adapter = (.ok info, after)) : At recovered (replies.drop 2) after := by
  obtain ⟨_, recorded, hrecord, hrun⟩ := of_run_bind_ok hrun
  have hrecorded : At settings replies recorded := by
    cases hrecord
    exact ⟨h.settings, h.replies⟩
  obtain ⟨atzResponse, reset, hreset, hrun⟩ := of_run_bind_ok hrun
  obtain ⟨reply, rest, rfl, -, hatz⟩ := send_returned hrecorded (by rfl) hreset
  have hfactory : ∃ settings', (settings' = .factory ∨ settings' = recovered) ∧ At settings' rest reset := by
    by_cases hfault : reportsFault atzResponse = true
    · rw [if_pos hfault] at hatz
      exact ⟨recovered, .inr rfl, hatz⟩
    · rw [if_neg hfault, settingsAfter, if_pos (.inl (by decide +kernel))] at hatz
      exact ⟨.factory, .inl rfl, hatz⟩
  obtain ⟨settings₁, hsettings₁, hreset⟩ := hfactory
  obtain ⟨stiReply, probed, hprobe, hrun⟩ := of_run_bind_ok hrun
  obtain ⟨settings₂, hsettings₂, hprobed⟩ := inert_sti.attempted hreset hprobe
  have hbase : settings₂ = .factory ∨ settings₂ = recovered := by
    rcases hsettings₂ with rfl | rfl
    · exact hsettings₁
    · exact .inr rfl
  obtain ⟨configuredOnce, hconfigure, hconfigured⟩ := send_settings hprobed
    (show ∀ cmd ∈ ["ATE0".toList, "ATL0".toList, "ATH0".toList, "ATS0".toList, "ATAT1".toList, "ATSP0".toList],
      IsSetting cmd by decide +kernel)
  rw [configured_recovered hbase] at hconfigured
  rw [run_bind_ok hconfigure] at hrun
  cases hrun
  exact ⟨hconfigured.settings, hconfigured.replies.trans List.drop_one.symm⟩

/-! #### The search for the protocol -/

/-- The command selects a protocol. -/
structure Selects (cmd : Text) (code : Char) : Prop where
  setting : IsSetting cmd
  applied : ∀ protocol, applied (selecting protocol) cmd = selecting (some code)

theorem fallback_selects : ∀ probe ∈ fallbackProbeOrder, ∃ code, Selects probe.2 code := by
  have hread : ∀ probe ∈ fallbackProbeOrder, commandOf (Device.lineOf probe.2) = probe.2 := by decide +kernel
  have htries : ∀ probe ∈ fallbackProbeOrder, probe.2.length = 5 ∧ probe.2.take 4 = "ATTP".toList ∧
      probe.2.getLast? ≠ some '0' := by decide +kernel
  intro probe hprobe
  obtain ⟨code, hcode, hne⟩ : ∃ code, probe.2 = ['A', 'T', 'T', 'P', code] ∧ code ≠ '0' := by
    obtain ⟨hlength, htake, hlast⟩ := htries probe hprobe
    obtain ⟨code, hdrop⟩ := List.length_eq_one_iff.mp (show (probe.2.drop 4).length = 1 by
      rw [List.length_drop, hlength])
    have hsplit : probe.2 = ['A', 'T', 'T', 'P', code] := by
      rw [← List.take_append_drop 4 probe.2, htake, hdrop]
      rfl
    refine ⟨code, hsplit, fun hzero => hlast ?_⟩
    rw [hsplit, hzero]
    rfl
  have hsetting : settingOf probe.2 = some fun s => {s with protocol := if code = '0' then none else some code} := by
    rw [settingOf, hread probe hprobe, hcode]
    rfl
  refine ⟨code, by rw [IsSetting, hsetting, Option.isSome_some], fun protocol => ?_⟩
  rw [Elm327Adapter.applied, hsetting, Option.elim_some, if_neg hne]
  rfl

theorem classifyProbeResult_ne_success (response : Text) : classifyProbeResult response ≠ .success := by
  unfold classifyProbeResult
  simp only
  repeat' split
  all_goals simp

/-- A search is answered by one reply, and leaves the selected protocol unless the reply reports a fault. -/
theorem probeProtocol_device {probe : Protocol × Text} {code : Char} {protocol : Option Char} {attempt : ProbeAttempt}
    (hprobe : Selects probe.2 code) (h : At (selecting protocol) replies adapter)
    (hrun : (probeProtocol probe.1 .explicitProbe probe.2).run adapter = (.ok attempt, after)) :
    ∃ reply rest, replies = .ok reply :: rest ∧
      (attempt.result = .success ↔ showsProtocol (.ok reply) = true) ∧
      At (selecting (if ElmDevice.reportsFault (.ok reply) then none else some code)) rest after := by
  obtain ⟨_, selected, hselect, hrun⟩ := of_run_bind_ok hrun
  obtain ⟨_, hsetting, hselected⟩ := send_setting h hprobe.setting
  rw [hselect] at hsetting
  cases hsetting
  rw [hprobe.applied] at hselected
  obtain ⟨response, searched, hsearch, hrun⟩ := of_run_bind_ok hrun
  obtain ⟨reply, rest, hreplies, rfl, hsearched⟩ := inert_search.returned hselected hsearch
  cases hrun
  refine ⟨reply, rest, hreplies, ?_, ?_⟩
  · show (if showsSupportedPids (Exchange.textOf reply) then ProbeResult.success
      else classifyProbeResult (Exchange.textOf reply)) = .success ↔ showsSupportedPids (Exchange.textOf reply) = true
    by_cases hshows : showsSupportedPids (Exchange.textOf reply) = true
    · simp [hshows]
    · simp [hshows, classifyProbeResult_ne_success]
  · have hfault : ElmDevice.reportsFault (.ok reply) = reportsFault (Exchange.textOf reply) := rfl
    rw [hfault]
    split at hsearched
    · next h => simpa [h] using hsearched
    · next h => simpa [h] using hsearched

theorem probeProtocols_device (order : List (Protocol × Text)) (hselects : ∀ probe ∈ order, ∃ code, Selects probe.2 code)
    {attempts found : List ProbeAttempt} {chosen : Protocol} {protocol : Option Char}
    (h : At (selecting protocol) replies adapter)
    (hrun : (probeProtocols order attempts).run adapter = (.ok (found, some chosen), after)) :
    ∃ selected rest, At (selecting selected) rest after ∧ (selected = none ↔ foundUnderFault replies = true) := by
  induction order generalizing attempts protocol replies adapter with
  | nil => cases hrun
  | cons probe rest ih =>
    obtain ⟨code, hcode⟩ := hselects probe List.mem_cons_self
    obtain ⟨attempt, next, hattempt, hrun⟩ := of_run_bind_ok hrun
    obtain ⟨reply, left, rfl, hsuccess, hnext⟩ := probeProtocol_device hcode h hattempt
    by_cases hfound : attempt.result = .success
    · rw [if_pos hfound] at hrun
      cases hrun
      refine ⟨_, left, hnext, ?_⟩
      have hfind : (Except.ok reply :: left).find? showsProtocol = some (.ok reply) :=
        List.find?_cons_of_pos (hsuccess.mp hfound)
      rw [foundUnderFault, hfind, Option.any_some]
      cases ElmDevice.reportsFault (.ok reply) with
      | true => simp
      | false => simp
    · rw [if_neg hfound] at hrun
      have hsilent : ¬ showsProtocol (.ok reply) = true := fun hshows => hfound (hsuccess.mpr hshows)
      obtain ⟨selected, last, hlast, hselected⟩ := ih (fun p hp => hselects p (List.mem_cons_of_mem _ hp)) hnext hrun
      refine ⟨selected, last, hlast, ?_⟩
      rw [hselected, foundUnderFault, foundUnderFault, List.find?_cons_of_neg hsilent]

/-- The selected protocol is left to the search exactly if the search found it, or a fault reset it. -/
theorem selectProtocol_device {found : List ProbeAttempt} {chosen : Protocol} (h : At recovered replies adapter)
    (hchosen : chosen ≠ .auto) (hrun : selectProtocol.run adapter = (.ok (found, chosen), after)) :
    ∃ selected rest, At (selecting selected) rest after ∧
      (selected = none ↔ foundAtOnce replies = true ∨ foundUnderFault replies = true) := by
  obtain ⟨response, searched, hsearch, hrun⟩ := of_run_bind_ok hrun
  obtain ⟨reply, rest, rfl, rfl, hsearched⟩ := inert_search.returned h hsearch
  have hsearched : At (selecting none) rest searched := by
    split at hsearched
    · exact hsearched
    · exact hsearched
  by_cases hshows : showsSupportedPids (Exchange.textOf reply) = true
  · rw [if_pos hshows] at hrun
    obtain ⟨protocolReply, asked, hask, hrun⟩ := of_run_bind_ok hrun
    obtain ⟨settings, hsettings, hasked⟩ := inert_protocol.attempted hsearched hask
    have hrecovered : settings = selecting none := by
      rcases hsettings with rfl | rfl
      · rfl
      · rfl
    rw [hrecovered] at hasked
    have hat : At (selecting none) rest.tail after := by
      cases protocolReply with
      | ok text =>
        cases hrun
        exact hasked
      | error e =>
        cases hrun
        exact hasked
    have hatOnce : foundAtOnce (.ok reply :: rest) = true := hshows
    exact ⟨none, rest.tail, hat, by simp [hatOnce]⟩
  · rw [if_neg hshows] at hrun
    obtain ⟨⟨attempts, probed⟩, next, hprobes, hrun⟩ := of_run_bind_ok hrun
    cases probed with
    | none =>
      cases hrun
      exact absurd rfl hchosen
    | some protocol =>
      cases hrun
      obtain ⟨selected, last, hlast, hselected⟩ := probeProtocols_device _ fallback_selects hsearched hprobes
      have hlater : foundAtOnce (.ok reply :: rest) = false := Bool.not_eq_true _ ▸ hshows
      have hfind : (Except.ok reply :: rest).find? showsProtocol = rest.find? showsProtocol :=
        List.find?_cons_of_neg hshows
      refine ⟨selected, last, hlast, ?_⟩
      rw [hselected, hlater, foundUnderFault, foundUnderFault, hfind]
      simp

/-! #### What is set for the protocol -/

theorem policy_device {protocol : Protocol} {selected : Option Char} (hprotocol : kLine protocol = false)
    (h : At (selecting selected) replies adapter)
    (hrun : (applyProtocolRuntimePolicy protocol).run adapter = (.ok (), after)) : At (selecting selected) replies after := by
  have hpolicy : protocolRuntimePolicy protocol = ["ATCAF1".toList, "ATCFC1".toList] ∨ protocolRuntimePolicy protocol = [] := by
    cases protocol with
    | iso9141 init => cases hprotocol
    | kwp2000 init => cases hprotocol
    | can11Bit500 | can11Bit250 | can29Bit500 | can29Bit250 => exact .inl rfl
    | j1850Pwm | j1850Vpw | auto => exact .inr rfl
  rcases hpolicy with hpolicy | hpolicy
  · have hsettings : ∀ cmd ∈ ["ATCAF1".toList, "ATCFC1".toList], IsSetting cmd := by decide +kernel
    obtain ⟨_, hset, hafter⟩ := raws_settings h hsettings
    rw [applyProtocolRuntimePolicy, hpolicy, hset] at hrun
    cases hrun
    exact hafter
  · rw [applyProtocolRuntimePolicy, hpolicy] at hrun
    cases hrun
    exact h

/-- A K-line protocol is begun on the bus, and then a wakeup interval and message are set. -/
theorem policy_of_kLine {protocol : Protocol} (h : kLine protocol = true) :
    ∃ init message, protocolRuntimePolicy protocol = [init, "ATSW96".toList, message] ∧ settingOf init = none ∧
      IsSetting message ∧ ∀ settings, (applied settings message).wakeupInterval = settings.wakeupInterval := by
  cases protocol with
  | iso9141 init => exact ⟨"ATSI".toList, "ATWM686AF10100".toList, rfl, by rfl, by decide +kernel, fun _ => rfl⟩
  | kwp2000 init =>
    cases init with
    | slowInit => exact ⟨"ATSI".toList, "ATWMC133F13E".toList, rfl, by rfl, by decide +kernel, fun _ => rfl⟩
    | fastInit => exact ⟨"ATFI".toList, "ATWMC133F13E".toList, rfl, by rfl, by decide +kernel, fun _ => rfl⟩
  | can11Bit500 | can11Bit250 | can29Bit500 | can29Bit250 | j1850Pwm | j1850Vpw | auto => cases h

theorem policy_kLine {protocol : Protocol} {settings : ElmSettings} (hprotocol : kLine protocol = true)
    (h : At settings replies adapter) (hrun : (applyProtocolRuntimePolicy protocol).run adapter = (.ok (), after)) :
    after.transport.settings.wakeupInterval = "96".toList := by
  obtain ⟨init, message, hpolicy, hinit, hmessage, hkeeps⟩ := policy_of_kLine hprotocol
  have hinterval : IsSetting "ATSW96".toList := by decide +kernel
  have hsets : ∀ settings, (applied settings "ATSW96".toList).wakeupInterval = "96".toList := fun _ => rfl
  rw [applyProtocolRuntimePolicy, hpolicy] at hrun
  obtain ⟨_, begun, hbegin, hrun⟩ := of_run_bind_ok hrun
  obtain ⟨next, hraw, hnext⟩ := raw_answered h hinit
  rw [hbegin] at hraw
  obtain rfl : begun = next := congrArg Prod.snd hraw
  have hsettings : ∀ cmd ∈ ["ATSW96".toList, message], IsSetting cmd := by
    simp only [List.forall_mem_cons]
    exact ⟨hinterval, hmessage, List.forall_mem_nil _⟩
  obtain ⟨_, hset, hafter⟩ := raws_settings hnext hsettings
  rw [hset] at hrun
  cases hrun
  rw [hafter.settings]
  exact (hkeeps _).trans (hsets _)

end Initialization

/-! ### Recovery -/

/-- Initialization leaves the settings of a recovery exactly if it set no more than these. -/
theorem initialize_device {adapter after : Elm327Adapter ElmDevice} {report : InitializationReport}
    (hnew : adapter.initialized = false) (hrun : initializeAdapter.run adapter = (.ok report, after)) :
    after.transport.settings = recovered ↔ kLine report.info.protocol = false ∧
      (foundAtOnce (adapter.transport.replies.drop 2) = true ∨ foundUnderFault (adapter.transport.replies.drop 2) = true) := by
  rw [initializeAdapter_split hnew] at hrun
  obtain ⟨info, prepared, hprepare, hrun⟩ := of_run_bind_ok hrun
  have hprepared := prepare_device ⟨rfl, rfl⟩ hprepare
  obtain ⟨⟨attempts, protocol⟩, searched, hsearch, hrun⟩ := of_run_bind_ok hrun
  by_cases hauto : protocol = .auto
  · simp only [if_pos hauto] at hrun
    cases hrun
  simp only [if_neg hauto] at hrun
  obtain ⟨selected, rest, hsearched, hselected⟩ := selectProtocol_device hprepared hauto hsearch
  obtain ⟨_, recorded, hrecord, hrun⟩ := of_run_bind_ok hrun
  cases hrecord
  obtain ⟨_, informed, hinform, hrun⟩ := of_run_bind_ok hrun
  cases hinform
  obtain ⟨_, finished, hpolicy, hrun⟩ := of_run_bind_ok hrun
  cases hrun
  have hinformed : At (selecting selected) rest
      {searched with
        info := {info with protocol}, events := searched.events ++ [⟨.protocolSelected protocol, none⟩]} :=
    ⟨hsearched.settings, hsearched.replies⟩
  show finished.transport.settings = recovered ↔ kLine protocol = false ∧ _
  cases hkLine : kLine protocol with
  | true =>
    have hinterval := policy_kLine hkLine hinformed hpolicy
    refine iff_of_false (fun hsame => ?_) (by simp)
    rw [hsame] at hinterval
    exact absurd hinterval (by decide)
  | false =>
    rw [(policy_device hkLine hinformed hpolicy).settings, ← hselected]
    cases selected with
    | none => simp
    | some code => simp [selecting, recovered, ElmSettings.factory]

/-- After a fault in a reply the settings are those of a recovery, whatever they were. -/
theorem faulted_device {later sent : Elm327Adapter ElmDevice} {cmd response : Text}
    (hsent : (sendCommandRaw cmd).run later = (.ok response, sent)) (hfault : reportsFault response = true) :
    ∃ after, (sendCommand cmd).run later = (.ok response, after) ∧ after.transport.settings = recovered := by
  have hlater : At later.transport.settings later.transport.replies later := ⟨rfl, rfl⟩
  cases hcmd : settingOf cmd with
  | some change =>
    obtain ⟨_, hraw, -⟩ := raw_setting hlater (by rw [IsSetting, hcmd, Option.isSome_some])
    rw [hsent] at hraw
    cases hraw
    have hquiet : reportsFault (Exchange.textOf acknowledgement) = false := by decide +kernel
    rw [hquiet] at hfault
    cases hfault
  | none =>
    obtain ⟨next, hraw, hnext⟩ := raw_answered hlater hcmd
    rw [hsent] at hraw
    obtain ⟨houtcome, rfl⟩ := Prod.mk.inj hraw
    obtain ⟨after, hrun, hafter⟩ := sendCommand_of_raw hsent hnext
    refine ⟨after, hrun, ?_⟩
    rw [if_pos hfault] at hafter
    have hreset : ElmDevice.reportsFault (later.transport.replies.headD (.error .timeout)) = true := by
      cases hhead : later.transport.replies.headD (.error .timeout) with
      | error e =>
        rw [hhead] at houtcome
        cases houtcome
      | ok reply =>
        rw [hhead] at houtcome
        cases houtcome
        exact hfault
    rw [hafter.settings, settingsAfter, if_pos (.inr hreset), configured_defaults]

/-- **After a fault the settings are those of initialization exactly if these had no wakeup message and
no protocol in them that was probed for.** -/
theorem recovery_restores_iff {adapter after later sent : Elm327Adapter ElmDevice} {report : InitializationReport}
    {cmd response : Text} (hnew : adapter.initialized = false)
    (hinit : initializeAdapter.run adapter = (.ok report, after))
    (hsent : (sendCommandRaw cmd).run later = (.ok response, sent)) (hfault : reportsFault response = true) :
    ((sendCommand cmd).run later).1 = .ok response ∧
      (((sendCommand cmd).run later).2.transport.settings = after.transport.settings ↔
        kLine report.info.protocol = false ∧
          (foundAtOnce (adapter.transport.replies.drop 2) = true ∨
            foundUnderFault (adapter.transport.replies.drop 2) = true)) := by
  obtain ⟨done, hrun, hdone⟩ := faulted_device hsent hfault
  rw [← initialize_device hnew hinit, hrun]
  refine ⟨rfl, ?_⟩
  rw [hdone]
  exact eq_comm

/-! ### Three vehicles -/

section Examples

/-- A device that answers these texts, after those to ATZ and STI. -/
def answering (texts : List String) : Elm327Adapter ElmDevice :=
  new ⟨.factory, ("ELM327 v1.5\r\r>" :: "?\r\r>" :: texts).map fun text => .ok (Text.bytes text.toList), .error .timeout⟩

/-- CAN, found by the search; then a brownout. -/
def canVehicle : Elm327Adapter ElmDevice := answering ["41 00 BE 3E B8 11\r\r>", "A6\r\r>", "LV RESET\r\r>"]
/-- ISO 9141, found by the search; BUS INIT answers ATSI. Then a brownout. -/
def isoVehicle : Elm327Adapter ElmDevice :=
  answering ["41 00 BE 3E B8 11\r\r>", "A3\r\r>", "BUS INIT: OK\r\r>", "LV RESET\r\r>"]
/-- CAN, found by the first probe; then a CAN fault. -/
def probedVehicle : Elm327Adapter ElmDevice := answering ["NO DATA\r\r>", "41 00 BE 3E B8 11\r\r>", "ERR94\r\r>"]

def ready (vehicle : Elm327Adapter ElmDevice) : Elm327Adapter ElmDevice := (initializeAdapter.run vehicle).2

/-- The vehicle after a request. -/
def requested (vehicle : Elm327Adapter ElmDevice) : Elm327Adapter ElmDevice :=
  ((sendCommand "010C".toList).run vehicle).2

/-- The protocol of a vehicle, if it was found. -/
def foundProtocol : Outcome Obd2Error InitializationReport → Option Protocol
  | .ok report => some report.info.protocol
  | _ => none

theorem recovery_restores_iff_can :
    (requested (ready canVehicle)).transport.settings = (ready canVehicle).transport.settings := by
  have hprotocol : foundProtocol (initializeAdapter.run canVehicle).1 = some .can11Bit500 := by decide +kernel
  have hresponse : ((sendCommandRaw "010C".toList).run (ready canVehicle)).1 = .ok "LV RESET\r\r>".toList := by
    decide +kernel
  have hfound : foundAtOnce (canVehicle.transport.replies.drop 2) = true := by decide +kernel
  have hfault : reportsFault "LV RESET\r\r>".toList = true := by decide +kernel
  unfold requested ready
  unfold ready at hresponse
  generalize hinit : initializeAdapter.run canVehicle = run at hprotocol hresponse ⊢
  obtain ⟨outcome, after⟩ := run
  dsimp only at hprotocol hresponse ⊢
  generalize hsent : (sendCommandRaw "010C".toList).run after = run at hresponse
  obtain ⟨_, sent⟩ := run
  dsimp only at hresponse
  subst hresponse
  cases outcome with
  | ok report =>
    have hkLine : kLine report.info.protocol = false := by
      rw [Option.some.inj hprotocol]
      rfl
    exact (recovery_restores_iff rfl hinit hsent hfault).2.mpr ⟨hkLine, .inl hfound⟩
  | error e => cases hprotocol
  | dropped => cases hprotocol

/-- The K-line vehicle is left with another wakeup interval, and the probed one with no protocol selected. -/
theorem recovery_forgets :
    ((ready isoVehicle).initialized = true ∧
      (ready isoVehicle).transport.settings.wakeupInterval = "96".toList ∧
      (requested (ready isoVehicle)).transport.settings.wakeupInterval = "92".toList) ∧
    ((ready probedVehicle).initialized = true ∧
      (ready probedVehicle).transport.settings.protocol = some '6' ∧
      (requested (ready probedVehicle)).transport.settings.protocol = none) := by
  decide +kernel

end Examples

end Obd2.Elm327Adapter
