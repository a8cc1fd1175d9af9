import Obd2.Session.Enhanced
import Obd2.Session.Observed
import Obd2.Session.Operations
import Obd2.Text.Lemmas

/-! The ECUs a session has seen.

An addressed request is noted before it is sent. So the list has one entry for each address that
was asked, and counts the requests to it (`Talked.tallied`). It lists the ECUs that answered, with
the number of their answers, exactly if every addressed request was answered (`visible_iff`). -/
namespace Obd2
open Text

/-- The call is a request to the address. -/
def AdapterCall.isTo (address : PhysicalAddress) : AdapterCall → Bool
  | routedRequest req _ => req.target == .addressed address
  | batteryVoltage _ => false

/-- The call ended with a response. -/
def AdapterCall.isAnswered : AdapterCall → Bool
  | routedRequest _ outcome => outcome.isOk
  | batteryVoltage outcome => outcome.isOk

/-- How often an address was asked. -/
def requests (address : PhysicalAddress) (log : List AdapterCall) : Nat := log.countP (·.isTo address)

/-- How often it answered. -/
def responses (address : PhysicalAddress) (log : List AdapterCall) : Nat :=
  log.countP fun call => call.isTo address && call.isAnswered

/-- The list is of the ECUs that answered, and counts their answers. -/
structure ListsAnswering (visible : List VisibleEcu) (log : List AdapterCall) : Prop where
  once : (visible.map (·.address)).Nodup
  listed : ∀ address, some address ∈ visible.map (·.address) ↔ 0 < responses address log
  counted : ∀ ecu ∈ visible, ∀ address, ecu.address = some address →
    ecu.observationCount.toNat = responses address log

namespace Session

/-! ### The text of an address -/

/-- The text of an address: words with its numbers between them. -/
def addressWords : PhysicalAddress → Text
  | .j1850 node (a, b, c) => "J1850 \x7b node: ".toList ++ (Nat.toDigits 10 node.toNat ++ (", header: [".toList ++
      (Nat.toDigits 10 a.toNat ++ (", ".toList ++ (Nat.toDigits 10 b.toNat ++ (", ".toList ++
        (Nat.toDigits 10 c.toNat ++ "] \x7d".toList)))))))
  | .can11Bit requestId responseId => "Can11Bit \x7b request_id: ".toList ++ (Nat.toDigits 10 requestId.toNat ++
      (", response_id: ".toList ++ (Nat.toDigits 10 responseId.toNat ++ " \x7d".toList)))
  | .can29Bit requestId responseId => "Can29Bit \x7b request_id: ".toList ++ (Nat.toDigits 10 requestId.toNat ++
      (", response_id: ".toList ++ (Nat.toDigits 10 responseId.toNat ++ " \x7d".toList)))
  | .j1939 sourceAddress =>
    "J1939 \x7b source_address: ".toList ++ (Nat.toDigits 10 sourceAddress.toNat ++ " \x7d".toList)

theorem toList_addressText (address : PhysicalAddress) : (addressText address).toList = addressWords address := by
  have h8 (b : UInt8) : (toString b).toList = Nat.toDigits 10 b.toNat := Nat.toList_repr
  have h16 (b : UInt16) : (toString b).toList = Nat.toDigits 10 b.toNat := Nat.toList_repr
  have h32 (b : UInt32) : (toString b).toList = Nat.toDigits 10 b.toNat := Nat.toList_repr
  cases address with
  | j1850 node header =>
    obtain ⟨a, b, c⟩ := header
    show (s!"J1850 \x7b node: {node}, header: [{a}, {b}, {c}] \x7d").toList = _
    simp only [String.toList_append, h8, List.append_assoc]
    rfl
  | can11Bit requestId responseId =>
    show (s!"Can11Bit \x7b request_id: {requestId}, response_id: {responseId} \x7d").toList = _
    simp only [String.toList_append, h16, List.append_assoc]
    rfl
  | can29Bit requestId responseId =>
    show (s!"Can29Bit \x7b request_id: {requestId}, response_id: {responseId} \x7d").toList = _
    simp only [String.toList_append, h32, List.append_assoc]
    rfl
  | j1939 sourceAddress =>
    show (s!"J1939 \x7b source_address: {sourceAddress} \x7d").toList = _
    simp only [String.toList_append, h8, List.append_assoc]
    rfl

/-- The beginnings of the texts differ. -/
def addressTag : PhysicalAddress → String
  | .j1850 .. => "J1850"
  | .can11Bit .. => "Can11"
  | .can29Bit .. => "Can29"
  | .j1939 .. => "J1939"

theorem take_addressWords (address : PhysicalAddress) : (addressWords address).take 5 = (addressTag address).toList := by
  have htake (word tag : Text) (hword : word.take 5 = tag) (hlen : 5 ≤ word.length) (rest : Text) :
      (word ++ rest).take 5 = tag := by
    rw [List.take_append_of_le_length hlen, hword]
  cases address with
  | j1850 => exact htake "J1850 \x7b node: ".toList "J1850".toList (by decide) (by decide) _
  | can11Bit => exact htake "Can11Bit \x7b request_id: ".toList "Can11".toList (by decide) (by decide) _
  | can29Bit => exact htake "Can29Bit \x7b request_id: ".toList "Can29".toList (by decide) (by decide) _
  | j1939 => exact htake "J1939 \x7b source_address: ".toList "J1939".toList (by decide) (by decide) _

theorem addressWords_injective {address address' : PhysicalAddress} (h : addressWords address = addressWords address') :
    address = address' := by
  have htag : addressTag address = addressTag address' := by
    apply String.toList_injective
    rw [← take_addressWords, h, take_addressWords]
  cases address with
  | j1850 node header =>
    cases address' with
    | j1850 node' header' =>
      obtain ⟨hnode, h⟩ := toDigits_append_inj ⟨_, _, rfl, rfl⟩ (List.append_cancel_left h)
      obtain ⟨ha, h⟩ := toDigits_append_inj ⟨_, _, rfl, rfl⟩ h
      obtain ⟨hb, h⟩ := toDigits_append_inj ⟨_, _, rfl, rfl⟩ h
      have hc := toDigits_injective (List.append_cancel_right h)
      rw [UInt8.toNat_inj.mp hnode, Prod.ext (UInt8.toNat_inj.mp ha) (Prod.ext (UInt8.toNat_inj.mp hb) (UInt8.toNat_inj.mp hc))]
    | _ => simp [addressTag] at htag
  | can11Bit requestId responseId =>
    cases address' with
    | can11Bit requestId' responseId' =>
      obtain ⟨hrequest, h⟩ := toDigits_append_inj ⟨_, _, rfl, rfl⟩ (List.append_cancel_left h)
      have hresponse := toDigits_injective (List.append_cancel_right h)
      rw [UInt16.toNat_inj.mp hrequest, UInt16.toNat_inj.mp hresponse]
    | _ => simp [addressTag] at htag
  | can29Bit requestId responseId =>
    cases address' with
    | can29Bit requestId' responseId' =>
      obtain ⟨hrequest, h⟩ := toDigits_append_inj ⟨_, _, rfl, rfl⟩ (List.append_cancel_left h)
      have hresponse := toDigits_injective (List.append_cancel_right h)
      rw [UInt32.toNat_inj.mp hrequest, UInt32.toNat_inj.mp hresponse]
    | _ => simp [addressTag] at htag
  | j1939 sourceAddress =>
    cases address' with
    | j1939 sourceAddress' =>
      rw [UInt8.toNat_inj.mp (toDigits_injective (List.append_cancel_right (List.append_cancel_left h)))]
    | _ => simp [addressTag] at htag

theorem addressText_injective {address address' : PhysicalAddress} (h : addressText address = addressText address') :
    address = address' := by
  apply addressWords_injective
  rw [← toList_addressText, h, toList_addressText]

/-! ### One observation -/

section Observation

/-- An entry after an observation of the identifier. -/
def observed (id : String) (ecu : VisibleEcu) : VisibleEcu :=
  if ecu.id = id then {ecu with observationCount := ecu.observationCount + 1} else ecu

theorem observed_id (id : String) (ecu : VisibleEcu) : (observed id ecu).id = ecu.id := by
  unfold observed
  split <;> rfl

theorem observed_address (id : String) (ecu : VisibleEcu) : (observed id ecu).address = ecu.address := by
  unfold observed
  split <;> rfl

/-- Where identifiers occur once, the first entry is the only one. -/
theorem observeAgain_eq_map (id : String) {visible : List VisibleEcu} (h : (visible.map (·.id)).Nodup) :
    observeAgain id visible = visible.map (observed id) := by
  induction visible with
  | nil => rfl
  | cons ecu rest ih =>
    obtain ⟨hfresh, hrest⟩ := List.nodup_cons.mp h
    rw [observeAgain, List.map_cons, observed]
    split
    · next hid =>
      have hothers : ∀ other ∈ rest, observed id other = other := fun other hother =>
        if_neg fun hsame => hfresh (List.mem_map.mpr ⟨other, hother, hsame.trans hid.symm⟩)
      rw [List.map_congr_left hothers, List.map_id']
    · rw [ih hrest]

variable {visible : List VisibleEcu} {log : List AdapterCall}

/-- The list has one entry for each address that was asked, and counts the requests to it. -/
structure Tallies (visible : List VisibleEcu) (log : List AdapterCall) : Prop where
  once : (visible.map (·.id)).Nodup
  listed : ∀ address, 0 < requests address log → ∃ ecu ∈ visible, ecu.address = some address
  counted : ∀ ecu ∈ visible, ∃ address, ecu.address = some address ∧ ecu.id = addressText address ∧
    0 < requests address log ∧ ecu.observationCount = (requests address log).toUInt32

/-- A call to no address counts for none. -/
theorem Tallies.of_broadcast (h : Tallies visible log) {call : AdapterCall}
    (hcall : ∀ address, call.isTo address = false) : Tallies visible (log ++ [call]) := by
  have hrequests (address : PhysicalAddress) : requests address (log ++ [call]) = requests address log := by
    rw [requests, List.countP_append, List.countP_singleton, hcall address]
    rfl
  refine ⟨h.once, fun address => ?_, fun ecu hecu => ?_⟩
  · rw [hrequests]
    exact h.listed address
  · obtain ⟨address, hentry⟩ := h.counted ecu hecu
    exact ⟨address, by rw [hrequests]; exact hentry⟩

/-- A request to an address counts for it, and for no other. -/
theorem requests_append {call : AdapterCall} {address : PhysicalAddress}
    (hcall : ∀ address', call.isTo address' = decide (address = address')) (address' : PhysicalAddress) :
    requests address' (log ++ [call]) = if address = address' then requests address' log + 1 else requests address' log := by
  rw [requests, List.countP_append, List.countP_singleton, hcall address']
  by_cases hsame : address = address'
  · rw [if_pos hsame, if_pos (decide_eq_true hsame)]
    rfl
  · rw [if_neg hsame, if_neg (Bool.not_eq_true _ ▸ decide_eq_false hsame)]
    rfl

/-- One more request to an address that is listed. -/
theorem Tallies.observe (h : Tallies visible log) {call : AdapterCall} {address : PhysicalAddress}
    (hcall : ∀ address', call.isTo address' = decide (address = address'))
    (hlisted : visible.any (·.id == addressText address) = true) :
    Tallies (observeAgain (addressText address) visible) (log ++ [call]) := by
  rw [observeAgain_eq_map _ h.once]
  refine ⟨?_, fun address' hasked => ?_, fun ecu hecu => ?_⟩
  · have hids : ((·.id) ∘ observed (addressText address) : VisibleEcu → String) = (·.id) := funext (observed_id _)
    rw [List.map_map, hids]
    exact h.once
  · have hlisted' : ∃ ecu ∈ visible, ecu.address = some address' := by
      rw [requests_append hcall] at hasked
      split at hasked
      · next hsame =>
        subst hsame
        obtain ⟨ecu, hecu, hid⟩ := List.any_eq_true.mp hlisted
        obtain ⟨address', haddress, hid', -⟩ := h.counted ecu hecu
        exact ⟨ecu, hecu, haddress.trans (congrArg some
          (addressText_injective (hid'.symm.trans (beq_iff_eq.mp hid))))⟩
      · exact h.listed address' hasked
    obtain ⟨ecu, hecu, haddress⟩ := hlisted'
    exact ⟨_, List.mem_map_of_mem hecu, (observed_address _ ecu).trans haddress⟩
  · obtain ⟨ecu, hmem, rfl⟩ := List.mem_map.mp hecu
    obtain ⟨address', haddress, hid, hasked, hcount⟩ := h.counted ecu hmem
    refine ⟨address', (observed_address _ ecu).trans haddress, (observed_id _ ecu).trans hid, ?_⟩
    rw [requests_append hcall]
    by_cases hsame : address = address'
    · subst hsame
      rw [if_pos rfl, observed, if_pos hid, hcount]
      exact ⟨Nat.succ_pos _, (UInt32.ofNat_add _ _).symm⟩
    · rw [if_neg hsame, observed, if_neg fun hid' => hsame (addressText_injective (hid'.symm.trans hid))]
      exact ⟨hasked, hcount⟩

/-- The first request to an address. -/
theorem Tallies.notice (h : Tallies visible log) {call : AdapterCall} {address : PhysicalAddress}
    (hcall : ∀ address', call.isTo address' = decide (address = address'))
    (hfresh : ¬ visible.any (·.id == addressText address) = true) (bus : Option BusId) (module : Option ModuleId) :
    Tallies (visible ++ [⟨addressText address, bus, module, some address, 1⟩]) (log ++ [call]) := by
  have hunlisted : ∀ ecu ∈ visible, ecu.id ≠ addressText address := fun ecu hecu hid =>
    hfresh (List.any_eq_true.mpr ⟨ecu, hecu, beq_iff_eq.mpr hid⟩)
  have hunasked : requests address log = 0 := by
    refine Nat.eq_zero_of_not_pos fun hasked => ?_
    obtain ⟨ecu, hecu, haddress⟩ := h.listed address hasked
    obtain ⟨address', haddress', hid, -⟩ := h.counted ecu hecu
    obtain rfl := Option.some.inj (haddress.symm.trans haddress')
    exact hunlisted ecu hecu hid
  refine ⟨?_, fun address' hasked => ?_, fun ecu hecu => ?_⟩
  · rw [List.map_append, List.nodup_append]
    refine ⟨h.once, List.nodup_singleton _, fun id hid id' hid' => ?_⟩
    obtain ⟨ecu, hecu, rfl⟩ := List.mem_map.mp hid
    rw [List.mem_singleton.mp hid']
    exact hunlisted ecu hecu
  · rw [requests_append hcall] at hasked
    split at hasked
    · next hsame => exact ⟨_, List.mem_append_right _ (List.mem_singleton_self _), congrArg some hsame⟩
    · obtain ⟨ecu, hecu, haddress⟩ := h.listed address' hasked
      exact ⟨ecu, List.mem_append_left _ hecu, haddress⟩
  · rcases List.mem_append.mp hecu with hecu | hecu
    · obtain ⟨address', haddress, hid, hasked, hcount⟩ := h.counted ecu hecu
      have hother : address ≠ address' := by
        rintro rfl
        exact hunlisted ecu hecu hid
      exact ⟨address', haddress, hid, by rw [requests_append hcall, if_neg hother]; exact ⟨hasked, hcount⟩⟩
    · obtain rfl := List.mem_singleton.mp hecu
      refine ⟨address, rfl, rfl, ?_⟩
      rw [requests_append hcall, if_pos rfl, hunasked]
      exact ⟨Nat.one_pos, rfl⟩

end Observation

/-! ### Operations -/

section Operations
variable {A : Type}

/-- The session's list is tallied with its calls. -/
def Tallied (s : Session (Observed A)) : Prop := Tallies s.visibleEcus s.adapter.log

theorem Tallied.of_kept {s s' : Session (Observed A)} (h : Tallied s) (hlog : s'.adapter.log = s.adapter.log)
    (hvisible : s'.visibleEcus = s.visibleEcus) : Tallied s' := by
  rw [Tallied, hlog, hvisible]
  exact h

/-- What is noted before a request, with the request. -/
theorem Tallied.record {s : Session (Observed A)} (h : Tallied s) (req : RoutedRequest)
    (outcome : Outcome Obd2Error (List UInt8)) :
    Tallies (recordVisibleTarget req.target s).visibleEcus (s.adapter.log ++ [.routedRequest req outcome]) := by
  unfold recordVisibleTarget
  split
  · next htarget =>
    exact Tallies.of_broadcast h fun address => by rw [AdapterCall.isTo, htarget]; rfl
  · next address htarget =>
    have hcall : ∀ address', (AdapterCall.routedRequest req outcome).isTo address' = decide (address = address') := by
      intro address'
      rw [AdapterCall.isTo, htarget]
      by_cases hsame : address = address'
      · rw [decide_eq_true hsame, hsame, beq_self_eq_true]
      · rw [decide_eq_false hsame]
        exact beq_eq_false_iff_ne.mpr fun h => hsame (PhysicalTarget.addressed.inj h)
    dsimp only
    split
    · next hlisted => exact Tallies.observe h hcall hlisted
    · next hfresh => exact Tallies.notice h hcall hfresh _ _

variable [Adapter A]

/-- The tally is kept. -/
def KeepsTally (s s' : Session (Observed A)) : Prop := Tallied s → Tallied s'

omit [Adapter A] in
theorem KeepsTally.refl (s : Session (Observed A)) : KeepsTally s s := id

omit [Adapter A] in
theorem KeepsTally.trans {s t u : Session (Observed A)} (h : KeepsTally s t) (h' : KeepsTally t u) : KeepsTally s u :=
  h' ∘ h

theorem keepsTally_ensureInitialized : Async.Across KeepsTally (ensureInitialized : Op (Observed A) Unit) :=
  fun s h => h.of_kept (ensureInitialized_silent s).log (keptByExchanges_known.ensureInitialized s).visibleEcus

/-- One call, with what was noted before it. -/
theorem tallied_dispatch {α : Type} (record : Outcome Obd2Error α → AdapterCall)
    (hrecord : ∀ o, (record o).isDropped = o.isDropped) (x : Async Obd2Error A α) {u : Session (Observed A)}
    (hflag : u.requestInFlight = true) (hnoted : ∀ o, Tallies u.visibleEcus (u.adapter.log ++ [record o])) :
    Tallied ((dispatch (Observed.call record x)).run u).2 := by
  obtain ⟨o, s', hrun, hcalled⟩ := dispatch_call record hrecord x hflag
  have hvisible := (keptByExchanges_known.dispatch (Observed.call record x) u).visibleEcus
  rw [hrun] at hvisible ⊢
  show Tallies s'.visibleEcus s'.adapter.log
  rw [hvisible, hcalled.log]
  exact hnoted o

/-- A request, noted. -/
theorem tallied_request {s : Session (Observed A)} (h : Tallied s) (routed : RoutedRequest) :
    Tallied ((dispatch (Adapter.routedRequest routed)).run
      (recordVisibleTarget routed.target {s with requestInFlight := true})).2 := by
  have hkeeps := keeps_recordVisibleTarget routed.target {s with requestInFlight := true}
  refine tallied_dispatch (.routedRequest routed) (fun _ => rfl) (Adapter.routedRequest routed)
    hkeeps.requestInFlight fun o => ?_
  rw [hkeeps.adapter]
  exact Tallied.record (s := {s with requestInFlight := true}) h routed o

theorem keepsTally_sendRequest (req : ServiceRequest) :
    Async.Across KeepsTally (sendRequest req : Op (Observed A) (List UInt8)) := by
  intro s h
  cases hflag : s.requestInFlight with
  | true =>
    rw [sendRequest_busy hflag]
    exact h
  | false =>
    cases hroute : s.resolveRequest req with
    | error e =>
      rw [sendRequest_unresolved hflag hroute]
      exact h
    | ok routed =>
      rw [sendRequest_resolved hflag hroute]
      exact tallied_request h routed

theorem keepsTally_rawPhysicalRequest (service : UInt8) (data : List UInt8) (address : PhysicalAddress) :
    Async.Across KeepsTally (rawPhysicalRequest service data address : Op (Observed A) (List UInt8)) := by
  refine Async.Across.bind KeepsTally.trans keepsTally_ensureInitialized fun _ => ?_
  intro s h
  rw [Async.run_bind_ok (Async.run_get s)]
  split
  · exact h
  · exact tallied_request h ⟨service, data, .addressed address⟩

theorem keepsTally_batteryVoltage : Async.Across KeepsTally (batteryVoltage : Op (Observed A) (Option Float)) := by
  refine Async.Across.bind KeepsTally.trans keepsTally_ensureInitialized fun _ => ?_
  intro s h
  rw [Async.run_bind_ok (Async.run_get s)]
  split
  · exact h
  · exact tallied_dispatch .batteryVoltage (fun _ => rfl) Adapter.batteryVoltage
      (u := {s with requestInFlight := true}) rfl fun o => Tallies.of_broadcast h fun _ => rfl

/-- **Every operation keeps the tally.** -/
theorem Maintaining.keepsTally {α : Type} {x : Op (Observed A) α} (h : Maintaining x) :
    Async.Across KeepsTally x := by
  induction h with
  | pure a => exact Async.Across.pure .refl a
  | throw e => exact Async.Across.throw .refl e
  | get => exact Async.Across.get .refl
  | modify f h => exact Async.Across.modify fun s hs => hs.of_kept (congrArg Observed.log (h s).adapter) (h s).visibleEcus
  | identifies profile => exact Async.Across.modify fun s hs => hs.of_kept rfl rfl
  | initializes =>
    exact fun s hs => hs.of_kept (initializeSession_silent s).log (keptByExchanges_known.initializeSession s).visibleEcus
  | request req => exact keepsTally_sendRequest req
  | voltage => exact keepsTally_batteryVoltage
  | physical service data address => exact keepsTally_rawPhysicalRequest service data address
  | bind _ _ ihx ihf => exact Async.Across.bind KeepsTally.trans ihx ihf
  | attempt _ ih => exact Async.Across.attempt ih

theorem keepsTally_readEnhanced (did : UInt16) (module : ModuleId) :
    Async.Across KeepsTally (readEnhanced did module : Op (Observed A) Reading) := by
  refine Async.Across.bind KeepsTally.trans keepsTally_ensureInitialized fun _ => ?_
  refine Async.Across.bind KeepsTally.trans (Async.Across.get .refl) fun s => ?_
  refine Async.Across.bind KeepsTally.trans (keepsTally_sendRequest _) fun data => ?_
  refine Async.Across.bind KeepsTally.trans (Async.Across.get .refl) fun s' => ?_
  refine Async.Across.bind KeepsTally.trans (fun t => ?_) fun value => Async.Across.pure .refl _
  cases Enhanced.decodeEnhancedValue s'.spec did module data <;> exact .refl t

/-- The runs of a session: one operation after the other, each to its end or to the point where
it is given up. -/
inductive Talked : Session (Observed A) → Prop where
  | new (adapter : A) : Talked (Session.new ⟨adapter, []⟩)
  | operation {s : Session (Observed A)} {α : Type} {x : Op (Observed A) α} : Talked s → Maintaining x →
      Talked (x.run s).2
  | enhanced {s : Session (Observed A)} (did : UInt16) (module : ModuleId) : Talked s →
      Talked ((readEnhanced did module).run s).2

/-- **The list is tallied in every run.** -/
theorem Talked.tallied {s : Session (Observed A)} (h : Talked s) : Tallied s := by
  induction h with
  | new adapter =>
    exact ⟨List.nodup_nil, fun _ hasked => absurd hasked (Nat.lt_irrefl 0), fun _ hecu => absurd hecu List.not_mem_nil⟩
  | operation _ hx ih => exact hx.keepsTally _ ih
  | enhanced did module _ ih => exact keepsTally_readEnhanced did module _ ih

end Operations

/-! ### Requests and responses -/

theorem responses_eq (address : PhysicalAddress) (log : List AdapterCall) :
    responses address log = (log.filter (·.isTo address)).countP (·.isAnswered) := by
  rw [responses, List.countP_filter]
  exact List.countP_congr fun call _ => by rw [Bool.and_comm]

/-- An address answered as often as it was asked exactly if it always answered. -/
theorem responses_eq_requests_iff (address : PhysicalAddress) (log : List AdapterCall) :
    responses address log = requests address log ↔
      ∀ call ∈ log, call.isTo address = true → call.isAnswered = true := by
  have hasked : requests address log = (log.filter (·.isTo address)).length := List.countP_eq_length_filter
  rw [responses_eq, hasked, List.countP_eq_length]
  exact ⟨fun h call hmem hto => h call (List.mem_filter.mpr ⟨hmem, hto⟩),
    fun h call hmem => h call (List.mem_filter.mp hmem).1 (List.mem_filter.mp hmem).2⟩

theorem Tallies.addresses_nodup {visible : List VisibleEcu} {log : List AdapterCall} (h : Tallies visible log) :
    (visible.map (·.address)).Nodup := by
  have hids : visible.map (·.id) = (visible.map (·.address)).map fun address => (address.map addressText).getD "" := by
    rw [List.map_map]
    refine List.map_congr_left fun ecu hecu => ?_
    obtain ⟨address, haddress, hid, -⟩ := h.counted ecu hecu
    rw [hid, Function.comp, haddress]
    rfl
  have honce := h.once
  rw [hids] at honce
  exact honce.of_map

/-- **The list is of the ECUs that answered exactly if every addressed request was answered**, while
no address is asked more often than its count can tell. -/
theorem visible_iff {A : Type} [Adapter A] {s : Session (Observed A)} (h : Talked s)
    (hcount : ∀ address, requests address s.adapter.log < 2 ^ 32) :
    ListsAnswering s.visibleEcus s.adapter.log ↔
      ∀ call ∈ s.adapter.log, ∀ address, call.isTo address = true → call.isAnswered = true := by
  have htally := h.tallied
  have hnumber (address : PhysicalAddress) :
      (requests address s.adapter.log).toUInt32.toNat = requests address s.adapter.log :=
    UInt32.toNat_ofNat_of_lt' (hcount address)
  constructor
  · intro hlists call hmem address hto
    have hasked : 0 < requests address s.adapter.log := List.countP_pos_iff.mpr ⟨call, hmem, hto⟩
    obtain ⟨ecu, hecu, haddress⟩ := htally.listed address hasked
    obtain ⟨address', haddress', -, -, hentry⟩ := htally.counted ecu hecu
    obtain rfl := Option.some.inj (haddress.symm.trans haddress')
    have hall : responses address s.adapter.log = requests address s.adapter.log := by
      rw [← hlists.counted ecu hecu address haddress, hentry, hnumber]
    exact (responses_eq_requests_iff address s.adapter.log).mp hall call hmem hto
  · intro hanswered
    have hall (address : PhysicalAddress) : responses address s.adapter.log = requests address s.adapter.log :=
      (responses_eq_requests_iff address s.adapter.log).mpr fun call hmem => hanswered call hmem address
    refine ⟨htally.addresses_nodup, fun address => ?_, fun ecu hecu address haddress => ?_⟩
    · rw [hall]
      constructor
      · intro hlisted
        obtain ⟨ecu, hecu, haddress⟩ := List.mem_map.mp hlisted
        obtain ⟨address', haddress', -, hasked, -⟩ := htally.counted ecu hecu
        obtain rfl := Option.some.inj (haddress.symm.trans haddress')
        exact hasked
      · intro hasked
        obtain ⟨ecu, hecu, haddress⟩ := htally.listed address hasked
        exact List.mem_map.mpr ⟨ecu, hecu, haddress⟩
    · obtain ⟨address', haddress', -, -, hentry⟩ := htally.counted ecu hecu
      obtain rfl := Option.some.inj (haddress.symm.trans haddress')
      rw [hentry, hnumber, hall]

/-! ### Examples -/

/-- An adapter that answers requests of service 0x22, and has no data for others. -/
structure Quiet where

instance : Adapter Quiet where
  initializeAdapter := pure ⟨⟨.unknown, [], .can11Bit500, .none⟩, [], []⟩
  routedRequest req quiet := (if req.serviceId = 0x22 then .ok [0x5A] else .error .noData, quiet)
  batteryVoltage := pure none
  info _ := ⟨.unknown, [], .can11Bit500, .none⟩
  drainEvents quiet := ([], quiet)

def quiet : Session (Observed Quiet) := Session.new ⟨⟨⟩, []⟩

/-- After one request to an engine module. -/
def askedEngine (service : UInt8) (data : List UInt8) : Session (Observed Quiet) :=
  ((rawPhysicalRequest service data (.can11Bit 0x7E0 0x7E8)).run quiet).2

theorem talked_askedEngine (service : UInt8) (data : List UInt8) : Talked (askedEngine service data) :=
  .operation (.new (Quiet.mk)) (.physical service data _)

/-- The module that answered is listed with one answer. -/
theorem visible_answering :
    ListsAnswering (askedEngine 0x22 [0x19, 0x40]).visibleEcus (askedEngine 0x22 [0x19, 0x40]).adapter.log := by
  have hlog : (askedEngine 0x22 [0x19, 0x40]).adapter.log =
      [.routedRequest ⟨0x22, [0x19, 0x40], .addressed (.can11Bit 0x7E0 0x7E8)⟩ (.ok [0x5A])] := rfl
  refine (visible_iff (talked_askedEngine 0x22 [0x19, 0x40]) fun address => ?_).mpr ?_
  · rw [hlog]
    exact Nat.lt_of_le_of_lt List.countP_le_length (by decide)
  · rw [hlog]
    intro call hcall address _
    rw [List.mem_singleton.mp hcall]
    rfl

/-- A module that is asked and does not answer is listed as if it had. -/
theorem visible_without_answer :
    Talked (askedEngine 0x03 []) ∧
      (askedEngine 0x03 []).adapter.log =
        [.routedRequest ⟨0x03, [], .addressed (.can11Bit 0x7E0 0x7E8)⟩ (.error .noData)] ∧
      (askedEngine 0x03 []).visibleEcus.map (fun ecu => (ecu.address, ecu.observationCount)) =
        [(some (.can11Bit 0x7E0 0x7E8), 1)] ∧
      ¬ ListsAnswering (askedEngine 0x03 []).visibleEcus (askedEngine 0x03 []).adapter.log := by
  have hlog : (askedEngine 0x03 []).adapter.log =
      [.routedRequest ⟨0x03, [], .addressed (.can11Bit 0x7E0 0x7E8)⟩ (.error .noData)] := rfl
  have hvisible : (askedEngine 0x03 []).visibleEcus.map (·.address) = [some (.can11Bit 0x7E0 0x7E8)] := rfl
  refine ⟨talked_askedEngine _ _, hlog, rfl, fun hlists => ?_⟩
  have hlisted := (hlists.listed (.can11Bit 0x7E0 0x7E8)).mp (by rw [hvisible]; exact List.mem_singleton_self _)
  rw [hlog] at hlisted
  exact absurd hlisted (by decide)

end Session

end Obd2
