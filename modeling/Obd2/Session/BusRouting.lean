import Obd2.Session.Freshness
import Obd2.Session.Observed

/-! On which bus a module is addressed.

A module is addressed by one of its entries in the specification: the last one on the active bus,
or the last one of all if no bus is active (`get_resolveModules`). The active bus is that of the
selected protocol if there is one; but the only bus of a specification is active whatever its
protocol. So a request can go to an address of a bus that is not the selected one, and
`busSafe_iff` says when. -/
namespace Obd2

/-! ### The resolved modules -/

namespace ModuleMap

theorem get_append (modules more : ModuleMap) (m : ModuleId) :
    get (modules ++ more) m = (modules.get m).or (more.get m) := List.lookup_append

/-- Only the entries of the identifier are taken out. -/
theorem get_filter (modules : ModuleMap) {id m : ModuleId} (h : m ≠ id) :
    get (modules.filter (·.1 != id)) m = modules.get m := by
  induction modules with
  | nil => rfl
  | cons entry modules ih =>
    obtain ⟨key, resolved⟩ := entry
    by_cases hkey : key = id
    · have hother : (m == key) = false := beq_false_of_ne (hkey ▸ h)
      rw [List.filter_cons_of_neg (by simp [hkey]), ih, get, get, List.lookup_cons, hother]
    · rw [List.filter_cons_of_pos (by simp [hkey]), get, get, List.lookup_cons, List.lookup_cons, ← get, ih, get]

theorem get_filter_self (modules : ModuleMap) (id : ModuleId) : get (modules.filter (·.1 != id)) id = none := by
  refine List.lookup_eq_none_iff.mpr fun entry hentry => ?_
  have hkey := (List.mem_filter.mp hentry).2
  rwa [bne_comm] at hkey

theorem get_insert (modules : ModuleMap) (id m : ModuleId) (resolved : ResolvedModule) :
    (modules.insert id resolved).get m = if id = m then some resolved else modules.get m := by
  rw [insert, get_append]
  by_cases hm : id = m
  · subst hm
    rw [get_filter_self, if_pos rfl, get, List.lookup_cons, beq_self_eq_true]
    rfl
  · have hother : (m == id) = false := beq_false_of_ne (Ne.symm hm)
    rw [get_filter _ (Ne.symm hm), if_neg hm, get, get, List.lookup_cons, hother, List.lookup_nil, Option.or_none]

end ModuleMap

namespace Discovery

/-- The last entry of a module. -/
def lastEntry (m : ModuleId) (modules : List Module) : Option Module := modules.reverse.find? (·.id == m)

theorem lastEntry_mem {m : ModuleId} {modules : List Module} {entry : Module}
    (h : lastEntry m modules = some entry) : entry ∈ modules ∧ entry.id = m :=
  ⟨List.mem_reverse.mp (List.mem_of_find?_eq_some h), by simpa using List.find?_some h⟩

theorem lastEntry_of_mem {m : ModuleId} {modules : List Module} {entry : Module} (h : entry ∈ modules)
    (hid : entry.id = m) : ∃ entry, lastEntry m modules = some entry := by
  rw [← Option.isSome_iff_exists, lastEntry, List.find?_isSome]
  exact ⟨entry, List.mem_reverse.mpr h, beq_iff_eq.mpr hid⟩

def toResolvedModule (module : Module) : ResolvedModule := ⟨module.id, module.name, module.bus, module.address⟩

theorem get_collectModules (modules : List Module) (target : ModuleMap) (m : ModuleId) :
    (collectModules target modules).get m = ((lastEntry m modules).map toResolvedModule).or (target.get m) := by
  induction modules generalizing target with
  | nil => rfl
  | cons first rest ih =>
    have hlast : lastEntry m (first :: rest) = (lastEntry m rest).or (if first.id = m then some first else none) := by
      rw [lastEntry, List.reverse_cons, List.find?_append, lastEntry, List.find?_singleton]
      simp only [beq_iff_eq]
    have hfirst : (collectModules target (first :: rest)) =
        collectModules (target.insert first.id (toResolvedModule first)) rest := rfl
    rw [hfirst, ih, ModuleMap.get_insert, hlast]
    cases lastEntry m rest with
    | some entry => rfl
    | none =>
      by_cases hid : first.id = m
      · rw [if_pos hid, if_pos hid]
        rfl
      · rw [if_neg hid, if_neg hid]
        rfl

theorem foldl_collectModules (buses : List BusConfig) (target : ModuleMap) :
    buses.foldl (fun target bus => collectModules target bus.modules) target =
      collectModules target (buses.flatMap (·.modules)) := by
  rw [collectModules, List.foldl_flatMap]
  rfl

/-- The entries a module is looked for in. -/
def entries (spec : VehicleSpec) (activeBus : Option ResolvedBus) : List Module :=
  match activeBus with
  | some activeBus => ((spec.communication.buses.find? (·.id == activeBus.id)).map (·.modules)).getD []
  | none => spec.communication.buses.flatMap (·.modules)

/-- **A module is resolved to its last entry.** -/
theorem get_resolveModules (spec : VehicleSpec) (activeBus : Option ResolvedBus) (m : ModuleId) :
    (resolveModules (some spec) activeBus).get m = (lastEntry m (entries spec activeBus)).map toResolvedModule := by
  unfold resolveModules entries
  cases activeBus with
  | none =>
    dsimp only
    rw [foldl_collectModules, get_collectModules]
    exact Option.or_none
  | some activeBus =>
    dsimp only
    cases spec.communication.buses.find? (·.id == activeBus.id) with
    | none => rfl
    | some bus =>
      dsimp only
      rw [get_collectModules]
      exact Option.or_none

/-! ### Addresses of the selected protocol -/

/-- A bus of the protocol declares the address for the module. -/
def Declared (spec : VehicleSpec) (protocol : Protocol) (m : ModuleId) (address : PhysicalAddress) : Prop :=
  ∃ bus ∈ spec.communication.buses, bus.protocol = protocol ∧
    ∃ entry ∈ bus.modules, entry.id = m ∧ entry.address = address

/-- The specification sends the module's requests astray. Either the bus of the protocol shares its
identifier with an earlier one of another protocol, whose entry is taken; or there is no bus of the
protocol, and the only bus has the module's entry, or one of several has one. -/
def Strays (spec : VehicleSpec) (protocol : Protocol) (m : ModuleId) : Prop :=
  match spec.communication.buses.find? (·.protocol == protocol) with
  | some selected =>
    ∃ bus entry, spec.communication.buses.find? (·.id == selected.id) = some bus ∧
      bus.protocol ≠ protocol ∧ lastEntry m bus.modules = some entry ∧ entry.bus = selected.id ∧
      ¬ Declared spec protocol m entry.address
  | none =>
    match spec.communication.buses with
    | [bus] => ∃ entry, lastEntry m bus.modules = some entry ∧ entry.bus = bus.id
    | buses => ∃ bus ∈ buses, ∃ entry ∈ bus.modules, entry.id = m

theorem not_declared_of_none {spec : VehicleSpec} {protocol : Protocol}
    (h : spec.communication.buses.find? (·.protocol == protocol) = none) (m : ModuleId)
    (address : PhysicalAddress) : ¬ Declared spec protocol m address := by
  rintro ⟨bus, hbus, hprotocol, -⟩
  exact List.find?_eq_none.mp h bus hbus (beq_iff_eq.mpr hprotocol)

/-- A specification whose buses have different identifiers strays only if it has no bus of the
protocol. -/
theorem not_strays_of_selected {spec : VehicleSpec} {protocol : Protocol} {selected : BusConfig}
    (h : spec.communication.buses.find? (·.protocol == protocol) = some selected)
    (hunique : ∀ bus ∈ spec.communication.buses, bus.id = selected.id → bus = selected) (m : ModuleId) :
    ¬ Strays spec protocol m := by
  rw [Strays, h]
  rintro ⟨bus, entry, hbus, hprotocol, -⟩
  have hid : bus.id = selected.id := by simpa using List.find?_some hbus
  have hselected : selected.protocol = protocol := by simpa using List.find?_some h
  exact hprotocol (hunique bus (List.mem_of_find?_eq_some hbus) hid ▸ hselected)

end Discovery

/-! ### Requests to a module -/

namespace Session
open Discovery

section Requests
variable {A : Type} [Adapter A]

/-- A session that is idle, has matched a specification and resolved its modules for a protocol. -/
structure Selected (s : Session A) (spec : VehicleSpec) (protocol : Protocol) : Prop where
  idle : s.requestInFlight = false
  spec : s.spec = some spec
  protocol : (Adapter.info s.adapter).protocol = protocol
  resolved : s.discovery = some (resolveDiscoveryProfile (Adapter.info s.adapter) s.spec s.probeAttempts
    s.visibleEcus)

/-- A session that is kept as it should be is resolved for the protocol of its adapter. -/
theorem Maintained.selected {L : Type} [Link L] {s : Session (Elm327Adapter L)} {spec : VehicleSpec}
    (h : Maintained s) (hidle : s.requestInFlight = false) (hspec : s.spec = some spec) :
    Selected s spec s.adapter.info.protocol := ⟨hidle, hspec, rfl, h.fresh.discovery⟩

/-- The module's last entry is its address, unless it is of another bus than the active one. -/
theorem resolveModuleAddress_selected {s : Session A} {spec : VehicleSpec} {protocol : Protocol}
    (h : Selected s spec protocol) (m : String) :
    s.resolveModuleAddress m =
      match lastEntry ⟨m⟩ (entries spec (resolveActiveBus protocol (some spec))) with
      | none => .error (.moduleNotFound m)
      | some entry =>
        match resolveActiveBus protocol (some spec) with
        | none => .ok entry.address
        | some activeBus =>
          if entry.bus = activeBus.id then .ok entry.address else .error (.busNotAvailable entry.bus.id) := by
  rw [resolveModuleAddress, h.resolved, resolveDiscoveryProfile, h.protocol, h.spec]
  dsimp only
  rw [get_resolveModules]
  cases lastEntry ⟨m⟩ (entries spec (resolveActiveBus protocol (some spec))) with
  | none => rfl
  | some entry => rfl

/-- With an active bus, the module's entry is the last one of the first bus with its identifier. -/
theorem resolveModuleAddress_active {s : Session A} {spec : VehicleSpec} {protocol : Protocol}
    (h : Selected s spec protocol) {selected bus : BusConfig}
    (hactive : resolveActiveBus protocol (some spec) = some (toResolvedBus selected))
    (hbus : spec.communication.buses.find? (·.id == selected.id) = some bus) {m : String}
    {address : PhysicalAddress} :
    s.resolveModuleAddress m = .ok address ↔
      ∃ entry, lastEntry ⟨m⟩ bus.modules = some entry ∧ entry.bus = selected.id ∧ entry.address = address := by
  have hentries : entries spec (some (toResolvedBus selected)) = bus.modules := by
    have hid : (toResolvedBus selected).id = selected.id := rfl
    rw [entries, hid, hbus]
    rfl
  rw [resolveModuleAddress_selected h, hactive, hentries]
  cases lastEntry ⟨m⟩ bus.modules with
  | none => simp
  | some entry =>
    have hid : (toResolvedBus selected).id = selected.id := rfl
    dsimp only
    rw [hid]
    split
    · next hsame => simp [hsame]
    · next hother => simp [hother]

/-- With none, it is the last one of all. -/
theorem resolveModuleAddress_inactive {s : Session A} {spec : VehicleSpec} {protocol : Protocol}
    (h : Selected s spec protocol) (hactive : resolveActiveBus protocol (some spec) = none) {m : String}
    {address : PhysicalAddress} :
    s.resolveModuleAddress m = .ok address ↔
      ∃ entry, lastEntry ⟨m⟩ (spec.communication.buses.flatMap (·.modules)) = some entry ∧
        entry.address = address := by
  rw [resolveModuleAddress_selected h, hactive, entries]
  cases lastEntry ⟨m⟩ (spec.communication.buses.flatMap (·.modules)) with
  | none => simp
  | some entry => simp

/-- **A module is resolved to an address off the protocol exactly if the specification strays.** -/
theorem resolve_astray_iff {s : Session A} {spec : VehicleSpec} {protocol : Protocol}
    (h : Selected s spec protocol) (m : String) :
    (∃ address, s.resolveModuleAddress m = .ok address ∧ ¬ Declared spec protocol ⟨m⟩ address) ↔
      Strays spec protocol ⟨m⟩ := by
  cases hfind : spec.communication.buses.find? (·.protocol == protocol) with
  | some selected =>
    have hactive : resolveActiveBus protocol (some spec) = some (toResolvedBus selected) := by
      simp only [resolveActiveBus, hfind]
    obtain ⟨bus, hbus⟩ : ∃ bus, spec.communication.buses.find? (·.id == selected.id) = some bus := by
      rw [← Option.isSome_iff_exists, List.find?_isSome]
      exact ⟨selected, List.mem_of_find?_eq_some hfind, beq_self_eq_true selected.id⟩
    simp only [resolveModuleAddress_active h hactive hbus, Strays, hfind]
    constructor
    · rintro ⟨address, ⟨entry, hentry, hsame, rfl⟩, hoff⟩
      obtain ⟨hmem, hid⟩ := lastEntry_mem hentry
      -- An entry of a bus of the protocol would be declared there.
      have hprotocol : bus.protocol ≠ protocol := fun hprotocol =>
        hoff ⟨bus, List.mem_of_find?_eq_some hbus, hprotocol, entry, hmem, hid, rfl⟩
      exact ⟨bus, entry, hbus, hprotocol, hentry, hsame, hoff⟩
    · rintro ⟨bus', entry, hbus', -, hentry, hsame, hoff⟩
      obtain rfl := Option.some.inj (hbus'.symm.trans hbus)
      exact ⟨entry.address, ⟨entry, hentry, hsame, rfl⟩, hoff⟩
  | none =>
    have hoff := not_declared_of_none hfind ⟨m⟩
    simp only [hoff, not_false_iff, and_true, Strays, hfind]
    split
    · next bus hbuses =>
      have hactive : resolveActiveBus protocol (some spec) = some (toResolvedBus bus) := by
        rw [resolveActiveBus, hfind]
        dsimp only
        rw [hbuses]
      have hbus : spec.communication.buses.find? (·.id == bus.id) = some bus := by
        rw [hbuses, List.find?_singleton, beq_self_eq_true]
        rfl
      simp only [resolveModuleAddress_active h hactive hbus]
      exact ⟨fun ⟨_, entry, hentry, hsame, _⟩ => ⟨entry, hentry, hsame⟩,
        fun ⟨entry, hentry, hsame⟩ => ⟨_, entry, hentry, hsame, rfl⟩⟩
    · next hnotOne =>
      have hactive : resolveActiveBus protocol (some spec) = none := by
        simp only [resolveActiveBus, hfind]
      simp only [resolveModuleAddress_inactive h hactive]
      constructor
      · rintro ⟨_, entry, hentry, -⟩
        obtain ⟨hmem, hid⟩ := lastEntry_mem hentry
        obtain ⟨bus, hbus, hmem⟩ := List.mem_flatMap.mp hmem
        exact ⟨bus, hbus, entry, hmem, hid⟩
      · rintro ⟨bus, hbus, entry, hmem, hid⟩
        obtain ⟨last, hlast⟩ := lastEntry_of_mem (List.mem_flatMap.mpr ⟨bus, hbus, hmem⟩) hid
        exact ⟨last.address, last, hlast, rfl⟩

/-- Every request to the module fails before anything is asked of the adapter, or is sent to an
address that a bus of the protocol declares for it. -/
def BusSafe (s : Session (Observed A)) (spec : VehicleSpec) (protocol : Protocol) (m : String) : Prop :=
  ∀ service data, ∃ o s', (sendRequest ⟨service, data, .module m⟩).run s = (o, s') ∧
    ((∃ e, o = .error e ∧ s'.adapter.log = s.adapter.log) ∨
      ∃ address outcome, Declared spec protocol ⟨m⟩ address ∧
        s'.adapter.log = s.adapter.log ++ [.routedRequest ⟨service, data, .addressed address⟩ outcome])

theorem not_busSafe_of_astray {s : Session (Observed A)} {spec : VehicleSpec} {protocol : Protocol}
    (h : Selected s spec protocol) {m : String} {address : PhysicalAddress}
    (hresolve : s.resolveModuleAddress m = .ok address) (hoff : ¬ Declared spec protocol ⟨m⟩ address) :
    ¬ BusSafe s spec protocol m := by
  intro hsafe
  obtain ⟨o, s', hrun, hsent⟩ := hsafe 0x3E []
  obtain ⟨o', s'', hrun', hcalled⟩ :=
    sendRequest_called h.idle (resolveRequest_module.mpr ⟨address, hresolve, rfl⟩)
  obtain ⟨rfl, rfl⟩ := Prod.mk.inj (hrun.symm.trans hrun')
  rcases hsent with ⟨e, -, hlog⟩ | ⟨declared, outcome, hdeclared, hlog⟩
  · rw [hcalled.log] at hlog
    exact absurd (List.append_right_eq_self.mp hlog) (List.cons_ne_nil _ _)
  · rw [hcalled.log, List.append_cancel_left_eq, List.cons.injEq] at hlog
    cases hlog.1
    exact hoff hdeclared

/-- **Requests to a module are bus-safe exactly if the specification does not send them astray.** -/
theorem busSafe_iff {s : Session (Observed A)} {spec : VehicleSpec} {protocol : Protocol}
    (h : Selected s spec protocol) (m : String) : BusSafe s spec protocol m ↔ ¬ Strays spec protocol ⟨m⟩ := by
  rw [← resolve_astray_iff h]
  constructor
  · rintro hsafe ⟨address, hresolve, hoff⟩
    exact not_busSafe_of_astray h hresolve hoff hsafe
  · intro hnone service data
    rcases sendRequest_cases ⟨service, data, .module m⟩ s with
      ⟨hbusy, -⟩ | ⟨-, e, s', hrun, hkeeps⟩ | ⟨-, routed, o, s', hroute, hrun, hcalled⟩
    · rw [h.idle] at hbusy
      cases hbusy
    · exact ⟨_, s', hrun, .inl ⟨e, rfl, congrArg Observed.log hkeeps.adapter⟩⟩
    · obtain ⟨address, hresolve, rfl⟩ := resolveRequest_module.mp hroute
      have hdeclared : Declared spec protocol ⟨m⟩ address :=
        Classical.byContradiction fun hoff => hnone ⟨address, hresolve, hoff⟩
      exact ⟨o, s', hrun, .inr ⟨address, o, hdeclared, hcalled.log⟩⟩

end Requests

/-! ### Examples -/

/-- A session for the protocol, with a specification matched and the modules resolved. -/
def selectedSession (spec : VehicleSpec) (protocol : Protocol) : Session (Observed (Elm327Adapter MockTransport)) :=
  let adapter : Elm327Adapter MockTransport :=
    {Elm327Adapter.new (MockTransport.expecting [("AT SH".toList, "OK\r>".toList)]) with
      info := {Elm327Adapter.defaultAdapterInfo with protocol}, initialized := true}
  {Session.new (⟨adapter, []⟩ : Observed _) with
    initialized := true, profile := some ⟨[], some spec, []⟩}.refreshDiscoveryProfile

theorem selected_selectedSession (spec : VehicleSpec) (protocol : Protocol) :
    Selected (selectedSession spec protocol) spec protocol := ⟨rfl, rfl, rfl, rfl⟩

/-- A vehicle with its engine on one J1850 bus. -/
def j1850Spec : VehicleSpec :=
  {communication := ⟨[⟨⟨"j1850"⟩, .j1850Vpw, 10400,
    [⟨⟨"ecm"⟩, "engine", .j1850 0x10 (0x6C, 0x10, 0xF1), ⟨"j1850"⟩⟩], none⟩]⟩}

/-- On its own protocol it is safe. -/
theorem busSafe_j1850 : BusSafe (selectedSession j1850Spec .j1850Vpw) j1850Spec .j1850Vpw "ecm" := by
  have hbus : j1850Spec.communication.buses.find? (·.protocol == .j1850Vpw) = some _ := rfl
  refine (busSafe_iff (selected_selectedSession j1850Spec .j1850Vpw) "ecm").mpr ?_
  exact not_strays_of_selected hbus (List.forall_mem_singleton.mpr fun _ => rfl) ⟨"ecm"⟩

/-- With a CAN protocol selected, the only bus is active all the same, and the engine's J1850
address is sent to on CAN. -/
theorem j1850_on_can :
    let s := selectedSession j1850Spec .can11Bit500
    let sent := (rawRequest 0x22 [0x12, 0x34] (.module "ecm")).run s
    (sent.2.adapter.log.map fun call =>
      match call with
      | .routedRequest req _ => some req
      | .batteryVoltage _ => none) =
        [some ⟨0x22, [0x12, 0x34], .addressed (.j1850 0x10 (0x6C, 0x10, 0xF1))⟩] ∧
      ¬ BusSafe s j1850Spec .can11Bit500 "ecm" := by
  intro s sent
  have hresolve : s.resolveModuleAddress "ecm" = .ok (.j1850 0x10 (0x6C, 0x10, 0xF1)) := rfl
  refine ⟨by decide +kernel, not_busSafe_of_astray (selected_selectedSession _ _) hresolve ?_⟩
  rintro ⟨bus, hbus, hprotocol, -⟩
  obtain rfl := List.mem_singleton.mp hbus
  cases hprotocol

end Session

end Obd2
