import Obd2.Adapter.Backend

/-! Routes on an STN device.

A route is planned as a list of commands, and the plan is carried out on a device in whatever state an
earlier route, or part of one, has left it. `planRoute_configures`: every plan leaves the device open and
set up for its route and nothing else; only a timeout that the plan does not ask for is the earlier one. -/
namespace Obd2

inductive StnProtocolPreset where
  | primaryCan
  | msCan125
  | swCanGmlan33
  | msGmlan95
  deriving DecidableEq, Repr

def StnProtocolPreset.fromRoute (route : CanRouteConfig) : StnProtocolPreset :=
  match route.bus with
  | .primary => .primaryCan
  | .secondary .msCan125 => .msCan125
  | .secondary .swCanGmlan33 => .swCanGmlan33
  | .secondary .msGmlan95 => .msGmlan95

def StnProtocolPreset.protocolDefaultBitrateBps : StnProtocolPreset → UInt32
  | .primaryCan => 500000
  | .msCan125 => 125000
  | .swCanGmlan33 => 33300
  | .msGmlan95 => 125000

inductive StnCommand where
  | closeProtocol
  | selectProtocol (preset : StnProtocolPreset)
  | setProtocolBaudRate (bitrateBps : UInt32)
  | setProtocolTimeoutMs (timeoutMs : UInt16)
  | useAutomaticFiltering
  | clearPassFilters
  | addPassFilter (filter : CanRouteFilter)
  | openProtocol
  deriving DecidableEq, Repr

structure StnRoutePlan where
  route : CanRouteConfig
  preset : StnProtocolPreset
  commands : List StnCommand
  deriving DecidableEq, Repr

inductive StnRouteError where
  | capability (mismatch : CapabilityMismatch)
  | invalidBitrate (bitrate : UInt32)
  | invalidTimeoutMs (timeout : UInt16)
  deriving DecidableEq, Repr

/-! ### Plans -/

def baudCommands (bitrateBps : UInt32) (preset : StnProtocolPreset) : List StnCommand :=
  if bitrateBps ≠ preset.protocolDefaultBitrateBps then [.setProtocolBaudRate bitrateBps] else []

def timeoutCommands : Option UInt16 → List StnCommand
  | some timeoutMs => [.setProtocolTimeoutMs timeoutMs]
  | none => []

def filterCommands (filters : List CanRouteFilter) : List StnCommand :=
  if filters.isEmpty then [.useAutomaticFiltering] else .clearPassFilters :: filters.map .addPassFilter

/-- What `plan_route` pushes, in order. -/
def routeCommands (route : CanRouteConfig) (timeoutMs : Option UInt16) : List StnCommand :=
  let preset := StnProtocolPreset.fromRoute route
  [.closeProtocol, .selectProtocol preset] ++ baudCommands route.arbitrationBitrateBps preset ++
    timeoutCommands timeoutMs ++ filterCommands route.filters ++ [.openProtocol]

def planRoute (route : CanRouteConfig) (timeoutMs : Option UInt16) : Except StnRouteError StnRoutePlan :=
  match stnBackendCaps.negotiate route.isotpRequirement with
  | .error mismatch => .error (.capability mismatch)
  | .ok _ =>
    if route.arbitrationBitrateBps = 0 then .error (.invalidBitrate route.arbitrationBitrateBps)
    else if timeoutMs = some 0 then .error (.invalidTimeoutMs 0)
    else
      .ok
        { route
          preset := .fromRoute route
          commands := routeCommands route timeoutMs }

/-! ### Devices -/

inductive StnFilters where
  | automatic
  | explicit (filters : List CanRouteFilter)
  deriving DecidableEq, Repr

/-- A filter that is added to automatic ones replaces them. -/
def StnFilters.add (filters : StnFilters) (filter : CanRouteFilter) : StnFilters :=
  match filters with
  | .automatic => .explicit [filter]
  | .explicit filters => .explicit (filters ++ [filter])

/-- The settings of an STN device, and whether its protocol is open. -/
structure StnState where
  preset : StnProtocolPreset
  bitrateBps : UInt32
  filters : StnFilters
  timeoutMs : UInt16
  isOpen : Bool
  deriving DecidableEq, Repr

/-- A setting on a device that is closed. -/
def StnState.set (s : StnState) : StnCommand → StnState
  | .selectProtocol preset => { s with preset := preset, bitrateBps := preset.protocolDefaultBitrateBps }
  | .setProtocolBaudRate bitrateBps => { s with bitrateBps := bitrateBps }
  | .setProtocolTimeoutMs timeoutMs => { s with timeoutMs := timeoutMs }
  | .useAutomaticFiltering => { s with filters := .automatic }
  | .clearPassFilters => { s with filters := .explicit [] }
  | .addPassFilter filter => { s with filters := s.filters.add filter }
  | .closeProtocol | .openProtocol => s

/-- An open device takes no settings. -/
def StnState.step (s : StnState) : StnCommand → StnState
  | .closeProtocol => { s with isOpen := false }
  | .openProtocol => { s with isOpen := true }
  | command => if s.isOpen then s else s.set command

def StnState.run (s : StnState) (commands : List StnCommand) : StnState := commands.foldl StnState.step s

theorem StnState.run_append (s : StnState) (a b : List StnCommand) : s.run (a ++ b) = (s.run a).run b :=
  List.foldl_append

/-! ### What a plan leaves -/

/-- The filters of a route as the device keeps them. -/
def CanRouteConfig.stnFilters (route : CanRouteConfig) : StnFilters :=
  if route.filters.isEmpty then .automatic else .explicit route.filters

/-- The device set up for a route. -/
def CanRouteConfig.configured (route : CanRouteConfig) (timeoutMs : UInt16) : StnState :=
  { preset := .fromRoute route
    bitrateBps := route.arbitrationBitrateBps
    filters := route.stnFilters
    timeoutMs := timeoutMs
    isOpen := true }

section Closed
variable {s : StnState}

theorem StnState.run_baudCommands (hclosed : s.isOpen = false) {preset : StnProtocolPreset}
    (hdefault : s.bitrateBps = preset.protocolDefaultBitrateBps) (bitrateBps : UInt32) :
    s.run (baudCommands bitrateBps preset) = { s with bitrateBps := bitrateBps } := by
  unfold baudCommands
  split
  · simp [StnState.run, StnState.step, StnState.set, hclosed]
  · next hsame =>
    rw [not_not.mp hsame, ← hdefault]
    rfl

theorem StnState.run_timeoutCommands (hclosed : s.isOpen = false) (timeoutMs : Option UInt16) :
    s.run (timeoutCommands timeoutMs) = { s with timeoutMs := timeoutMs.getD s.timeoutMs } := by
  cases timeoutMs with
  | none => rfl
  | some timeoutMs => simp [timeoutCommands, StnState.run, StnState.step, StnState.set, hclosed]

/-- Filters are added behind the ones that are there. -/
theorem StnState.run_addPassFilters (hclosed : s.isOpen = false) {before : List CanRouteFilter}
    (hbefore : s.filters = .explicit before) (filters : List CanRouteFilter) :
    s.run (filters.map .addPassFilter) = { s with filters := .explicit (before ++ filters) } := by
  induction filters generalizing s before with
  | nil =>
    rw [List.append_nil, ← hbefore]
    rfl
  | cons filter filters ih =>
    have hstep : s.step (.addPassFilter filter) = { s with filters := .explicit (before ++ [filter]) } := by
      simp [StnState.step, StnState.set, hclosed, hbefore, StnFilters.add]
    have hrest := ih (s := { s with filters := .explicit (before ++ [filter]) }) hclosed rfl
    rw [List.append_assoc] at hrest
    show (s.step (.addPassFilter filter)).run (filters.map .addPassFilter) = _
    rw [hstep, hrest]
    rfl

theorem StnState.run_filterCommands (hclosed : s.isOpen = false) (route : CanRouteConfig) :
    s.run (filterCommands route.filters) = { s with filters := route.stnFilters } := by
  unfold filterCommands CanRouteConfig.stnFilters
  split
  · simp [StnState.run, StnState.step, StnState.set, hclosed]
  · have hclear : s.step .clearPassFilters = { s with filters := .explicit [] } := by
      simp [StnState.step, StnState.set, hclosed]
    show (s.step .clearPassFilters).run (route.filters.map .addPassFilter) = _
    rw [hclear]
    exact run_addPassFilters (s := { s with filters := .explicit [] }) hclosed rfl route.filters

end Closed

/-- Closing comes first, so that every setting after it is taken. -/
theorem StnState.run_routeCommands (prior : StnState) (route : CanRouteConfig) (timeoutMs : Option UInt16) :
    prior.run (routeCommands route timeoutMs) = route.configured (timeoutMs.getD prior.timeoutMs) := by
  have hselect : prior.run [.closeProtocol, .selectProtocol (.fromRoute route)] =
      { prior with
        preset := .fromRoute route
        bitrateBps := (StnProtocolPreset.fromRoute route).protocolDefaultBitrateBps
        isOpen := false } := rfl
  rw [routeCommands, run_append, run_append, run_append, run_append, hselect, run_baudCommands rfl rfl,
    run_timeoutCommands rfl, run_filterCommands rfl]
  rfl

/-- A plan is there if no check fails, and then it is made of the route's commands. -/
theorem planRoute_eq_ok_iff {route : CanRouteConfig} {timeoutMs : Option UInt16} {plan : StnRoutePlan} :
    planRoute route timeoutMs = .ok plan ↔
      ((∃ backend, stnBackendCaps.negotiate route.isotpRequirement = .ok backend) ∧
        route.arbitrationBitrateBps ≠ 0 ∧ timeoutMs ≠ some 0) ∧
      plan = ⟨route, .fromRoute route, routeCommands route timeoutMs⟩ := by
  unfold planRoute
  cases stnBackendCaps.negotiate route.isotpRequirement with
  | error mismatch => simp
  | ok backend =>
    by_cases hbitrate : route.arbitrationBitrateBps = 0
    · simp [hbitrate]
    · by_cases htimeout : timeoutMs = some 0
      · simp [hbitrate, htimeout]
      · simp [hbitrate, htimeout, eq_comm]

theorem planRoute_ok_iff {route : CanRouteConfig} {timeoutMs : Option UInt16} :
    (∃ plan, planRoute route timeoutMs = .ok plan) ↔
      (∃ backend, stnBackendCaps.negotiate route.isotpRequirement = .ok backend) ∧
        route.arbitrationBitrateBps ≠ 0 ∧ timeoutMs ≠ some 0 := by
  simp only [planRoute_eq_ok_iff, exists_and_left, exists_eq, and_true]

/-- On STN there is a plan for classical frames, whatever the bus. -/
theorem planRoute_ok_iff_classical {route : CanRouteConfig} {timeoutMs : Option UInt16} :
    (∃ plan, planRoute route timeoutMs = .ok plan) ↔
      route.frameMode.isFd = false ∧ route.arbitrationBitrateBps ≠ 0 ∧ timeoutMs ≠ some 0 := by
  rw [planRoute_ok_iff, stn_negotiate_ok_iff]

/-- **A plan configures the device fully from any state**: there is one if STN can do what the route asks
for and neither the bitrate nor the timeout is zero, and it leaves the device open with the route's preset,
bitrate and filters, and with the timeout if one was given. -/
theorem planRoute_configures (route : CanRouteConfig) (timeoutMs : Option UInt16) :
    ((∃ plan, planRoute route timeoutMs = .ok plan) ↔
      (∃ backend, stnBackendCaps.negotiate route.isotpRequirement = .ok backend) ∧
        route.arbitrationBitrateBps ≠ 0 ∧ timeoutMs ≠ some 0) ∧
    ∀ plan, planRoute route timeoutMs = .ok plan → ∀ prior : StnState,
      prior.run plan.commands = route.configured (timeoutMs.getD prior.timeoutMs) := by
  refine ⟨planRoute_ok_iff, ?_⟩
  intro plan hplan prior
  obtain ⟨-, rfl⟩ := planRoute_eq_ok_iff.mp hplan
  exact StnState.run_routeCommands prior route timeoutMs

end Obd2
