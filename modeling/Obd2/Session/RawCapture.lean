import Obd2.Session.Client
import Obd2.Transport.Logging.Transparent

/-! A session that captures its traffic.

A session starts a capture when it initializes, notes in it what it learns of its adapter, and gives the file
the name of the vehicle when it has identified it; its caller may start and stop captures besides. The
settings of the capture are kept with the adapter here, and what the session does with the capture around a
call of its adapter is part of that call.

No client can tell such a session from one that captures nothing, whatever becomes of the files
(`captured_alike`). -/
namespace Obd2

/-- `Link::name`. -/
class Named (T : Type) where
  name : T → Text

/-! ### Names of files -/

def sanitizeCaptureName (value : Text) : Text :=
  let out := value.map fun ch => if ch.isAlphanum || ch == '-' || ch == '_' then ch else '_'
  let trimmed := Text.trimMatches (· == '_') out
  if trimmed.isEmpty then "unknown".toList else trimmed

/-- The date and time of RFC 3339 as `%Y%m%dT%H%M%S`. -/
def captureTimestamp (utcNow : Text) : Text := (utcNow.take 19).filter fun c => c != '-' && c != ':'

def captureTransportType (name : Text) : Text :=
  let lower := name.map Char.toLower
  let has (pattern : String) : Bool := Text.contains lower pattern.toList
  if has "obdlink" || has "ble" then "ble".toList
  else if has "tty" || has "cu." || has "com" || lower = "mock".toList then "serial".toList
  else "transport".toList

/-- `Path::join`. What begins with a separator is a path of its own. -/
def Path.join (path : Path) (name : Text) : Path :=
  let components := (name.splitOn '/').filter fun c => c != [] && c != ['.']
  if name.head? = some '/' then "/".toList :: components else path ++ components

def captureFile (subject name utcNow : Text) : Text :=
  subject ++ '-' :: sanitizeCaptureName name ++ '-' :: captureTimestamp utcNow ++ ".obd2raw".toList

/-! ### Notes -/

/-- `{:?}` of a character within a text, for ASCII. -/
def Text.escapeDebug (c : Char) : Text :=
  match c with
  | '\n' => ['\\', 'n']
  | '\r' => ['\\', 'r']
  | '\t' => ['\\', 't']
  | '\\' => ['\\', '\\']
  | '"' => ['\\', '"']
  | c =>
    if c.toNat = 0 then ['\\', '0']
    else if c.toNat < 0x20 ∨ c.toNat = 0x7F then
      ['\\', 'u', Char.ofNat 0x7B] ++ Nat.toDigits 16 c.toNat ++ [Char.ofNat 0x7D]
    else [c]

def Text.debug (t : Text) : Text := '"' :: t.flatMap escapeDebug ++ ['"']

def KLineInit.name : KLineInit → String
  | .slowInit => "SlowInit"
  | .fastInit => "FastInit"

/-- `{:?}` of a protocol. -/
def Protocol.debugName : Protocol → String
  | .j1850Vpw => "J1850Vpw"
  | .j1850Pwm => "J1850Pwm"
  | .iso9141 init => s!"Iso9141({init.name})"
  | .kwp2000 init => s!"Kwp2000({init.name})"
  | .can11Bit500 => "Can11Bit500"
  | .can11Bit250 => "Can11Bit250"
  | .can29Bit500 => "Can29Bit500"
  | .can29Bit250 => "Can29Bit250"
  | .auto => "Auto"

/-- `{:?}` of the kind of an event. -/
def AdapterEventKind.debug (kind : AdapterEventKind) : Text :=
  let braced (name : String) (field : Text) : Text := name.toList ++ " \x7b ".toList ++ field ++ " \x7d".toList
  match kind with
  | .reset => "Reset".toList
  | .protocolSearching => "ProtocolSearching".toList
  | .protocolSelected protocol => s!"ProtocolSelected({protocol.debugName})".toList
  | .headerChanged header => braced "HeaderChanged" ("header: ".toList ++ header.debug)
  | .headerReset header => braced "HeaderReset" ("header: ".toList ++ header.debug)
  | .nullBytesFiltered count => braced "NullBytesFiltered" s!"count: {count}".toList
  | .searchingDisplayed => "SearchingDisplayed".toList
  | .busBusy => "BusBusy".toList
  | .busError => "BusError".toList
  | .canError => "CanError".toList
  | .dataError => "DataError".toList
  | .rxError => "RxError".toList
  | .stopped => "Stopped".toList
  | .err94 => "Err94".toList
  | .lowVoltageReset => "LowVoltageReset".toList
  | .unknownCommand => "UnknownCommand".toList
  | .unsupportedProtocol => "UnsupportedProtocol".toList
  | .recoveryAction action => braced "RecoveryAction" ("action: ".toList ++ action.debug)

/-! ### The capture of a session -/

structure RawCaptureConfig where
  enabled : Bool
  directory : Path
  currentPath : Option Path

/-- An adapter over a captured link, and the settings of the capture. -/
structure Capturing (T F : Type) [FileSystem F] where
  adapter : Elm327Adapter (LoggingTransport T F)
  rawCapture : RawCaptureConfig

namespace Capturing
variable {T F : Type} [FileSystem F]

def onTransport (f : LoggingTransport T F → LoggingTransport T F) (s : Capturing T F) : Capturing T F :=
  {s with adapter := {s.adapter with transport := f s.adapter.transport}}

def annotateCapture (note : Text) : Capturing T F → Capturing T F := onTransport (·.annotateRawCapture note)

def annotateEvents (events : List AdapterEvent) (s : Capturing T F) : Capturing T F :=
  events.foldl (fun s event => s.annotateCapture ("adapter_event=".toList ++ event.kind.debug)) s

/-- `std::fs::create_dir_all`. -/
def createDirAll (directory : Path) (s : Capturing T F) : Except IoError Unit × Capturing T F :=
  let made := FileSystem.createDirAll directory s.adapter.transport.files
  (made.1, s.onTransport fun transport => {transport with files := made.2})

section Operations
variable [Chunked T] [Named T]

def name (s : Capturing T F) : Text := Named.name s.adapter.transport.inner

/-- An operation of the transport; the path is noted if there is one. -/
def capture {α : Type} (x : LoggingTransport.Capture T F α) (path : α → Option Path) (s : Capturing T F) :
    Capturing T F :=
  let run := x.run s.adapter.transport
  let s := s.onTransport fun _ => run.2
  match run.1 with
  | .ok a =>
    match path a with
    | some path => {s with rawCapture := {s.rawCapture with currentPath := some path}}
    | none => s
  | _ => s

def startDebugRawCapture (s : Capturing T F) : Capturing T F :=
  if !s.rawCapture.enabled || s.adapter.transport.isCapturing then s
  else
    match s.createDirAll s.rawCapture.directory with
    | (.error _, s) => s
    | (.ok _, s) =>
      let filename := captureFile "unknown".toList s.name (FileSystem.utcNow s.adapter.transport.files)
      let path := s.rawCapture.directory.join filename
      let metadata : CaptureMetadata := ⟨captureTransportType s.name, s.name, none⟩
      s.capture (LoggingTransport.startCapture path metadata) fun _ => some path

def renameRawCaptureForVin (vin : Text) (s : Capturing T F) : Capturing T F :=
  if !s.rawCapture.enabled || !s.adapter.transport.isCapturing then s
  else
    let filename := captureFile (sanitizeCaptureName vin) s.name (FileSystem.utcNow s.adapter.transport.files)
    s.capture (LoggingTransport.renameCapture (s.rawCapture.directory.join filename)) id

/-- `Session::start_raw_capture`. -/
def startRawCapture (path : Path) (metadata : CaptureMetadata) (s : Capturing T F) : Capturing T F :=
  let start := capture (LoggingTransport.startCapture path metadata) fun _ => some path
  match path.parent with
  | none => start s
  | some parent =>
    match s.createDirAll parent with
    | (.error _, s) => s
    | (.ok _, s) => start s

/-- `Session::stop_raw_capture`. -/
def stopRawCapture (s : Capturing T F) : Capturing T F :=
  let s := s.capture LoggingTransport.stopCapture fun _ => none
  {s with rawCapture := {s.rawCapture with currentPath := none}}

end Operations

section Adapter
variable [Chunked T] [Link T] {α : Type}

def onAdapter (x : Async Obd2Error (Elm327Adapter (LoggingTransport T F)) α) : Async Obd2Error (Capturing T F) α :=
  x.on (·.adapter) fun adapter s => {s with adapter}

instance [Named T] : Adapter (Capturing T F) where
  initializeAdapter := do
    .modify startDebugRawCapture
    .modify (annotateCapture "session_state=ProtocolNegotiating".toList)
    let report ← onAdapter Adapter.initializeAdapter
    .modify (annotateEvents report.events)
    pure report
  routedRequest req := onAdapter (Adapter.routedRequest req)
  batteryVoltage := onAdapter Adapter.batteryVoltage
  info s := Adapter.info s.adapter
  drainEvents s :=
    let drained := Adapter.drainEvents s.adapter
    (drained.1, annotateEvents drained.1 {s with adapter := drained.2})

end Adapter

end Capturing

/-! ### The session -/

namespace Session
variable {T F : Type} [FileSystem F] [Chunked T] [Link T] [Named T]

def identifyVehicleCapturing (matchVin : Text → Option VehicleSpec) : Op (Capturing T F) VehicleProfile := do
  ensureInitialized
  let vin ← readVin
  .modify fun s => {s with adapter := s.adapter.renameRawCaptureForVin vin}
  let supported ← supportedPids.attempt
  let profile : VehicleProfile := ⟨vin, matchVin vin, supported.toOption.getD []⟩
  .modify fun s => {s with profile := some profile}.refreshDiscoveryProfile
  pure profile

def Call.opCapturing {α : Type} : Call α → Op (Capturing T F) α
  | .identifyVehicle matchVin => identifyVehicleCapturing matchVin
  | c => c.op

/-- What happens to a capture between the operations: its caller starts and stops it and changes its settings,
and others do anything to the files. -/
inductive CaptureStep : Session (Capturing T F) → Session (Capturing T F) → Prop where
  | start (path : Path) (metadata : CaptureMetadata) (s : Session (Capturing T F)) :
      CaptureStep s {s with adapter := s.adapter.startRawCapture path metadata}
  | stop (s : Session (Capturing T F)) : CaptureStep s {s with adapter := s.adapter.stopRawCapture}
  | settings (enabled : Bool) (directory : Path) (s : Session (Capturing T F)) :
      CaptureStep s {s with adapter :=
        {s.adapter with rawCapture := {s.adapter.rawCapture with enabled := enabled, directory := directory}}}
  | files (files : F) (s : Session (Capturing T F)) :
      CaptureStep s {s with adapter := s.adapter.onTransport fun transport => {transport with files}}

end Session

/-! ### No difference -/

section Alike
open Async
variable {T T' F : Type} [FileSystem F] {S : T → T' → Prop}

namespace Capturing

/-- The adapter is related but for its capture. -/
def Over (S : T → T' → Prop) (s : Capturing T F) (b : Elm327Adapter T') : Prop :=
  Elm327Adapter.Over (LoggingTransport.Inside S) s.adapter b

/-- Whatever the adapter was related to, it still is. -/
def Keeps (S : T → T' → Prop) (s s' : Capturing T F) : Prop := ∀ b, Over S s b → Over S s' b

theorem Keeps.trans {s t u : Capturing T F} (h : Keeps S s t) (h' : Keeps S t u) : Keeps S s u :=
  fun b hb => h' b (h b hb)

theorem keeps_onTransport {f : LoggingTransport T F → LoggingTransport T F} {s : Capturing T F}
    (h : LoggingTransport.KeepsInside S s.adapter.transport (f s.adapter.transport)) : Keeps S s (s.onTransport f) := by
  rintro _ ⟨l, hl, rfl⟩
  exact ⟨l, h l hl, rfl⟩

theorem keeps_annotateCapture (note : Text) (s : Capturing T F) : Keeps S s (s.annotateCapture note) :=
  keeps_onTransport (.of_eq (LoggingTransport.inner_log ..))

theorem keeps_annotateEvents (events : List AdapterEvent) (s : Capturing T F) : Keeps S s (s.annotateEvents events) := by
  induction events generalizing s with
  | nil => exact fun b hb => hb
  | cons event events ih => exact (keeps_annotateCapture _ s).trans (ih _)

theorem keeps_createDirAll (directory : Path) (s : Capturing T F) : Keeps S s (s.createDirAll directory).2 :=
  keeps_onTransport (.of_eq rfl)

theorem keeps_capture {α : Type} {x : LoggingTransport.Capture T F α}
    (hx : Across (LoggingTransport.KeepsInside S) x) (path : α → Option Path) (s : Capturing T F) :
    Keeps S s (s.capture x path) := by
  intro b hb
  have hafter := keeps_onTransport (f := fun _ => (x.run s.adapter.transport).2) (hx s.adapter.transport) b hb
  unfold capture
  dsimp only
  split
  · split
    · exact hafter
    · exact hafter
  · exact hafter

theorem onAdapter_alike {α : Type} {x : Async Obd2Error (Elm327Adapter (LoggingTransport T F)) α}
    {y : Async Obd2Error (Elm327Adapter T') α}
    (h : Alike (Elm327Adapter.Over (LoggingTransport.Inside S)) x y) : Alike (Over S) (onAdapter x) y :=
  fun s b hb => h s.adapter b hb

section Operations
variable [Chunked T] [Named T] (hS : LoggingTransport.Unobserved S)
include hS

theorem keeps_startDebugRawCapture (s : Capturing T F) : Keeps S s s.startDebugRawCapture := by
  have hmade := keeps_createDirAll (S := S) s.rawCapture.directory s
  unfold startDebugRawCapture
  split
  · exact fun b hb => hb
  · split
    · next hcreate =>
      rw [hcreate] at hmade
      exact hmade
    · next hcreate =>
      rw [hcreate] at hmade
      exact hmade.trans (keeps_capture (LoggingTransport.startCapture_keeps hS _ _) _ _)

theorem keeps_renameRawCaptureForVin (vin : Text) (s : Capturing T F) : Keeps S s (s.renameRawCaptureForVin vin) := by
  unfold renameRawCaptureForVin
  split
  · exact fun b hb => hb
  · exact keeps_capture (LoggingTransport.renameCapture_keeps hS _) _ _

omit [Named T] in
theorem keeps_startRawCapture (path : Path) (metadata : CaptureMetadata) (s : Capturing T F) :
    Keeps S s (s.startRawCapture path metadata) := by
  have hstart := keeps_capture (LoggingTransport.startCapture_keeps (F := F) hS path metadata) fun _ => some path
  unfold startRawCapture
  dsimp only
  split
  · exact hstart s
  · next parent _ =>
    have hmade := keeps_createDirAll (S := S) parent s
    split
    · next hcreate =>
      rw [hcreate] at hmade
      exact hmade
    · next hcreate =>
      rw [hcreate] at hmade
      exact hmade.trans (hstart _)

omit [Named T] in
theorem keeps_stopRawCapture (s : Capturing T F) : Keeps S s s.stopRawCapture :=
  keeps_capture (LoggingTransport.stopCapture_keeps hS) (fun _ => none) s

end Operations

section Adapter
variable [Chunked T] [Link T] [Link T'] [Named T]

/-- With a capture or without one, adapters behave alike. -/
theorem over_alike (h : LinksAlike S) (hS : LoggingTransport.Unobserved S) : AdaptersAlike (Over (F := F) S) := by
  have hover := Elm327Adapter.over_alike (LoggingTransport.links_alike (F := F) hS h)
  constructor
  · refine Alike.before (fun s b hb => keeps_startDebugRawCapture hS s b hb) ?_
    refine Alike.before (fun s b hb => keeps_annotateCapture _ s b hb) ?_
    refine Alike.after (onAdapter_alike hover.initializeAdapter) fun report => ?_
    exact Alike.before (fun s b hb => keeps_annotateEvents _ s b hb) (Alike.pure report)
  · exact fun req => onAdapter_alike (hover.routedRequest req)
  · exact onAdapter_alike hover.batteryVoltage
  · exact fun s b hb => hover.info _ _ hb
  · exact fun s b hb => hover.events _ _ hb
  · intro s b hb
    exact keeps_annotateEvents _ _ _ (hover.drained _ _ hb)

end Adapter

end Capturing

namespace Session
variable [Chunked T] [Link T] [Link T'] [Named T] (h : LinksAlike S) (hS : LoggingTransport.Unobserved S)
include h hS

theorem identifyVehicleCapturing_alike (matchVin : Text → Option VehicleSpec) :
    Alike (Over (Capturing.Over (F := F) S)) (identifyVehicleCapturing matchVin) (identifyVehicle matchVin) := by
  have hover := Capturing.over_alike (F := F) h hS
  refine (ensureInitialized_alike hover).bind fun _ => (readVin_alike hover).bind fun vin => ?_
  refine Alike.before ?_ ((supportedPids_alike hover).attempt.bind fun _ => (noteProfile_alike hover _).bind fun _ =>
    Alike.pure _)
  intro s t hst
  obtain ⟨b, hb, rfl⟩ := hst
  exact ⟨b, Capturing.keeps_renameRawCaptureForVin hS vin s.adapter b hb, rfl⟩

theorem opCapturing_alike {α : Type} (c : Call α) :
    Alike (Over (Capturing.Over (F := F) S)) (Call.opCapturing c) (Call.op c) := by
  cases c with
  | identifyVehicle matchVin => exact identifyVehicleCapturing_alike h hS matchVin
  | _ => exact Call.op_alike (Capturing.over_alike h hS) _

omit h [Link T] [Link T'] [Named T] in
theorem captureStep_keeps {s t : Session (Capturing T F)} (hstep : CaptureStep s t) {u : Session (Elm327Adapter T')}
    (hsu : Over (Capturing.Over S) s u) : Over (Capturing.Over S) t u := by
  obtain ⟨b, hb, rfl⟩ := hsu
  cases hstep with
  | start path metadata => exact ⟨b, Capturing.keeps_startRawCapture hS path metadata s.adapter b hb, rfl⟩
  | stop => exact ⟨b, Capturing.keeps_stopRawCapture hS s.adapter b hb, rfl⟩
  | settings enabled directory => exact ⟨b, hb, rfl⟩
  | files files => exact ⟨b, Capturing.keeps_onTransport (.of_eq rfl) b hb, rfl⟩

/-- No client can tell a session that captures from one that does not. -/
theorem captured_alike {α : Type} {client : Client α} {s s' : Session (Capturing T F)} {a : α}
    (hrun : client.Meddled Call.opCapturing CaptureStep s a s') {t : Session (Elm327Adapter T')}
    (hst : Over (Capturing.Over S) s t) :
    (client.run Call.op t).1 = a ∧ Over (Capturing.Over S) s' (client.run Call.op t).2 :=
  Client.meddled_alike (Capturing.over_alike h hS) (opCapturing_alike h hS)
    (fun hstep hsu => captureStep_keeps hS hstep hsu) hrun hst

end Session

end Alike

end Obd2
