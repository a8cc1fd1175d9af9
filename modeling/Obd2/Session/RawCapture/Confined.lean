import Obd2.Transport.Prompt

/-! Where a session captures to.

The names of a capture file are made of what a vehicle and a link say of themselves, and of the time. None of
this leads out of the directory that the capture is to be in: of all paths that a session ever gives to the
file system, each is the directory or a file in it (`capture_confined`). -/
namespace Obd2
open Async

/-! ### Paths -/

/-- The name leads to something in a directory. -/
def Plain (name : Text) : Prop := '/' ∉ name ∧ name ≠ [] ∧ name ≠ ['.'] ∧ name ≠ ['.', '.']

/-- Something in the directory. -/
def FileIn (directory path : Path) : Prop := ∃ name : Text, path = directory ++ [name] ∧ Plain name

/-- The directory, or something in it. -/
def Within (directory path : Path) : Prop := path = directory ∨ FileIn directory path

theorem sanitizeCaptureName_plain (value : Text) : '/' ∉ sanitizeCaptureName value := by
  intro hmem
  unfold sanitizeCaptureName at hmem
  dsimp only at hmem
  split at hmem
  · exact absurd hmem (by decide)
  · rw [Text.trimMatches, Text.trimEndWhile, List.mem_reverse] at hmem
    have hdropped := List.dropWhile_sublist _ |>.subset hmem
    rw [List.mem_reverse] at hdropped
    obtain ⟨ch, -, hch⟩ := List.mem_map.mp (List.dropWhile_sublist _ |>.subset hdropped)
    split at hch
    · next hplain =>
      rw [hch] at hplain
      exact absurd hplain (by decide)
    · exact absurd hch (by decide)

theorem plain_of_length {name : Text} (hplain : '/' ∉ name) (hlength : 8 ≤ name.length) : Plain name := by
  refine ⟨hplain, ?_, ?_, ?_⟩
  · rintro rfl
    exact absurd hlength (by decide)
  · rintro rfl
    exact absurd hlength (by decide)
  · rintro rfl
    exact absurd hlength (by decide)

/-- A capture file is in the directory it is joined to. -/
theorem captureFile_plain {subject utcNow : Text} (name : Text) (hsubject : '/' ∉ subject) (htime : '/' ∉ utcNow) :
    Plain (captureFile subject name utcNow) := by
  have hstamp : '/' ∉ captureTimestamp utcNow := fun hmem =>
    htime (List.mem_of_mem_take (List.mem_of_mem_filter hmem))
  have hname := sanitizeCaptureName_plain name
  unfold captureFile
  refine plain_of_length ?_ ?_
  · have hend : '/' ∉ ".obd2raw".toList := by decide
    simp only [List.mem_append, List.mem_cons, not_or]
    exact ⟨⟨⟨hsubject, by decide, hname⟩, by decide, hstamp⟩, hend⟩
  · have hend : ".obd2raw".toList.length = 8 := by decide
    simp only [List.length_append, List.length_cons, hend]
    omega

/-- What is joined to a directory is in it, if it is the name of a file. -/
theorem fileIn_join (directory : Path) {name : Text} (h : Plain name) : FileIn directory (directory.join name) := by
  obtain ⟨hplain, hempty, hdot, -⟩ := id h
  have hhead : name.head? ≠ some '/' := fun hhead => hplain (List.mem_of_head? hhead)
  have hsplit : name.splitOn '/' = [name] := by
    rw [List.splitOn_eq_splitOnP]
    refine List.splitOnP_eq_singleton fun c hc => beq_false_of_ne ?_
    rintro rfl
    exact hplain hc
  have hkept : (name != [] && name != ['.']) = true := by simp [hempty, hdot]
  refine ⟨name, ?_, h⟩
  rw [Path.join, if_neg hhead, hsplit, List.filter_cons, if_pos hkept]
  rfl

theorem FileIn.parent {directory path : Path} (h : FileIn directory path) {parent : Path}
    (hparent : path.parent = some parent) : parent = directory := by
  obtain ⟨name, rfl, -⟩ := h
  unfold Path.parent at hparent
  split at hparent
  · cases hparent
  · rw [List.dropLast_concat] at hparent
    exact (Option.some.inj hparent).symm

/-! ### What is asked of the file system -/

/-- A file system, and the paths that were given to it. -/
structure Watched (F : Type) where
  files : F
  touched : List Path

namespace Watched
variable {F α : Type}

def touch (paths : List Path) (step : F → Except IoError α × F) (w : Watched F) : Except IoError α × Watched F :=
  ((step w.files).1, ⟨(step w.files).2, w.touched ++ paths⟩)

instance [FileSystem F] : FileSystem (Watched F) where
  Writer := FileSystem.Writer F
  create path := touch [path] (FileSystem.create path)
  openAppend path := touch [path] (FileSystem.openAppend path)
  writeAll writer text := touch [] (FileSystem.writeAll (F := F) writer text)
  flush writer := touch [] (FileSystem.flush (F := F) writer)
  close writer w := {w with files := FileSystem.close (F := F) writer w.files}
  createDirAll path := touch [path] (FileSystem.createDirAll path)
  rename path newPath := touch [path, newPath] (FileSystem.rename path newPath)
  readToString path w := FileSystem.readToString path w.files
  now w := FileSystem.now w.files
  utcNow w := FileSystem.utcNow w.files

end Watched

section Links
variable {T F : Type} [FileSystem F] {directory : Path}

/-- The capture is within the directory, and so is all that was touched. -/
structure Confined (directory : Path) (s : LoggingTransport T (Watched F)) : Prop where
  path : ∀ path, s.capturePath = some path → Within directory path
  touched : ∀ path ∈ s.files.touched, Within directory path

theorem Confined.touch {s : LoggingTransport T (Watched F)} (hs : Confined directory s) {paths : List Path}
    (hpaths : ∀ path ∈ paths, Within directory path) (files : F) :
    Confined directory {s with files := ⟨files, s.files.touched ++ paths⟩} :=
  ⟨hs.path, List.forall_mem_append.mpr ⟨hs.touched, hpaths⟩⟩

namespace LoggingTransport

/-- A step of the file system that touches what is within the directory. -/
theorem onFiles_confined {α : Type} {paths : List Path} (hpaths : ∀ path ∈ paths, Within directory path)
    (step : F → Except IoError α × F) :
    Preserves (Confined directory) (onFiles (Watched.touch paths step) : Capture T (Watched F) α) :=
  fun _ hs => hs.touch hpaths _

theorem nothing_touched : ∀ path ∈ ([] : List Path), Within directory path := fun _ h => absurd h List.not_mem_nil

theorem only_touched {path : Path} (h : Within directory path) : ∀ p ∈ [path], Within directory p :=
  List.forall_mem_singleton.mpr h

theorem log_confined (line : Text) (s : LoggingTransport T (Watched F)) (hs : Confined directory s) :
    Confined directory (s.log line) := by
  unfold log
  split
  · exact hs.touch nothing_touched _
  · exact hs

theorem logLine_confined (direction : Char) (data : List UInt8) (s : LoggingTransport T (Watched F))
    (hs : Confined directory s) : Confined directory (s.logLine direction data) := log_confined _ s hs

theorem dropWriter_confined (s : LoggingTransport T (Watched F)) (hs : Confined directory s) :
    Confined directory s.dropWriter := by
  unfold dropWriter
  split
  · exact ⟨hs.path, hs.touched⟩
  · exact hs

theorem logChunks_confined (chunks : List (Nat × List UInt8)) (s : LoggingTransport T (Watched F))
    (hs : Confined directory s) : Confined directory (chunks.foldl logChunk s) := by
  induction chunks generalizing s with
  | nil => exact hs
  | cons chunk chunks ih => exact ih _ (log_confined _ s hs)

theorem close_confined (writer : FileSystem.Writer (Watched F)) :
    Preserves (Confined directory) (.modify (close writer) : Capture T (Watched F) Unit) :=
  Preserves.modify fun _ hs => ⟨hs.path, hs.touched⟩

theorem finishWriter_confined : Preserves (Confined directory) (finishWriter : Capture T (Watched F) Unit) := by
  refine Preserves.get fun s hs => ?_
  split
  · exact Preserves.pure ()
  · next writer _ =>
    have hflush : Preserves (Confined directory) (do
        let flushed ← (onFiles (FileSystem.flush writer)).attempt
        .modify (close writer)
        Async.lift flushed : Capture T (Watched F) Unit) :=
      (onFiles_confined nothing_touched _).attempt.bind fun flushed =>
        (close_confined writer).bind fun _ => Preserves.lift flushed
    exact Preserves.bind (fun _ _ => ⟨hs.path, hs.touched⟩) fun _ => hflush

theorem createParent_confined {path : Path} (hpath : FileIn directory path) :
    Preserves (Confined directory) (createParent path : Capture T (Watched F) Unit) := by
  unfold createParent
  split
  · next parent hparent =>
    rw [hpath.parent hparent]
    exact onFiles_confined (only_touched (.inl rfl)) _
  · exact Preserves.pure ()

theorem flushWriter_confined : Preserves (Confined directory) (flushWriter : Capture T (Watched F) Unit) := by
  refine Preserves.get fun s _ => ?_
  split
  · exact onFiles_confined nothing_touched _
  · exact Preserves.pure ()

variable [Chunked T]

theorem flushChunks_confined (s : LoggingTransport T (Watched F)) (hs : Confined directory s) :
    Confined directory s.flushChunks := by
  unfold flushChunks
  split
  · exact hs
  · exact logChunks_confined _ _ ⟨hs.path, hs.touched⟩

theorem startCapture_confined {path : Path} (hpath : FileIn directory path) (metadata : CaptureMetadata) :
    Preserves (Confined directory) (startCapture path metadata : Capture T (Watched F) Unit) := by
  refine (onFiles_confined (only_touched (.inr hpath)) _).bind fun writer => Preserves.get fun s _ => ?_
  refine (onFiles_confined nothing_touched _).attempt.bind fun written => ?_
  cases written with
  | error e => exact (close_confined writer).bind fun _ => Preserves.throw e
  | ok _ =>
    refine (Preserves.modify dropWriter_confined).bind fun _ => ?_
    refine Preserves.bind (Preserves.modify fun s hs => ?_) fun _ => ?_
    · exact ⟨fun _ hcapture => Option.some.inj hcapture ▸ .inr hpath, hs.touched⟩
    · exact Preserves.modify fun s hs => ⟨hs.path, hs.touched⟩

theorem stopCapture_confined : Preserves (Confined directory) (stopCapture : Capture T (Watched F) (Option Path)) := by
  refine Preserves.bind (Preserves.modify fun s hs => ⟨hs.path, hs.touched⟩) fun _ => ?_
  refine finishWriter_confined.bind fun _ => Preserves.get fun s hs => ?_
  exact Preserves.bind (fun _ _ => ⟨fun _ hcapture => (Option.not_mem_none _ hcapture).elim, hs.touched⟩) fun _ =>
    Preserves.pure _

theorem renameCapture_confined {newPath : Path} (hpath : FileIn directory newPath) :
    Preserves (Confined directory) (renameCapture newPath : Capture T (Watched F) (Option Path)) := by
  refine Preserves.get fun s hs => ?_
  split
  · exact Preserves.pure none
  · next currentPath hcurrent =>
    have hrenamed : ∀ path ∈ [currentPath, newPath], Within directory path :=
      List.forall_mem_cons.mpr ⟨hs.path _ hcurrent, only_touched (.inr hpath)⟩
    split
    · exact Preserves.pure _
    · refine (createParent_confined hpath).bind fun _ => flushWriter_confined.bind fun _ => ?_
      refine (Preserves.modify dropWriter_confined).bind fun _ => (onFiles_confined hrenamed _).bind fun _ => ?_
      refine (onFiles_confined (only_touched (.inr hpath)) _).bind fun writer => ?_
      refine Preserves.bind (Preserves.modify fun s hs => ?_) fun _ =>
        Preserves.bind (Preserves.modify fun s hs => ⟨hs.path, hs.touched⟩) fun _ => Preserves.pure _
      exact ⟨fun _ hcapture => Option.some.inj hcapture ▸ .inr hpath, hs.touched⟩

omit [Chunked T] in
theorem onInner_confined {α : Type} (x : Async Obd2Error T α) :
    Preserves (Confined directory) (onInner x : Async Obd2Error (LoggingTransport T (Watched F)) α) :=
  fun _ hs => ⟨hs.path, hs.touched⟩

variable [Link T]

theorem write_confined (data : List UInt8) :
    Preserves (Confined directory) (Link.write data : Async Obd2Error (LoggingTransport T (Watched F)) Unit) :=
  Preserves.bind (Preserves.modify (logLine_confined 'W' data)) fun _ => onInner_confined _

theorem read_confined :
    Preserves (Confined directory) (Link.read : Async Obd2Error (LoggingTransport T (Watched F)) (List UInt8)) := by
  refine Preserves.bind (onInner_confined _) fun result => ?_
  refine Preserves.bind (Preserves.modify flushChunks_confined) fun _ => ?_
  exact Preserves.bind (Preserves.modify (logLine_confined 'R' result)) fun _ => Preserves.pure result

/-- Writing and reading keep a capture confined. -/
theorem links_confined :
    LinksAlike fun s t : LoggingTransport T (Watched F) => t = s ∧ Confined directory s where
  write data := (write_confined data).alike
  read := read_confined.alike

end LoggingTransport

end Links

/-! ### The capture of a session -/

namespace Capturing
variable {T F : Type} [FileSystem F] {directory : Path}

/-- The session captures to the directory. -/
structure CapturesTo (directory : Path) (s : Capturing T (Watched F)) : Prop where
  place : s.rawCapture.directory = directory
  confined : Confined directory s.adapter.transport

theorem CapturesTo.onTransport {s : Capturing T (Watched F)} (hs : CapturesTo directory s)
    {f : LoggingTransport T (Watched F) → LoggingTransport T (Watched F)}
    (hf : Confined directory (f s.adapter.transport)) : CapturesTo directory (s.onTransport f) := ⟨hs.place, hf⟩

theorem annotateCapture_capturesTo (note : Text) (s : Capturing T (Watched F)) (hs : CapturesTo directory s) :
    CapturesTo directory (s.annotateCapture note) := hs.onTransport (LoggingTransport.log_confined _ _ hs.confined)

theorem annotateEvents_capturesTo (events : List AdapterEvent) (s : Capturing T (Watched F))
    (hs : CapturesTo directory s) : CapturesTo directory (s.annotateEvents events) := by
  induction events generalizing s with
  | nil => exact hs
  | cons event events ih => exact ih _ (annotateCapture_capturesTo _ s hs)

theorem createDirAll_capturesTo (s : Capturing T (Watched F)) (hs : CapturesTo directory s) :
    CapturesTo directory (s.createDirAll directory).2 :=
  ⟨hs.place, hs.confined.touch (LoggingTransport.only_touched (.inl rfl)) _⟩

theorem capture_capturesTo {α : Type} {x : LoggingTransport.Capture T (Watched F) α}
    (hx : Preserves (Confined directory) x) (path : α → Option Path) (s : Capturing T (Watched F))
    (hs : CapturesTo directory s) :
    CapturesTo directory (s.capture x path) := by
  have hafter : CapturesTo directory (s.onTransport fun _ => (x.run s.adapter.transport).2) :=
    hs.onTransport (hx _ hs.confined)
  unfold capture
  dsimp only
  split
  · split
    · exact ⟨hafter.place, hafter.confined⟩
    · exact hafter
  · exact hafter

theorem onAdapter_capturesTo {α : Type} {x : Async Obd2Error (Elm327Adapter (LoggingTransport T (Watched F))) α}
    (hx : Alike (Elm327Adapter.Over fun s t => t = s ∧ Confined directory s) x x) :
    Preserves (CapturesTo directory) (onAdapter x) := by
  intro s hs
  obtain ⟨-, _, ⟨-, hconfined⟩, -⟩ := hx s.adapter s.adapter ⟨_, ⟨rfl, hs.confined⟩, rfl⟩
  exact ⟨hs.place, hconfined⟩

variable [Chunked T]

theorem startRawCapture_capturesTo {path : Path} (hpath : FileIn directory path) (metadata : CaptureMetadata)
    (s : Capturing T (Watched F)) (hs : CapturesTo directory s) :
    CapturesTo directory (s.startRawCapture path metadata) := by
  have hstart := capture_capturesTo (T := T) (F := F) (LoggingTransport.startCapture_confined hpath metadata)
    fun _ => some path
  unfold startRawCapture
  dsimp only
  split
  · exact hstart s hs
  · next parent hparent =>
    obtain rfl := hpath.parent hparent
    have hmade := createDirAll_capturesTo s hs
    split
    · next hcreate =>
      rw [hcreate] at hmade
      exact hmade
    · next hcreate =>
      rw [hcreate] at hmade
      exact hstart _ hmade

theorem stopRawCapture_capturesTo (s : Capturing T (Watched F)) (hs : CapturesTo directory s) :
    CapturesTo directory s.stopRawCapture :=
  let hstopped := capture_capturesTo LoggingTransport.stopCapture_confined (fun _ => none) s hs
  ⟨hstopped.place, hstopped.confined⟩

/-- `FileSystem::utcNow` has no separator in it. -/
def DateTimes (F : Type) [FileSystem F] : Prop := ∀ files : F, '/' ∉ FileSystem.utcNow files

variable [Named T] (htime : DateTimes F)
include htime

theorem startDebugRawCapture_capturesTo (s : Capturing T (Watched F)) (hs : CapturesTo directory s) :
    CapturesTo directory s.startDebugRawCapture := by
  unfold startDebugRawCapture
  rw [hs.place]
  split
  · exact hs
  · have hmade := createDirAll_capturesTo s hs
    split
    · next hcreate =>
      rw [hcreate] at hmade
      exact hmade
    · next hcreate =>
      rw [hcreate] at hmade
      rw [hmade.place]
      have hsubject : '/' ∉ "unknown".toList := by decide
      have hfile := fun name files => fileIn_join directory (captureFile_plain name hsubject (htime files))
      exact capture_capturesTo (LoggingTransport.startCapture_confined (hfile _ _) _) _ _ hmade

theorem renameRawCaptureForVin_capturesTo (vin : Text) (s : Capturing T (Watched F)) (hs : CapturesTo directory s) :
    CapturesTo directory (s.renameRawCaptureForVin vin) := by
  unfold renameRawCaptureForVin
  rw [hs.place]
  split
  · exact hs
  · have hfile := fileIn_join directory
      (captureFile_plain s.name (sanitizeCaptureName_plain vin) (htime s.adapter.transport.files.files))
    exact capture_capturesTo (LoggingTransport.renameCapture_confined hfile) _ s hs

variable [Link T]

/-- Whatever a session asks of its adapter, it captures to its directory. -/
theorem adapters_capture :
    AdaptersAlike fun s t : Capturing T (Watched F) => t = s ∧ CapturesTo directory s := by
  have hlinks : LinksAlike fun s t : LoggingTransport T (Watched F) => t = s ∧ Confined directory s :=
    LoggingTransport.links_confined
  have hover := Elm327Adapter.over_alike hlinks
  constructor
  · refine Preserves.alike (Preserves.bind (Preserves.modify (startDebugRawCapture_capturesTo htime)) fun _ => ?_)
    refine Preserves.bind (Preserves.modify (annotateCapture_capturesTo _)) fun _ => ?_
    refine Preserves.bind (onAdapter_capturesTo hover.initializeAdapter) fun report => ?_
    exact Preserves.bind (Preserves.modify (annotateEvents_capturesTo _)) fun _ => Preserves.pure report
  · exact fun req => (onAdapter_capturesTo (hover.routedRequest req)).alike
  · exact (onAdapter_capturesTo hover.batteryVoltage).alike
  · rintro s _ ⟨rfl, -⟩
    rfl
  · rintro s _ ⟨rfl, -⟩
    rfl
  · rintro _ s ⟨rfl, hs⟩
    obtain ⟨_, ⟨-, hconfined⟩, -⟩ := hover.drained s.adapter s.adapter ⟨_, ⟨rfl, hs.confined⟩, rfl⟩
    exact ⟨rfl, annotateEvents_capturesTo _ _ ⟨hs.place, hconfined⟩⟩

end Capturing

/-! ### The session -/

namespace Session
variable {T F : Type} [FileSystem F] {directory : Path}

/-- The session captures to the directory. -/
abbrev CapturesTo (directory : Path) (s : Session (Capturing T (Watched F))) : Prop :=
  Capturing.CapturesTo directory s.adapter

/-- What an operation keeps that cannot tell a session from itself. -/
theorem capturesTo_of_alike {α : Type} {x : Op (Capturing T (Watched F)) α}
    (h : Alike (Over fun s t => t = s ∧ Capturing.CapturesTo directory s) x x) :
    Preserves (CapturesTo directory) x := by
  intro s hs
  obtain ⟨-, _, ⟨-, hafter⟩, -⟩ := h s s ⟨s.adapter, ⟨rfl, hs⟩, rfl⟩
  exact hafter

variable [Chunked T] [Named T]

/-- Between the operations the caller starts captures to files of the directory, stops them, and has captures
enabled or not, and others do anything to the files. -/
inductive ConfinedStep (directory : Path) :
    Session (Capturing T (Watched F)) → Session (Capturing T (Watched F)) → Prop where
  | start {path : Path} (h : FileIn directory path) (metadata : CaptureMetadata)
      (s : Session (Capturing T (Watched F))) :
      ConfinedStep directory s {s with adapter := s.adapter.startRawCapture path metadata}
  | stop (s : Session (Capturing T (Watched F))) :
      ConfinedStep directory s {s with adapter := s.adapter.stopRawCapture}
  | enabled (enabled : Bool) (s : Session (Capturing T (Watched F))) :
      ConfinedStep directory s {s with adapter :=
        {s.adapter with rawCapture := {s.adapter.rawCapture with enabled}}}
  | files (files : F) (s : Session (Capturing T (Watched F))) :
      ConfinedStep directory s
        {s with adapter := s.adapter.onTransport fun l => {l with files := {l.files with files}}}

omit [Named T] in
theorem confinedStep_capturesTo {s t : Session (Capturing T (Watched F))} (hstep : ConfinedStep directory s t)
    (hs : CapturesTo directory s) : CapturesTo directory t := by
  cases hstep with
  | start h metadata => exact Capturing.startRawCapture_capturesTo h metadata _ hs
  | stop => exact Capturing.stopRawCapture_capturesTo _ hs
  | enabled enabled => exact ⟨hs.place, hs.confined⟩
  | files files => exact ⟨hs.place, ⟨hs.confined.path, hs.confined.touched⟩⟩

variable [Link T] (htime : Capturing.DateTimes F)
include htime

theorem identifyVehicleCapturing_capturesTo (matchVin : Text → Option VehicleSpec) :
    Preserves (CapturesTo directory) (identifyVehicleCapturing matchVin : Op (Capturing T (Watched F)) _) := by
  have hsame : AdaptersAlike fun s t : Capturing T (Watched F) => t = s ∧ Capturing.CapturesTo directory s :=
    Capturing.adapters_capture htime
  refine (capturesTo_of_alike (ensureInitialized_alike hsame)).bind fun _ => ?_
  refine (capturesTo_of_alike (readVin_alike hsame)).bind fun vin => ?_
  refine Preserves.bind (fun s hs => Capturing.renameRawCaptureForVin_capturesTo htime vin s.adapter hs) fun _ => ?_
  refine (capturesTo_of_alike (supportedPids_alike hsame)).attempt.bind fun _ => ?_
  exact (capturesTo_of_alike (noteProfile_alike hsame _)).bind fun _ => Preserves.pure _

theorem opCapturing_capturesTo {α : Type} (c : Call α) :
    Preserves (CapturesTo directory) (Call.opCapturing c : Op (Capturing T (Watched F)) α) := by
  cases c with
  | identifyVehicle matchVin => exact identifyVehicleCapturing_capturesTo htime matchVin
  | _ => exact capturesTo_of_alike (Call.op_alike (Capturing.adapters_capture htime) _)

/-- **A session captures to its directory**, and touches nothing besides it and files in it: whatever the
vehicle and the link call themselves, whatever becomes of the requests and of the files, and whatever a client
does, as long as the captures that it starts by itself are in the directory. -/
theorem capture_confined {α : Type} {client : Client α} {s s' : Session (Capturing T (Watched F))} {a : α}
    (hs : CapturesTo directory s) (hrun : client.Meddled Call.opCapturing (ConfinedStep directory) s a s') :
    ∀ path ∈ s'.adapter.adapter.transport.files.touched, Within directory path :=
  (client.meddled_keeps (I := CapturesTo directory) (opCapturing_capturesTo htime) confinedStep_capturesTo hrun
    hs).confined.touched

end Session

namespace Session

/-- Files that are not kept, on the first of May. -/
structure NullFiles where

instance : FileSystem NullFiles where
  Writer := Unit
  create _ files := (.ok (), files)
  openAppend _ files := (.ok (), files)
  writeAll _ _ files := (.ok (), files)
  flush _ files := (.ok (), files)
  close _ files := files
  createDirAll _ files := (.ok (), files)
  rename _ _ files := (.ok (), files)
  readToString _ _ := .ok []
  now _ := 0
  utcNow _ := "2026-05-01T08:30:00+00:00".toList

/-- A session over a link that is called like a path. -/
def watched (answer : String) : Session (Capturing (PromptTransport Responder) (Watched NullFiles)) :=
  let stream : StreamLink Responder := ⟨.serial, ⟨answer.toList⟩, []⟩
  let link : PromptTransport Responder := ⟨"../COM3".toList, stream, fun _ => 9, id, 0, none, []⟩
  let adapter := Elm327Adapter.new (LoggingTransport.new link ⟨⟨⟩, []⟩)
  let adapter := {adapter with info := {Elm327Adapter.defaultAdapterInfo with protocol := .can11Bit500}}
  {Session.new ⟨adapter, ⟨true, ["raw-captures".toList], none⟩⟩ with initialized := true}

/-- Has a capture going in its directory. -/
def capturing (s : Session (Capturing (PromptTransport Responder) (Watched NullFiles))) :
    Session (Capturing (PromptTransport Responder) (Watched NullFiles)) :=
  {s with adapter := s.adapter.startRawCapture ["raw-captures".toList, "a".toList] ⟨[], [], none⟩}

def identify : Client (Outcome Obd2Error VehicleProfile) := .call (.identifyVehicle fun _ => none) .done

/-- The vehicle says that it is `../../../etc/pass`. -/
def traversing : Session (Capturing (PromptTransport Responder) (Watched NullFiles)) :=
  watched "49 02 01 2E 2E 2F 2E 2E 2F 2E 2E 2F 65 74 63 2F 70 61 73 73\r\r>"

theorem capture_confined_vin :
    let touched := (identify.run Call.opCapturing (capturing traversing)).2.adapter.adapter.transport.files.touched
    ["raw-captures".toList, "etc_pass-COM3-20260501T083000.obd2raw".toList] ∈ touched ∧
      ∀ path ∈ touched, Within ["raw-captures".toList] path := by
  have hfile : FileIn ["raw-captures".toList] ["raw-captures".toList, "a".toList] :=
    ⟨"a".toList, rfl, by decide, by decide, by decide, by decide⟩
  have hs : CapturesTo ["raw-captures".toList] traversing := 
    ⟨rfl, ⟨fun _ h => (Option.not_mem_none _ h).elim, List.forall_mem_nil _⟩⟩
  have hplain := identify.run_meddled Call.opCapturing (ConfinedStep ["raw-captures".toList]) (capturing traversing)
  have hrun := hplain.meddle (.start hfile ⟨[], [], none⟩ traversing)
  have htime : Capturing.DateTimes NullFiles := by
    rintro ⟨⟩
    decide
  exact ⟨by decide +kernel, capture_confined htime hs hrun⟩

end Session

end Obd2
