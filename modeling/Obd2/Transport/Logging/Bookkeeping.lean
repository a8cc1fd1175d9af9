import Obd2.Transport.Logging.MemoryFiles

/-! What the capture keeps of its state when the file system fails.

The writer and the path stand and fall together, and a rename that fails leaves both alone, exactly
as long as nothing fails between the moment the writer is given up and the end of the call: the flush
when capture stops, the rename itself and the opening of the new name (`booked_iff`). A failure
before that moment costs nothing. -/
namespace Obd2
open Async

namespace LoggingTransport
variable {T F : Type} [FileSystem F]

/-- The writer is there exactly if the path is. -/
def Consistent (s : LoggingTransport T F) : Prop := s.writer.isSome = s.capturePath.isSome

instance (s : LoggingTransport T F) : Decidable s.Consistent :=
  inferInstanceAs (Decidable (s.writer.isSome = s.capturePath.isSome))

/-- The capture records to the file it recorded to. -/
def SameCapture (s t : LoggingTransport T F) : Prop := t.writer = s.writer ∧ t.capturePath = s.capturePath

namespace SameCapture
variable {s t u : LoggingTransport T F}

theorem refl (s : LoggingTransport T F) : SameCapture s s := ⟨rfl, rfl⟩

theorem trans (h : SameCapture s t) (h' : SameCapture t u) : SameCapture s u :=
  ⟨h'.1.trans h.1, h'.2.trans h.2⟩

theorem consistent (h : SameCapture s t) (hs : s.Consistent) : t.Consistent := by
  rw [Consistent, h.1, h.2]
  exact hs

end SameCapture

/-! ### Traffic -/

theorem log_same (line : Text) (s : LoggingTransport T F) : SameCapture s (s.log line) := by
  unfold log
  cases hwriter : s.writer with
  | none => exact .refl s
  | some writer => exact ⟨hwriter.symm, rfl⟩

theorem onFiles_same {α : Type} (step : F → Except IoError α × F) :
    Across SameCapture (onFiles step : Capture T F α) := fun _ => ⟨rfl, rfl⟩

theorem run_onFiles {α : Type} (step : F → Except IoError α × F) (s : LoggingTransport T F) :
    (onFiles step : Capture T F α).run s = (.ofExcept (step s.files).1, {s with files := (step s.files).2}) := rfl

theorem run_attempt_onFiles {α : Type} (step : F → Except IoError α × F) (s : LoggingTransport T F) :
    (onFiles step : Capture T F α).attempt.run s = (.ok (step s.files).1, {s with files := (step s.files).2}) := by
  rw [run_attempt, run_onFiles]
  cases (step s.files).1 with
  | ok a => rfl
  | error e => rfl

theorem finishWriter_inactive {s : LoggingTransport T F} (h : s.writer = none) :
    (finishWriter : Capture T F Unit).run s = (.ok (), s) := by
  rw [finishWriter, run_bind, run_get]
  simp only [h]
  rfl

theorem finishWriter_run {s : LoggingTransport T F} {writer : FileSystem.Writer F} (h : s.writer = some writer) :
    (finishWriter : Capture T F Unit).run s =
      (.ofExcept (FileSystem.flush writer s.files).1,
        {s with writer := none, files := FileSystem.close writer (FileSystem.flush writer s.files).2}) := by
  rw [finishWriter, run_bind, run_get]
  simp only [h]
  rw [run_bind, run_set]
  simp only
  rw [run_bind_ok (run_attempt_onFiles ..), run_bind, run_modify]
  exact run_lift ..

theorem finishWriter_consistent_iff {s : LoggingTransport T F} (h : s.Consistent)
    {next : Capture T F (Option Path)} (hnext : ∀ t, (next.run t).2.Consistent ↔ t.writer = none) :
    (((finishWriter : Capture T F Unit) >>= fun _ => next).run s).2.Consistent ↔
      ∀ writer, s.writer = some writer → (FileSystem.flush writer s.files).1 = .ok () := by
  cases hwriter : s.writer with
  | none =>
    rw [run_bind_ok (finishWriter_inactive hwriter), hnext]
    have hrest : ∀ writer, (none : Option (FileSystem.Writer F)) = some writer →
        (FileSystem.flush writer s.files).1 = .ok () := by simp
    exact iff_of_true hwriter hrest
  | some writer =>
    cases hflush : (FileSystem.flush writer s.files).1 with
    | ok _ =>
      have hrun := finishWriter_run (T := T) hwriter
      rw [hflush] at hrun
      rw [run_bind_ok hrun, hnext]
      refine iff_of_true rfl ?_
      rintro _ ⟨⟩
      exact hflush
    | error e =>
      have hrun := finishWriter_run (T := T) hwriter
      rw [hflush] at hrun
      rw [run_bind_error hrun]
      refine iff_of_false (fun hnone => ?_) fun hall => ?_
      · rw [Consistent, hwriter, ← show false = s.capturePath.isSome from hnone] at h
        cases h
      · rw [hall writer rfl] at hflush
        cases hflush

theorem logLine_same (direction : Char) (data : List UInt8) (s : LoggingTransport T F) :
    SameCapture s (s.logLine direction data) := log_same ..

theorem logChunks_same (chunks : List (Nat × List UInt8)) (s : LoggingTransport T F) :
    SameCapture s (chunks.foldl logChunk s) := by
  induction chunks generalizing s with
  | nil => exact .refl s
  | cons chunk rest ih => exact (log_same _ s).trans (ih (s.logChunk chunk))

variable [Chunked T]

theorem flushChunks_same (s : LoggingTransport T F) : SameCapture s s.flushChunks := by
  unfold flushChunks
  split
  · exact .refl s
  · exact logChunks_same _ {s with inner := (Chunked.drainChunks s.inner).2}

variable [Link T]

theorem write_same (data : List UInt8) :
    Across SameCapture (Link.write data : Async Obd2Error (LoggingTransport T F) Unit) :=
  .bind .trans (.modify (logLine_same 'W' data)) fun _ _ => ⟨rfl, rfl⟩

theorem read_same : Across SameCapture (Link.read : Async Obd2Error (LoggingTransport T F) (List UInt8)) :=
  .bind .trans (fun _ => ⟨rfl, rfl⟩) fun result =>
    .bind .trans (.modify flushChunks_same) fun _ =>
      .bind .trans (.modify (logLine_same 'R' result)) fun _ => .pure .refl _

end LoggingTransport

/-! ### Starting, stopping and renaming -/

namespace LoggingTransport
variable {T F : Type} [FileSystem F]

/-- The directory for a path is made. -/
def parentMade (path : Path) (files : F) : Except IoError Unit × F :=
  match path.parent with
  | some parent => FileSystem.createDirAll parent files
  | none => (.ok (), files)

/-- The steps of a rename that come before the writer is given up. -/
def prepared (newPath : Path) (writer : FileSystem.Writer F) (files : F) : Except IoError Unit × F :=
  match parentMade newPath files with
  | (.ok _, files) => FileSystem.flush writer files
  | (.error e, files) => (.error e, files)

/-- The steps that come after. -/
def reopened (currentPath newPath : Path) (writer : FileSystem.Writer F) (files : F) :
    Except IoError (FileSystem.Writer F) × F :=
  match FileSystem.rename currentPath newPath (FileSystem.close writer files) with
  | (.ok _, files) => FileSystem.openAppend newPath files
  | (.error e, files) => (.error e, files)

theorem createParent_run (path : Path) (s : LoggingTransport T F) :
    (createParent path : Capture T F Unit).run s =
      (.ofExcept (parentMade path s.files).1, {s with files := (parentMade path s.files).2}) := by
  unfold createParent parentMade
  cases path.parent with
  | some parent => rfl
  | none => rfl

theorem prepare_run (newPath : Path) {s : LoggingTransport T F} {writer : FileSystem.Writer F}
    (hwriter : s.writer = some writer) :
    ((createParent newPath : Capture T F Unit) >>= fun _ => flushWriter).run s =
      (.ofExcept (prepared newPath writer s.files).1, {s with files := (prepared newPath writer s.files).2}) := by
  rw [run_bind, createParent_run, prepared]
  cases hmade : parentMade newPath s.files with
  | mk made files =>
    cases made with
    | error e => rfl
    | ok _ =>
      show flushWriter.run _ = _
      rw [flushWriter, run_bind, run_get]
      simp only [hwriter]
      rfl

variable [Chunked T]

/-- A start that fails changes nothing; one that succeeds leaves a writer and its path. -/
theorem startCapture_consistent (path : Path) (metadata : CaptureMetadata) :
    Across (fun s t => s.Consistent → t.Consistent) (startCapture path metadata : Capture T F Unit) := by
  have hfiles : ∀ {α : Type} (step : F → Except IoError α × F),
      Across (fun s t => s.Consistent → t.Consistent) (onFiles step : Capture T F α) :=
    fun step s => (onFiles_same step s).consistent
  have htrans : ∀ {s t u : LoggingTransport T F},
      (s.Consistent → t.Consistent) → (t.Consistent → u.Consistent) → s.Consistent → u.Consistent :=
    fun h h' => h' ∘ h
  refine .bind htrans (hfiles _) fun writer => .bind htrans (.get fun _ => id) fun s =>
    .bind htrans (.attempt (hfiles _)) fun written => ?_
  cases written with
  | error e => exact .bind htrans (.modify fun _ h => h) fun _ => .throw (fun _ => id) e
  | ok _ => exact fun s _ => rfl

/-- After a stop the bookkeeping is right exactly if the writer that there was could be flushed. -/
theorem stopCapture_consistent_iff {s : LoggingTransport T F} (h : s.Consistent) :
    ((stopCapture : Capture T F (Option Path)).run s).2.Consistent ↔
      ∀ writer, s.writer = some writer → (FileSystem.flush writer s.files).1 = .ok () := by
  have hstopped : ({s with inner := Chunked.setChunkObserver none s.inner} : LoggingTransport T F).Consistent := h
  refine finishWriter_consistent_iff hstopped fun t => ?_
  show t.writer.isSome = false ↔ t.writer = none
  simp

/-! #### Renaming -/

/-- A rename of an active capture, by its two halves. -/
theorem renameCapture_run {s : LoggingTransport T F} {currentPath newPath : Path} {writer : FileSystem.Writer F}
    (hpath : s.capturePath = some currentPath) (hwriter : s.writer = some writer) (hne : currentPath ≠ newPath) :
    (renameCapture newPath : Capture T F (Option Path)).run s =
      match prepared newPath writer s.files with
      | (.error e, files) => (.error e, {s with files := files})
      | (.ok _, files) =>
        match reopened currentPath newPath writer files with
        | (.error e, files) => (.error e, {s with files := files, writer := none})
        | (.ok writer, files) =>
          (.ok (some newPath),
            installChunkObserver {s with files := files, writer := some writer, capturePath := some newPath}) := by
  obtain ⟨inner, files, _, _, start⟩ := s
  cases hpath
  cases hwriter
  rw [renameCapture, run_bind, run_get]
  simp only [if_neg hne]
  rw [← Async.bind_assoc, run_bind, prepare_run newPath rfl]
  cases hprepared : prepared newPath writer files with
  | mk outcome files' =>
    cases outcome with
    | error e => rfl
    | ok _ =>
      have hdropped : dropWriter (⟨inner, files', some writer, some currentPath, start⟩ : LoggingTransport T F) =
          ⟨inner, FileSystem.close writer files', none, some currentPath, start⟩ := rfl
      simp only [reopened, Outcome.ofExcept]
      rw [run_bind, run_modify, hdropped]
      simp only
      rw [run_bind, run_onFiles]
      cases FileSystem.rename currentPath newPath (FileSystem.close writer files') with
      | mk renamed files =>
        cases renamed with
        | error e => rfl
        | ok _ =>
          simp only [Outcome.ofExcept]
          rw [run_bind, run_onFiles]
          cases FileSystem.openAppend newPath files with
          | mk opened files =>
            cases opened with
            | error e => rfl
            | ok writer => rfl

theorem renameCapture_inactive {s : LoggingTransport T F} (h : s.capturePath = none) (newPath : Path) :
    (renameCapture newPath : Capture T F (Option Path)).run s = (.ok none, s) := by
  rw [renameCapture, run_bind, run_get]
  simp only [h]
  rfl

theorem renameCapture_same {s : LoggingTransport T F} {newPath : Path} (h : s.capturePath = some newPath) :
    (renameCapture newPath : Capture T F (Option Path)).run s = (.ok (some newPath), s) := by
  rw [renameCapture, run_bind, run_get]
  simp only [h, if_true]
  rfl

/-! ### Calls -/

end LoggingTransport

inductive CaptureCall where
  | start (path : Path) (metadata : CaptureMetadata)
  | stop
  | rename (newPath : Path)
  | write (data : List UInt8)
  | read

namespace LoggingTransport
variable {T F : Type} [FileSystem F] [Chunked T] [Link T]

/-- The state a call leaves, however it ends. -/
def after (s : LoggingTransport T F) : CaptureCall → LoggingTransport T F
  | .start path metadata => ((startCapture path metadata).run s).2
  | .stop => (stopCapture.run s).2
  | .rename newPath => ((renameCapture newPath).run s).2
  | .write data => ((Link.write data : Async Obd2Error (LoggingTransport T F) Unit).run s).2
  | .read => ((Link.read : Async Obd2Error (LoggingTransport T F) (List UInt8)).run s).2

/-- What is asked of a call: writer and path stand and fall together after it, and a rename that
returns an error goes on with the capture as it was. -/
structure Booked (s : LoggingTransport T F) (call : CaptureCall) : Prop where
  consistent : (s.after call).Consistent
  renamed : ∀ newPath e, call = .rename newPath → ((renameCapture newPath).run s).1 = .error e →
    SameCapture s (s.after call)

/-- Nothing fails once the writer is given up: a stop can flush it, and a rename that gets as far as
giving it up can rename the file and open it again. -/
def SafeCall (s : LoggingTransport T F) : CaptureCall → Prop
  | .stop => ∀ writer, s.writer = some writer → (FileSystem.flush writer s.files).1 = .ok ()
  | .rename newPath => ∀ currentPath writer files, s.capturePath = some currentPath → s.writer = some writer →
      currentPath ≠ newPath → prepared newPath writer s.files = (.ok (), files) →
      ∃ writer', (reopened currentPath newPath writer files).1 = .ok writer'
  | .start .. | .write _ | .read => True

theorem rename_booked {s t : LoggingTransport T F} {newPath : Path} {outcome : Outcome IoError (Option Path)}
    (hrun : (renameCapture newPath).run s = (outcome, t)) :
    s.Booked (.rename newPath) ↔ t.Consistent ∧ ∀ e, outcome = .error e → SameCapture s t := by
  have hafter : s.after (.rename newPath) = t := congrArg Prod.snd hrun
  constructor
  · intro h
    refine ⟨hafter ▸ h.consistent, fun e he => hafter ▸ h.renamed newPath e rfl ?_⟩
    rw [hrun, he]
  · rintro ⟨hconsistent, hsame⟩
    refine ⟨hafter ▸ hconsistent, ?_⟩
    rintro _ e ⟨⟩ he
    rw [hrun] at he
    rw [hafter]
    exact hsame e he

/-- The bookkeeping of a rename is right exactly if its second half does not fail. -/
theorem rename_booked_iff {s : LoggingTransport T F} (h : s.Consistent) (newPath : Path) :
    s.Booked (.rename newPath) ↔ s.SafeCall (.rename newPath) := by
  cases hpath : s.capturePath with
  | none =>
    rw [rename_booked (renameCapture_inactive hpath newPath), SafeCall, hpath]
    simp [h]
  | some currentPath =>
    by_cases heq : currentPath = newPath
    · subst heq
      rw [rename_booked (renameCapture_same hpath), SafeCall, hpath]
      refine iff_of_true ⟨h, by simp⟩ ?_
      rintro _ _ _ ⟨⟩ _ hne
      exact absurd rfl hne
    · obtain ⟨writer, hwriter⟩ : ∃ writer, s.writer = some writer := by
        rw [← Option.isSome_iff_exists, h, hpath, Option.isSome_some]
      have hsafe : s.SafeCall (.rename newPath) ↔ ∀ files, prepared newPath writer s.files = (.ok (), files) →
          ∃ writer', (reopened currentPath newPath writer files).1 = .ok writer' := by
        rw [SafeCall, hpath, hwriter]
        constructor
        · exact fun hall files => hall _ _ files rfl rfl heq
        · rintro hall _ _ files ⟨⟩ ⟨⟩ _
          exact hall files
      have hrun := renameCapture_run (T := T) hpath hwriter heq
      rw [hsafe]
      cases hprepared : prepared newPath writer s.files with
      | mk outcome files =>
        rw [hprepared] at hrun
        cases outcome with
        | error e =>
          -- The rename gave up before the writer was.
          rw [rename_booked hrun]
          exact iff_of_true ⟨h, fun _ _ => ⟨rfl, rfl⟩⟩ (by simp)
        | ok _ =>
          simp only at hrun
          cases hreopened : reopened currentPath newPath writer files with
          | mk outcome files' =>
            rw [hreopened] at hrun
            cases outcome with
            | error e =>
              rw [rename_booked hrun]
              refine iff_of_false (fun hbooked => ?_) fun hall => ?_
              · have hconsistent : false = s.capturePath.isSome := hbooked.1
                rw [hpath] at hconsistent
                cases hconsistent
              · obtain ⟨writer', hok⟩ := hall files rfl
                rw [hreopened] at hok
                cases hok
            | ok writer' =>
              rw [rename_booked hrun]
              refine iff_of_true ⟨rfl, by simp⟩ ?_
              rintro _ ⟨⟩
              exact ⟨writer', by rw [hreopened]⟩

/-- Where a call is not a rename, its consistency is all that is asked. -/
theorem booked_of_consistent {s : LoggingTransport T F} {call : CaptureCall} (h : (s.after call).Consistent)
    (hcall : ∀ newPath, call ≠ .rename newPath) : s.Booked call :=
  ⟨h, fun newPath _ heq => absurd heq (hcall newPath)⟩

theorem booked_iff_safe {s : LoggingTransport T F} (h : s.Consistent) (call : CaptureCall) :
    s.Booked call ↔ s.SafeCall call := by
  cases call with
  | start path metadata =>
    exact iff_of_true (booked_of_consistent (startCapture_consistent path metadata s h) (by simp)) trivial
  | stop =>
    rw [SafeCall, ← stopCapture_consistent_iff h]
    exact ⟨Booked.consistent, fun hafter => booked_of_consistent hafter (by simp)⟩
  | rename newPath => exact rename_booked_iff h newPath
  | write data => exact iff_of_true (booked_of_consistent ((write_same data s).consistent h) (by simp)) trivial
  | read => exact iff_of_true (booked_of_consistent ((read_same s).consistent h) (by simp)) trivial

/-- Every call of a sequence is booked. -/
def AllBooked : LoggingTransport T F → List CaptureCall → Prop
  | _, [] => True
  | s, call :: rest => s.Booked call ∧ AllBooked (s.after call) rest

def AllSafe : LoggingTransport T F → List CaptureCall → Prop
  | _, [] => True
  | s, call :: rest => s.SafeCall call ∧ AllSafe (s.after call) rest

theorem allBooked_iff {s : LoggingTransport T F} (h : s.Consistent) (calls : List CaptureCall) :
    AllBooked s calls ↔ AllSafe s calls := by
  induction calls generalizing s with
  | nil => exact Iff.rfl
  | cons call rest ih =>
    rw [AllBooked, AllSafe, ← booked_iff_safe h call]
    constructor
    · rintro ⟨hcall, hrest⟩
      exact ⟨hcall, (ih hcall.consistent).mp hrest⟩
    · rintro ⟨hcall, hrest⟩
      exact ⟨hcall, (ih hcall.consistent).mpr hrest⟩

/-- **Over any sequence of calls, and any failures, writer and path stand and fall together and a
rename that fails goes on with the old file exactly if nothing fails once the writer is given up.** -/
theorem booked_iff (inner : T) (files : F) (calls : List CaptureCall) :
    AllBooked (new inner files) calls ↔ AllSafe (new inner files) calls :=
  allBooked_iff (s := new inner files) rfl calls

end LoggingTransport

/-! ### To another device -/

section Examples

/-- A link that gives one reply to everything and shows no chunks. -/
structure Replying where
  reply : Text

instance : Link Replying where
  write _ := pure ()
  read link := (.ok (Text.bytes link.reply), link)

instance : Chunked Replying where
  setChunkObserver _ link := link
  drainChunks link := ([], link)

def initialPath : Path := ["/".toList, "tmp".toList, "initial.obd2raw".toList]
def renamedPath : Path := ["/".toList, "home".toList, "VIN123.obd2raw".toList]

/-- The two paths are on two devices. -/
def twoDevices : MemoryFiles := {MemoryFiles.empty with device := fun path => if path = renamedPath then 1 else 0}

/-- A capture that is active. -/
def capturing : LoggingTransport Replying MemoryFiles :=
  (LoggingTransport.new ⟨"OK\r>".toList⟩ twoDevices).after (.start initialPath ⟨"mock".toList, "test".toList, none⟩)

/-- The capture is asked to go on under a name on another device: the rename fails, and the writer is
gone while the path is not. What is written next is not recorded. -/
theorem capture_lost :
    ((LoggingTransport.renameCapture renamedPath).run capturing).1 = .error "Invalid cross-device link" ∧
      (capturing.writer.isSome ∧ (capturing.after (.rename renamedPath)).writer = none ∧
        (capturing.after (.rename renamedPath)).capturePath = some initialPath) ∧
      ¬ LoggingTransport.AllBooked
        (LoggingTransport.new ⟨"OK\r>".toList⟩ twoDevices : LoggingTransport Replying MemoryFiles)
        [.start initialPath ⟨"mock".toList, "test".toList, none⟩, .rename renamedPath] := by
  refine ⟨by decide +kernel, ⟨rfl, rfl, rfl⟩, ?_⟩
  rintro ⟨-, hrename, -⟩
  have hlost : ¬ (capturing.after (.rename renamedPath)).Consistent := by decide +kernel
  exact hlost hrename.consistent

end Examples

end Obd2
