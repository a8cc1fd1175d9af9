import Obd2.Transport.Logging.Bookkeeping
import Obd2.Transport.Logging.Lines

/-! A capture, read back.

On a file system that keeps what it is given, the file of a capture holds the records of what went
over the link, in order, with the records that the further lines of notes (and of the header) are
taken for among them (`observes_recorded`). The pairs read back are those of the link exactly if
these forged records leave each command its response (`replayed_iff`). Notes of one line are always
harmless. -/
namespace Obd2
open Async

/-! ### Records and pairs -/

def CaptureRecord.isCommand : CaptureRecord → Bool
  | command _ => true
  | response _ => false

def CaptureRecord.isResponse : CaptureRecord → Bool
  | command _ => false
  | response _ => true

/-- No response comes after a command. -/
def Pairless (records : List CaptureRecord) : Prop :=
  records.Pairwise fun first second => ¬ (first.isCommand = true ∧ second.isResponse = true)

/-- The command that waits after some records, where `cmd` did before. -/
def lastCommand (cmd : Text) : List CaptureRecord → Text
  | [] => cmd
  | .command cmd' :: rest => lastCommand cmd' rest
  | .response _ :: rest => lastCommand cmd rest

/-- A response that follows some records, while `waiting` waits, makes with them the one pair of `cmd`
and the response: there is no response among them and `cmd` is the command that waits in the end; or
the first response among them is the response already, given to `cmd`, and no command comes after it. -/
def KeepsPair (waiting cmd response : Text) (between : List CaptureRecord) : Prop :=
  ((∀ r ∈ between, r.isResponse = false) ∧ lastCommand waiting between = cmd) ∨
    ∃ early late, between = early ++ .response response :: late ∧ (∀ r ∈ early, r.isResponse = false) ∧
      lastCommand waiting early = cmd ∧ ∀ r ∈ late, r.isCommand = false

theorem KeepsPair.nil_iff {waiting cmd response : Text} : KeepsPair waiting cmd response [] ↔ waiting = cmd := by
  constructor
  · rintro (⟨-, h⟩ | ⟨early, late, h, -⟩)
    · exact h
    · simp at h
  · exact fun h => .inl ⟨by simp, h⟩

theorem KeepsPair.command_iff {waiting cmd cmd' response : Text} {rest : List CaptureRecord} :
    KeepsPair waiting cmd response (.command cmd' :: rest) ↔ KeepsPair cmd' cmd response rest := by
  constructor
  · rintro (⟨hnone, h⟩ | ⟨early, late, hsplit, hearly, h, hlate⟩)
    · exact .inl ⟨fun r hr => hnone r (List.mem_cons_of_mem _ hr), h⟩
    · cases early with
      | nil => cases hsplit
      | cons first early =>
        obtain ⟨rfl, rfl⟩ := List.cons.inj hsplit
        exact .inr ⟨early, late, rfl, fun r hr => hearly r (List.mem_cons_of_mem _ hr), h, hlate⟩
  · rintro (⟨hnone, h⟩ | ⟨early, late, rfl, hearly, h, hlate⟩)
    · exact .inl ⟨by simpa [CaptureRecord.isResponse] using hnone, h⟩
    · exact .inr ⟨.command cmd' :: early, late, rfl, by simpa [CaptureRecord.isResponse] using hearly, h, hlate⟩

theorem KeepsPair.response_iff {waiting cmd text response : Text} {rest : List CaptureRecord} :
    KeepsPair waiting cmd response (.response text :: rest) ↔
      waiting = cmd ∧ text = response ∧ ∀ r ∈ rest, r.isCommand = false := by
  constructor
  · rintro (⟨hnone, -⟩ | ⟨early, late, hsplit, hearly, h, hlate⟩)
    · cases hnone _ List.mem_cons_self
    · cases early with
      | nil =>
        obtain ⟨heq, rfl⟩ := List.cons.inj hsplit
        exact ⟨h, CaptureRecord.response.inj heq, hlate⟩
      | cons first early =>
        obtain ⟨rfl, -⟩ := List.cons.inj hsplit
        cases hearly _ List.mem_cons_self
  · rintro ⟨h, rfl, hlate⟩
    exact .inr ⟨[], rest, rfl, by simp, h, hlate⟩

theorem answered_some_nil_iff (cmd : Text) (records : List CaptureRecord) :
    answered (some cmd) records = [] ↔ ∀ r ∈ records, r.isResponse = false := by
  induction records generalizing cmd with
  | nil => simp [answered]
  | cons record rest ih =>
    cases record with
    | command cmd' => simp [answered, ih, CaptureRecord.isResponse]
    | response text => simp [answered, CaptureRecord.isResponse]

theorem answered_none_nil_iff (records : List CaptureRecord) : answered none records = [] ↔ Pairless records := by
  unfold Pairless
  induction records with
  | nil => simp [answered]
  | cons record rest ih =>
    rw [List.pairwise_cons]
    cases record with
    | command cmd =>
      rw [answered, answered_some_nil_iff]
      constructor
      · intro h
        refine ⟨fun r hr hboth => ?_, ?_⟩
        · rw [h r hr] at hboth
          cases hboth.2
        · exact List.pairwise_of_forall_mem_list fun _ _ r hr hboth => by
            rw [h r hr] at hboth
            cases hboth.2
      · rintro ⟨h, -⟩ r hr
        have := h r hr
        simpa [CaptureRecord.isCommand] using this
    | response text =>
      rw [answered, ih]
      simp [CaptureRecord.isCommand]

theorem answered_before_response_iff (records : List CaptureRecord) (text : Text) :
    answered none (records ++ [.response text]) = [] ↔ ∀ r ∈ records, r.isCommand = false := by
  induction records with
  | nil => simp [answered]
  | cons record rest ih =>
    cases record with
    | command cmd =>
      have hsome : ¬ answered (some cmd) (rest ++ [.response text]) = [] := by
        rw [answered_some_nil_iff]
        intro h
        cases h _ (List.mem_append_right rest List.mem_cons_self)
      simp [answered, hsome, CaptureRecord.isCommand]
    | response text' => simp [answered, ih, CaptureRecord.isCommand]

/-- The pairs that a command and its response make with the records between them. -/
theorem answered_eq_iff (waiting cmd response : Text) (between : List CaptureRecord) :
    answered (some waiting) (between ++ [.response response]) = [(cmd, response)] ↔
      KeepsPair waiting cmd response between := by
  induction between generalizing waiting with
  | nil => simp [answered, KeepsPair.nil_iff]
  | cons record rest ih =>
    cases record with
    | command cmd' => exact (ih cmd').trans KeepsPair.command_iff.symm
    | response text =>
      rw [KeepsPair.response_iff, ← answered_before_response_iff rest response]
      simp [answered, and_assoc]

theorem answered_response_ne_nil (waiting response : Text) (between : List CaptureRecord) :
    answered (some waiting) (between ++ [.response response]) ≠ [] := by
  intro h
  cases (answered_some_nil_iff _ _).mp h _ (List.mem_append_right between List.mem_cons_self)

/-- After a response no command waits. -/
theorem answered_after_response (waiting : Option Text) (between rest : List CaptureRecord) (response : Text) :
    answered waiting (between ++ .response response :: rest) =
      answered waiting (between ++ [.response response]) ++ answered none rest := by
  induction between generalizing waiting with
  | nil => cases waiting <;> rfl
  | cons record between ih =>
    cases record with
    | command cmd => exact ih (some cmd)
    | response text =>
      cases waiting with
      | none => exact ih none
      | some cmd => exact congrArg (_ :: ·) (ih none)

/-- What comes before a command is paired on its own. -/
theorem answered_before_command (waiting : Option Text) (gap rest : List CaptureRecord) (cmd : Text) :
    answered waiting (gap ++ .command cmd :: rest) = answered waiting gap ++ answered (some cmd) rest := by
  induction gap generalizing waiting with
  | nil => cases waiting <;> rfl
  | cons record gap ih =>
    cases record with
    | command cmd => exact ih (some cmd)
    | response text =>
      cases waiting with
      | none => exact ih none
      | some cmd => exact congrArg (_ :: ·) (ih none)

/-! ### What goes over the link -/

/-- What happens on a capturing link. -/
inductive CaptureEvent where
  | note (text : Text)
  | write (data : List UInt8)
  /-- A read that returned these bytes. -/
  | read (data : List UInt8)

def CaptureEvent.Ascii : CaptureEvent → Prop
  | note _ => True
  | write data => ∀ b ∈ data, b < 0x80
  | read data => ∀ b ∈ data, b < 0x80

/-- What an event adds to the records. -/
def CaptureEvent.records : CaptureEvent → List CaptureRecord
  | note text => forgedBy text
  | write data => [.command (Text.ofAscii (stripTrailingCr data))]
  | read data => [.response (Text.ofAscii data)]

/-- A command, its response, and the notes after each of them. -/
structure CapturedExchange where
  command : List UInt8
  during : List Text
  response : List UInt8
  after : List Text

namespace CapturedExchange

def events (x : CapturedExchange) : List CaptureEvent :=
  .write x.command :: x.during.map .note ++ .read x.response :: x.after.map .note

def Ascii (x : CapturedExchange) : Prop := (∀ b ∈ x.command, b < 0x80) ∧ ∀ b ∈ x.response, b < 0x80

theorem events_ascii (x : CapturedExchange) (h : x.Ascii) : ∀ e ∈ x.events, e.Ascii := by
  have hnote : ∀ notes : List Text, ∀ e ∈ notes.map CaptureEvent.note, e.Ascii := by
    intro notes e he
    obtain ⟨text, -, rfl⟩ := List.mem_map.mp he
    trivial
  intro e he
  rcases List.mem_append.mp he with he | he
  · rcases List.mem_cons.mp he with rfl | he
    · exact h.1
    · exact hnote _ e he
  · rcases List.mem_cons.mp he with rfl | he
    · exact h.2
    · exact hnote _ e he

/-- The pair that is to be read back. -/
def pair (x : CapturedExchange) : Text × Text := (Text.ofAscii (stripTrailingCr x.command), Text.ofAscii x.response)

end CapturedExchange

/-- Notes, and then exchanges. -/
def captureEvents (before : List Text) (exchanges : List CapturedExchange) : List CaptureEvent :=
  before.map .note ++ exchanges.flatMap CapturedExchange.events

/-- The records that notes are taken for. -/
def forgedIn (notes : List Text) : List CaptureRecord := notes.flatMap forgedBy

/-- The forged records leave every command its response: none of them make a pair before the first
command or after a response, and those between a command and its response keep the two a pair. -/
structure Harmless (header : List CaptureRecord) (before : List Text) (exchanges : List CapturedExchange) : Prop where
  first : Pairless (header ++ forgedIn before)
  during : ∀ x ∈ exchanges, KeepsPair x.pair.1 x.pair.1 x.pair.2 (forgedIn x.during)
  after : ∀ x ∈ exchanges, Pairless (forgedIn x.after)

theorem records_notes (notes : List Text) : (notes.map CaptureEvent.note).flatMap CaptureEvent.records = forgedIn notes := by
  rw [forgedIn, List.flatMap_map]
  rfl

theorem CapturedExchange.records_events (x : CapturedExchange) :
    x.events.flatMap CaptureEvent.records =
      .command x.pair.1 :: (forgedIn x.during ++ .response x.pair.2 :: forgedIn x.after) := by
  rw [events, List.cons_append, List.flatMap_cons, List.flatMap_append, List.flatMap_cons, records_notes, records_notes]
  rfl

/-- The pairs of an exchange. -/
def CapturedExchange.pairs (x : CapturedExchange) : List (Text × Text) :=
  answered (some x.pair.1) (forgedIn x.during ++ [.response x.pair.2]) ++ answered none (forgedIn x.after)

theorem answered_exchanges (waiting : Option Text) (gap : List CaptureRecord) (exchanges : List CapturedExchange) :
    answered waiting (gap ++ exchanges.flatMap fun x => x.events.flatMap CaptureEvent.records) =
      answered waiting gap ++ exchanges.flatMap CapturedExchange.pairs := by
  induction exchanges generalizing waiting gap with
  | nil => simp
  | cons x rest ih =>
    rw [List.flatMap_cons, x.records_events, List.cons_append, answered_before_command, List.append_assoc,
      List.cons_append, answered_after_response, ih, List.flatMap_cons, CapturedExchange.pairs]
    simp [List.append_assoc]

theorem length_le_flatMap {α β : Type} {f : α → List β} {xs : List α} (hf : ∀ x ∈ xs, f x ≠ []) :
    xs.length ≤ (xs.flatMap f).length := by
  induction xs with
  | nil => exact Nat.le_refl 0
  | cons x xs ih =>
    have hx : 0 < (f x).length := List.length_pos_iff.mpr (hf x List.mem_cons_self)
    have hrest := ih fun y hy => hf y (List.mem_cons_of_mem x hy)
    rw [List.flatMap_cons, List.length_append, List.length_cons]
    omega

/-- Where everyone makes something, everyone makes one thing if there is one for each. -/
theorem flatMap_eq_map_iff {α β : Type} {f : α → List β} {g : α → β} {xs : List α} (hf : ∀ x ∈ xs, f x ≠ [])
    (first : List β) : first ++ xs.flatMap f = xs.map g ↔ first = [] ∧ ∀ x ∈ xs, f x = [g x] := by
  induction xs generalizing first with
  | nil => simp
  | cons x xs ih =>
    have hrest : ∀ y ∈ xs, f y ≠ [] := fun y hy => hf y (List.mem_cons_of_mem x hy)
    rw [List.flatMap_cons, List.map_cons, List.forall_mem_cons, ← List.nil_append (xs.flatMap f)]
    constructor
    · intro h
      have hlength := congrArg List.length h
      have hx : 0 < (f x).length := List.length_pos_iff.mpr (hf x List.mem_cons_self)
      have hle := length_le_flatMap hrest
      simp only [List.length_append, List.length_cons, List.length_map, List.length_nil] at hlength
      have hfirst : first = [] := List.length_eq_zero_iff.mp (by omega)
      obtain ⟨y, hy⟩ := List.length_eq_one_iff.mp (show (f x).length = 1 by omega)
      rw [hfirst, hy] at h
      obtain ⟨hhead, htail⟩ := List.cons.inj h
      exact ⟨hfirst, by rw [hy, hhead], ((ih hrest []).mp htail).2⟩
    · rintro ⟨rfl, hx, hall⟩
      rw [hx, (ih hrest []).mpr ⟨rfl, hall⟩]
      rfl

/-- The records of exchanges make their pairs exactly if the forged ones are harmless. -/
theorem answered_exchanges_iff (header : List CaptureRecord) (before : List Text) (exchanges : List CapturedExchange) :
    answered none (header ++ (captureEvents before exchanges).flatMap CaptureEvent.records) =
        exchanges.map CapturedExchange.pair ↔ Harmless header before exchanges := by
  have hpairs : ∀ x : CapturedExchange, x.pairs ≠ [] ∧
      (x.pairs = [x.pair] ↔ KeepsPair x.pair.1 x.pair.1 x.pair.2 (forgedIn x.during) ∧ Pairless (forgedIn x.after)) := by
    intro x
    have hne := answered_response_ne_nil x.pair.1 x.pair.2 (forgedIn x.during)
    rw [CapturedExchange.pairs, ← answered_eq_iff, ← answered_none_nil_iff]
    refine ⟨fun h => hne (List.append_eq_nil_iff.mp h).1, ?_⟩
    rw [List.append_eq_singleton_iff]
    simp [hne]
  rw [captureEvents, List.flatMap_append, List.flatMap_assoc, records_notes, ← List.append_assoc, answered_exchanges,
    flatMap_eq_map_iff fun x _ => (hpairs x).1, answered_none_nil_iff]
  simp only [(hpairs _).2]
  constructor
  · rintro ⟨hfirst, hall⟩
    exact ⟨hfirst, fun x hx => (hall x hx).1, fun x hx => (hall x hx).2⟩
  · intro h
    exact ⟨h.first, fun x hx => ⟨h.during x hx, h.after x hx⟩⟩

/-- Notes of one line are harmless. -/
theorem harmless_oneLine {before : List Text} {exchanges : List CapturedExchange}
    (hbefore : ∀ note ∈ before, '\n' ∉ note)
    (hexchanges : ∀ x ∈ exchanges, ∀ note ∈ x.during ++ x.after, '\n' ∉ note) : Harmless [] before exchanges := by
  have hforged : ∀ notes : List Text, (∀ note ∈ notes, '\n' ∉ note) → forgedIn notes = [] := by
    intro notes h
    rw [forgedIn, List.flatMap_eq_nil_iff]
    exact fun note hnote => forgedBy_oneLine (h note hnote)
  refine ⟨?_, fun x hx => ?_, fun x hx => ?_⟩
  · rw [hforged before hbefore]
    exact .nil
  · rw [hforged x.during fun note hnote => hexchanges x hx note (List.mem_append_left _ hnote)]
    exact KeepsPair.nil_iff.mpr rfl
  · rw [hforged x.after fun note hnote => hexchanges x hx note (List.mem_append_right _ hnote)]
    exact .nil

/-! ### What is in the file -/

namespace LoggingTransport
variable {T : Type}

/-- The capture goes on in file `n`, which has been given whole lines with these records. -/
structure Recorded (n : Nat) (s t : LoggingTransport T MemoryFiles) (records : List CaptureRecord) : Prop where
  writer : t.writer = some n
  names : t.files.names = s.files.names
  text : ∃ text, WholeLines text ∧ t.files.contents n = s.files.contents n ++ text ∧ recordsOf text = records

namespace Recorded
variable {n : Nat} {s t u : LoggingTransport T MemoryFiles} {records records' : List CaptureRecord}

/-- What leaves the files alone records nothing. -/
theorem of_files (hwriter : t.writer = some n) (hfiles : t.files = s.files) : Recorded n s t [] :=
  ⟨hwriter, by rw [hfiles], [], .inl rfl, by rw [hfiles, List.append_nil], rfl⟩

theorem trans (h : Recorded n s t records) (h' : Recorded n t u records') : Recorded n s u (records ++ records') := by
  obtain ⟨text, hwhole, htext, hrecords⟩ := h.text
  obtain ⟨text', hwhole', htext', hrecords'⟩ := h'.text
  refine ⟨h'.writer, h'.names.trans h.names, text ++ text', hwhole.append hwhole', ?_, ?_⟩
  · rw [htext', htext, List.append_assoc]
  · rw [records_append hwhole, hrecords, hrecords']

theorem log {line : Text} (hwhole : WholeLines line) (h : s.writer = some n) :
    Recorded n s (s.log line) (recordsOf line) := by
  have hlog : s.log line = {s with files := (FileSystem.writeAll (F := MemoryFiles) n line s.files).2} := by
    rw [LoggingTransport.log, h]
  rw [hlog]
  refine ⟨h, rfl, line, hwhole, ?_, rfl⟩
  exact if_pos rfl

theorem note (text : Text) (h : s.writer = some n) :
    Recorded n s (s.annotateRawCapture text) (CaptureEvent.note text).records := by
  have hlog := Recorded.log (captureLine_whole s.elapsed ['N'] text) h
  rw [records_note] at hlog
  exact hlog

theorem chunks (chunks : List (Nat × List UInt8)) (h : s.writer = some n) :
    Recorded n s (chunks.foldl logChunk s) [] := by
  induction chunks generalizing s with
  | nil => exact .of_files h rfl
  | cons chunk rest ih =>
    have hchunk := Recorded.log (captureLine_whole chunk.1 "R.chunk".toList (escapeBytes chunk.2)) h
    rw [records_chunk] at hchunk
    exact hchunk.trans (ih hchunk.writer)

theorem flushChunks [Chunked T] (h : s.writer = some n) : Recorded n s s.flushChunks [] := by
  have hflush : s.flushChunks =
      (Chunked.drainChunks s.inner).1.foldl logChunk {s with inner := (Chunked.drainChunks s.inner).2} := by
    rw [LoggingTransport.flushChunks, h]
  have hdrained : Recorded n s {s with inner := (Chunked.drainChunks s.inner).2} [] := .of_files h rfl
  rw [hflush]
  exact hdrained.trans (Recorded.chunks _ h)

end Recorded

/-! #### Its beginning and end -/

theorem dropWriter_files (s : LoggingTransport T MemoryFiles) : s.dropWriter.files = s.files := by
  unfold dropWriter
  cases s.writer with
  | none => rfl
  | some writer => rfl

variable [Chunked T]

/-- A new capture is a file with a header in it. -/
theorem startCapture_file (path : Path) (metadata : CaptureMetadata) (s : LoggingTransport T MemoryFiles) :
    ∃ n s₁, (startCapture path metadata).run s = (.ok (), s₁) ∧ s₁.writer = some n ∧
      s₁.files.names path = some n ∧ s₁.files.contents n = formatHeader metadata s.files.started := by
  obtain ⟨n, files, hcreate, hname, hempty, hstarted⟩ : ∃ n files, FileSystem.create path s.files = (.ok n, files) ∧
      files.names path = some n ∧ files.contents n = [] ∧ files.started = s.files.started := by
    show ∃ n files, MemoryFiles.create path s.files = (.ok n, files) ∧ _
    unfold MemoryFiles.create
    cases hname : s.files.names path with
    | some n => exact ⟨n, _, rfl, hname, if_pos rfl, rfl⟩
    | none => exact ⟨s.files.next, _, rfl, if_pos rfl, if_pos rfl, rfl⟩
  have hfile : (onFiles (FileSystem.create path) : Capture T MemoryFiles Nat).run s = (.ok n, {s with files := files}) := by
    rw [run_onFiles, hcreate]
    rfl
  -- The header goes into the new file, whatever capture there was before.
  let written : LoggingTransport T MemoryFiles :=
    {s with files := (MemoryFiles.writeAll n (formatHeader metadata files.started) files).2}
  have hwritten : written.dropWriter.files = (MemoryFiles.writeAll n (formatHeader metadata files.started) files).2 :=
    dropWriter_files written
  refine ⟨n, installChunkObserver
    {written.dropWriter with
      writer := some n, capturePath := some path, startInstant := FileSystem.now written.dropWriter.files},
    run_bind_ok hfile _, rfl, ?_, ?_⟩
  · show written.dropWriter.files.names path = some n
    rw [hwritten]
    exact hname
  · show written.dropWriter.files.contents n = _
    rw [hwritten, ← hstarted]
    refine (if_pos rfl).trans ?_
    rw [hempty, List.nil_append]

/-- Stopping leaves the files as they are. -/
theorem stopCapture_files {s : LoggingTransport T MemoryFiles} {n : Nat} (h : s.writer = some n) :
    ((stopCapture : Capture T MemoryFiles (Option Path)).run s).2.files = s.files := by
  have hfinish := finishWriter_run (s := {s with inner := Chunked.setChunkObserver none s.inner}) h
  show ((finishWriter >>= fun _ => _).run {s with inner := Chunked.setChunkObserver none s.inner}).2.files = _
  rw [run_bind, hfinish]
  rfl

/-! #### Its lines -/

variable [Link T]

theorem write_recorded {s t : LoggingTransport T MemoryFiles} {n : Nat} {data : List UInt8} {outcome : Outcome Obd2Error Unit}
    (hwriter : s.writer = some n) (hascii : (CaptureEvent.write data).Ascii)
    (hrun : (Link.write data : Async Obd2Error (LoggingTransport T MemoryFiles) Unit).run s = (outcome, t)) :
    Recorded n s t (CaptureEvent.write data).records := by
  have hlog := Recorded.log (captureLine_whole s.elapsed ['W'] (escapeBytes data)) hwriter
  rw [records_command _ hascii] at hlog
  have hlogged : Recorded n s (s.logLine 'W' data) (CaptureEvent.write data).records := hlog
  have ht : t = {s.logLine 'W' data with
      inner := ((Link.write data : Async Obd2Error T Unit).run (s.logLine 'W' data).inner).2} :=
    (congrArg Prod.snd hrun).symm
  have hinner : Recorded n (s.logLine 'W' data) t [] := by
    rw [ht]
    exact .of_files hlogged.writer rfl
  have hboth := hlogged.trans hinner
  rwa [List.append_nil] at hboth

theorem read_recorded {s t : LoggingTransport T MemoryFiles} {n : Nat} {data : List UInt8}
    (hwriter : s.writer = some n) (hascii : (CaptureEvent.read data).Ascii)
    (hrun : (Link.read : Async Obd2Error (LoggingTransport T MemoryFiles) (List UInt8)).run s = (.ok data, t)) :
    Recorded n s t (CaptureEvent.read data).records := by
  obtain ⟨result, s₁, hinner, hrest⟩ := of_run_bind_ok hrun
  have hs₁ : s₁ = {s with inner := ((Link.read : Async Obd2Error T (List UInt8)).run s.inner).2} :=
    (congrArg Prod.snd hinner).symm
  have hread : Recorded n s s₁ [] := by
    rw [hs₁]
    exact .of_files hwriter rfl
  have hflushed := hread.trans (.flushChunks hread.writer)
  cases hrest
  have hlog := Recorded.log (captureLine_whole s₁.flushChunks.elapsed ['R'] (escapeBytes data)) hflushed.writer
  rw [records_response _ hascii] at hlog
  exact hflushed.trans hlog

/-- The events happen, one after the other. -/
inductive Observes : LoggingTransport T MemoryFiles → List CaptureEvent → LoggingTransport T MemoryFiles → Prop where
  | done (s) : Observes s [] s
  | note {s t text events} : Observes (s.annotateRawCapture text) events t → Observes s (.note text :: events) t
  | write {s s' t data outcome events} : (Link.write data).run s = (outcome, s') → Observes s' events t →
      Observes s (.write data :: events) t
  | read {s s' t data events} : Link.read.run s = (.ok data, s') → Observes s' events t →
      Observes s (.read data :: events) t

/-- The file of a capture holds the records of what happened, in order. -/
theorem observes_recorded {s t : LoggingTransport T MemoryFiles} {n : Nat} {events : List CaptureEvent}
    (h : Observes s events t) (hascii : ∀ e ∈ events, e.Ascii) (hwriter : s.writer = some n) :
    Recorded n s t (events.flatMap CaptureEvent.records) := by
  induction h with
  | done s => exact .of_files hwriter rfl
  | @note s t text events _ ih =>
    have hnote := Recorded.note text hwriter
    exact hnote.trans (ih (fun e he => hascii e (List.mem_cons_of_mem _ he)) hnote.writer)
  | write hrun _ ih =>
    have hwrite := write_recorded hwriter (hascii _ List.mem_cons_self) hrun
    exact hwrite.trans (ih (fun e he => hascii e (List.mem_cons_of_mem _ he)) hwrite.writer)
  | read hrun _ ih =>
    have hread := read_recorded hwriter (hascii _ List.mem_cons_self) hrun
    exact hread.trans (ih (fun e he => hascii e (List.mem_cons_of_mem _ he)) hread.writer)

/-! ### Replay -/

/-- **What is read back from a capture is what went over the link, exactly if the records that notes
and the header are taken for leave every command its response.** -/
theorem replayed_iff (s : LoggingTransport T MemoryFiles) {t : LoggingTransport T MemoryFiles} (path : Path)
    (metadata : CaptureMetadata) {before : List Text} {exchanges : List CapturedExchange}
    (hascii : ∀ x ∈ exchanges, x.Ascii)
    (h : Observes ((startCapture path metadata).run s).2 (captureEvents before exchanges) t) :
    parseRawCapture path (stopCapture.run t).2.files = .ok (exchanges.map CapturedExchange.pair) ↔
      Harmless (recordsOf (formatHeader metadata s.files.started)) before exchanges := by
  obtain ⟨n, s₁, hstart, hwriter, hname, hheader⟩ := startCapture_file path metadata s
  rw [hstart] at h
  have hevents : ∀ e ∈ captureEvents before exchanges, e.Ascii := by
    intro e he
    rcases List.mem_append.mp he with he | he
    · obtain ⟨text, -, rfl⟩ := List.mem_map.mp he
      trivial
    · obtain ⟨x, hx, hmem⟩ := List.mem_flatMap.mp he
      exact x.events_ascii (hascii x hx) e hmem
  have hrecorded := observes_recorded h hevents hwriter
  obtain ⟨text, -, htext, hrecords⟩ := hrecorded.text
  have hread : parseRawCapture path (stopCapture.run t).2.files = .ok (parseContent (t.files.contents n)) := by
    rw [stopCapture_files hrecorded.writer, parseRawCapture]
    show (MemoryFiles.readToString path t.files).map parseContent = _
    rw [MemoryFiles.readToString, hrecorded.names, hname]
    rfl
  rw [hread, Except.ok.injEq, parseContent_eq, htext, hheader, records_append (formatHeader_whole ..), hrecords,
    answered_exchanges_iff]

end LoggingTransport

/-! ### Two captures -/

section Examples
open LoggingTransport

def mockMetadata : CaptureMetadata := ⟨"mock".toList, "test".toList, none⟩

/-- A capture that was started on a link with this reply. -/
def captureOf (reply : Text) : LoggingTransport Replying MemoryFiles :=
  ((startCapture initialPath mockMetadata).run (new ⟨reply⟩ MemoryFiles.empty)).2

/-- A command was written and its response was read. -/
def exchanged (command : Text) (s : LoggingTransport Replying MemoryFiles) : LoggingTransport Replying MemoryFiles :=
  (s.after (.write (Text.bytes command))).after .read

/-- The notes of an adapter, before its command and while it waits. -/
theorem replayed_iff_reset :
    parseRawCapture initialPath
        (stopCapture.run (exchanged "ATZ\r".toList
          ((captureOf "ELM327 v2.1\r\r>".toList).annotateRawCapture "command=ATZ".toList))).2.files =
      .ok [("ATZ".toList, "ELM327 v2.1\r\r>".toList)] := by
  have hascii : ∀ x ∈ [(⟨Text.bytes "ATZ\r".toList, [], Text.bytes "ELM327 v2.1\r\r>".toList, []⟩ : CapturedExchange)],
      x.Ascii := by
    intro x hx
    obtain rfl := List.mem_singleton.mp hx
    exact ⟨by decide +kernel, by decide +kernel⟩
  have hharmless : Harmless [] ["command=ATZ".toList]
      [⟨Text.bytes "ATZ\r".toList, [], Text.bytes "ELM327 v2.1\r\r>".toList, []⟩] :=
    harmless_oneLine (by decide +kernel) (by decide +kernel)
  exact (replayed_iff (new ⟨"ELM327 v2.1\r\r>".toList⟩ MemoryFiles.empty) initialPath mockMetadata hascii
    (.note (.write rfl (.read rfl (.done _))))).mpr hharmless

/-- A response with line ends in it, and the note that the adapter makes of it. -/
def stoppedReply : Text := "STOPPED\n0 W 03\n0 R 43".toList
def stoppedNote : Text := "adapter_event=Stopped detail=".toList ++ stoppedReply

/-- The note about a response is read back as a command and a response that never were. -/
theorem note_invents_pair :
    Observes (captureOf stoppedReply)
        (captureEvents [] [⟨Text.bytes "010C\r".toList, [], Text.bytes stoppedReply, [stoppedNote]⟩])
        ((exchanged "010C\r".toList (captureOf stoppedReply)).annotateRawCapture stoppedNote) ∧
      parseRawCapture initialPath
          (stopCapture.run
            ((exchanged "010C\r".toList (captureOf stoppedReply)).annotateRawCapture stoppedNote)).2.files =
        .ok [("010C".toList, stoppedReply), ("03".toList, "43".toList)] :=
  ⟨.write rfl (.read rfl (.note (.done _))), congrArg Except.ok (by decide +kernel)⟩

end Examples

end Obd2
