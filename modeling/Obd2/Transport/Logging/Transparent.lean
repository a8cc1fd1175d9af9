import Obd2.Adapter.Elm327.Alike
import Obd2.Transport.Logging

/-! A link that is captured behaves as the link inside.

What the capture does is to its files and to the chunk observer of the link inside, and it looks at neither for
what it writes and reads. So a captured link is alike to any link that the one inside is alike to, as long as
its observer is none of what these differ in (`links_alike`). Starting, stopping and renaming the capture keep
it so, whatever the file system does with them. -/
namespace Obd2.LoggingTransport
open Async
variable {T T' F : Type} [FileSystem F]

/-- The links stay related whatever is done with the chunk observer of the first. -/
structure Unobserved [Chunked T] (S : T → T' → Prop) : Prop where
  set : ∀ observer s t, S s t → S (Chunked.setChunkObserver observer s) t
  drain : ∀ s t, S s t → S (Chunked.drainChunks s).2 t

/-- The link inside is related. -/
def Inside (S : T → T' → Prop) (s : LoggingTransport T F) (t : T') : Prop := S s.inner t

/-- Whatever the link inside was related to, it still is. -/
def KeepsInside (S : T → T' → Prop) (s s' : LoggingTransport T F) : Prop := ∀ t, S s.inner t → S s'.inner t

section Steps
variable {S : T → T' → Prop}

theorem KeepsInside.refl (s : LoggingTransport T F) : KeepsInside S s s := fun _ h => h

theorem KeepsInside.trans {s t u : LoggingTransport T F} (h : KeepsInside S s t) (h' : KeepsInside S t u) :
    KeepsInside S s u := fun l hl => h' l (h l hl)

theorem KeepsInside.of_eq {s s' : LoggingTransport T F} (h : s'.inner = s.inner) : KeepsInside S s s' := by
  intro t ht
  rwa [h]

theorem inner_log (line : Text) (s : LoggingTransport T F) : (s.log line).inner = s.inner := by
  unfold log
  split <;> rfl

theorem inner_dropWriter (s : LoggingTransport T F) : s.dropWriter.inner = s.inner := by
  unfold dropWriter
  split <;> rfl

theorem inner_logChunks (chunks : List (Nat × List UInt8)) (s : LoggingTransport T F) :
    (chunks.foldl logChunk s).inner = s.inner := by
  induction chunks generalizing s with
  | nil => rfl
  | cons chunk chunks ih => exact (ih (s.logChunk chunk)).trans (inner_log _ s)

theorem files_keeps {α : Type} (step : F → Except IoError α × F) :
    Across (KeepsInside S) (onFiles step : Capture T F α) := fun _ => .of_eq rfl

theorem onInner_alike {α : Type} {x : Async Obd2Error T α} {y : Async Obd2Error T' α} (h : Alike S x y) :
    Alike (Inside (F := F) S) (onInner x) y := fun s t ht => h s.inner t ht

theorem finishWriter_keeps : Across (KeepsInside S) (finishWriter : Capture T F Unit) := by
  intro s
  cases hwriter : s.writer with
  | none =>
    rw [finishWriter, run_bind_ok (run_get s), hwriter]
    exact .refl s
  | some writer =>
    rw [finishWriter, run_bind_ok (run_get s), hwriter]
    have hflush : Across (KeepsInside S) (do
        let flushed ← (onFiles (FileSystem.flush writer)).attempt
        .modify (close writer)
        Async.lift flushed : Capture T F Unit) :=
      Across.bind KeepsInside.trans (files_keeps _).attempt fun flushed =>
        Across.bind KeepsInside.trans (Across.modify fun s => .of_eq rfl) fun _ => Across.lift .refl flushed
    exact hflush {s with writer := none}

variable [Chunked T] (hS : Unobserved S)
include hS

theorem flushChunks_keeps (s : LoggingTransport T F) : KeepsInside S s s.flushChunks := by
  intro t ht
  unfold flushChunks
  split
  · exact ht
  · rw [inner_logChunks]
    exact hS.drain _ _ ht

theorem installChunkObserver_keeps (s : LoggingTransport T F) : KeepsInside S s s.installChunkObserver :=
  fun t ht => hS.set _ _ t ht

/-! ### The capture -/

theorem startCapture_keeps (path : Path) (metadata : CaptureMetadata) :
    Across (KeepsInside S) (startCapture path metadata : Capture T F Unit) := by
  refine Across.bind KeepsInside.trans (files_keeps _) fun writer => ?_
  refine Across.bind KeepsInside.trans (Across.get .refl) fun s => ?_
  refine Across.bind KeepsInside.trans (files_keeps _).attempt fun written => ?_
  cases written with
  | error e => exact Across.bind KeepsInside.trans (Across.modify fun s => .of_eq rfl) fun _ => Across.throw .refl e
  | ok _ =>
    refine Across.bind KeepsInside.trans (Across.modify fun s => .of_eq (inner_dropWriter s)) fun _ => ?_
    refine Across.bind KeepsInside.trans (Across.modify fun s => .of_eq rfl) fun _ => ?_
    exact Across.modify (installChunkObserver_keeps hS)

theorem stopCapture_keeps : Across (KeepsInside S) (stopCapture : Capture T F (Option Path)) := by
  refine Across.bind KeepsInside.trans (Across.modify fun s t ht => hS.set _ _ t ht) fun _ => ?_
  refine Across.bind KeepsInside.trans finishWriter_keeps fun _ => ?_
  exact fun s => .of_eq rfl

theorem renameCapture_keeps (newPath : Path) :
    Across (KeepsInside S) (renameCapture newPath : Capture T F (Option Path)) := by
  have hparent : Across (KeepsInside S) (createParent newPath : Capture T F Unit) := by
    unfold createParent
    split
    · exact files_keeps _
    · exact Across.pure .refl ()
  have hflush : Across (KeepsInside S) (flushWriter : Capture T F Unit) := by
    refine Across.bind KeepsInside.trans (Across.get .refl) fun s => ?_
    split
    · exact files_keeps _
    · exact Across.pure .refl ()
  refine Across.bind KeepsInside.trans (Across.get .refl) fun s => ?_
  split
  · exact Across.pure .refl none
  · split
    · exact Across.pure .refl _
    · refine Across.bind KeepsInside.trans hparent fun _ => Across.bind KeepsInside.trans hflush fun _ => ?_
      refine Across.bind KeepsInside.trans (Across.modify fun s => .of_eq (inner_dropWriter s)) fun _ => ?_
      refine Across.bind KeepsInside.trans (files_keeps _) fun _ => ?_
      refine Across.bind KeepsInside.trans (files_keeps _) fun writer => ?_
      refine Across.bind KeepsInside.trans (Across.modify fun s => .of_eq rfl) fun _ => ?_
      refine Across.bind KeepsInside.trans (Across.modify (installChunkObserver_keeps hS)) fun _ => ?_
      exact Across.pure .refl _

/-! ### The link -/

variable [Link T] [Link T'] (h : LinksAlike S)
include h

/-- A captured link is alike to what the link inside is alike to. -/
theorem links_alike : LinksAlike (Inside (F := F) S) where
  write data := by
    refine Alike.before (fun s t ht => ?_) (onInner_alike (h.write data))
    show S (s.logLine 'W' data).inner t
    rw [logLine, inner_log]
    exact ht
  read := by
    refine Alike.after (onInner_alike h.read) fun result => ?_
    refine Alike.before (fun s t ht => flushChunks_keeps hS s t ht) (Alike.before (fun s t ht => ?_) (Alike.pure result))
    show S (s.logLine 'R' result).inner t
    rw [logLine, inner_log]
    exact ht

end Steps

end Obd2.LoggingTransport
