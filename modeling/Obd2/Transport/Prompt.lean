import Obd2.Session.RawCapture
import Obd2.Transport.Logging.MemoryFiles

/-! Links whose responses end at a prompt: serial ports and BLE characteristics.

A device takes bytes and sends signals: bytes, or events of the port. A read of the port is given some of the
bytes that are there, as many as the port likes but none behind a prompt: there the device waits. The link
puts such pieces together up to the prompt, and writes to a BLE characteristic in pieces of 20 bytes.

What the pieces are makes no difference (`links_alike`): a link is the stream of the device's signals, cut at
the prompts. So it is for a session over the link, captured or not (`captured_client`). -/
namespace Obd2
open Async

/-- Something that a read of the port comes to instead of bytes. -/
inductive PortEvent where
  | closed
  | failed (message : String)
  | elapsed
  /-- The caller gives up while it waits. -/
  | abandoned
  deriving DecidableEq, Repr

inductive Signal where
  | byte (b : UInt8)
  | event (e : PortEvent)
  deriving DecidableEq, Repr

/-- A device at the other end of a port. -/
class StreamDevice (D : Type) where
  /-- One byte is written: what becomes of that, and what the device sends then. -/
  write : UInt8 → D → Outcome Obd2Error Unit × List Signal × D

inductive PortKind where
  | serial
  | ble
  deriving DecidableEq, Repr

/-- The `>` of a device that waits for a command. -/
def promptByte : UInt8 := 62

namespace PortKind

def closedText : PortKind → String
  | .serial => "serial port closed"
  | .ble => "BLE notification stream ended"

/-- What is returned when an event ends a response. -/
def ends (kind : PortKind) (result : List UInt8) : PortEvent → Outcome Obd2Error (List UInt8)
  | .closed => .error (.transport kind.closedText)
  | .failed message => .error (.transport s!"serial read error: {message}")
  | .elapsed => if result.isEmpty then .error .timeout else .ok result
  | .abandoned => .dropped

end PortKind

/-! ### The stream -/

/-- The link as its device's stream. -/
structure StreamLink (D : Type) where
  kind : PortKind
  device : D
  pending : List Signal

namespace StreamLink
variable {D : Type} [StreamDevice D]

def writeByte (b : UInt8) : Async Obd2Error (StreamLink D) Unit := fun s =>
  let (outcome, signals, device) := StreamDevice.write b s.device
  (outcome, {s with device, pending := s.pending ++ signals})

/-- Bytes up to a prompt or an event. Where nothing is left, the time for a read elapses. -/
def readSignals (kind : PortKind) (result : List UInt8) : List Signal → Outcome Obd2Error (List UInt8) × List Signal
  | [] => (kind.ends result .elapsed, [])
  | .byte b :: rest => if b = promptByte then (.ok (result ++ [b]), rest) else readSignals kind (result ++ [b]) rest
  | .event e :: rest => (kind.ends result e, rest)

instance : Link (StreamLink D) where
  write data := data.forM writeByte
  read := fun s =>
    let (outcome, pending) := readSignals s.kind [] s.pending
    (outcome, {s with pending})

end StreamLink

/-! ### The transport -/

/-- `SerialTransport` and `BleTransport`. `cuts` are the numbers of bytes that the reads of the port are given
at most, besides the first, and `clock` is when. -/
structure PromptTransport (D : Type) where
  name : Text
  stream : StreamLink D
  cuts : Nat → Nat
  clock : Nat → Nat
  reads : Nat
  chunkObserver : Option Nat
  chunks : List (Nat × List UInt8)

namespace PromptTransport
variable {D : Type}

/-- The bytes of the next piece. -/
def takePiece : Nat → List Signal → List UInt8
  | n + 1, .byte b :: rest => if b = promptByte then [b] else b :: takePiece n rest
  | _, _ => []

/-- So many signals are read. -/
def advance (n : Nat) (s : PromptTransport D) : PromptTransport D :=
  {s with stream := {s.stream with pending := s.stream.pending.drop n}, reads := s.reads + 1}

/-- A read of the port. -/
def readPort (s : PromptTransport D) : (List UInt8 ⊕ PortEvent) × PromptTransport D :=
  match s.stream.pending with
  | [] => (.inr .elapsed, s.advance 0)
  | .event e :: _ => (.inr e, s.advance 1)
  | .byte _ :: _ =>
    let piece := takePiece (s.cuts s.reads + 1) s.stream.pending
    (.inl piece, s.advance piece.length)

/-- The piece is shown to the observer, if there is one. -/
def observe (data : List UInt8) (s : PromptTransport D) : PromptTransport D :=
  match s.chunkObserver with
  | some start => {s with chunks := s.chunks ++ [(s.clock s.reads - start, data)]}
  | none => s

/-- The loop of `read`. There are no more pieces than signals. -/
def readLoop : Nat → List UInt8 → Async Obd2Error (PromptTransport D) (List UInt8)
  | 0, result => fun s => (s.stream.kind.ends result .elapsed, s)
  | fuel + 1, result => fun s =>
    match s.readPort with
    | (.inr e, s) => (s.stream.kind.ends result e, s)
    | (.inl data, s) =>
      let s := s.observe data
      if (result ++ data).contains promptByte then (.ok (result ++ data), s)
      else (readLoop fuel (result ++ data)).run s

variable [StreamDevice D]

def writePiece (data : List UInt8) : Async Obd2Error (PromptTransport D) Unit :=
  (data.forM StreamLink.writeByte : Async Obd2Error (StreamLink D) Unit).on (·.stream) fun stream s => {s with stream}

/-- `data.chunks(20)`. -/
def pieces : List UInt8 → List (List UInt8)
  | [] => []
  | b :: rest => (b :: rest).take 20 :: pieces ((b :: rest).drop 20)
termination_by data => data.length
decreasing_by
  rw [List.length_drop, List.length_cons]
  omega

instance : Link (PromptTransport D) where
  write data := fun s =>
    match s.stream.kind with
    | .serial => (writePiece data).run s
    | .ble => ((pieces data).forM writePiece : Async Obd2Error (PromptTransport D) Unit).run s
  read := fun s => (readLoop (s.stream.pending.length + 1) []).run s

instance : Chunked (PromptTransport D) where
  setChunkObserver observer s := {s with chunkObserver := observer}
  drainChunks s := (s.chunks, {s with chunks := []})

omit [StreamDevice D] in
instance : Named (PromptTransport D) := ⟨name⟩

end PromptTransport

/-! ### What the pieces are makes no difference -/

section Pieces
open PromptTransport StreamLink
variable {D : Type}

/-- What a response comes to behind a piece of it. -/
def afterPiece (kind : PortKind) (result piece : List UInt8) (pending : List Signal) :
    Outcome Obd2Error (List UInt8) × List Signal :=
  if promptByte ∈ piece then (.ok (result ++ piece), pending.drop piece.length)
  else readSignals kind (result ++ piece) (pending.drop piece.length)

theorem afterPiece_nil (kind : PortKind) (result : List UInt8) (pending : List Signal) :
    afterPiece kind result [] pending = readSignals kind result pending := by
  rw [afterPiece, if_neg List.not_mem_nil, List.append_nil]
  rfl

/-- A piece is part of the response, and the last part if there is a prompt in it. -/
theorem readSignals_piece (kind : PortKind) (n : Nat) (result : List UInt8) (pending : List Signal) :
    readSignals kind result pending = afterPiece kind result (takePiece n pending) pending := by
  induction n generalizing result pending with
  | zero => exact (afterPiece_nil kind result pending).symm
  | succ n ih =>
    cases pending with
    | nil => exact (afterPiece_nil kind result []).symm
    | cons signal rest =>
      cases signal with
      | event e => exact (afterPiece_nil kind result _).symm
      | byte b =>
        rw [readSignals, takePiece]
        by_cases hb : b = promptByte
        · rw [if_pos hb, if_pos hb, afterPiece, hb, if_pos List.mem_cons_self]
          rfl
        · rw [if_neg hb, if_neg hb, ih, afterPiece, afterPiece, List.append_assoc]
          have hmem : promptByte ∈ b :: takePiece n rest ↔ promptByte ∈ takePiece n rest := by
            rw [List.mem_cons, or_iff_right fun h => hb h.symm]
          simp only [hmem]
          rfl

/-- Pieces are there where bytes are. -/
theorem length_takePiece (n : Nat) (b : UInt8) (rest : List Signal) :
    0 < (takePiece (n + 1) (.byte b :: rest)).length := by
  rw [takePiece]
  split
  · exact Nat.succ_pos _
  · exact Nat.succ_pos _

/-- A read of the port is a piece, or ends the response. -/
theorem readPort_cases (s : PromptTransport D) :
    (∃ e n, s.readPort = (.inr e, s.advance n) ∧ ∀ result,
      readSignals s.stream.kind result s.stream.pending = (s.stream.kind.ends result e, s.stream.pending.drop n)) ∨
    ∃ piece n, s.readPort = (.inl piece, s.advance piece.length) ∧ piece = takePiece n s.stream.pending ∧
      0 < piece.length ∧ s.stream.pending ≠ [] := by
  unfold readPort
  cases hpending : s.stream.pending with
  | nil => exact .inl ⟨.elapsed, 0, rfl, fun _ => rfl⟩
  | cons signal rest =>
    cases signal with
    | event e => exact .inl ⟨e, 1, rfl, fun _ => rfl⟩
    | byte b => exact .inr ⟨_, _, rfl, rfl, length_takePiece .., List.cons_ne_nil _ _⟩

theorem observe_stream (data : List UInt8) (s : PromptTransport D) : (s.observe data).stream = s.stream := by
  unfold observe
  split <;> rfl

/-- The loop reads what the stream has up to the prompt. -/
theorem readLoop_eq {fuel : Nat} {result : List UInt8} {s : PromptTransport D} (hresult : promptByte ∉ result)
    (hfuel : s.stream.pending.length < fuel) :
    ((readLoop fuel result).run s).1 = (readSignals s.stream.kind result s.stream.pending).1 ∧
      ((readLoop fuel result).run s).2.stream =
        {s.stream with pending := (readSignals s.stream.kind result s.stream.pending).2} := by
  induction fuel generalizing result s with
  | zero => exact absurd hfuel (Nat.not_lt_zero _)
  | succ fuel ih =>
    rcases readPort_cases s with ⟨e, n, hread, hends⟩ | ⟨piece, n, hread, hpiece, hlength, hpending⟩
    · have hrun : (readLoop (fuel + 1) result).run s = (s.stream.kind.ends result e, s.advance n) := by
        show (match s.readPort with | (.inr e, s) => _ | (.inl data, s) => _) = _
        rw [hread]
        rfl
      rw [hrun, hends]
      exact ⟨rfl, rfl⟩
    · have hrun : (readLoop (fuel + 1) result).run s =
          if (result ++ piece).contains promptByte then (.ok (result ++ piece), (s.advance piece.length).observe piece)
          else (readLoop fuel (result ++ piece)).run ((s.advance piece.length).observe piece) := by
        show (match s.readPort with | (.inr e, s) => _ | (.inl data, s) => _) = _
        rw [hread]
      have hstream := observe_stream piece (s.advance piece.length)
      rw [hrun, readSignals_piece s.stream.kind n result, ← hpiece, afterPiece]
      by_cases hprompt : promptByte ∈ piece
      · rw [if_pos hprompt, if_pos (List.elem_eq_true_of_mem (List.mem_append_right _ hprompt))]
        exact ⟨rfl, hstream⟩
      · have hnone : promptByte ∉ result ++ piece := fun hmem => (List.mem_append.mp hmem).elim hresult hprompt
        rw [if_neg hprompt, if_neg (by rwa [List.contains_iff_mem])]
        have hshorter : ((s.advance piece.length).observe piece).stream.pending.length < fuel := by
          have hpos := List.length_pos_iff.mpr hpending
          rw [hstream]
          show (s.stream.pending.drop piece.length).length < fuel
          rw [List.length_drop]
          omega
        have hrest := ih hnone hshorter
        rw [hstream] at hrest
        exact hrest

end Pieces

section Links
open PromptTransport
variable {D : Type}

/-- The link is that of the stream. -/
def Streams (s : PromptTransport D) (t : StreamLink D) : Prop := t = s.stream

theorem flatten_pieces (data : List UInt8) : (pieces data).flatten = data := by
  induction data using pieces.induct with
  | case1 => rw [pieces, List.flatten_nil]
  | case2 b rest ih => rw [pieces, List.flatten_cons, ih, List.take_append_drop]

variable [StreamDevice D]

theorem writePiece_alike (data : List UInt8) :
    Alike (ε := Obd2Error) Streams (writePiece data : Async Obd2Error (PromptTransport D) Unit)
      (data.forM StreamLink.writeByte) := by
  intro s t hst
  subst hst
  exact ⟨rfl, rfl⟩

/-- What is written in pieces is written. -/
theorem writePieces_alike (written : List (List UInt8)) :
    Alike (ε := Obd2Error) Streams (written.forM writePiece : Async Obd2Error (PromptTransport D) Unit)
      (written.flatten.forM StreamLink.writeByte) := by
  induction written with
  | nil => exact Alike.pure ()
  | cons piece written ih =>
    have hsplit : (piece ++ written.flatten).forM (StreamLink.writeByte (D := D)) =
        (piece.forM StreamLink.writeByte >>= fun _ => written.flatten.forM StreamLink.writeByte) := List.forM_append
    rw [List.flatten_cons, hsplit]
    exact (writePiece_alike piece).bind fun _ => ih

/-- **A serial port or a BLE characteristic is the stream of its device's signals**, however responses and
commands are cut into pieces. -/
theorem streams_alike : LinksAlike (Streams (D := D)) where
  write data := by
    intro s t hst
    subst hst
    show (match s.stream.kind with | .serial => _ | .ble => _ : Outcome Obd2Error Unit × PromptTransport D).1 = _ ∧
      Streams (match s.stream.kind with | .serial => _ | .ble => _ : Outcome Obd2Error Unit × PromptTransport D).2 _
    cases s.stream.kind with
    | serial => exact writePiece_alike data s _ rfl
    | ble =>
      have hpieces := writePieces_alike (D := D) (pieces data)
      rw [flatten_pieces] at hpieces
      exact hpieces s _ rfl
  read := by
    intro s t hst
    subst hst
    obtain ⟨houtcome, hstream⟩ := readLoop_eq (s := s) List.not_mem_nil (Nat.lt_succ_self _)
    exact ⟨houtcome, hstream.symm⟩

omit [StreamDevice D] in
theorem streams_unobserved : LoggingTransport.Unobserved (Streams (D := D)) := ⟨fun _ _ _ h => h, fun _ _ h => h⟩

end Links

/-! ### Sessions -/

namespace Session
variable {D F : Type} [StreamDevice D] [FileSystem F]

omit [StreamDevice D] in
/-- The session without its capture, over the stream of its link. -/
def plain (s : Session (Capturing (PromptTransport D) F)) : Session (Elm327Adapter (StreamLink D)) :=
  s.onto (s.adapter.adapter.onto s.adapter.adapter.transport.inner.stream)

omit [StreamDevice D] in
theorem over_plain_iff {s : Session (Capturing (PromptTransport D) F)} {t : Session (Elm327Adapter (StreamLink D))} :
    Over (Capturing.Over Streams) s t ↔ t = s.plain := by
  constructor
  · intro h
    obtain ⟨_, ⟨_, rfl, rfl⟩, rfl⟩ := h
    rfl
  · intro h
    exact ⟨_, ⟨_, rfl, rfl⟩, h⟩

/-- A device with one answer to every line. -/
structure Responder where
  answer : Text

instance : StreamDevice Responder where
  write b responder := (.ok (), if b = 13 then (Text.bytes responder.answer).map .byte else [], responder)

/-- A session over a characteristic whose responses come in pieces of three bytes. -/
def responded (answer : String) : Session (Capturing (PromptTransport Responder) MemoryFiles) :=
  let link : PromptTransport Responder := ⟨"OBDLink".toList, ⟨.ble, ⟨answer.toList⟩, []⟩, fun _ => 2, id, 0, none, []⟩
  let adapter := Elm327Adapter.new (LoggingTransport.new link MemoryFiles.empty)
  let adapter := {adapter with info := {Elm327Adapter.defaultAdapterInfo with protocol := .can11Bit500}}
  {Session.new ⟨adapter, ⟨true, ["raw-captures".toList], none⟩⟩ with initialized := true}

end Session

end Obd2
