/-! Messages framed in a stream.

The sender writes messages one after the other; the receiver sees the stream in chunks that
need not end where a message does. It keeps a buffer, and takes messages off its front with a
parser of prefixes. `Framed` is what encoder and parser owe each other for this to work: a whole
message is taken whatever follows it, and a part of one is waited for. Then the chunks do not
matter (`receive_stream`). -/
namespace Obd2.Framing

/-- The first message of a buffer and the length of its encoding, or nothing as long as the
message is not all there. -/
abbrev PrefixParser (ε α M : Type) := List α → Except ε (Option (M × Nat))

section Receiver
variable {ε α M : Type} (parse : PrefixParser ε α M)

/-- The messages at the front of the buffer, `fuel` of them at most, and what is left. -/
def drain : Nat → List α → Except ε (List (M × Nat) × List α)
  | 0, buffer => .ok ([], buffer)
  | fuel + 1, buffer =>
    match parse buffer with
    | .error e => .error e
    | .ok none => .ok ([], buffer)
    | .ok (some (message, consumed)) =>
      match drain fuel (buffer.drop consumed) with
      | .error e => .error e
      | .ok (messages, rest) => .ok ((message, consumed) :: messages, rest)

/-- A chunk arrives. Every message takes some of the buffer, so its length is fuel enough. -/
def feed (buffer chunk : List α) : Except ε (List (M × Nat) × List α) :=
  drain parse (buffer ++ chunk).length (buffer ++ chunk)

def receive (buffer : List α) : List (List α) → Except ε (List (M × Nat) × List α)
  | [] => .ok ([], buffer)
  | chunk :: chunks =>
    match feed parse buffer chunk with
    | .error e => .error e
    | .ok (messages, buffer) =>
      match receive buffer chunks with
      | .error e => .error e
      | .ok (later, rest) => .ok (messages ++ later, rest)

end Receiver

/-- What encoder and parser owe each other on valid messages. -/
structure Framed {ε α M : Type} (encode : M → List α) (parse : PrefixParser ε α M)
    (Valid : M → Prop) : Prop where
  empty : parse [] = .ok none
  complete : ∀ {m}, Valid m → ∀ rest, parse (encode m ++ rest) = .ok (some (m, (encode m).length))
  incomplete : ∀ {m}, Valid m → ∀ {part}, part <+: encode m → part ≠ encode m → parse part = .ok none

namespace Framed
variable {ε α M : Type} {encode : M → List α} {parse : PrefixParser ε α M} {Valid : M → Prop}

theorem encode_ne_nil (h : Framed encode parse Valid) {m : M} (hm : Valid m) : encode m ≠ [] := by
  intro hnil
  have hcomplete := h.complete hm []
  rw [hnil, List.append_nil, h.empty] at hcomplete
  cases hcomplete

theorem length_le_flatMap (h : Framed encode parse Valid) {messages : List M}
    (hvalid : ∀ m ∈ messages, Valid m) : messages.length ≤ (messages.flatMap encode).length := by
  induction messages with
  | nil => exact Nat.le_refl 0
  | cons m messages ih =>
    have hm := List.length_pos_iff.mpr (h.encode_ne_nil (hvalid m List.mem_cons_self))
    have hrest := ih fun m' hm' => hvalid m' (List.mem_cons_of_mem m hm')
    rw [List.flatMap_cons, List.length_append, List.length_cons]
    omega

/-- Whole messages are taken off, and a part of one is left. -/
theorem drain_stream (h : Framed encode parse Valid) {messages : List M}
    (hvalid : ∀ m ∈ messages, Valid m) {part : List α} (hpart : parse part = .ok none) {fuel : Nat}
    (hfuel : messages.length ≤ fuel) :
    drain parse fuel (messages.flatMap encode ++ part) =
      .ok (messages.map fun m => (m, (encode m).length), part) := by
  induction messages generalizing fuel with
  | nil =>
    cases fuel with
    | zero => rfl
    | succ fuel => simp only [List.flatMap_nil, List.nil_append, drain, hpart, List.map_nil]
  | cons m messages ih =>
    cases fuel with
    | zero => exact absurd hfuel (Nat.not_succ_le_zero _)
    | succ fuel =>
      have hcomplete := h.complete (hvalid m List.mem_cons_self) (messages.flatMap encode ++ part)
      have hrest := ih (fun m' hm' => hvalid m' (List.mem_cons_of_mem m hm')) (Nat.le_of_succ_le_succ hfuel)
      simp only [List.flatMap_cons, List.append_assoc, drain, hcomplete, List.drop_left, hrest,
        List.map_cons]

/-- A stream cut anywhere is some whole messages and a part that is not one. -/
theorem cut (h : Framed encode parse Valid) {messages : List M} (hvalid : ∀ m ∈ messages, Valid m)
    {buffer : List α} (hbuffer : buffer <+: messages.flatMap encode) :
    ∃ done pending part, messages = done ++ pending ∧ buffer = done.flatMap encode ++ part ∧
      part <+: pending.flatMap encode ∧ parse part = .ok none := by
  induction messages generalizing buffer with
  | nil => exact ⟨[], [], [], rfl, List.prefix_nil.mp hbuffer, List.nil_prefix, h.empty⟩
  | cons m messages ih =>
    have hm := hvalid m List.mem_cons_self
    by_cases hfirst : encode m <+: buffer
    · obtain ⟨rest, rfl⟩ := hfirst
      rw [List.flatMap_cons, List.prefix_append_right_inj] at hbuffer
      obtain ⟨done, pending, part, rfl, rfl, hpart, hnone⟩ :=
        ih (fun m' hm' => hvalid m' (List.mem_cons_of_mem m hm')) hbuffer
      refine ⟨m :: done, pending, part, rfl, ?_, hpart, hnone⟩
      rw [List.flatMap_cons, List.append_assoc]
    · have hpart : buffer <+: encode m :=
        (List.prefix_or_prefix_of_prefix hbuffer (List.prefix_append ..)).resolve_right hfirst
      have hne : buffer ≠ encode m := fun heq => hfirst (heq ▸ List.prefix_refl _)
      exact ⟨[], m :: messages, buffer, rfl, rfl, hbuffer, h.incomplete hm hpart hne⟩

/-- **At any point of the stream the receiver has the messages that are all there.** -/
theorem receive_prefix (h : Framed encode parse Valid) {messages : List M}
    (hvalid : ∀ m ∈ messages, Valid m) (chunks : List (List α)) {buffer : List α}
    (hbuffer : parse buffer = .ok none)
    (hstream : buffer ++ chunks.flatten <+: messages.flatMap encode) :
    ∃ done pending part, messages = done ++ pending ∧
      buffer ++ chunks.flatten = done.flatMap encode ++ part ∧ parse part = .ok none ∧
      receive parse buffer chunks = .ok (done.map fun m => (m, (encode m).length), part) := by
  induction chunks generalizing buffer messages with
  | nil => exact ⟨[], messages, buffer, rfl, List.append_nil buffer, hbuffer, rfl⟩
  | cons chunk chunks ih =>
    rw [List.flatten_cons, ← List.append_assoc] at hstream ⊢
    obtain ⟨first, pending, part, rfl, hcut, -, hnone⟩ :=
      h.cut hvalid ((List.prefix_append ..).trans hstream)
    rw [hcut, List.append_assoc, List.flatMap_append, List.prefix_append_right_inj] at hstream
    obtain ⟨done, pending, part', rfl, hlater, hnone', hreceive⟩ :=
      ih (fun m hm => hvalid m (List.mem_append_right first hm)) hnone hstream
    have hfuel : first.length ≤ (buffer ++ chunk).length := by
      have hlength := h.length_le_flatMap fun m hm => hvalid m (List.mem_append_left _ hm)
      rw [hcut, List.length_append]
      omega
    have hfeed := h.drain_stream (fun m hm => hvalid m (List.mem_append_left _ hm)) hnone hfuel
    rw [← hcut] at hfeed
    refine ⟨first ++ done, pending, part', (List.append_assoc ..).symm, ?_, hnone', ?_⟩
    · rw [hcut, List.append_assoc, hlater, List.flatMap_append, List.append_assoc]
    · simp only [receive, feed, hfeed, hreceive, List.map_append]

/-- **The messages of a stream are received, however the stream is cut into chunks.** -/
theorem receive_stream (h : Framed encode parse Valid) {messages : List M}
    (hvalid : ∀ m ∈ messages, Valid m) {chunks : List (List α)}
    (hstream : chunks.flatten = messages.flatMap encode) :
    receive parse [] chunks = .ok (messages.map fun m => (m, (encode m).length), []) := by
  obtain ⟨done, pending, part, rfl, hcut, hnone, hreceive⟩ :=
    h.receive_prefix hvalid chunks h.empty (List.nil_append _ ▸ hstream ▸ List.prefix_refl _)
  rw [List.nil_append, hstream, List.flatMap_append, List.append_cancel_left_eq] at hcut
  cases pending with
  | nil => rw [hreceive, List.append_nil, ← hcut, List.flatMap_nil]
  | cons m pending =>
    -- A message that is all there is not waited for.
    have hcomplete := h.complete (hvalid m (by simp)) (pending.flatMap encode)
    rw [← List.flatMap_cons, hcut, hnone] at hcomplete
    cases hcomplete

end Framed

end Obd2.Framing
