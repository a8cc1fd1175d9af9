import Obd2.Adapter.Elm327.Answer
import Obd2.Transport.Mock

/-! The echoed bytes of a request, and what is stripped of them.

How many bytes of a response repeat the request is looked up by the service alone (`skipOf`). A
request of more bytes than that has its other bytes left in the payload (`decodeResponse_long`). For
one of fewer there is no prefix to expect, and nothing is stripped at all (`decodeResponse_short`). -/
namespace Obd2.Elm327Adapter
open ElmCodec Hex

/-- The services whose data is cut to the length of the PID. -/
def IsMeasurement (service : UInt8) : Prop := service = 0x01 ∨ service = 0x02

instance (service : UInt8) : Decidable (IsMeasurement service) :=
  inferInstanceAs (Decidable (service = 0x01 ∨ service = 0x02))

/-- The request has as many bytes as are stripped. A measurement may be asked for with more bytes than
its PID, if the data is as long as the PID's and goes on as these bytes do. -/
def EchoStripped (service : UInt8) (data D : List UInt8) : Prop :=
  (¬ IsMeasurement service ∧ data.length + 1 = skipOf service) ∨
    (IsMeasurement service ∧ ∃ pid more, data = pid :: more ∧
      ((more = [] ∧ D.length ≤ Pid.responseBytes ⟨pid⟩) ∨
        (more ≠ [] ∧ D.length = Pid.responseBytes ⟨pid⟩ ∧ D <+: more ++ D)))

section Decode
variable {service : UInt8} {data D : List UInt8} {response : Text} {family : Codec.BusFamily}

theorem skipOf_measurement (h : IsMeasurement service) : skipOf service = 2 := by
  rcases h with rfl | rfl <;> rfl

theorem truncateKnownPayload_of_not (h : ¬ IsMeasurement service) (requestData payload : List UInt8) :
    truncateKnownPayload service requestData payload = payload := by
  unfold truncateKnownPayload
  split
  · exact absurd (.inl rfl) h
  · exact absurd (.inr rfl) h
  · rfl

theorem truncateKnownPayload_cons (h : IsMeasurement service) (pid : UInt8) (more payload : List UInt8) :
    truncateKnownPayload service (pid :: more) payload = payload.take (Pid.responseBytes ⟨pid⟩) := by
  rcases h with rfl | rfl <;> rfl

theorem truncateKnownPayload_nil (service : UInt8) (payload : List UInt8) :
    truncateKnownPayload service [] payload = payload := by
  unfold truncateKnownPayload
  split <;> rfl

/-- A response that repeats the whole request, with data after it. -/
abbrev Echoes (service : UInt8) (data D : List UInt8) (response : Text) : Prop :=
  Reads (requestCommand service data) (responseLines response) [(service + 0x40) :: (data ++ D)]

/-! ### Requests that are long enough -/

/-- What is not stripped of the request stands before the data. -/
theorem decodeResponse_long (family : Codec.BusFamily) (hlen : skipOf service ≤ data.length + 1) (hD : D ≠ [])
    (h : Echoes service data D response) :
    decodeResponse family service data response =
      .ok (truncateKnownPayload service data (data.drop (skipOf service - 1) ++ D)) := by
  have hline : (service + 0x40) :: (data ++ D) =
      acknowledged service data (skipOf service) ++ (data.drop (skipOf service - 1) ++ D) := by
    rw [acknowledged, List.cons_append, ← List.append_assoc, List.take_append_drop]
  have hpayloads : ∀ rest ∈ [data.drop (skipOf service - 1) ++ D], rest ≠ [] :=
    List.forall_mem_singleton.mpr (List.append_ne_nil_of_right_ne_nil _ hD)
  apply decodeResponse_of_payloads family hlen hpayloads
  rw [List.map_cons, List.map_nil, ← hline]
  exact h

/-! ### Requests that are too short -/

theorem likely_of_skipOf : ∀ service, 1 < skipOf service → isLikelyResponseService (service + 0x40) = true :=
  forall_byte (by decide +kernel)

theorem acceptLines_short (hshort : data.length + 1 < skipOf service) {lines : List Text} {reads : List (List UInt8)}
    (htidy : ∀ line ∈ lines, Tidy line) (h : Reads (requestCommand service data) lines reads)
    (hreads : ∀ bytes ∈ reads, ∃ rest, bytes = (service + 0x40) :: rest) (acc : Accumulator) :
    acceptLines family (skipOf service) (some (requestCommand service data)) none acc lines =
      .ok (reads.foldl (accept none) acc) := by
  induction h generalizing acc with
  | nil => rfl
  | skipped hskip _ ih =>
    rw [acceptLines, acceptLine, if_pos hskip]
    exact ih (fun line hline => htidy line (List.mem_cons_of_mem _ hline)) hreads acc
  | @bytes line _ bytes _ hline _ ih =>
    obtain ⟨rest, rfl⟩ := hreads bytes List.mem_cons_self
    have hskipped := (not_skipped_of_acknowledged data (htidy line List.mem_cons_self) hline).1
    have hlikely : shouldTreatAsHeadersOff ((service + 0x40) :: rest) (skipOf service) none = true := by
      simp [shouldTreatAsHeadersOff, skipOf_pos, likely_of_skipOf service (Nat.lt_of_le_of_lt (Nat.le_add_left ..) hshort)]
    have hdecode : decodeLine line family (skipOf service) none = .ok ((service + 0x40) :: rest) := by
      simp [decodeLine, hline, hlikely]
    rw [acceptLines, acceptLine, requestCommand, hskipped, if_neg Bool.false_ne_true, Option.isSome_none, Bool.and_false,
      Bool.false_and, if_neg Bool.false_ne_true, hdecode]
    exact ih (fun line hline => htidy line (List.mem_cons_of_mem _ hline))
      (fun bytes hbytes => hreads bytes (List.mem_cons_of_mem _ hbytes)) _

theorem expectedResponsePrefix_short (hshort : data.length + 1 < skipOf service) :
    expectedResponsePrefix (requestCommand service data) (skipOf service) = none := by
  have hpos : skipOf service ≠ 0 := by omega
  have hlen : (service :: data).length < skipOf service := hshort
  rw [expectedResponsePrefix, if_neg hpos, requestCommand, parseCompactHex_flatMap]
  exact if_pos hlen

/-- The response is returned as it is, header and all. -/
theorem decodeResponse_short (family : Codec.BusFamily) (hshort : data.length + 1 < skipOf service)
    (h : Echoes service data D response) :
    decodeResponse family service data response =
      .ok (truncateKnownPayload service data ((service + 0x40) :: (data ++ D))) := by
  have hreads : ∀ bytes ∈ [(service + 0x40) :: (data ++ D)], ∃ rest, bytes = (service + 0x40) :: rest :=
    List.forall_mem_singleton.mpr ⟨_, rfl⟩
  have hused : expectedPrefixIsUsed (some (requestCommand service data)) (skipOf service) = true := by
    simp [expectedPrefixIsUsed, skipOf_pos]
  have hpayloads : decodeElmResponsePayloadsForCommand response family (skipOf service)
      (some (requestCommand service data)) = .ok [(service + 0x40) :: (data ++ D)] := by
    simp only [decodeElmResponsePayloadsForCommand, Option.bind_some, expectedResponsePrefix_short hshort]
    rw [acceptLines_short hshort (fun line hline => tidy_of_mem hline) h hreads]
    rfl
  rw [decodeResponse, decodeElmResponsePayloadForCommand, hpayloads]
  simp only [hused, if_true, List.headD_cons]

/-! ### What is returned -/

/-- The data is returned where something of the request is left before it only if it looks the same. -/
theorem take_append_eq_iff {n : Nat} {more : List UInt8} :
    (more ++ D).take n = D ↔ (more = [] ∧ D.length ≤ n) ∨ (more ≠ [] ∧ D.length = n ∧ D <+: more ++ D) := by
  by_cases hmore : more = []
  · simp only [hmore, List.nil_append, true_and, ne_eq, not_true_eq_false, false_and, or_false]
    exact ⟨fun htake => htake ▸ List.length_take_le n D, List.take_of_length_le⟩
  · have hpos := List.length_pos_iff.mpr hmore
    simp only [hmore, false_and, false_or, ne_eq, not_false_eq_true, true_and]
    constructor
    · intro htake
      have hlength := congrArg List.length htake
      rw [List.length_take, List.length_append] at hlength
      have hprefix : (more ++ D).take n <+: more ++ D := List.take_prefix n _
      rw [htake] at hprefix
      exact ⟨by omega, hprefix⟩
    · rintro ⟨rfl, hprefix⟩
      exact (List.prefix_iff_eq_take.mp hprefix).symm

theorem decodeResponse_echoed_iff (family : Codec.BusFamily) (hD : D ≠ []) (h : Echoes service data D response) :
    decodeResponse family service data response = .ok D ↔ EchoStripped service data D := by
  unfold EchoStripped
  by_cases hshort : data.length + 1 < skipOf service
  · have hlonger : ((service + 0x40) :: (data ++ D)) ≠ D := by
      intro heq
      have := congrArg List.length heq
      rw [List.length_cons, List.length_append] at this
      omega
    rw [decodeResponse_short family hshort h, Except.ok.injEq]
    by_cases hmeasurement : IsMeasurement service
    · have hnil : data = [] := by
        rw [skipOf_measurement hmeasurement] at hshort
        exact List.eq_nil_of_length_eq_zero (by omega)
      subst hnil
      rw [truncateKnownPayload_nil]
      simp [hmeasurement]
    · rw [truncateKnownPayload_of_not hmeasurement]
      simp only [hlonger, hmeasurement, not_false_eq_true, true_and, false_and, or_false, false_iff]
      omega
  · have hlen : skipOf service ≤ data.length + 1 := Nat.le_of_not_lt hshort
    rw [decodeResponse_long family hlen hD h, Except.ok.injEq]
    by_cases hmeasurement : IsMeasurement service
    · rw [skipOf_measurement hmeasurement] at hlen ⊢
      cases data with
      | nil => exact absurd hlen (by decide)
      | cons pid more =>
        rw [truncateKnownPayload_cons hmeasurement]
        have hdrop : (pid :: more).drop (2 - 1) = more := rfl
        rw [hdrop, take_append_eq_iff]
        simp only [hmeasurement, not_true_eq_false, false_and, true_and, false_or]
        constructor
        · intro hdata
          exact ⟨pid, more, rfl, hdata⟩
        · rintro ⟨pid', more', heq, hdata⟩
          cases heq
          exact hdata
    · rw [truncateKnownPayload_of_not hmeasurement]
      simp only [hmeasurement, not_false_eq_true, true_and, false_and, or_false]
      have hpos := skipOf_pos service
      rw [List.append_left_eq_self, List.drop_eq_nil_iff]
      omega

end Decode

/-! ### Requests -/

/-- **A request returns the data alone exactly when its echo is what is stripped.** -/
theorem echo_stripped_iff {L : Type} [Link L] {adapter : Elm327Adapter L} {req : RoutedRequest} {response : Text}
    {D : List UInt8} (hD : D ≠ []) (hanswered : Answers adapter req response)
    (hechoes : Echoes req.serviceId req.data D response) :
    ((routedRequest req).run adapter).1 = .ok D ↔ EchoStripped req.serviceId req.data D := by
  obtain ⟨family, adapter', hrun⟩ := routedRequest_of_answers hanswered (reads_no_fault hechoes)
  rw [hrun, ← decodeResponse_echoed_iff family hD hechoes]
  cases decodeResponse family req.serviceId req.data response with
  | ok payload => simp [Outcome.ofExcept]
  | error e => simp [Outcome.ofExcept]

/-- A local identifier of two bytes. -/
theorem echo_stripped_two_bytes :
    let adapter := Elm327Adapter.new (MockTransport.expecting [("21F001".toList, "61 F0 01 7B\r>".toList)])
    ((routedRequest ⟨0x21, [0xF0, 0x01], .broadcast⟩).run adapter).1 = .ok [0x7B] := by
  intro adapter
  have hanswered : Answers adapter ⟨0x21, [0xF0, 0x01], .broadcast⟩ "61 F0 01 7B\r>".toList :=
    ⟨adapter, ⟨[], []⟩, rfl, rfl⟩
  have hechoes : Echoes 0x21 [0xF0, 0x01] [0x7B] "61 F0 01 7B\r>".toList := .bytes rfl (.skipped rfl .nil)
  exact (echo_stripped_iff (by decide) hanswered hechoes).mpr (.inl ⟨by decide, rfl⟩)

/-- One byte: what is returned begins with the header. -/
theorem echo_kept_one_byte :
    let adapter := Elm327Adapter.new (MockTransport.expecting [("2101".toList, "61 01 7B\r>".toList)])
    Answers adapter ⟨0x21, [0x01], .broadcast⟩ "61 01 7B\r>".toList ∧
      Echoes 0x21 [0x01] [0x7B] "61 01 7B\r>".toList ∧
      ((routedRequest ⟨0x21, [0x01], .broadcast⟩).run adapter).1 = .ok [0x61, 0x01, 0x7B] ∧
      ((routedRequest ⟨0x21, [0x01], .broadcast⟩).run adapter).1 ≠ .ok [0x7B] := by
  intro adapter
  have hanswered : Answers adapter ⟨0x21, [0x01], .broadcast⟩ "61 01 7B\r>".toList :=
    ⟨adapter, ⟨[], []⟩, rfl, rfl⟩
  have hrun : ((routedRequest ⟨0x21, [0x01], .broadcast⟩).run adapter).1 = .ok [0x61, 0x01, 0x7B] := by
    decide +kernel
  refine ⟨hanswered, .bytes rfl (.skipped rfl .nil), hrun, ?_⟩
  rw [hrun]
  decide

end Obd2.Elm327Adapter
