import Obd2.Protocol.DoIp.Client

/-! The payloads of DoIP messages: fixed fields, and optional ones at the end.

Parsing and encoding are written apart from each other for each of the five payloads. They are
inverse to each other on all values and on all payloads of the right lengths
(`payloads_exact`). -/
namespace Obd2

/-! ### The payloads, and the directions the client has no use for -/

/-- `[u8; n]`. -/
structure ByteArrayOf (n : Nat) where
  bytes : List UInt8
  length : bytes.length = n
  deriving DecidableEq, Repr

namespace ByteArrayOf

/-- A slice of `n` bytes from `offset` on. -/
def slice {n : Nat} (payload : List UInt8) (offset : Nat) (h : offset + n ≤ payload.length) : ByteArrayOf n :=
  ⟨(payload.drop offset).take n, by rw [List.length_take, List.length_drop]; omega⟩

end ByteArrayOf

/-- Vehicle identification response / announcement (0x0004). -/
structure DoIpVehicleIdentification where
  vin : ByteArrayOf 17
  logicalAddress : UInt16
  eid : ByteArrayOf 6
  gid : ByteArrayOf 6
  furtherActionRequired : UInt8
  vinGidSyncStatus : Option UInt8
  deriving DecidableEq, Repr

def DoIpDiagnosticAck.toPayload (ack : DoIpDiagnosticAck) : List UInt8 :=
  u16ToBe ack.sourceAddress ++ u16ToBe ack.targetAddress ++ ack.ackCode :: ack.previousMessageData

def DoIpRoutingActivationRequest.parse (payload : List UInt8) : Except Obd2Error DoIpRoutingActivationRequest :=
  match payload with
  | [s0, s1, activationType, i0, i1, i2, i3] =>
    .ok ⟨u16FromBe s0 s1, activationType, ⟨i0, i1, i2, i3⟩, none⟩
  | [s0, s1, activationType, i0, i1, i2, i3, o0, o1, o2, o3] =>
    .ok ⟨u16FromBe s0 s1, activationType, ⟨i0, i1, i2, i3⟩, some ⟨o0, o1, o2, o3⟩⟩
  | _ => .error (.parseError s!"DoIP routing activation request must be 7 or 11 bytes, got {payload.length}")

namespace DoIpVehicleIdentification

def parse (payload : List UInt8) : Except Obd2Error DoIpVehicleIdentification :=
  if h : payload.length = 32 ∨ payload.length = 33 then
    .ok
      { vin := .slice payload 0 (by omega)
        logicalAddress := u16FromBe payload[17] payload[18]
        eid := .slice payload 19 (by omega)
        gid := .slice payload 25 (by omega)
        furtherActionRequired := payload[31]
        vinGidSyncStatus := payload[32]? }
  else
    .error (.parseError s!"DoIP vehicle-identification payload must be 32 or 33 bytes, got {payload.length}")

def toPayload (vehicle : DoIpVehicleIdentification) : List UInt8 :=
  vehicle.vin.bytes ++ u16ToBe vehicle.logicalAddress ++ vehicle.eid.bytes ++ vehicle.gid.bytes ++
    vehicle.furtherActionRequired :: vehicle.vinGidSyncStatus.toList

end DoIpVehicleIdentification

/-! ### Parsing and encoding are inverse -/

/-- Every value is parsed from its own payload, every payload that is parsed is that of its value, and
those of the right lengths are parsed. -/
structure PayloadExact {α : Type} (parse : List UInt8 → Except Obd2Error α) (toPayload : α → List UInt8)
    (Accepted : Nat → Prop) : Prop where
  parse_toPayload : ∀ value, parse (toPayload value) = .ok value
  toPayload_parse : ∀ payload value, parse payload = .ok value → toPayload value = payload
  accepts : ∀ payload, (∃ value, parse payload = .ok value) ↔ Accepted payload.length

/-- An error is no value. -/
theorem error_not_ok {α : Type} {e : Obd2Error} : ¬ ∃ value, (.error e : Except Obd2Error α) = .ok value := by simp

theorem DoIpDiagnosticMessage.parse_iff (payload : List UInt8) :
    (∃ value, parse payload = .ok value) ↔ 4 ≤ payload.length := by
  match payload with
  | _ :: _ :: _ :: _ :: userData => exact iff_of_true ⟨_, rfl⟩ (Nat.le_add_left 4 userData.length)
  | [] | [_] | [_, _] | [_, _, _] => exact iff_of_false error_not_ok (by simp)

theorem DoIpDiagnosticMessage.exact : PayloadExact parse toPayload (4 ≤ ·) where
  parse_toPayload := parse_toPayload
  toPayload_parse := by
    intro payload message h
    unfold parse at h
    split at h
    · cases h
      simp [toPayload, u16ToBe_fromBe]
    · cases h
  accepts := parse_iff

theorem DoIpDiagnosticAck.parse_iff (payload : List UInt8) :
    (∃ value, parse payload = .ok value) ↔ 5 ≤ payload.length := by
  match payload with
  | _ :: _ :: _ :: _ :: _ :: data => exact iff_of_true ⟨_, rfl⟩ (Nat.le_add_left 5 data.length)
  | [] | [_] | [_, _] | [_, _, _] | [_, _, _, _] => exact iff_of_false error_not_ok (by simp)

theorem DoIpDiagnosticAck.exact : PayloadExact parse toPayload (5 ≤ ·) where
  parse_toPayload := by
    intro ack
    obtain ⟨s0, s1, hsource, hs⟩ := u16FromBe_toBe ack.sourceAddress
    obtain ⟨t0, t1, htarget, ht⟩ := u16FromBe_toBe ack.targetAddress
    simp [parse, toPayload, hsource, htarget, hs, ht]
  toPayload_parse := by
    intro payload ack h
    unfold parse at h
    split at h
    · cases h
      simp [toPayload, u16ToBe_fromBe]
    · cases h
  accepts := parse_iff

theorem DoIpRoutingActivationRequest.parse_iff (payload : List UInt8) :
    (∃ value, parse payload = .ok value) ↔ payload.length = 7 ∨ payload.length = 11 := by
  match payload with
  | [_, _, _, _, _, _, _] => exact iff_of_true ⟨_, rfl⟩ (.inl rfl)
  | [_, _, _, _, _, _, _, _, _, _, _] => exact iff_of_true ⟨_, rfl⟩ (.inr rfl)
  | [] | [_] | [_, _] | [_, _, _] | [_, _, _, _] | [_, _, _, _, _] | [_, _, _, _, _, _]
  | [_, _, _, _, _, _, _, _] | [_, _, _, _, _, _, _, _, _] | [_, _, _, _, _, _, _, _, _, _]
  | _ :: _ :: _ :: _ :: _ :: _ :: _ :: _ :: _ :: _ :: _ :: _ :: _ =>
    exact iff_of_false error_not_ok (by simp)

theorem DoIpRoutingActivationRequest.exact : PayloadExact parse toPayload fun n => n = 7 ∨ n = 11 where
  parse_toPayload := by
    intro request
    obtain ⟨s0, s1, hsource, hs⟩ := u16FromBe_toBe request.sourceAddress
    obtain ⟨sourceAddress, activationType, reservedIso, reservedOem⟩ := request
    cases reservedOem with
    | none => simp [parse, toPayload, hsource, hs, ReservedBytes.bytes]
    | some oem => simp [parse, toPayload, hsource, hs, ReservedBytes.bytes]
  toPayload_parse := by
    intro payload request h
    unfold parse at h
    split at h
    · cases h
      simp [toPayload, u16ToBe_fromBe, ReservedBytes.bytes]
    · cases h
      simp [toPayload, u16ToBe_fromBe, ReservedBytes.bytes]
    · cases h
  accepts := parse_iff

theorem DoIpRoutingActivationResponse.parse_iff (payload : List UInt8) :
    (∃ value, parse payload = .ok value) ↔ payload.length = 9 ∨ payload.length = 13 := by
  match payload with
  | [_, _, _, _, _, _, _, _, _] => exact iff_of_true ⟨_, rfl⟩ (.inl rfl)
  | [_, _, _, _, _, _, _, _, _, _, _, _, _] => exact iff_of_true ⟨_, rfl⟩ (.inr rfl)
  | [] | [_] | [_, _] | [_, _, _] | [_, _, _, _] | [_, _, _, _, _] | [_, _, _, _, _, _]
  | [_, _, _, _, _, _, _] | [_, _, _, _, _, _, _, _] | [_, _, _, _, _, _, _, _, _, _]
  | [_, _, _, _, _, _, _, _, _, _, _] | [_, _, _, _, _, _, _, _, _, _, _, _]
  | _ :: _ :: _ :: _ :: _ :: _ :: _ :: _ :: _ :: _ :: _ :: _ :: _ :: _ :: _ =>
    exact iff_of_false error_not_ok (by simp)

theorem DoIpRoutingActivationResponse.exact : PayloadExact parse toPayload fun n => n = 9 ∨ n = 13 where
  parse_toPayload := parse_toPayload
  toPayload_parse := by
    intro payload response h
    unfold parse at h
    split at h
    · cases h
      simp [toPayload, u16ToBe_fromBe, ReservedBytes.bytes]
    · cases h
      simp [toPayload, u16ToBe_fromBe, ReservedBytes.bytes]
    · cases h
  accepts := parse_iff

namespace DoIpVehicleIdentification

/-- The payload of a vehicle, as the parser takes it apart. -/
theorem parse_append (vin : ByteArrayOf 17) (high low : UInt8) (eid gid : ByteArrayOf 6) (further : UInt8)
    {rest : List UInt8} (hrest : rest.length ≤ 1) :
    parse (vin.bytes ++ high :: low :: (eid.bytes ++ (gid.bytes ++ further :: rest))) =
      .ok ⟨vin, u16FromBe high low, eid, gid, further, rest.head?⟩ := by
  obtain ⟨vin, hvin⟩ := vin
  obtain ⟨eid, heid⟩ := eid
  obtain ⟨gid, hgid⟩ := gid
  have hlength : (vin ++ high :: low :: (eid ++ (gid ++ further :: rest))).length = 32 + rest.length := by
    simp only [List.length_append, List.length_cons, hvin, heid, hgid]
    omega
  rw [parse, dif_pos (by rw [hlength]; omega)]
  simp [ByteArrayOf.slice, List.take_append, List.drop_append, List.getElem?_append,
    List.head?_eq_getElem?, hvin, heid, hgid]

/-- The fields of a payload of the right length. -/
theorem exists_fields {payload : List UInt8} (h : payload.length = 32 ∨ payload.length = 33) :
    ∃ (vin : ByteArrayOf 17) (high low : UInt8) (eid gid : ByteArrayOf 6) (further : UInt8) (rest : List UInt8),
      rest.length ≤ 1 ∧
        payload = vin.bytes ++ high :: low :: (eid.bytes ++ (gid.bytes ++ further :: rest)) := by
  have haddress : payload.drop 17 = payload[17] :: payload[18] :: payload.drop 19 := by
    rw [List.drop_eq_getElem_cons, List.drop_eq_getElem_cons]
  have heid : (payload.drop 19).take 6 ++ payload.drop 25 = payload.drop 19 := by
    simpa using List.take_append_drop 6 (payload.drop 19)
  have hgid : (payload.drop 25).take 6 ++ payload.drop 31 = payload.drop 25 := by
    simpa using List.take_append_drop 6 (payload.drop 25)
  have hfurther : payload.drop 31 = payload[31] :: payload.drop 32 := List.drop_eq_getElem_cons _
  refine ⟨.slice payload 0 (by omega), payload[17], payload[18], .slice payload 19 (by omega),
    .slice payload 25 (by omega), payload[31], payload.drop 32, by rw [List.length_drop]; omega, ?_⟩
  show payload = payload.take 17 ++ payload[17] :: payload[18] ::
    ((payload.drop 19).take 6 ++ ((payload.drop 25).take 6 ++ payload[31] :: payload.drop 32))
  rw [← hfurther, hgid, heid, ← haddress, List.take_append_drop]

theorem toList_head? {rest : List UInt8} (h : rest.length ≤ 1) : rest.head?.toList = rest := by
  match rest with
  | [] | [_] => rfl
  | _ :: _ :: _ => simp at h

theorem exact : PayloadExact parse toPayload fun n => n = 32 ∨ n = 33 where
  parse_toPayload := by
    intro vehicle
    obtain ⟨high, low, haddress, hread⟩ := u16FromBe_toBe vehicle.logicalAddress
    have hstatus : vehicle.vinGidSyncStatus.toList.length ≤ 1 := by
      cases vehicle.vinGidSyncStatus with
      | none => exact Nat.zero_le 1
      | some status => exact Nat.le_refl 1
    have hhead : vehicle.vinGidSyncStatus.toList.head? = vehicle.vinGidSyncStatus := by
      cases vehicle.vinGidSyncStatus <;> rfl
    rw [toPayload, haddress]
    simp only [List.append_assoc, List.cons_append, List.nil_append]
    rw [parse_append _ _ _ _ _ _ hstatus, hread, hhead]
  toPayload_parse := by
    intro payload vehicle h
    by_cases hlength : payload.length = 32 ∨ payload.length = 33
    · obtain ⟨vin, high, low, eid, gid, further, rest, hrest, rfl⟩ := exists_fields hlength
      rw [parse_append _ _ _ _ _ _ hrest] at h
      cases h
      simp [toPayload, u16ToBe_fromBe, toList_head? hrest]
    · rw [parse, dif_neg hlength] at h
      cases h
  accepts := by
    intro payload
    by_cases hlength : payload.length = 32 ∨ payload.length = 33
    · rw [parse, dif_pos hlength]
      exact iff_of_true ⟨_, rfl⟩ hlength
    · rw [parse, dif_neg hlength]
      exact iff_of_false error_not_ok hlength

end DoIpVehicleIdentification

/-- **The payload codecs are exact**: of diagnostic messages and acknowledgements, of routing activation
requests and responses, and of vehicle identification. -/
theorem payloads_exact :
    PayloadExact DoIpDiagnosticMessage.parse DoIpDiagnosticMessage.toPayload (4 ≤ ·) ∧
    PayloadExact DoIpDiagnosticAck.parse DoIpDiagnosticAck.toPayload (5 ≤ ·) ∧
    PayloadExact DoIpRoutingActivationRequest.parse DoIpRoutingActivationRequest.toPayload
      (fun n => n = 7 ∨ n = 11) ∧
    PayloadExact DoIpRoutingActivationResponse.parse DoIpRoutingActivationResponse.toPayload
      (fun n => n = 9 ∨ n = 13) ∧
    PayloadExact DoIpVehicleIdentification.parse DoIpVehicleIdentification.toPayload
      (fun n => n = 32 ∨ n = 33) :=
  ⟨DoIpDiagnosticMessage.exact, DoIpDiagnosticAck.exact, DoIpRoutingActivationRequest.exact,
    DoIpRoutingActivationResponse.exact, DoIpVehicleIdentification.exact⟩

end Obd2
