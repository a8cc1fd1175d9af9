import Obd2.Byte
import Obd2.Error

/-! The J1939-21 transport protocol, receiving side.

A message longer than one frame is announced by a TP.CM control message (a
broadcast announce or a request to send) and carried by TP.DT packets of seven
bytes each. `TpReassembler` collects the packets of one such message. -/
namespace Obd2.J1939

/-- A parameter group number. -/
structure Pgn where
  value : UInt32
  deriving DecidableEq, Repr

def tpPacketDataLen : Nat := 7
def tpMaxMessageSize : Nat := 1785

/-- J1939-21 TP.CM control message. -/
inductive TpControlMessage where
  | requestToSend (messageSize : UInt16) (packets : UInt8) (maxPacketsPerCts : UInt8) (pgn : Pgn)
  | clearToSend (packetsToSend : UInt8) (nextPacket : UInt8) (pgn : Pgn)
  | endOfMessageAck (messageSize : UInt16) (packets : UInt8) (pgn : Pgn)
  | broadcastAnnounce (messageSize : UInt16) (packets : UInt8) (pgn : Pgn)
  | connectionAbort (reason : UInt8) (pgn : Pgn)
  | unknown (control : UInt8) (data : Vector UInt8 7)
  deriving DecidableEq

/-- One TP.DT packet. -/
structure TpDataTransfer where
  sequence : UInt8
  data : Vector UInt8 7
  deriving DecidableEq

/-- A complete application-layer message. -/
structure J1939Message where
  source : UInt8
  destination : Option UInt8
  pgn : Pgn
  payload : List UInt8
  deriving DecidableEq

/-- Reassembler for one source/destination session. `nextSequence` is the only
record of how far the session is. -/
structure TpReassembler where
  source : UInt8
  destination : Option UInt8
  pgn : Pgn
  expectedSize : Nat
  expectedPackets : UInt8
  nextSequence : UInt8
  payload : List UInt8
  deriving DecidableEq

def validateTpSize (messageSize : Nat) (packets : UInt8) : Except Obd2Error Unit :=
  if messageSize = 0 ∨ messageSize > tpMaxMessageSize then
    .error (.parseError s!"TP message size {messageSize} outside 1..={tpMaxMessageSize}")
  else
    let requiredPackets := (messageSize + (tpPacketDataLen - 1)) / tpPacketDataLen
    if requiredPackets ≠ packets.toNat then
      .error (.parseError s!"TP packet count {packets} does not match {messageSize} byte payload")
    else
      .ok ()

namespace TpReassembler

/-- The reassembler a validated announcement opens. -/
def opened (source : UInt8) (destination : Option UInt8) (messageSize : UInt16) (packets : UInt8)
    (pgn : Pgn) : TpReassembler :=
  { source, destination, pgn, expectedSize := messageSize.toNat, expectedPackets := packets
    nextSequence := 1, payload := [] }

def start (source : UInt8) (destination : Option UInt8) (control : TpControlMessage) :
    Except Obd2Error TpReassembler :=
  match control with
  | .broadcastAnnounce messageSize packets pgn | .requestToSend messageSize packets _ pgn =>
    match validateTpSize messageSize.toNat packets with
    | .error e => .error e
    | .ok () => .ok (opened source destination messageSize packets pgn)
  | _ => .error (.parseError "TP reassembly must start with BAM or RTS")

/-- The message the session delivers once `payload` is complete. -/
def message (r : TpReassembler) (payload : List UInt8) : J1939Message :=
  { source := r.source, destination := r.destination, pgn := r.pgn, payload }

def mismatch (r : TpReassembler) (packet : TpDataTransfer) : Obd2Error :=
  .parseError s!"TP.DT sequence mismatch: expected {r.nextSequence}, got {packet.sequence}"

def excess (r : TpReassembler) (packet : TpDataTransfer) : Obd2Error :=
  .parseError s!"TP.DT sequence {packet.sequence} exceeds expected packet count {r.expectedPackets}"

/-- One packet: what the call returns, and the reassembler it leaves. A rejection
leaves it as it was; a delivery takes the payload out of it. -/
def acceptDt (r : TpReassembler) (packet : TpDataTransfer) :
    Except Obd2Error (Option J1939Message) × TpReassembler :=
  if packet.sequence ≠ r.nextSequence then (.error (r.mismatch packet), r)
  else if packet.sequence > r.expectedPackets then (.error (r.excess packet), r)
  else
    let take := min (r.expectedSize - r.payload.length) tpPacketDataLen
    let payload := r.payload ++ packet.data.toList.take take
    let next := {r with nextSequence := saturatingSucc r.nextSequence}
    if payload.length = r.expectedSize then
      (.ok (some (r.message payload)), {next with payload := []})
    else
      (.ok none, {next with payload := payload})

/-- A sequence of `accept_dt` calls: each call's result with the reassembler it leaves. -/
def calls (r : TpReassembler) : List TpDataTransfer →
    List (Except Obd2Error (Option J1939Message) × TpReassembler)
  | [] => []
  | packet :: rest => r.acceptDt packet :: calls (r.acceptDt packet).2 rest

/-- The reassembler after a sequence of calls. -/
def after (r : TpReassembler) : List TpDataTransfer → TpReassembler
  | [] => r
  | packet :: rest => after (r.acceptDt packet).2 rest

end TpReassembler

end Obd2.J1939
