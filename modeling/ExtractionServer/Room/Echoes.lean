import ExtractionServer.Library.SerialNumbers
import ExtractionServer.Room.Addresses

/-! The echoes of an honest client: which of the server's timestamps was the newest to come back,
what the round trips took, and when a silent session counts as disconnected.
-/

namespace ExtractionServer.Transport.Channel

variable {Payload : Type}

-----------------------------------------------------------------------------------------
-- What echoes change
-----------------------------------------------------------------------------------------

/-- The fields that `UpdateRtt` writes. -/
def estimate (channel : Channel Payload) : BitVec 32 × BitVec 32 :=
  (channel.lastEchoTs, channel.rttMs)

/-- `UpdateRtt` does not return early on an echo other than zero. -/
def advances (channel : Channel Payload) (echoTs : BitVec 32) : Bool :=
  channel.lastEchoTs == 0 || 0 < (echoTs - channel.lastEchoTs).toInt

theorem advances_iff (channel : Channel Payload) (echoTs : BitVec 32)
    : channel.advances echoTs = true
      ↔ channel.lastEchoTs = 0 ∨ 0 < (echoTs - channel.lastEchoTs).toInt := by
  simp [advances]

theorem estimate_updateRtt (channel : Channel Payload) {echoTs : BitVec 32} (some : echoTs ≠ 0)
    (nowMs : BitVec 32)
    : (channel.updateRtt echoTs nowMs).estimate
      = if channel.advances echoTs then
          (echoTs,
            if (channel.rttMs * 7 + (nowMs - echoTs)) / 8 < 20 then 20
            else (channel.rttMs * 7 + (nowMs - echoTs)) / 8)
        else channel.estimate := by
  have early : (channel.lastEchoTs ≠ 0 ∧ (echoTs - channel.lastEchoTs).toInt ≤ 0)
      ↔ ¬channel.advances echoTs = true := by
    simp [advances]
  simp only [updateRtt, if_neg some, early]
  cases channel.advances echoTs <;> rfl

theorem estimate_updateRecvState (channel : Channel Payload) (header : UDPHeader)
    : (channel.updateRecvState header).1.estimate = channel.estimate := by
  unfold updateRecvState
  split <;> rfl

theorem estimate_processIncomingAck (channel : Channel Payload)
    (ackSeqNum ackBitfield : BitVec 32)
    : (channel.processIncomingAck ackSeqNum ackBitfield).estimate = channel.estimate := by
  unfold processIncomingAck
  dsimp only
  split <;> rfl

theorem estimate_setLastRecvTimestamp (channel : Channel Payload) (ts : BitVec 32)
    : (channel.setLastRecvTimestamp ts).estimate = channel.estimate := by
  unfold setLastRecvTimestamp
  split <;> rfl

/-- Channels with one estimate get the same from an echo. -/
theorem estimate_updateRtt_congr {channel other : Channel Payload}
    (same : channel.estimate = other.estimate) (echoTs nowMs : BitVec 32)
    : (channel.updateRtt echoTs nowMs).estimate = (other.updateRtt echoTs nowMs).estimate := by
  obtain ⟨last, rtt⟩ := Prod.mk.inj same
  by_cases none : echoTs = 0
  · simp only [updateRtt, if_pos none, same]
  · rw [estimate_updateRtt channel none, estimate_updateRtt other none, advances, advances, last,
      rtt, same]

/-- A datagram whose handler is called updates the estimate with its echo, if it has one. -/
theorem estimate_receive (channel : Channel Payload) (header : UDPHeader) (nowMs : BitVec 32)
    : (channel.receive header nowMs).1.estimate
      = if (channel.receive header nowMs).2 = true ∧ header.timestampEcho ≠ 0 then
          (channel.updateRtt header.timestampEcho nowMs).estimate
        else channel.estimate := by
  have filtered := estimate_updateRecvState channel header
  simp only [receive]
  cases fresh : (channel.updateRecvState header).2 with
  | false => simpa using filtered
  | true =>
      have acked := (estimate_processIncomingAck (channel.updateRecvState header).1
        header.ackRSeqNum header.ackBitfield).trans filtered
      have stamped : (if header.timestamp ≠ 0 then
            ((channel.updateRecvState header).1.processIncomingAck header.ackRSeqNum
              header.ackBitfield).setLastRecvTimestamp header.timestamp
          else (channel.updateRecvState header).1.processIncomingAck header.ackRSeqNum
            header.ackBitfield).estimate = channel.estimate := by
        split
        · exact (estimate_setLastRecvTimestamp _ _).trans acked
        · exact acked
      simp only [Bool.not_true, Bool.false_eq_true, if_false, true_and]
      split
      · exact estimate_updateRtt_congr stamped _ _
      · exact stamped

end ExtractionServer.Transport.Channel

namespace ExtractionServer.Room

open Transport
open Transition (System)

namespace SessionLink

-----------------------------------------------------------------------------------------
-- What an observer notes
-----------------------------------------------------------------------------------------

/-- The time in whole milliseconds, of which a timestamp is the lower 32 bits. -/
def ms (link : SessionLink) : Nat := link.clock / 1000000

/-- A round trip: the estimate before, what was measured, and what it really took. -/
structure Sample where
  rttMs : BitVec 32
  rtt : BitVec 32
  elapsed : Nat

/-- When datagrams were stamped, which of the stamps came back, and the round trips. -/
structure Echoes where
  stamps : List Nat := []
  delivered : List Nat := []
  samples : List Sample := []

/-- The time of the stamp that an echo repeats. -/
def Echoes.stampOf (echoes : Echoes) (echoTs : BitVec 32) : Nat :=
  (echoes.stamps.find? fun stamp => BitVec.ofNat 32 stamp == echoTs).getD 0

def Echoes.largest (echoes : Echoes) : Nat :=
  (echoes.samples.map Sample.elapsed).foldr max 0

/-- The handler of a datagram is called, and the datagram has an echo. -/
def hears (link : SessionLink) (header : UDPHeader) : Bool :=
  (link.channel.receive header (nowMs link.clock)).2 && header.timestampEcho != 0

def observe (echoes : Echoes) (before : SessionLink) (action : Action) (_ : SessionLink)
    : Echoes :=
  match action with
  | .channelOpen _ _ => { echoes with stamps := before.ms :: echoes.stamps }
  | .send _ => { echoes with stamps := before.ms :: echoes.stamps }
  | .receive header =>
      if before.hears header then
        let stamp := echoes.stampOf header.timestampEcho
        { echoes with
          delivered := stamp :: echoes.delivered
          samples :=
            if before.channel.advances header.timestampEcho then
              { rttMs := before.channel.rttMs
                rtt := nowMs before.clock - header.timestampEcho
                elapsed := before.ms - stamp } :: echoes.samples
            else echoes.samples }
      else echoes
  | _ => echoes

/-- Time goes on, no longer than a session may last, and each echo repeats a stamp. -/
def isHonest (startMs : Nat) (before : SessionLink × Echoes) (action : Action)
    (_ : SessionLink × Echoes)
    : Prop :=
  match action with
  | .wait clock => before.1.clock ≤ clock ∧ clock / 1000000 < startMs + 2 ^ 28
  | .receive header =>
      before.1.hears header = true →
        ∃ stamp ∈ before.2.stamps, BitVec.ofNat 32 stamp = header.timestampEcho
  | _ => True

/-- A session with an honest client, from a time on. -/
def honestSystem (env : Environment) (sessionId startMs : Nat)
    : System (SessionLink × Echoes) Action :=
  System.restrict
    { (system env sessionId).observed {} observe with
      initial := fun watched => watched.1.channel = {} ∧ watched.1.ms = startMs ∧ watched.2 = {} }
    (isHonest startMs)

-----------------------------------------------------------------------------------------
-- The invariant
-----------------------------------------------------------------------------------------

/-- What holds of the estimate and the notes at any time. -/
structure Tracked (startMs : Nat) (link : SessionLink) (echoes : Echoes) : Prop where
  started : startMs ≤ link.ms
  short : link.ms < startMs + 2 ^ 28
  stamps : ∀ stamp ∈ echoes.stamps, startMs ≤ stamp ∧ stamp ≤ link.ms
  delivered : ∀ stamp ∈ echoes.delivered,
    stamp ∈ echoes.stamps ∧ BitVec.ofNat 32 stamp ≠ 0
  lastEcho : link.channel.lastEchoTs
    = (echoes.delivered.max?).elim 0 (BitVec.ofNat 32)
  samples : ∀ sample ∈ echoes.samples, sample.rtt.toNat = sample.elapsed
    ∧ sample.elapsed < 2 ^ 28 ∧ sample.rttMs.toNat * 7 + sample.rtt.toNat < 2 ^ 32
  low : 20 ≤ link.channel.rttMs.toNat
  high : link.channel.rttMs.toNat ≤ max 100 echoes.largest

variable {env : Environment} {sessionId startMs : Nat} {link : SessionLink} {echoes : Echoes}

theorem foldr_max_lt {times : List Nat} {bound : Nat} (some : 0 < bound)
    (each : ∀ time ∈ times, time < bound)
    : times.foldr max 0 < bound := by
  induction times with
  | nil => exact some
  | cons time rest ih =>
      obtain ⟨here, others⟩ := List.forall_mem_cons.mp each
      exact Nat.max_lt.mpr ⟨here, ih others⟩

theorem Tracked.largest_lt (tracked : link.Tracked startMs echoes)
    : echoes.largest < 2 ^ 28 := by
  apply foldr_max_lt (by decide)
  intro time mem
  obtain ⟨sample, taken, rfl⟩ := List.mem_map.mp mem
  exact (tracked.samples sample taken).2.1

/-- Echoes and estimate are as before, and time goes on. -/
theorem Tracked.frame (tracked : link.Tracked startMs echoes) {after : SessionLink}
    (same : after.channel.estimate = link.channel.estimate) (later : link.ms ≤ after.ms)
    (short : after.ms < startMs + 2 ^ 28)
    : after.Tracked startMs echoes := by
  obtain ⟨last, rtt⟩ := Prod.mk.inj same
  exact
    { started := tracked.started.trans later
      short
      stamps := fun stamp mem =>
        ⟨(tracked.stamps stamp mem).1, (tracked.stamps stamp mem).2.trans later⟩
      delivered := tracked.delivered
      lastEcho := last.trans tracked.lastEcho
      samples := tracked.samples
      low := rtt ▸ tracked.low
      high := rtt ▸ tracked.high }

/-- A new stamp. -/
theorem Tracked.stamp (tracked : link.Tracked startMs echoes)
    : link.Tracked startMs { echoes with stamps := link.ms :: echoes.stamps } :=
  { tracked with
    stamps := fun stamp mem => by
      rcases List.mem_cons.mp mem with rfl | old
      · exact ⟨tracked.started, Nat.le_refl _⟩
      · exact tracked.stamps stamp old
    delivered := fun stamp mem =>
      ⟨List.mem_cons_of_mem _ (tracked.delivered stamp mem).1,
        (tracked.delivered stamp mem).2⟩ }

/-- The stamp that an honest echo repeats. -/
theorem Echoes.stampOf_eq {echoTs : BitVec 32}
    (honest : ∃ stamp ∈ echoes.stamps, BitVec.ofNat 32 stamp = echoTs)
    : echoes.stampOf echoTs ∈ echoes.stamps
      ∧ BitVec.ofNat 32 (echoes.stampOf echoTs) = echoTs := by
  obtain ⟨stamp, mem, rfl⟩ := honest
  obtain ⟨found, finds⟩ : ∃ found, echoes.stamps.find?
      (fun other => BitVec.ofNat 32 other == BitVec.ofNat 32 stamp) = some found := by
    apply Option.isSome_iff_exists.mp
    rw [List.find?_isSome]
    exact ⟨stamp, mem, by simp⟩
  rw [stampOf, finds, Option.getD_some]
  exact ⟨List.mem_of_find?_eq_some finds, by simpa using List.find?_some finds⟩

/-- The smoothed estimate, with a lower bound of 20 ms, without overflow. -/
theorem toNat_smoothed {rttMs rtt : BitVec 32}
    (small : rttMs.toNat * 7 + rtt.toNat < 2 ^ 32)
    : (if (rttMs * 7 + rtt) / 8 < 20 then 20 else (rttMs * 7 + rtt) / 8 : BitVec 32).toNat
      = max 20 ((rttMs.toNat * 7 + rtt.toNat) / 8) := by
  have exact : ((rttMs * 7 + rtt) / 8).toNat = (rttMs.toNat * 7 + rtt.toNat) / 8 := by
    have seven : (7 : BitVec 32).toNat = 7 := rfl
    have eight : (8 : BitVec 32).toNat = 8 := rfl
    rw [BitVec.toNat_udiv, BitVec.toNat_add, BitVec.toNat_mul, seven, eight, Nat.mod_add_mod,
      Nat.mod_eq_of_lt small]
  have below : (rttMs * 7 + rtt) / 8 < 20 ↔ (rttMs.toNat * 7 + rtt.toNat) / 8 < 20 := by
    rw [BitVec.lt_def, exact]
    rfl
  split
  · next low => exact (Nat.max_eq_left (Nat.le_of_lt (below.mp low))).symm
  · next high => rw [exact, Nat.max_eq_right (Nat.not_lt.mp (mt below.mpr high))]

/-- The newest echo is the greatest stamp that came back; an echo advances it if it is newer. -/
theorem Tracked.advances_iff (tracked : link.Tracked startMs echoes) {stamp : Nat}
    (stamped : stamp ∈ echoes.stamps)
    : link.channel.advances (BitVec.ofNat 32 stamp) = true
      ↔ ∀ other ∈ echoes.delivered, other < stamp := by
  rw [Channel.advances_iff, tracked.lastEcho]
  cases newest : echoes.delivered.max? with
  | none => simp [List.max?_eq_none_iff.mp newest]
  | some last =>
      obtain ⟨mem, greatest⟩ := List.max?_eq_some_iff.mp newest
      obtain ⟨known, nonzero⟩ := tracked.delivered last mem
      obtain ⟨low, high⟩ := tracked.stamps last known
      obtain ⟨lowStamp, highStamp⟩ := tracked.stamps stamp stamped
      have short := tracked.short
      have compare := SerialNumber.toInt_sub_nonpos_iff (n := stamp) (m := last)
        (by decide : 0 < 32) (by omega) (by omega)
      simp only [Option.elim_some, nonzero, false_or]
      rw [← Int.not_le, compare, Nat.not_le]
      exact ⟨fun newer other old => (greatest other old).trans_lt newer,
        fun newer => newer last mem⟩

theorem max?_cons_of_lt {times : List Nat} {time : Nat} (newer : ∀ other ∈ times, other < time)
    : (time :: times).max? = some time := by
  refine List.max?_eq_some_iff.mpr ⟨List.mem_cons_self, ?_⟩
  exact List.forall_mem_cons.mpr
    ⟨Nat.le_refl time, fun other mem => Nat.le_of_lt (newer other mem)⟩

theorem max?_cons_of_le {times : List Nat} {time other : Nat} (mem : other ∈ times)
    (older : time ≤ other)
    : (time :: times).max? = times.max? := by
  cases newest : times.max? with
  | none => cases List.max?_eq_none_iff.mp newest ▸ mem
  | some last =>
      obtain ⟨present, greatest⟩ := List.max?_eq_some_iff.mp newest
      refine List.max?_eq_some_iff.mpr ⟨List.mem_cons_of_mem time present, ?_⟩
      exact List.forall_mem_cons.mpr ⟨older.trans (greatest other mem), greatest⟩

/-- An honest echo is noted; it moves the newest echo and the estimate if it is newer. -/
theorem Tracked.hear (tracked : link.Tracked startMs echoes) {header : UDPHeader}
    (hears : link.hears header = true)
    (honest : ∃ stamp ∈ echoes.stamps, BitVec.ofNat 32 stamp = header.timestampEcho)
    : (link.perform env sessionId (.receive header)).1.Tracked startMs
        (observe echoes link (.receive header)
          (link.perform env sessionId (.receive header)).1) := by
  obtain ⟨fresh, some⟩ : (link.channel.receive header (nowMs link.clock)).2 = true
      ∧ header.timestampEcho ≠ 0 := by
    simpa [SessionLink.hears] using hears
  obtain ⟨stamped, echo⟩ := Echoes.stampOf_eq honest
  have estimate := link.channel.estimate_receive header (nowMs link.clock)
  rw [if_pos ⟨fresh, some⟩, link.channel.estimate_updateRtt some] at estimate
  simp only [observe, if_pos hears]
  generalize echoes.stampOf header.timestampEcho = stamp at stamped echo
  have newer := tracked.advances_iff stamped
  rw [echo] at newer
  obtain ⟨low, high⟩ := tracked.stamps stamp stamped
  have short := tracked.short
  have elapsed : (nowMs link.clock - header.timestampEcho).toNat = link.ms - stamp := by
    rw [← echo]
    exact SerialNumber.toNat_sub high (show link.ms - stamp < 2 ^ 32 by omega)
  have largest := tracked.largest_lt
  have estimated := tracked.high
  have small : link.channel.rttMs.toNat * 7
      + (nowMs link.clock - header.timestampEcho).toNat < 2 ^ 32 := by
    omega
  cases accepted : link.channel.advances header.timestampEcho with
  | false =>
      rw [accepted, if_neg Bool.false_ne_true] at estimate
      obtain ⟨other, old, later⟩ : ∃ other ∈ echoes.delivered, stamp ≤ other := by
        by_contra none
        refine Bool.false_ne_true (accepted.symm.trans (newer.mpr fun other old => ?_))
        exact Nat.lt_of_not_le fun le => none ⟨other, old, le⟩
      have framed : (link.perform env sessionId (.receive header)).1.Tracked startMs echoes :=
        tracked.frame estimate (Nat.le_refl _) short
      exact
        { framed with
          delivered := fun other mem => by
            rcases List.mem_cons.mp mem with rfl | old
            · exact ⟨stamped, echo ▸ some⟩
            · exact tracked.delivered other old
          lastEcho := by rw [max?_cons_of_le old later, framed.lastEcho]
          samples := tracked.samples
          high := framed.high }
  | true =>
      rw [accepted, if_pos rfl] at estimate
      obtain ⟨last, rtt⟩ := Prod.mk.inj estimate
      have smoothed := (congrArg BitVec.toNat rtt).trans (toNat_smoothed small)
      exact
        { started := tracked.started
          short
          stamps := tracked.stamps
          delivered := fun other mem => by
            rcases List.mem_cons.mp mem with rfl | old
            · exact ⟨stamped, echo ▸ some⟩
            · exact tracked.delivered other old
          lastEcho := by
            rw [max?_cons_of_lt (newer.mp accepted)]
            exact last.trans echo.symm
          samples := fun sample mem => by
            rcases List.mem_cons.mp mem with rfl | old
            · exact ⟨elapsed, by dsimp only; omega, small⟩
            · exact tracked.samples sample old
          low := Nat.le_trans (Nat.le_max_left 20 _) (Nat.le_of_eq smoothed.symm)
          high := by
            refine Nat.le_trans (Nat.le_of_eq smoothed) ?_
            simp only [Echoes.largest, if_true, List.map_cons, List.foldr_cons]
              at estimated ⊢
            omega }

theorem estimate_send (message : D2CMessage)
    : (link.send env sessionId message).1.channel.estimate = link.channel.estimate := by
  simp only [send, Channel.makeD2CPacketImpl]
  cases message.isReliable <;> rfl

/-- Every step of an honest session keeps the invariant. -/
theorem Tracked.perform (tracked : link.Tracked startMs echoes) {action : Action}
    (honest : isHonest startMs (link, echoes) action
      ((link.perform env sessionId action).1,
        observe echoes link action (link.perform env sessionId action).1))
    : (link.perform env sessionId action).1.Tracked startMs
        (observe echoes link action (link.perform env sessionId action).1) := by
  have short := tracked.short
  cases action with
  | wait clock =>
      exact tracked.frame rfl (Nat.div_le_div_right honest.1) honest.2
  | become session => exact tracked.frame rfl (Nat.le_refl _) short
  | bindClientIp addr => exact tracked.frame rfl (Nat.le_refl _) short
  | channelOpen clientAddr echo =>
      refine tracked.stamp.frame ?_ ?_ ?_
      all_goals
        simp only [SessionLink.perform, setPort]
        split
      · exact estimate_send _
      · exact estimate_send _
      · exact Nat.le_refl _
      · exact Nat.le_refl _
      · exact short
      · exact short
  | send message => exact tracked.stamp.frame (estimate_send message) (Nat.le_refl _) short
  | receive header =>
      by_cases hears : link.hears header = true
      · exact tracked.hear hears (honest hears)
      · simp only [observe, if_neg hears]
        refine tracked.frame ?_ (Nat.le_refl _) short
        have estimate := link.channel.estimate_receive header (nowMs link.clock)
        rwa [if_neg (by simpa [SessionLink.hears] using hears)] at estimate
  | clearPendingReliableExcept keepSeq => exact tracked.frame rfl (Nat.le_refl _) short
  | checkRetransmits =>
      simp only [SessionLink.perform, observe]
      split
      · exact tracked
      · exact tracked.frame rfl (Nat.le_refl _) short
  | detectDisconnected =>
      simp only [SessionLink.perform, observe]
      split
      · exact tracked.frame rfl (Nat.le_refl _) short
      · exact tracked

theorem tracked_inductive
    : (honestSystem env sessionId startMs).Inductive
        fun watched => watched.1.Tracked startMs watched.2 where
  initial := by
    rintro ⟨link, echoes⟩ ⟨fresh, started, rfl⟩
    exact
      { started := Nat.le_of_eq started.symm
        short := by omega
        stamps := by simp
        delivered := by simp
        lastEcho := by rw [fresh]; rfl
        samples := by simp
        low := by rw [fresh]; decide
        high := by rw [fresh]; exact Nat.le_max_left 100 _ }
  step := by
    rintro ⟨link, echoes⟩ action ⟨after, noted⟩ tracked ⟨⟨moves, notes⟩, honest⟩
    dsimp only at moves notes
    subst moves notes
    exact tracked.perform honest

-----------------------------------------------------------------------------------------
-- Echoes, round trips and the verdict
-----------------------------------------------------------------------------------------

/-- The timeout of a retransmission is one and a half round trips, between 50 and 1000 ms. -/
theorem toNat_retransmitTimeout {channel : Channel D2CMessage}
    (small : channel.rttMs.toNat < 2 ^ 28)
    : channel.retransmitTimeout.toNat = min (max (channel.rttMs.toNat * 3 / 2) 50) 1000 := by
  have scaled : ((channel.rttMs * 3) / 2).toNat = channel.rttMs.toNat * 3 / 2 := by
    have three : (3 : BitVec 32).toNat = 3 := rfl
    have two : (2 : BitVec 32).toNat = 2 := rfl
    rw [BitVec.toNat_udiv, BitVec.toNat_mul, three, two, Nat.mod_eq_of_lt (by omega)]
  have fifty : (50 : BitVec 32).toNat = 50 := rfl
  have thousand : (1000 : BitVec 32).toNat = 1000 := rfl
  simp only [Channel.retransmitTimeout, BitVec.lt_def]
  split <;> split <;> omega

/-- The session counts as disconnected when the newest echo is too old. -/
theorem Tracked.isDisconnected_iff (tracked : link.Tracked startMs echoes)
    : link.isDisconnected = true
      ↔ link.session.isInplay = true ∧ link.session.isLeaving = false
        ∧ ∃ newest, echoes.delivered.max? = some newest
          ∧ PlayerSession.DISCONNECT_TIMEOUT_MS.toNat ≤ link.ms - newest := by
  rw [link.isDisconnected_iff, tracked.lastEcho]
  refine and_congr_right fun _ => and_congr_right fun _ => ?_
  cases newest : echoes.delivered.max? with
  | none => simp
  | some last =>
      obtain ⟨known, nonzero⟩ := tracked.delivered last (List.max?_eq_some_iff.mp newest).1
      obtain ⟨low, high⟩ := tracked.stamps last known
      have short := tracked.short
      have elapsed : (nowMs link.clock - BitVec.ofNat 32 last).toNat = link.ms - last :=
        SerialNumber.toNat_sub high (show link.ms - last < 2 ^ 32 by omega)
      simp only [Option.elim_some, BitVec.le_def, elapsed, Option.some.injEq,
        exists_eq_left']
      exact and_iff_right nonzero

theorem markLeaving_disconnected {session : PlayerSession} (staying : session.isLeaving = false)
    (clock : TimePoint)
    : (session.markLeaving .disconnected clock 0).leaveState = .pending
      ∧ (session.markLeaving .disconnected clock 0).leaveReason = .disconnected := by
  have none : session.leaveState = .none := by simpa [PlayerSession.isLeaving] using staying
  have accepts : session.acceptsLeaveReason .disconnected = true := by
    simp [PlayerSession.acceptsLeaveReason, none]
  simp only [PlayerSession.markLeaving, if_pos accepts, and_self]

/-- With an honest client, the last echo is the newest stamp that came back, each round trip is
measured exactly and smoothed without overflow, and a session in play is found disconnected
when that stamp is as old as the timeout.
-/
theorem honest_echoes {watched : SessionLink × Echoes}
    (reached : (honestSystem env sessionId startMs).Reachable watched)
    : watched.1.channel.lastEchoTs
        = (watched.2.delivered.max?).elim 0 (BitVec.ofNat 32)
      ∧ (∀ sample ∈ watched.2.samples, sample.rtt.toNat = sample.elapsed
        ∧ sample.rttMs.toNat * 7 + sample.rtt.toNat < 2 ^ 32)
      ∧ 20 ≤ watched.1.channel.rttMs.toNat
      ∧ watched.1.channel.rttMs.toNat ≤ max 100 watched.2.largest
      ∧ watched.1.channel.retransmitTimeout.toNat
        = min (max (watched.1.channel.rttMs.toNat * 3 / 2) 50) 1000
      ∧ (watched.1.session.isInplay = true → watched.1.session.isLeaving = false →
        ((watched.1.perform env sessionId .detectDisconnected).1.session.leaveState = .pending
            ∧ (watched.1.perform env sessionId .detectDisconnected).1.session.leaveReason
              = .disconnected
          ↔ ∃ newest, watched.2.delivered.max? = some newest
            ∧ PlayerSession.DISCONNECT_TIMEOUT_MS.toNat ≤ watched.1.ms - newest)) := by
  have tracked := tracked_inductive.reachable reached
  have largest := tracked.largest_lt
  have high := tracked.high
  refine ⟨tracked.lastEcho, fun sample mem => ?_, tracked.low, high,
    toNat_retransmitTimeout (by omega), fun inplay staying => ?_⟩
  · obtain ⟨exact, -, small⟩ := tracked.samples sample mem
    exact ⟨exact, small⟩
  · have verdict := tracked.isDisconnected_iff
    simp only [inplay, staying, true_and] at verdict
    rw [← verdict]
    simp only [SessionLink.perform]
    split
    · next lost => exact iff_of_true (markLeaving_disconnected staying _) lost
    · next heard =>
        refine iff_of_false (fun marked => ?_) heard
        have pending : watched.1.session.leaveState = .pending := marked.1
        simp [PlayerSession.isLeaving, pending] at staying

/-- A link and the notes after an action. -/
def watch (env : Environment) (sessionId : Nat) (watched : SessionLink × Echoes)
    (action : Action)
    : SessionLink × Echoes :=
  let after := (watched.1.perform env sessionId action).1
  (after, observe watched.2 watched.1 action after)

/-- Each of some actions is honest. -/
def Honest (env : Environment) (sessionId startMs : Nat)
    : List Action → SessionLink × Echoes → Prop
  | [], _ => True
  | action :: rest, watched =>
      isHonest startMs watched action (watch env sessionId watched action)
        ∧ Honest env sessionId startMs rest (watch env sessionId watched action)

theorem reachable_of_honest {actions : List Action} {watched : SessionLink × Echoes}
    (reached : (honestSystem env sessionId startMs).Reachable watched)
    (honest : Honest env sessionId startMs actions watched)
    : (honestSystem env sessionId startMs).Reachable
        (actions.foldl (watch env sessionId) watched) := by
  induction actions generalizing watched with
  | nil => exact reached
  | cons action rest ih =>
      exact ih (.step reached ⟨⟨rfl, rfl⟩, honest.1⟩) honest.2

/-- The clock wraps between a stamp and its echo, after which the client is silent. -/
def aroundTheWrap : List Action :=
  [.become { RoomHost.newcomer 1 [] [] with sessionState := .inplay }, .send .heartBeat,
    .wait ((2 ^ 32 + 50) * 1000000),
    .receive
      { packetId := 1, sessionId := 1, rSeqNum := 1, uSeqNum := 0, flags := FLAG_RELIABLE
        timestampEcho := BitVec.ofNat 32 (2 ^ 32 - 50) },
    .wait ((2 ^ 32 + 6000) * 1000000)]

def beforeTheWrap : SessionLink := { unopened with clock := (2 ^ 32 - 50) * 1000000 }

theorem aroundTheWrap_honest
    : Honest RoomHost.openField 1 (2 ^ 32 - 50) aroundTheWrap (beforeTheWrap, {}) :=
  ⟨trivial, trivial, ⟨by decide, by decide⟩, fun _ => ⟨2 ^ 32 - 50, by decide, by decide⟩,
    ⟨by decide, by decide⟩, trivial⟩

def afterTheWrap : SessionLink × Echoes :=
  aroundTheWrap.foldl (watch RoomHost.openField 1) (beforeTheWrap, {})

/-- The echo of 100 ms ago is measured as such, and 5950 ms later it is too old. -/
theorem honest_echoes_aroundTheWrap
    : afterTheWrap.1.channel.lastEchoTs = BitVec.ofNat 32 (2 ^ 32 - 50)
      ∧ (∀ sample ∈ afterTheWrap.2.samples, sample.rtt.toNat = 100)
      ∧ (afterTheWrap.1.perform RoomHost.openField 1 .detectDisconnected).1.session.leaveState
        = .pending := by
  have reached : (honestSystem RoomHost.openField 1 (2 ^ 32 - 50)).Reachable afterTheWrap :=
    reachable_of_honest (.initial ⟨rfl, rfl, rfl⟩) aroundTheWrap_honest
  obtain ⟨last, samples, -, -, -, verdict⟩ := honest_echoes reached
  refine ⟨last.trans (by decide), fun sample mem => ?_, ?_⟩
  · obtain rfl : sample = { rttMs := 100, rtt := 100, elapsed := 100 } := by
      exact List.mem_singleton.mp mem
    exact (samples _ mem).1
  · exact ((verdict (by decide) (by decide)).mpr ⟨2 ^ 32 - 50, by decide, by decide⟩).1

end SessionLink

end ExtractionServer.Room
