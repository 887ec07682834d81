import ExtractionServer.Ipc.StreamDecoding
import ExtractionServer.Matchmaking.DediManager

/-! The requests of the HTTP server, as the main process handles them, and what becomes of the
connection when one of them is rejected.
-/

namespace ExtractionServer.Matchmaking

open Ipc Lobby

-----------------------------------------------------------------------------------------
-- The handlers
-----------------------------------------------------------------------------------------

/-- What the handlers of the main process work on. Commands to Redis and ticket objects are
counted; `forwarded` holds the bindings sent on to dedicated processes.
-/
structure MainProcess where
  redis : Redis
  manager : DediManager := {}
  commands : Nat := 0
  acquired : Nat := 0
  forwarded : List (Int × String × String) := []
  terminated : Bool := false

/-- What the model takes from outside: what other processes do to Redis before each command,
which commands fail, the clock when a ticket object is made, how payloads are parsed, and the
handlers of the packets that dedicated processes send.
-/
structure Outside where
  others : Nat → Redis → Redis
  fails : Nat → Bool
  clock : Nat → TimePoint
  parseWelcome : List UInt8 → Option Int
  parseMatchMake : List UInt8 → Option String
  parseMatchMakeCancel : List UInt8 → Option String
  parseBindClientIpToSession : List UInt8 → Option (String × String)
  fromDedicated : Handlers MainProcess

namespace MainProcess

/-- One command: Redis as it is when the command runs, and whether it is answered. -/
def command (outside : Outside) (main : MainProcess) : MainProcess × Bool :=
  ({ main with
      redis := outside.others main.commands main.redis
      commands := main.commands + 1 }, !outside.fails main.commands)

/-- `Handle_H2M_MatchMake`. A hash without the creation fields makes `val.at` throw what the
handler does not catch, and the process ends.
-/
def handleH2MMatchMake (outside : Outside) (main : MainProcess) (ticketKey : String)
    : MainProcess × Bool :=
  let (main, answered) := main.command outside
  if !answered then (main, false)
  else
    match main.redis.tickets.lookup ticketKey with
    | none => (main, false)
    | some hash =>
        match hash.fields with
        | none => ({ main with terminated := true }, false)
        | some fields =>
            let ticket : MatchTicket :=
              { ticketId := ticketKey
                uId := fields.uid
                aggression := fields.aggression.toNat
                mapId := fields.mapId
                characterType := fields.characterType
                startTime := outside.clock main.acquired }
            let (manager, added) := main.manager.addSingleMatchTicket main.acquired ticket
            ({ main with manager, acquired := main.acquired + 1 }, added)

/-- `DediManager::BindClientIpToSession`: the binding goes to the process that issued the
token, and the token and its ticket are deleted. Errors are caught.
-/
def bindClientIpToSession (outside : Outside) (main : MainProcess) (token ip : String)
    : MainProcess :=
  let (main, answered) := main.command outside
  if !answered then main
  else
    match main.redis.tokens.lookup token with
    | none => main
    | some hash =>
        match main.manager.sessionFd2pid.lookup hash.fd with
        | none => main
        | some pid =>
            if pid ∉ main.manager.dediSessions then main
            else
              let main := { main with forwarded := main.forwarded ++ [(pid, token, ip)] }
              let (main, answered) := main.command outside
              if !answered then main
              else
                let ticketKey := (main.redis.tokens.lookup token).map (·.ticket)
                let (main, answered) := main.command outside
                if !answered then main
                else
                  let redis :=
                    { main.redis with tokens := main.redis.tokens.erase token }
                  { main with
                    redis := (ticketKey.map redis.delTicket).getD redis }

/-- The handler table of the main process. The handler of a cancellation only prints. -/
def handlers (outside : Outside) : Handlers MainProcess
  | .h2mWelcome, main, payload => (main, (outside.parseWelcome payload).isSome)
  | .h2mMatchMake, main, payload =>
      match outside.parseMatchMake payload with
      | none => (main, false)
      | some ticketKey => main.handleH2MMatchMake outside ticketKey
  | .h2mMatchMakeCancel, main, payload => (main, (outside.parseMatchMakeCancel payload).isSome)
  | .h2m2dBindClientIpToSession, main, payload =>
      match outside.parseBindClientIpToSession payload with
      | none => (main, false)
      | some (token, ip) => (main.bindClientIpToSession outside token ip, true)
  | id, main, payload => outside.fromDedicated id main payload

-----------------------------------------------------------------------------------------
-- Requests
-----------------------------------------------------------------------------------------

inductive HttpRequest where
  | matchMake (ticketKey : String)
  | matchMakeCancel (ticketKey : String)
  | bindClientIpToSession (token ip : String)
deriving DecidableEq

/-- The request that a packet carries. -/
def request (outside : Outside) (packet : List UInt8) : Option HttpRequest :=
  let payload := packet.drop PACKET_HEADER_SIZE
  match (PacketHeader.read packet).bind fun header => PacketId.ofNat? header.id with
  | some .h2mMatchMake => (outside.parseMatchMake payload).map .matchMake
  | some .h2mMatchMakeCancel => (outside.parseMatchMakeCancel payload).map .matchMakeCancel
  | some .h2m2dBindClientIpToSession =>
      (outside.parseBindClientIpToSession payload).map fun (token, ip) =>
        .bindClientIpToSession token ip
  | _ => none

/-- When the next command is served, it is answered, and the ticket is there with all fields
and an existing map.
-/
def TicketThere (outside : Outside) (main : MainProcess) (ticketKey : String) : Prop :=
  outside.fails main.commands = false
  ∧ ∃ hash fields,
      (outside.others main.commands main.redis).tickets.lookup ticketKey = some hash
      ∧ hash.fields = some fields
      ∧ 0 ≤ fields.mapId ∧ fields.mapId < MAP_MAX

/-- A match request succeeds exactly when its ticket is there. -/
theorem handleH2MMatchMake_iff (outside : Outside) (main : MainProcess) (ticketKey : String)
    : (main.handleH2MMatchMake outside ticketKey).2 = true
      ↔ TicketThere outside main ticketKey := by
  unfold handleH2MMatchMake TicketThere command
  cases outside.fails main.commands with
  | true => simp
  | false =>
      cases found : (outside.others main.commands main.redis).tickets.lookup ticketKey with
      | none => simp [found]
      | some hash =>
          cases created : hash.fields with
          | none => simp [found, created]
          | some fields =>
              simp only [found, created, DediManager.addSingleMatchTicket]
              by_cases known : 0 ≤ fields.mapId ∧ fields.mapId < MAP_MAX
              · simp [created, known]
              · simp [created, known]

/-- A packet with a request is accepted unless it asks for a match without a ticket. -/
theorem handlePacket_request {outside : Outside} {main : MainProcess} {packet : List UInt8}
    {asked : HttpRequest} (carries : request outside packet = some asked)
    : (handlePacket (handlers outside) main packet).2 = true
      ↔ ∀ ticketKey, asked = .matchMake ticketKey → TicketThere outside main ticketKey := by
  unfold request at carries
  unfold handlePacket
  cases read : PacketHeader.read packet with
  | none => simp [read] at carries
  | some header =>
      cases registered : PacketId.ofNat? header.id with
      | none => simp [read, registered] at carries
      | some id =>
          simp only [read, registered, Option.bind_some] at carries ⊢
          split at carries
          · next isMatchMake =>
              obtain ⟨key, parsed, rfl⟩ := Option.map_eq_some_iff.mp carries
              cases isMatchMake
              simp only [handlers, parsed, handleH2MMatchMake_iff]
              constructor
              · rintro there _ ⟨⟩
                exact there
              · exact fun there => there key rfl
          · next isCancel =>
              obtain ⟨key, parsed, rfl⟩ := Option.map_eq_some_iff.mp carries
              cases isCancel
              simp [handlers, parsed]
          · next isBind =>
              obtain ⟨⟨token, ip⟩, parsed, rfl⟩ := Option.map_eq_some_iff.mp carries
              cases isBind
              simp [handlers, parsed]
          · cases carries

-----------------------------------------------------------------------------------------
-- The connection
-----------------------------------------------------------------------------------------

/-- The connection of the HTTP server dispatches all of its requests, whatever the chunking,
and keeps a receive registered exactly when the stream is shorter than the receive buffer and
no match request comes to be dispatched without its ticket.
-/
theorem httpIPCSession_decodes_iff (outside : Outside) (main : MainProcess)
    (packets : List (List UInt8))
    (wellFormed : ∀ packet ∈ packets,
      WellFormedPacket packet ∧ (request outside packet).isSome = true)
    : (HttpIPCSession (handlers outside)).Decodes main packets
      ↔ packets.flatten.length < 65536
        ∧ ∀ before packet rest ticketKey, packets = before ++ packet :: rest →
            request outside packet = some (.matchMake ticketKey) →
            TicketThere outside (worldAfter (handlers outside) main before) ticketKey := by
  have loop : (HttpIPCSession (handlers outside)).Decodes main packets ↔ _ :=
    IpcSession.decodes_iff_handled (handlers outside) main
      fun packet mem => (wellFormed packet mem).1
  rw [loop, handledInOrder_iff, and_comm]
  refine and_congr_right fun _ => ⟨?_, ?_⟩
  · intro accepted before packet rest ticketKey split asks
    exact (handlePacket_request asks).mp (accepted before packet rest split) ticketKey rfl
  · intro there before packet rest split
    have mem : packet ∈ packets := split ▸ List.mem_append_right _ List.mem_cons_self
    obtain ⟨asked, carries⟩ := Option.isSome_iff_exists.mp (wellFormed packet mem).2
    refine (handlePacket_request carries).mpr fun ticketKey asks => ?_
    exact there before packet rest ticketKey split (asks ▸ carries)

/-- A protobuf message whose only field is a string below 128 bytes. -/
def parseString : List UInt8 → Option String
  | 10 :: size :: bytes =>
      if bytes.length = size.toNat then
        some (String.ofList (bytes.map fun byte => Char.ofNat byte.toNat))
      else none
  | _ => none

/-- Two strings below 128 bytes. -/
def parseStrings : List UInt8 → Option (String × String)
  | 10 :: size :: bytes =>
      match parseString (10 :: size :: bytes.take size.toNat), bytes.drop size.toNat with
      | some first, 18 :: rest =>
          (parseString (10 :: rest)).map fun second => (first, second)
      | _, _ => none
  | _ => none

/-- Redis answers, and other processes change it as given. -/
def withOthers (others : Nat → Redis → Redis) : Outside where
  others
  fails _ := false
  clock n := n
  parseWelcome _ := none
  parseMatchMake := parseString
  parseMatchMakeCancel := parseString
  parseBindClientIpToSession := parseStrings
  fromDedicated _ main _ := (main, false)

/-- A request for the ticket `t`, and its cancellation. -/
def matchMakePacket : List UInt8 := [2, 0, 7, 0, 10, 1, 116]

def matchMakeCancelPacket : List UInt8 := [3, 0, 7, 0, 10, 1, 116]

theorem packets_wellFormed (others : Nat → Redis → Redis)
    : ∀ packet ∈ [matchMakePacket, matchMakeCancelPacket],
        WellFormedPacket packet ∧ (request (withOthers others) packet).isSome = true := by
  intro packet mem
  rcases List.mem_pair.mp mem with rfl | rfl
  · exact ⟨⟨by decide, by decide, _, rfl, rfl, rfl⟩, rfl⟩
  · exact ⟨⟨by decide, by decide, _, rfl, rfl, rfl⟩, rfl⟩

/-- The main process while the ticket `t` of account 1 waits. -/
def withTicket : MainProcess where
  redis :=
    { tickets := AList.singleton "t"
        { fields := some
            { uid := 1, userId := "alpha", rating := 1500, aggression := 5,
              loadoutType := .free, mapId := 1, characterType := 0 }
          status := some .waiting }
      activeMatch := AList.singleton 1 (.ticket "t") }

/-- While the ticket stays both requests are dispatched. -/
theorem httpIPCSession_decodes_two
    : (HttpIPCSession (handlers (withOthers fun _ redis => redis))).Decodes withTicket
        [matchMakePacket, matchMakeCancelPacket] := by
  refine (httpIPCSession_decodes_iff _ withTicket _ (packets_wellFormed _)).mpr
    ⟨by decide, ?_⟩
  intro before packet rest ticketKey split asks
  match before, split with
  | [], split =>
      obtain ⟨rfl, rfl⟩ := List.cons.inj split
      obtain rfl : "t" = ticketKey := by
        have same : request (withOthers fun _ redis => redis) matchMakePacket
          = some (.matchMake "t") := by decide +kernel
        exact HttpRequest.matchMake.inj (Option.some.inj (same.symm.trans asks))
      exact ⟨rfl, _, _, rfl, rfl, by decide, by decide⟩
  | [_], split =>
      obtain ⟨rfl, rfl⟩ := List.cons.inj (List.cons.inj split).2
      cases asks
  | _ :: _ :: before, split =>
      have := congrArg List.length split
      simp at this

/-- The player cancels before the request is dispatched: the ticket is gone, the request is
rejected, and the connection never reads again.
-/
theorem httpIPCSession_stops_after_cancel
    : ¬(HttpIPCSession (handlers (withOthers fun _ redis =>
          (redis.matchCancel "t" 1).1))).Decodes withTicket
        [matchMakePacket, matchMakeCancelPacket] := by
  intro decodes
  have condition := ((httpIPCSession_decodes_iff _ withTicket _
    (packets_wellFormed _)).mp decodes).2
  have asks : request (withOthers fun _ redis => (redis.matchCancel "t" 1).1) matchMakePacket
      = some (.matchMake "t") := by decide +kernel
  obtain ⟨_, hash, _, found, _⟩ := condition [] matchMakePacket _ "t" rfl asks
  have gone : ((withTicket.redis.matchCancel "t" 1).1.tickets.lookup "t").isNone = true := by
    decide +kernel
  have found : (withTicket.redis.matchCancel "t" 1).1.tickets.lookup "t" = some hash := found
  rw [found] at gone
  cases gone

end MainProcess

end ExtractionServer.Matchmaking
