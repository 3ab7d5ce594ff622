import ApexEdge.Library.Sequence
import ApexEdge.Payment.StripeTerminal

/-! The event stream of one store and its two endpoints. An event gets the next number, is
kept for clients that connect again, and is handed to every receiver; a receiver that is too
far behind loses its oldest events. Then all that goes on there at once: publishers that
have come to any of their steps, and WebSocket clients that connect, are sent the replay,
and are forwarded what follows. -/

namespace ApexEdge.Hub.EventStream
open Payment Payment.StripeTerminal Library

inductive StreamKind where
  | cartUpdated | approvalRequested | approvalDecided | documentReady | syncProgress | priceChanged
  | returnUpdated | shiftUpdated | stockChanged | registerPresence | cartHandoff | heartbeat
  deriving DecidableEq, Repr

def StreamKind.asStr : StreamKind → String
  | .cartUpdated => "cart_updated"
  | .approvalRequested => "approval_requested"
  | .approvalDecided => "approval_decided"
  | .documentReady => "document_ready"
  | .syncProgress => "sync_progress"
  | .priceChanged => "price_changed"
  | .returnUpdated => "return_updated"
  | .shiftUpdated => "shift_updated"
  | .stockChanged => "stock_changed"
  | .registerPresence => "register_presence"
  | .cartHandoff => "cart_handoff"
  | .heartbeat => "heartbeat"

structure StreamEnvelope where
  version : String
  storeId : Uuid
  seq : Nat
  kind : String
  payload : Json

def historyCapacity : Nat := 256

/-- How many events a receiver can be behind. -/
def channelCapacity : Nat := 256

/-- What a handler publishes. -/
structure Notice where
  kind : StreamKind
  payload : Json

structure StoreChannel where
  storeId : Uuid
  seq : Nat
  history : List StreamEnvelope

namespace StoreChannel

def empty (storeId : Uuid) : StoreChannel := ⟨storeId, 0, []⟩

/-- The first step of `publish`: take the next number. -/
def allocate (channel : StoreChannel) (notice : Notice) : StreamEnvelope × StoreChannel :=
  (⟨"1.0.0", channel.storeId, channel.seq + 1, notice.kind.asStr, notice.payload⟩,
    { channel with seq := channel.seq + 1 })

/-- The second step: a full history loses its oldest event. -/
def remember (channel : StoreChannel) (envelope : StreamEnvelope) : StoreChannel :=
  let kept := if channel.history.length = historyCapacity then channel.history.tail else channel.history
  { channel with history := kept ++ [envelope] }

/-- Both steps; the envelope is then sent to the receivers. -/
def publish (channel : StoreChannel) (notice : Notice) : StreamEnvelope × StoreChannel :=
  let (envelope, channel) := channel.allocate notice
  (envelope, channel.remember envelope)

def publishAll (channel : StoreChannel) (notices : List Notice) : List StreamEnvelope × StoreChannel :=
  match notices with
  | [] => ([], channel)
  | notice :: notices =>
    let (envelope, channel) := channel.publish notice
    let (envelopes, channel) := channel.publishAll notices
    (envelope :: envelopes, channel)

end StoreChannel

inductive ReplayResult where
  | replay (events : List StreamEnvelope)
  | resnapshotRequired

/-- What the history has for a client: the event after `since` must still be there. -/
def retainedSince (history : List StreamEnvelope) (since : Nat) : ReplayResult :=
  match history.head? with
  | some earliest =>
    if earliest.seq ≤ since + 1 then .replay (history.filter (since < ·.seq)) else .resnapshotRequired
  | none => .resnapshotRequired

/-- A client that is current, or ahead after a restart, has nothing to replay. -/
def StoreChannel.eventsSince (channel : StoreChannel) (since : Nat) : ReplayResult :=
  if channel.seq ≤ since then .replay [] else retainedSince channel.history since

/-- The signal to fetch the whole state again. -/
def StoreChannel.resnapshot (channel : StoreChannel) : StreamEnvelope :=
  ⟨"1.0.0", channel.storeId, channel.seq, StreamKind.heartbeat.asStr,
    .object [("resnapshot_required", .bool true), ("reason", .string "requested seq predates retained history")]⟩

def StoreChannel.hello (channel : StoreChannel) : StreamEnvelope :=
  ⟨"1.0.0", channel.storeId, channel.seq, StreamKind.heartbeat.asStr, .object [("connected", .bool true)]⟩

/-- What a server-sent stream says when its receiver was too far behind. -/
def lagNotice (storeId : Uuid) : StreamEnvelope :=
  ⟨"1.0.0", storeId, 0, StreamKind.heartbeat.asStr, .object [("lagged", .bool true)]⟩

def buildReplay (channel : StoreChannel) (since : Nat) : List StreamEnvelope × Option StreamEnvelope :=
  match channel.eventsSince since with
  | .replay events => (events, none)
  | .resnapshotRequired => ([], some channel.resnapshot)

/-! ### Receivers -/

/-- One receiver of the broadcast channel: what it has not read, and how many it lost. -/
structure Receiver where
  queue : List StreamEnvelope
  missed : Nat

inductive Received where
  | event (envelope : StreamEnvelope)
  | lagged (missed : Nat)

namespace Receiver

def fresh : Receiver := ⟨[], 0⟩

def offer (receiver : Receiver) (envelope : StreamEnvelope) : Receiver :=
  if receiver.queue.length < channelCapacity then { receiver with queue := receiver.queue ++ [envelope] }
  else ⟨receiver.queue.tail ++ [envelope], receiver.missed + 1⟩

/-- The loss is reported first, once; then come the events that are left. -/
def recv (receiver : Receiver) : Option (Received × Receiver) :=
  if receiver.missed = 0 then
    match receiver.queue with
    | [] => none
    | envelope :: queue => some (.event envelope, { receiver with queue })
  else some (.lagged receiver.missed, { receiver with missed := 0 })

/-- Everything that is left to receive. -/
def drain (receiver : Receiver) : List Received :=
  (if receiver.missed = 0 then [] else [.lagged receiver.missed]) ++ receiver.queue.map .event

end Receiver

/-- Not one of the events up to `sentThrough`, which the replay has covered. -/
def isNews (sentThrough : Nat) (envelope : StreamEnvelope) : Bool := envelope.seq = 0 ∨ sentThrough < envelope.seq

/-- The forwarding loop of the WebSocket: it ends when the receiver reports a loss. -/
def forward (sentThrough : Nat) : List Received → List StreamEnvelope
  | [] => []
  | .lagged _ :: _ => []
  | .event envelope :: rest =>
    if isNews sentThrough envelope then envelope :: forward sentThrough rest else forward sentThrough rest

/-- A loss becomes an envelope of its own in the server-sent stream. -/
def Received.envelope (storeId : Uuid) : Received → StreamEnvelope
  | .event envelope => envelope
  | .lagged _ => lagNotice storeId

/-! ### The endpoints -/

/-- One store: its channel, and the open connections of its registers. -/
structure StreamHub where
  channel : StoreChannel
  presence : List (Uuid × Nat)

structure StreamQuery where
  registerId : Option Uuid
  since : Option Nat

namespace StreamHub

def isPresent (hub : StreamHub) (registerId : Uuid) : Bool := hub.presence.any (·.1 = registerId)

def connectRegister (hub : StreamHub) (registerId : Uuid) : StreamHub :=
  if hub.isPresent registerId then
    { hub with presence := hub.presence.map fun entry => if entry.1 = registerId then (entry.1, entry.2 + 1) else entry }
  else { hub with presence := hub.presence ++ [(registerId, 1)] }

def connectedNotice (hub : StreamHub) (registerId : Uuid) : Notice :=
  ⟨.registerPresence, .object [("event", .string "connected"), ("register_id", .string registerId.toString),
    ("present", .array (hub.presence.map fun entry => .string entry.1.toString))]⟩

/-- The first connection of a register is published. -/
def enter (hub : StreamHub) (registerId : Option Uuid) : List StreamEnvelope × StreamHub :=
  match registerId with
  | none => ([], hub)
  | some registerId =>
    let entered := hub.connectRegister registerId
    if hub.isPresent registerId then ([], entered)
    else
      let (envelope, channel) := entered.channel.publish (entered.connectedNotice registerId)
      ([envelope], { entered with channel })

end StreamHub

/-- What goes on while a client listens; in the end it reads all that is left. -/
inductive Activity where
  | publish (notice : Notice)
  | poll

def receptions (receiver : Receiver) (channel : StoreChannel) : List Activity → List Received
  | [] => receiver.drain
  | .publish notice :: rest =>
    let (envelope, channel) := channel.publish notice
    receptions (receiver.offer envelope) channel rest
  | .poll :: rest =>
    match receiver.recv with
    | none => receptions receiver channel rest
    | some (received, receiver) => received :: receptions receiver channel rest

/-- What a WebSocket client is sent. Its presence is published before it is subscribed;
`between` is published after that and before the history is read. -/
def posStreamWs (hub : StreamHub) (query : StreamQuery) (between : List Notice) (later : List Activity) :
    List StreamEnvelope :=
  let (_, hub) := hub.enter query.registerId
  let (missed, channel) := hub.channel.publishAll between
  let receiver := missed.foldl Receiver.offer Receiver.fresh
  let (replay, resnapshot) := (query.since.map (buildReplay channel)).getD ([], none)
  let sentThrough := ((replay ++ resnapshot.toList).map (·.seq)).foldl max 0
  hub.channel.hello :: replay ++ resnapshot.toList ++ forward sentThrough (receptions receiver channel later)

/-- What a client of the server-sent stream is sent. It is subscribed before its presence is
published, and what the replay has covered is left out of the replay as well. -/
def posStreamSse (hub : StreamHub) (query : StreamQuery) (between : List Notice) (later : List Activity) :
    List StreamEnvelope :=
  let (entered, hub) := hub.enter query.registerId
  let (missed, channel) := hub.channel.publishAll between
  let receiver := (entered ++ missed).foldl Receiver.offer Receiver.fresh
  let (replay, resnapshot) := (query.since.map (buildReplay channel)).getD ([], none)
  let replay := replay ++ resnapshot.toList
  let sentThrough := (replay.map (·.seq)).foldl max 0
  let live := (receptions receiver channel later).map (Received.envelope channel.storeId)
  (replay ++ live).filter (isNews sentThrough)

/-- A publisher that has its number, and one whose event is in the history as well. -/
inductive Publishing where
  | numbered (envelope : StreamEnvelope)
  | remembered (envelope : StreamEnvelope)

def Publishing.isRemembered : Publishing → Bool
  | .numbered _ => false
  | .remembered _ => true

/-- Where the handler of a connection has come to. -/
inductive Phase where
  | greeting
  | asking (since : Nat)
  | reading (since : Nat)
  | signalling
  | replaying (rest : List StreamEnvelope)
  | live
  | ended

structure Connection where
  since : Option Nat
  /-- Sends fail from when the client is gone. -/
  isOpen : Bool
  receiver : Receiver
  phase : Phase
  sentThrough : Nat
  hello : Option StreamEnvelope
  signal : Option StreamEnvelope
  /-- The events that were sent to the client. -/
  events : List StreamEnvelope

def Connection.subscribed (since : Option Nat) : Connection := ⟨since, true, .fresh, .greeting, 0, none, none, []⟩

/-- The next step of a connection's handler. -/
def Connection.advance (channel : StoreChannel) (connection : Connection) : Connection :=
  match connection.phase with
  | .greeting =>
    if connection.isOpen then
      let phase := match connection.since with
        | some since => .asking since
        | none => .live
      { connection with hello := some channel.hello, phase }
    else { connection with phase := .ended }
  | .asking since => { connection with phase := if channel.seq ≤ since then .live else .reading since }
  | .reading since =>
    match retainedSince channel.history since with
    | .replay events => { connection with phase := .replaying events }
    | .resnapshotRequired => { connection with phase := .signalling }
  | .signalling =>
    -- the result of this send is not looked at
    { connection with
      sentThrough := max connection.sentThrough channel.seq
      signal := if connection.isOpen then some channel.resnapshot else none
      phase := .live }
  | .replaying [] => { connection with phase := .live }
  | .replaying (envelope :: rest) =>
    if connection.isOpen then
      { connection with
        sentThrough := max connection.sentThrough envelope.seq
        events := connection.events ++ [envelope]
        phase := .replaying rest }
    else { connection with phase := .ended }
  | .live =>
    match connection.receiver.recv with
    | none => connection
    -- the loop goes on while there is an event to receive
    | some (.lagged _, receiver) => { connection with receiver, phase := .ended }
    | some (.event envelope, receiver) =>
      if isNews connection.sentThrough envelope then
        if connection.isOpen then { connection with receiver, events := connection.events ++ [envelope] }
        else { connection with receiver, phase := .ended }
      else { connection with receiver }
  | .ended => connection

/-- The handler has nothing to do before another event is sent to its receiver. -/
def Connection.isIdle (connection : Connection) : Bool :=
  match connection.phase with
  | .live => connection.receiver.recv.isNone
  | .ended => true
  | _ => false

/-- `issued` is kept for the record: every event that was given a number since the hub started. -/
structure StreamRoom where
  channel : StoreChannel
  publishing : List Publishing
  connections : List Connection
  issued : List StreamEnvelope

inductive StreamStep where
  | publish (notice : Notice)
  | publisher (index : Nat)
  | connect (since : Option Nat)
  | client (index : Nat)
  | disconnect (index : Nat)
  | restart

namespace StreamRoom

def opened (storeId : Uuid) : StreamRoom := ⟨.empty storeId, [], [], []⟩

def apply (room : StreamRoom) : StreamStep → StreamRoom
  | .publish notice =>
    let (envelope, channel) := room.channel.allocate notice
    { room with
      channel
      publishing := room.publishing ++ [.numbered envelope]
      issued := room.issued ++ [envelope] }
  | .publisher index =>
    match room.publishing[index]? with
    | none => room
    | some (.numbered envelope) =>
      { room with
        channel := room.channel.remember envelope
        publishing := room.publishing.set index (.remembered envelope) }
    | some (.remembered envelope) =>
      { room with
        publishing := room.publishing.eraseIdx index
        connections := room.connections.map fun connection =>
          { connection with receiver := connection.receiver.offer envelope } }
  | .connect since => { room with connections := room.connections ++ [.subscribed since] }
  | .client index => { room with connections := room.connections.modify index (.advance room.channel) }
  | .disconnect index =>
    { room with connections := room.connections.modify index fun connection => { connection with isOpen := false } }
  | .restart => opened room.channel.storeId

end StreamRoom

end ApexEdge.Hub.EventStream
