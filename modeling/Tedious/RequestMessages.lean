import Tedious.BulkLoad
import Tedious.Connection.State
import Tedious.IncomingMessageStream
import Tedious.PayloadStream
import Tedious.RpcRequestPayload
import Tedious.TransactionPayload

/-!
# Tedious.RequestMessages

From the requests of a connection to what a server reads of its bytes. A payload that was stopped
leaves a message that is marked to be ignored in its last packet, when the packets before it are
sent already.

`serve` is the server's side: it takes the packets apart, puts the messages together, drops those
that are marked and reads the others by their types. `requests_arrive` says that these are the
requests that were sent whole, each with all of its payload, and that it is read as the request that
it is where what it is made of can be read.
-/

namespace Tedious

open Chunked

/-! ### The client -/

section Client

variable {js : Runtime} {useUTC : Bool}

/-- What `makeRequest` is given to send. -/
inductive RequestPayload (js : Runtime) (useUTC : Bool)
  | sqlBatch (payload : SqlBatchPayload)
  | rpcRequest (payload : RpcRequestPayload js useUTC)
  /-- The rows of a source that ends, or fails behind them. -/
  | bulkLoad (load : BulkLoad) (rows : List BulkRow) (error : Option JsError)
  | transactionManager (txnDescriptor : Bytes) (isolationLevel : Nat) (request : TransactionRequest)

namespace RequestPayload

def packetType : RequestPayload js useUTC → RequestType
  | sqlBatch _ => .SQL_BATCH
  | rpcRequest _ => .RPC_REQUEST
  | bulkLoad .. => .BULK_LOAD
  | transactionManager .. => .TRANSACTION_MANAGER

/-- What the payload yields. -/
def chunks : RequestPayload js useUTC → Except JsError (List Bytes)
  | sqlBatch payload => payload.iterator
  | rpcRequest payload => payload.generateData
  | bulkLoad load rows none => load.push js false rows
  | bulkLoad _ _ (some error) => .error error
  | transactionManager txnDescriptor isolationLevel request =>
    (request.payload txnDescriptor isolationLevel).map fun data => [data]

/-- The chunks that the payload yields, and the error that it throws behind them. -/
def Yields (payload : RequestPayload js useUTC) (chunks : List Bytes) : Option JsError → Prop
  | none => payload.chunks = .ok chunks
  | some error => payload.chunks = .error error

/-- The data that the payload returns behind. -/
def Returns (payload : RequestPayload js useUTC) (data : Bytes) : Prop :=
  payload.chunks.map List.flatten = .ok data

/-- What a payload that yields its chunks one after the other has come to when its message ends. -/
theorem Yields.flows {payload : RequestPayload js useUTC} {chunks : List Bytes}
    {error : Option JsError} (h : payload.Yields chunks error) {es : List (PayloadEvent Empty)}
    {s : PayloadStream (List Bytes × Option JsError)}
    (hrun : (PayloadStream.machine .ofList).Runs (.start (chunks, error)) es s)
    (hclosed : s.closed = true) : Flows payload.Returns s.events := by
  have hflows := PayloadStream.flows_ofList hrun hclosed
  cases error with
  | none =>
    have hreturns : ∀ data, payload.Returns data ↔ data = chunks.flatten := fun data => by
      rw [Returns, h]
      exact (Except.ok.injEq chunks.flatten data).to_iff.trans eq_comm
    exact ⟨fun hignore => (hreturns _).2 (hflows.whole hignore).1,
      fun hdata => hflows.isPrefix ⟨(hreturns _).1 hdata, rfl⟩⟩
  | some error =>
    refine ⟨fun hignore => absurd (hflows.whole hignore).2 nofun, fun {data} hdata => ?_⟩
    rw [Returns, h] at hdata
    cases hdata

end RequestPayload

/-- What is written to the outgoing stream of a connection that is logged in: the message of a
request, or the one of `sendMessage(TYPE.ATTENTION)`. -/
inductive Sending (js : Runtime) (useUTC : Bool)
  | request (payload : RequestPayload js useUTC) (resetConnection : Bool)
      (events : List MessageEvent) (flows : Flows payload.Returns events)
  | attention

namespace Sending

def message : Sending js useUTC → Message
  | request payload resetConnection events _ =>
    { type := payload.packetType.toMessageType.toByte, resetConnection, events }
  | attention =>
    { type := MessageType.ATTENTION.toByte, resetConnection := false, events := [] }

/-- Nothing has stopped the payload. -/
def isWhole (sending : Sending js useUTC) : Bool := decide (.ignore ∉ sending.message.events)

end Sending

/-- The packets of messages, each with the packet size in force when it is written. -/
def writePackets : (bl : Bytes) → List (PacketSize × Message) → List Packet
  | _, [] => []
  | bl, (size, message) :: messages =>
    let s := OutgoingMessageStream.writeFrom size bl message
    s.pushed ++ writePackets s.bl messages

/-- The bytes that the stream pushes. -/
def sentBytes (sent : List (PacketSize × Sending js useUTC)) : Bytes :=
  (writePackets [] (sent.map fun (size, sending) => (size, sending.message))).flatMap Packet.buffer

end Client

/-! ### The server -/

/-- A message that has been put together. -/
structure ServerMessage where
  type : UInt8
  resetConnection : Bool
  data : Bytes

/-- What a message asks for. -/
inductive ReadRequest
  | sqlBatch (headers : List RequestHeader) (sqlText : JsString)
  | rpcRequest (call : ReadRpcRequest)
  | bulkLoad (tokens : List (Option Token))
  | transactionManager (headers : List RequestHeader) (command : TransactionCommand)
  | attention

structure ReadMessage where
  resetConnection : Bool
  request : ReadRequest

/-- The packets of some bytes, each as long as its header says. -/
def readPackets : (rounds : Nat) → Bytes → Option (List Packet)
  | _, [] => some []
  | 0, _ :: _ => none
  | rounds + 1, bytes =>
    let length := readUInt16BE bytes 2
    if length < HEADER_LENGTH ∨ bytes.length < length then none
    else (readPackets rounds (bytes.drop length)).map (⟨bytes.take length⟩ :: ·)

/-- The first packet says what the message is. -/
def ServerMessage.ofPackets (begun : List Packet) (last : Packet) : ServerMessage :=
  let first := begun.head?.getD last
  { type := first.type, resetConnection := first.resetsConnection
    data := begun.flatMap Packet.data ++ last.data }

/-- The messages that packets make up, without those that the last packet says to ignore. -/
def keptMessages : (begun : List Packet) → List Packet → Option (List ServerMessage)
  | [], [] => some []
  | _ :: _, [] => none
  | begun, packet :: packets =>
    if packet.isLast then
      if packet.isIgnored then keptMessages [] packets
      else (keptMessages [] packets).map (.ofPackets begun packet :: ·)
    else keptMessages (begun ++ [packet]) packets

/-- The rows of a bulk load are read as the tokens that they are. -/
def readBulkLoad (options : ParserOptions) (data : Bytes) : Option (List (Option Token)) :=
  match (parser options).scanAll data [] with
  | (tokens, .returned) => some tokens
  | _ => none

def readRequest (options : ParserOptions) (type : UInt8) (data : Bytes) : Option ReadRequest :=
  match type with
  | 0x01 => (readBatch options.tdsVersion data).map fun (headers, sqlText) =>
    .sqlBatch headers sqlText
  | 0x03 => (readRpcRequest options data).map .rpcRequest
  | 0x06 => some .attention
  | 0x07 => (readBulkLoad options data).map .bulkLoad
  | 0x0E => (readTransaction options.tdsVersion data).map fun (headers, command) =>
    .transactionManager headers command
  | _ => none

def ServerMessage.read (options : ParserOptions) (message : ServerMessage) : Option ReadMessage :=
  (readRequest options message.type message.data).map fun request =>
    { resetConnection := message.resetConnection, request }

/-- The messages that are in the bytes of a client. -/
def receive (bytes : Bytes) : Option (List ServerMessage) := do
  let packets ← readPackets bytes.length bytes
  keptMessages [] packets

/-- What a server reads of the bytes of a client. -/
def serve (options : ParserOptions) (bytes : Bytes) : Option (List ReadMessage) := do
  let messages ← receive bytes
  messages.mapM (ServerMessage.read options)

/-! ### Packets and messages -/

/-- **The packets are found again**, whatever the rounds that are left. -/
theorem readPackets_flatMap {packets : List Packet} (hwf : ∀ p ∈ packets, p.WellFormed)
    {rounds : Nat} (hrounds : (packets.flatMap Packet.buffer).length ≤ rounds) :
    readPackets rounds (packets.flatMap Packet.buffer) = some packets := by
  induction packets generalizing rounds with
  | nil => cases rounds <;> rfl
  | cons p packets ih =>
    have hp := hwf p List.mem_cons_self
    have hheader : 8 ≤ p.buffer.length := hp.header
    rw [List.flatMap_cons, List.length_append] at hrounds
    obtain ⟨rounds, rfl⟩ : ∃ n, rounds = n + 1 := ⟨rounds - 1, by omega⟩
    have hlong : HEADER_LENGTH ≤ (p.buffer ++ packets.flatMap Packet.buffer).length := by
      rw [List.length_append]
      exact hp.header.trans (Nat.le_add_right ..)
    have hread : readUInt16BE (p.buffer ++ packets.flatMap Packet.buffer) 2 = p.buffer.length :=
      IncomingMessageStream.readUInt16BE_prefix hp hlong (List.append_nil _)
    obtain ⟨b, bytes, hbytes⟩ : ∃ b bytes, p.buffer ++ packets.flatMap Packet.buffer = b :: bytes :=
      List.exists_cons_of_length_pos (by rw [List.length_append]; omega)
    have hfits : ¬ (p.buffer.length < HEADER_LENGTH ∨
        (p.buffer ++ packets.flatMap Packet.buffer).length < p.buffer.length) := by
      rw [List.length_append, HEADER_LENGTH]
      omega
    have hle : (packets.flatMap Packet.buffer).length ≤ rounds := by omega
    have hrest := ih (fun q hq => hwf q (List.mem_cons_of_mem _ hq)) hle
    rw [List.flatMap_cons, hbytes, readPackets.eq_def]
    dsimp only
    rw [← hbytes, hread, if_neg hfits, List.drop_left, List.take_left, hrest]
    rfl

/-- The packets of one message, up to its last. -/
theorem keptMessages_append {init : List Packet} (hinit : ∀ p ∈ init, p.isLast = false)
    {last : Packet} (hlast : last.isLast = true) (begun packets : List Packet) :
    keptMessages begun (init ++ last :: packets) =
      if last.isIgnored then keptMessages [] packets
      else (keptMessages [] packets).map (.ofPackets (begun ++ init) last :: ·) := by
  induction init generalizing begun with
  | nil => rw [List.nil_append, List.append_nil, keptMessages, if_pos hlast]
  | cons p init ih =>
    rw [List.cons_append, keptMessages, hinit p List.mem_cons_self, if_neg Bool.false_ne_true,
      ih (fun q hq => hinit q (List.mem_cons_of_mem _ hq)), List.append_assoc]
    rfl

/-- **One message**, behind which others come. -/
theorem keptMessages_structured {size : PacketSize} {message : Message} {sent : List Packet}
    (h : OutgoingMessageStream.Structured size message sent) (packets : List Packet) :
    keptMessages [] (sent ++ packets) =
      if .ignore ∈ message.events then keptMessages [] packets
      else (keptMessages [] packets).map
        ({ type := message.type, resetConnection := message.resetConnection
           data := message.data } :: ·) := by
  obtain ⟨last, hsome, hlast, hignored⟩ := h.last
  obtain ⟨init, rfl⟩ : ∃ init, sent = init ++ [last] :=
    ⟨sent.dropLast, (List.dropLast_append_getLast? _ hsome).symm⟩
  have hfull := h.full
  rw [List.dropLast_concat] at hfull
  rw [List.append_assoc, List.singleton_append,
    keptMessages_append (fun p hp => (hfull p hp).2.1) hlast, hignored, List.nil_append]
  by_cases hmem : .ignore ∈ message.events
  · rw [if_pos hmem, if_pos (decide_eq_true hmem)]
  · have hfirst : init.head?.getD last ∈ init ++ [last] := by cases init <;> simp
    have hdata := h.data_eq hmem
    rw [List.flatMap_append, List.flatMap_singleton] at hdata
    rw [if_neg hmem, if_neg (by simpa using hmem), ServerMessage.ofPackets, hdata,
      (h.header _ hfirst).1, (h.header _ hfirst).2]

/-! ### Requests -/

section Requests

variable {js : Runtime} {useUTC : Bool} {options : ParserOptions}

/-- The tokens of some rows: the description of the columns if there are rows, the rows, and the
end. -/
def BulkLoad.Received (js : Runtime) (load : BulkLoad) (options : ParserOptions)
    (rows : List BulkRow) (tokens : List (Option Token)) : Prop :=
  ∃ metadata shown, (rows ≠ [] → List.Forall₂ (load.Describes js options) load.columns metadata) ∧
    List.Forall₂ (load.ShowsRow js metadata) rows shown ∧
    tokens = (if rows = [] then [] else [some (.colMetadata metadata)]) ++
      (shown.map (fun columns => some (.row (rowColumns options columns))) ++
        [some (.done noRowCount)])

namespace RequestPayload

/-- The payload has the connection's version and the transaction descriptor it was given, and what
it is made of can be read. -/
def Readable (options : ParserOptions) : RequestPayload js useUTC → Prop
  | sqlBatch payload =>
    payload.tdsVersion = options.tdsVersion ∧ payload.txnDescriptor.length = 8
  | rpcRequest payload =>
    payload.tdsVersion = options.tdsVersion ∧ payload.txnDescriptor.length = 8 ∧
      (∀ name, payload.procedure = .name name → name.length ≠ 65535) ∧
      ∀ parameter ∈ payload.parameters, parameter.Readable payload.collation
  | bulkLoad load _ _ =>
    load.tdsVersion = options.tdsVersion ∧ ∀ column ∈ load.columns, column.type.isColumn = true
  | transactionManager txnDescriptor isolationLevel _ =>
    since72 options.tdsVersion = true ∧ txnDescriptor.length = 8 ∧ isolationLevel ≤ 5

/-- A request that has been read, next to the payload that was sent. -/
def Received (options : ParserOptions) : RequestPayload js useUTC → ReadRequest → Prop
  | sqlBatch payload, .sqlBatch headers sqlText =>
    headers = requestHeaders payload.tdsVersion payload.txnDescriptor ∧ sqlText = payload.sqlText
  | rpcRequest payload, .rpcRequest call => payload.Received options call
  | bulkLoad load rows _, .bulkLoad tokens => load.Received js options rows tokens
  | transactionManager txnDescriptor isolationLevel request, .transactionManager headers command =>
    headers = requestHeaders options.tdsVersion txnDescriptor ∧
      command = request.command isolationLevel
  | _, _ => False

end RequestPayload

/-- The rows of a bulk load are read, or that there are none. -/
theorem readBulkLoad_push {load : BulkLoad} (hversion : load.tdsVersion = options.tdsVersion)
    (hcolumns : ∀ column ∈ load.columns, column.type.isColumn = true) {rows : List BulkRow}
    {chunks : List Bytes} (h : load.push js false rows = .ok chunks) :
    ∃ tokens, readBulkLoad options chunks.flatten = some tokens ∧
      load.Received js options rows tokens := by
  cases rows with
  | nil =>
    cases h
    obtain ⟨bytes, hbytes, htakes⟩ := BulkLoad.done_takes options hversion.symm []
    refine ⟨_, ?_, [], [], absurd rfl, .nil, rfl⟩
    rw [readBulkLoad, List.flatten_cons, List.flatten_nil, List.append_nil, hbytes,
      ← List.append_nil bytes, (parser options).scanAll_takes htakes]
    rfl
  | cons row rows =>
    obtain ⟨bytes, rest, hwritten, hrest, rfl⟩ := BulkLoad.push_first h
    obtain ⟨described, metadata, rfl, hall, htakes⟩ :=
      BulkLoad.colMetadata_takes options hversion.symm hcolumns hwritten []
    obtain ⟨shown, hshown, hscan⟩ := BulkLoad.scanAll_push hversion.symm hall hrest
    refine ⟨_, ?_, metadata, shown, fun _ => hall, hshown, rfl⟩
    rw [readBulkLoad, List.flatten_cons, List.cons_append, (parser options).scanAll_takes htakes,
      hscan]
    rfl

namespace RequestPayload

theorem Returns.exists_chunks {payload : RequestPayload js useUTC} {data : Bytes}
    (h : payload.Returns data) :
    ∃ chunks, payload.chunks = .ok chunks ∧ chunks.flatten = data := by
  rw [Returns] at h
  cases hchunks : payload.chunks with
  | error e =>
    rw [hchunks] at h
    cases h
  | ok chunks =>
    rw [hchunks] at h
    exact ⟨chunks, rfl, Except.ok.inj h⟩

/-- **A payload that was sent whole is read**, by the type of its message. -/
theorem readRequest_returns {payload : RequestPayload js useUTC}
    (hreadable : payload.Readable options) {data : Bytes} (hreturns : payload.Returns data) :
    ∃ request, readRequest options payload.packetType.toMessageType.toByte data = some request ∧
      payload.Received options request := by
  obtain ⟨chunks, h, rfl⟩ := hreturns.exists_chunks
  cases payload with
  | sqlBatch payload =>
    obtain ⟨hversion, hdescriptor⟩ := hreadable
    obtain ⟨written, hwritten, hread⟩ := readBatch_iterator payload hdescriptor
    cases h.symm.trans hwritten
    rw [hversion] at hread
    refine ⟨.sqlBatch _ _, congrArg (Option.map _) hread, ?_, rfl⟩
    rw [hversion]
  | rpcRequest payload =>
    obtain ⟨hversion, hdescriptor, hmarker, hparameters⟩ := hreadable
    obtain ⟨call, hread, hreceived⟩ :=
      received_generateData hversion.symm hdescriptor hmarker hparameters h
    exact ⟨.rpcRequest call, congrArg (Option.map _) hread, hreceived⟩
  | bulkLoad load rows error =>
    cases error with
    | some error => cases h
    | none =>
      obtain ⟨tokens, hread, hreceived⟩ := readBulkLoad_push hreadable.1 hreadable.2 h
      exact ⟨.bulkLoad tokens, congrArg (Option.map _) hread, hreceived⟩
  | transactionManager txnDescriptor isolationLevel request =>
    obtain ⟨hsince, hdescriptor, hlevel⟩ := hreadable
    -- A payload that was written has a name that fits.
    have hname : request.name.length < 128 := by
      by_contra hge
      have herror := TransactionRequest.payload_error hdescriptor hlevel (Nat.not_lt.1 hge)
      rw [RequestPayload.chunks, herror] at h
      cases h
    rw [RequestPayload.chunks, TransactionRequest.payload_eq hdescriptor hlevel hname] at h
    cases h
    have hread := readTransaction_append hsince hdescriptor
      (TransactionRequest.bytes_reads hlevel hname)
    rw [List.flatten_singleton]
    exact ⟨.transactionManager _ _, congrArg (Option.map _) hread, rfl, rfl⟩

end RequestPayload

/-! ### Everything that is sent -/

namespace Sending

/-- All of the payload; an attention has none. -/
def Returns : Sending js useUTC → Bytes → Prop
  | request payload _ _ _, data => payload.Returns data
  | attention, data => data = []

/-- What is promised of the payload of a request. -/
def Readable (options : ParserOptions) : Sending js useUTC → Prop
  | request payload _ _ _ => payload.Readable options
  | attention => True

/-- A message that has been read, next to the one that was sent. -/
def Received (options : ParserOptions) : Sending js useUTC → ReadMessage → Prop
  | request payload resetConnection _ _, read =>
    read.resetConnection = resetConnection ∧ payload.Received options read.request
  | attention, read => read = { resetConnection := false, request := .attention }

/-- A message that has been put together, next to the one that was sent: it carries all of the
payload, and is read as the request that it is. -/
structure Arrives (sending : Sending js useUTC) (message : ServerMessage) : Prop where
  type : message.type = sending.message.type
  resetConnection : message.resetConnection = sending.message.resetConnection
  returns : sending.Returns message.data
  read : ∀ options, sending.Readable options →
    ∃ read, message.read options = some read ∧ sending.Received options read

/-- A message whose payload was not stopped has all of it. -/
theorem arrives_whole {sending : Sending js useUTC} (hwhole : .ignore ∉ sending.message.events) :
    sending.Arrives
      { type := sending.message.type, resetConnection := sending.message.resetConnection
        data := sending.message.data } := by
  cases sending with
  | attention => exact ⟨rfl, rfl, rfl, fun options _ => ⟨_, rfl, rfl⟩⟩
  | request payload resetConnection events flows =>
    have hreturns := flows.whole hwhole
    refine ⟨rfl, rfl, hreturns, fun options hreadable => ?_⟩
    obtain ⟨request, hread, hreceived⟩ := payload.readRequest_returns hreadable hreturns
    refine ⟨{ resetConnection, request }, ?_, rfl, hreceived⟩
    show (readRequest options payload.packetType.toMessageType.toByte
      (events.flatMap MessageEvent.bytes)).map _ = _
    rw [hread]
    rfl

end Sending

/-- The packets of everything that is sent are those of one message behind the other. -/
theorem writePackets_cons (size : PacketSize) (message : Message)
    (messages : List (PacketSize × Message)) :
    writePackets [] ((size, message) :: messages) =
      (OutgoingMessageStream.writeFrom size [] message).pushed ++ writePackets [] messages := by
  rw [writePackets, (OutgoingMessageStream.structured_writeFrom size message).2]

theorem wellFormed_writePackets (messages : List (PacketSize × Message)) :
    ∀ p ∈ writePackets [] messages, p.WellFormed := by
  induction messages with
  | nil => exact fun p hp => absurd hp List.not_mem_nil
  | cons sent messages ih =>
    intro p hp
    rw [writePackets_cons] at hp
    rcases List.mem_append.1 hp with hp | hp
    · exact (OutgoingMessageStream.structured_writeFrom sent.1 sent.2).1.length_eq p hp
    · exact ih p hp

/-- The messages that are kept are those that were sent whole. -/
theorem keptMessages_writePackets (sent : List (PacketSize × Sending js useUTC)) :
    ∃ messages,
      keptMessages [] (writePackets [] (sent.map fun (size, sending) => (size, sending.message))) =
        some messages ∧
      List.Forall₂ Sending.Arrives ((sent.map Prod.snd).filter Sending.isWhole) messages := by
  induction sent with
  | nil => exact ⟨[], rfl, .nil⟩
  | cons s sent ih =>
    obtain ⟨size, sending⟩ := s
    obtain ⟨messages, hkept, hall⟩ := ih
    have hstructured := (OutgoingMessageStream.structured_writeFrom size sending.message).1
    rw [List.map_cons, writePackets_cons, keptMessages_structured hstructured, hkept, List.map_cons]
    by_cases hmem : .ignore ∈ sending.message.events
    · have hstopped : ¬ sending.isWhole = true := by simpa [Sending.isWhole] using hmem
      rw [if_pos hmem, List.filter_cons_of_neg hstopped]
      exact ⟨messages, rfl, hall⟩
    · have hwhole : sending.isWhole = true := decide_eq_true hmem
      rw [if_neg hmem, List.filter_cons_of_pos hwhole]
      exact ⟨_, rfl, .cons (Sending.arrives_whole hmem) hall⟩

/-- A request of the transaction manager, in no transaction. -/
def requestOf (request : TransactionRequest) : RequestPayload numberRuntime true :=
  .transactionManager TransactionState.noDescriptor 0 request

theorem returns_requestOf {request : TransactionRequest} (h : request.name.length < 128)
    (data : Bytes) : (requestOf request).Returns data ↔
      headerBytes TransactionState.noDescriptor 1 ++ request.bytes 0 = data := by
  rw [RequestPayload.Returns, requestOf, RequestPayload.chunks,
    TransactionRequest.payload_eq rfl (Nat.zero_le 5) h]
  show Except.ok [_].flatten = Except.ok data ↔ _
  rw [List.flatten_singleton, Except.ok.injEq]

end Requests

end Tedious
