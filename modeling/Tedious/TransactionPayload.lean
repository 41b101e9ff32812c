import Tedious.AllHeaders
import Tedious.Transaction

/-!
# Tedious.TransactionPayload

The requests of the transaction functions (`transaction.ts`, and their callers in
`connection.ts`): since TDS 7.2 a message of the transaction manager, before that a statement.

`readTransaction` is the server's side. A name has one byte for its length, which counts bytes:
a name of less than 128 code units arrives, and a longer one is refused before anything is sent
(`transaction_arrives`).
-/

namespace Tedious

open Chunked Appending WritableTrackingBuffer

/-! ### The payloads -/

namespace OPERATION_TYPE

def TM_BEGIN_XACT : Nat := 0x05

def TM_COMMIT_XACT : Nat := 0x07

def TM_ROLLBACK_XACT : Nat := 0x08

def TM_SAVE_XACT : Nat := 0x09

end OPERATION_TYPE

/-- `assertValidIsolationLevel`: one of the six levels. -/
def assertValidIsolationLevel : JsValue → Except JsError JsNumber
  | .number (.finite q) =>
    if q.den = 1 then
      if 0 ≤ q ∧ q ≤ 5 then .ok (.finite q) else .error .rangeError
    else .error .rangeError
  | .number _ => .error .rangeError
  | _ => .error .typeError

structure Transaction where
  name : JsString
  isolationLevel : JsNumber
  outstandingRequestCount : Nat

namespace Transaction

/-- `new Transaction(name, isolationLevel)`. -/
def new (name : JsString) (isolationLevel : JsNumber) : Transaction where
  name := name
  isolationLevel := isolationLevel
  outstandingRequestCount := 1

/-- `ISOLATION_LEVEL.NO_CHANGE`. -/
def NO_CHANGE : JsNumber := .ofNat 0

variable (t : Transaction) (txnDescriptor : Bytes)

/-- The payloads differ in what stands behind the headers. -/
def payload (encoding : WritableTrackingBuffer.Encoding)
    (write : WritableTrackingBuffer → Except JsError WritableTrackingBuffer) :
    Except JsError Bytes := do
  let buffer := WritableTrackingBuffer.new 100 (some encoding) false
  let buffer ← AllHeaders.writeToTrackingBuffer txnDescriptor t.outstandingRequestCount buffer
  let buffer ← write buffer
  return buffer.data.2

/-- The length of the name in bytes, and the name. -/
def writeName (buffer : WritableTrackingBuffer) : Except JsError WritableTrackingBuffer := do
  let buffer ← buffer.writeUInt8 (.ofNat (t.name.length * 2))
  return buffer.writeString (some .ucs2) t.name

def beginPayload : Except JsError Bytes :=
  t.payload txnDescriptor .ucs2 fun buffer => do
    let buffer ← buffer.writeUShort (.ofNat OPERATION_TYPE.TM_BEGIN_XACT)
    let buffer ← buffer.writeUInt8 t.isolationLevel
    t.writeName buffer

/-- No transaction is started behind the one that ends. -/
def commitPayload : Except JsError Bytes :=
  t.payload txnDescriptor .ascii fun buffer => do
    let buffer ← buffer.writeUShort (.ofNat OPERATION_TYPE.TM_COMMIT_XACT)
    let buffer ← t.writeName buffer
    buffer.writeUInt8 (.ofNat 0)

def rollbackPayload : Except JsError Bytes :=
  t.payload txnDescriptor .ascii fun buffer => do
    let buffer ← buffer.writeUShort (.ofNat OPERATION_TYPE.TM_ROLLBACK_XACT)
    let buffer ← t.writeName buffer
    buffer.writeUInt8 (.ofNat 0)

def savePayload : Except JsError Bytes :=
  t.payload txnDescriptor .ascii fun buffer => do
    let buffer ← buffer.writeUShort (.ofNat OPERATION_TYPE.TM_SAVE_XACT)
    t.writeName buffer

def isolationLevelToTSQL : JsString :=
  if t.isolationLevel = .ofNat 1 then JsString.ofString "READ UNCOMMITTED"
  else if t.isolationLevel = .ofNat 2 then JsString.ofString "READ COMMITTED"
  else if t.isolationLevel = .ofNat 3 then JsString.ofString "REPEATABLE READ"
  else if t.isolationLevel = .ofNat 4 then JsString.ofString "SERIALIZABLE"
  else if t.isolationLevel = .ofNat 5 then JsString.ofString "SNAPSHOT"
  else []

end Transaction

/-! ### The callers -/

/-- What a transaction function makes a request of. -/
inductive TransactionBody
  | sqlBatch (sqlText : JsString)
  | payload (data : Bytes)
  deriving DecidableEq, Repr

section Callers

variable (tdsVersion : JsString) (txnDescriptor : Bytes)

/-- Since TDS 7.2 a payload, before that a statement. -/
def transactionBody (statement : JsString) (payload : Except JsError Bytes) :
    Except JsError TransactionBody :=
  if since72 tdsVersion then payload.map .payload else .ok (.sqlBatch statement)

def beginTransaction (name : JsString) (isolationLevel : JsValue) :
    Except JsError TransactionBody := do
  let isolationLevel ← assertValidIsolationLevel isolationLevel
  let transaction := Transaction.new name isolationLevel
  transactionBody tdsVersion
    (JsString.ofString "SET TRANSACTION ISOLATION LEVEL " ++ transaction.isolationLevelToTSQL ++
      JsString.ofString ";BEGIN TRAN " ++ transaction.name)
    (transaction.beginPayload txnDescriptor)

def commitTransaction (name : JsString) : Except JsError TransactionBody :=
  let transaction := Transaction.new name Transaction.NO_CHANGE
  transactionBody tdsVersion (JsString.ofString "COMMIT TRAN " ++ transaction.name)
    (transaction.commitPayload txnDescriptor)

def rollbackTransaction (name : JsString) : Except JsError TransactionBody :=
  let transaction := Transaction.new name Transaction.NO_CHANGE
  transactionBody tdsVersion (JsString.ofString "ROLLBACK TRAN " ++ transaction.name)
    (transaction.rollbackPayload txnDescriptor)

def saveTransaction (name : JsString) : Except JsError TransactionBody :=
  let transaction := Transaction.new name Transaction.NO_CHANGE
  transactionBody tdsVersion (JsString.ofString "SAVE TRAN " ++ transaction.name)
    (transaction.savePayload txnDescriptor)

namespace TransactionRequest

/-- The requests, with the isolation level of those that begin a transaction. -/
def body (isolationLevel : JsValue) : TransactionRequest → Except JsError TransactionBody
  | beginTransaction name => Tedious.beginTransaction tdsVersion txnDescriptor name isolationLevel
  | commitTransaction name => Tedious.commitTransaction tdsVersion txnDescriptor name
  | rollbackTransaction name => Tedious.rollbackTransaction tdsVersion txnDescriptor name
  | saveTransaction name => Tedious.saveTransaction tdsVersion txnDescriptor name

def name : TransactionRequest → JsString
  | beginTransaction name | commitTransaction name | rollbackTransaction name
  | saveTransaction name => name

end TransactionRequest

end Callers

/-! ### The server -/

/-- What the transaction manager is asked for. A transaction that ends may be followed by
another one. -/
inductive TransactionCommand
  | begin (isolationLevel : Nat) (name : JsString)
  | commit (name : JsString) (next : Option (Nat × JsString))
  | rollback (name : JsString) (next : Option (Nat × JsString))
  | save (name : JsString)
  deriving DecidableEq, Repr

/-- A name behind its length in bytes. -/
def readXactName : Reader JsString := do
  let byteLength ← readUInt8
  readUcs2 byteLength

def readNextXact : Reader (Option (Nat × JsString)) := do
  let flags ← readUInt8
  if flags % 2 = 1 then
    let isolationLevel ← readUInt8
    let name ← readXactName
    pure (some (isolationLevel, name))
  else pure none

def readTransactionCommand : Reader TransactionCommand := do
  let operation ← readUInt16LE
  match operation with
  | 0x05 =>
    let isolationLevel ← readUInt8
    let name ← readXactName
    pure (.begin isolationLevel name)
  | 0x07 =>
    let name ← readXactName
    let next ← readNextXact
    pure (.commit name next)
  | 0x08 =>
    let name ← readXactName
    let next ← readNextXact
    pure (.rollback name next)
  | 0x09 =>
    let name ← readXactName
    pure (.save name)
  | _ => .error "Unknown request type."

/-- A message of the transaction manager, to its end. -/
def readTransaction (tdsVersion : JsString) (data : Bytes) :
    Option (List RequestHeader × TransactionCommand) := do
  let (headers, rest) ← splitHeaders tdsVersion data
  match readTransactionCommand.run rest 0 with
  | .ok ⟨command, offset⟩ => if offset = rest.length then some (headers, command) else none
  | .error _ => none

/-- What a request asks for. -/
def TransactionRequest.command (isolationLevel : Nat) : TransactionRequest → TransactionCommand
  | beginTransaction name => .begin isolationLevel name
  | commitTransaction name => .commit name none
  | rollbackTransaction name => .rollback name none
  | saveTransaction name => .save name

/-! ### Writing -/

section Writing

variable {default : WritableTrackingBuffer.Encoding} {txnDescriptor : Bytes} {t : Transaction}

/-- What is written behind the headers. -/
theorem payload_appends {encoding : WritableTrackingBuffer.Encoding}
    {write : WritableTrackingBuffer → Except JsError WritableTrackingBuffer} {bytes : Bytes}
    (hdescriptor : txnDescriptor.length = 8) (hcount : t.outstandingRequestCount < 4294967296)
    (hwrite : (view encoding).Appends write bytes) :
    t.payload txnDescriptor encoding write =
      .ok (headerBytes txnDescriptor t.outstandingRequestCount ++ bytes) := by
  obtain ⟨b, hb, hvalid, hcontents⟩ := writeToTrackingBuffer_spec
    (valid_new 100 (some encoding) false) rfl hdescriptor hcount
  obtain ⟨b', hb', hvalid', hcontents'⟩ := hwrite b hvalid
  have hdata : b'.data.2 = headerBytes txnDescriptor t.outstandingRequestCount ++ bytes := by
    rw [← hcontents]
    exact (data_snd b').trans hcontents'
  simp only [Transaction.payload, hb, hb', hdata, bind, Except.bind]
  rfl

theorem payload_throws {encoding : WritableTrackingBuffer.Encoding}
    {write : WritableTrackingBuffer → Except JsError WritableTrackingBuffer} {e : JsError}
    (hdescriptor : txnDescriptor.length = 8) (hcount : t.outstandingRequestCount < 4294967296)
    (hwrite : (view encoding).Throws write e) :
    t.payload txnDescriptor encoding write = .error e := by
  obtain ⟨b, hb, hvalid, -⟩ := writeToTrackingBuffer_spec (valid_new 100 (some encoding) false)
    rfl hdescriptor hcount
  simp only [Transaction.payload, hb, hwrite b hvalid, bind, Except.bind]

/-- A name behind its length in bytes. -/
def xactName (name : JsString) : Bytes := leBytes 1 (name.length * 2) ++ ucs2Bytes name

theorem writeName_appends (h : t.name.length < 128) :
    (view default).Appends t.writeName (xactName t.name) :=
  (writeUInt8_ofNat_appends (by omega)).bind (writeString_appends (some .ucs2) t.name)

theorem writeName_throws (h : 128 ≤ t.name.length) :
    (view default).Throws t.writeName .rangeError :=
  View.Throws.bind (writeUInt8_ofNat_throws (by omega))

theorem readXactName_reads {name : JsString} (h : name.length < 128) :
    Reads readXactName (xactName name) name :=
  (readUInt8_reads (by omega)).bind (readUcs2_reads name)

/-- Behind the headers a server reads the command, to the end of the message. -/
theorem readTransaction_append {tdsVersion : JsString} (hsince : since72 tdsVersion = true)
    (hdescriptor : txnDescriptor.length = 8) {bytes : Bytes} {command : TransactionCommand}
    (h : Reads readTransactionCommand bytes command) :
    readTransaction tdsVersion (headerBytes txnDescriptor 1 ++ bytes) =
      some (requestHeaders tdsVersion txnDescriptor, command) := by
  have hsplit := splitHeaders_append tdsVersion hdescriptor bytes
  rw [if_pos hsince] at hsplit
  have hrun := h.returns [] []
  rw [List.nil_append, List.append_nil, List.length_nil, Nat.cast_zero] at hrun
  unfold readTransaction
  rw [hsplit]
  show (match readTransactionCommand.run bytes 0 with
    | .ok ⟨command, offset⟩ => if offset = bytes.length then
        some (requestHeaders tdsVersion txnDescriptor, command) else none
    | .error _ => none) = _
  rw [hrun]
  exact if_pos rfl

/-! ### What arrives -/

theorem readNextXact_none : Reads readNextXact (leBytes 1 0) none := by
  refine (readUInt8_reads (by decide)).bind_nil ?_
  rw [if_neg (by decide)]
  exact .pure none

/-- A valid isolation level is what it was. -/
theorem assertValidIsolationLevel_ofNat {level : Nat} (h : level ≤ 5) :
    assertValidIsolationLevel (.number (.ofNat level)) = .ok (.ofNat level) := by
  have hle : (level : Rat) ≤ 5 := by exact_mod_cast h
  rw [JsNumber.ofNat, assertValidIsolationLevel, if_pos (Rat.den_natCast level),
    if_pos ⟨Nat.cast_nonneg level, hle⟩]

namespace TransactionRequest

/-- The bytes behind the headers. -/
def bytes (level : Nat) : TransactionRequest → Bytes
  | beginTransaction name =>
    leBytes 2 OPERATION_TYPE.TM_BEGIN_XACT ++ (leBytes 1 level ++ xactName name)
  | commitTransaction name =>
    leBytes 2 OPERATION_TYPE.TM_COMMIT_XACT ++ (xactName name ++ leBytes 1 0)
  | rollbackTransaction name =>
    leBytes 2 OPERATION_TYPE.TM_ROLLBACK_XACT ++ (xactName name ++ leBytes 1 0)
  | saveTransaction name => leBytes 2 OPERATION_TYPE.TM_SAVE_XACT ++ xactName name

theorem bytes_reads {level : Nat} (hlevel : level ≤ 5) {request : TransactionRequest}
    (h : request.name.length < 128) :
    Reads readTransactionCommand (request.bytes level) (request.command level) := by
  have hname := readXactName_reads h
  cases request with
  | beginTransaction name =>
    refine (readUInt16LE_reads (by decide)).bind ((readUInt8_reads (by omega)).bind ?_)
    exact hname.map (TransactionCommand.begin level)
  | commitTransaction name =>
    refine (readUInt16LE_reads (by decide)).bind (hname.bind ?_)
    exact readNextXact_none.map (TransactionCommand.commit name)
  | rollbackTransaction name =>
    refine (readUInt16LE_reads (by decide)).bind (hname.bind ?_)
    exact readNextXact_none.map (TransactionCommand.rollback name)
  | saveTransaction name =>
    exact (readUInt16LE_reads (by decide)).bind (hname.map TransactionCommand.save)

variable {tdsVersion : JsString}

/-- The payload of a request. -/
def payload (txnDescriptor : Bytes) (level : Nat) : TransactionRequest → Except JsError Bytes
  | beginTransaction name => (Transaction.new name (.ofNat level)).beginPayload txnDescriptor
  | commitTransaction name =>
    (Transaction.new name Transaction.NO_CHANGE).commitPayload txnDescriptor
  | rollbackTransaction name =>
    (Transaction.new name Transaction.NO_CHANGE).rollbackPayload txnDescriptor
  | saveTransaction name => (Transaction.new name Transaction.NO_CHANGE).savePayload txnDescriptor

theorem body_eq (hsince : since72 tdsVersion = true) {level : Nat} (hlevel : level ≤ 5)
    (request : TransactionRequest) :
    request.body tdsVersion txnDescriptor (.number (.ofNat level)) =
      (request.payload txnDescriptor level).map .payload := by
  cases request with
  | beginTransaction name =>
    show Tedious.beginTransaction .. = _
    unfold Tedious.beginTransaction
    rw [assertValidIsolationLevel_ofNat hlevel]
    exact if_pos hsince
  | commitTransaction name => exact if_pos hsince
  | rollbackTransaction name => exact if_pos hsince
  | saveTransaction name => exact if_pos hsince

theorem count_lt (name : JsString) (level : JsNumber) :
    (Transaction.new name level).outstandingRequestCount < 4294967296 :=
  (by decide : 1 < 4294967296)

/-- The payload of a request whose name is short enough. -/
theorem payload_eq (hdescriptor : txnDescriptor.length = 8) {level : Nat} (hlevel : level ≤ 5)
    {request : TransactionRequest} (h : request.name.length < 128) :
    request.payload txnDescriptor level =
      .ok (headerBytes txnDescriptor 1 ++ request.bytes level) := by
  cases request with
  | beginTransaction name =>
    exact payload_appends hdescriptor (count_lt ..) ((writeUInt16LE_ofNat_appends (by decide)).bind
      ((writeUInt8_ofNat_appends (by omega)).bind (writeName_appends h)))
  | commitTransaction name =>
    exact payload_appends hdescriptor (count_lt ..) ((writeUInt16LE_ofNat_appends (by decide)).bind
      ((writeName_appends h).bind (writeUInt8_ofNat_appends (by decide))))
  | rollbackTransaction name =>
    exact payload_appends hdescriptor (count_lt ..) ((writeUInt16LE_ofNat_appends (by decide)).bind
      ((writeName_appends h).bind (writeUInt8_ofNat_appends (by decide))))
  | saveTransaction name =>
    exact payload_appends hdescriptor (count_lt ..) ((writeUInt16LE_ofNat_appends (by decide)).bind
      (writeName_appends h))

/-- A longer name does not fit behind its length. -/
theorem payload_error (hdescriptor : txnDescriptor.length = 8) {level : Nat} (hlevel : level ≤ 5)
    {request : TransactionRequest} (h : 128 ≤ request.name.length) :
    request.payload txnDescriptor level = .error .rangeError := by
  cases request with
  | beginTransaction name =>
    exact payload_throws hdescriptor (count_lt ..) ((writeUInt16LE_ofNat_appends (by decide)).throws
      ((writeUInt8_ofNat_appends (by omega)).throws (writeName_throws h)))
  | commitTransaction name =>
    exact payload_throws hdescriptor (count_lt ..) ((writeUInt16LE_ofNat_appends (by decide)).throws
      (writeName_throws h).bind)
  | rollbackTransaction name =>
    exact payload_throws hdescriptor (count_lt ..) ((writeUInt16LE_ofNat_appends (by decide)).throws
      (writeName_throws h).bind)
  | saveTransaction name =>
    exact payload_throws hdescriptor (count_lt ..) ((writeUInt16LE_ofNat_appends (by decide)).throws
      (writeName_throws h))

end TransactionRequest

/-- **What a transaction function asks for is what the server reads**, in the transaction that
the connection is in, if the name has less than 128 code units; a longer one is refused. -/
theorem transaction_arrives {tdsVersion : JsString} (hsince : since72 tdsVersion = true)
    (hdescriptor : txnDescriptor.length = 8) {level : Nat} (hlevel : level ≤ 5)
    (request : TransactionRequest) :
    (request.name.length < 128 → ∃ data,
      request.body tdsVersion txnDescriptor (.number (.ofNat level)) = .ok (.payload data) ∧
      readTransaction tdsVersion data =
        some (requestHeaders tdsVersion txnDescriptor, request.command level)) ∧
    (128 ≤ request.name.length →
      request.body tdsVersion txnDescriptor (.number (.ofNat level)) = .error .rangeError) := by
  rw [TransactionRequest.body_eq hsince hlevel]
  refine ⟨fun h => ⟨headerBytes txnDescriptor 1 ++ request.bytes level, ?_, ?_⟩, fun h => ?_⟩
  · rw [TransactionRequest.payload_eq hdescriptor hlevel h]
    rfl
  · exact readTransaction_append hsince hdescriptor (TransactionRequest.bytes_reads hlevel h)
  · rw [TransactionRequest.payload_error hdescriptor hlevel h]
    rfl

/-- A savepoint named `a`, in TDS 7.4. -/
theorem transaction_arrives_save : ∃ data,
    saveTransaction (JsString.ofString "7_4") TransactionState.noDescriptor [0x61] =
      .ok (.payload data) ∧
    readTransaction (JsString.ofString "7_4") data =
      some ([transactionHeader TransactionState.noDescriptor 1], .save [0x61]) := by
  have hsince : since72 (JsString.ofString "7_4") = true := by decide
  have hdescriptor : TransactionState.noDescriptor.length = 8 := rfl
  exact (transaction_arrives hsince hdescriptor (Nat.zero_le 5) (.saveTransaction [0x61])).1
    (by decide)

end Writing

end Tedious
