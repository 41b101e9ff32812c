import Tedious.WritableTrackingBuffer

/-!
# Tedious.AllHeaders

The headers in front of every request since TDS 7.2 (`all-headers.ts`), and the payload of a
batch behind them (`sqlbatch-payload.ts`). The length of all headers is written last, into the
composite buffer, over four bytes that were kept free for it.

`RequestHeader` and `readAllHeaders` are the server's side: a list of headers, each behind its own
length. `readsBatch` says that a batch arrives with the descriptor of the transaction that it is
part of, and with its text.
-/

namespace Tedious

open Chunked Appending WritableTrackingBuffer

/-! ### Writing -/

namespace AllHeaders

/-- `TYPE.TXN_DESCRIPTOR`. -/
def TXN_DESCRIPTOR : Nat := 2

def TXNDESCRIPTOR_HEADER_DATA_LEN : Nat := 4 + 8

def TXNDESCRIPTOR_HEADER_LEN : Nat := 4 + 2 + TXNDESCRIPTOR_HEADER_DATA_LEN

/-- The data that are read are the composite buffer itself, so the length is written there. -/
def writeToTrackingBuffer (txnDescriptor : Bytes) (outstandingRequestCount : Nat)
    (b : WritableTrackingBuffer) : Except JsError WritableTrackingBuffer := do
  let b ← b.writeUInt32LE (.ofNat 0)
  let b ← b.writeUInt32LE (.ofNat TXNDESCRIPTOR_HEADER_LEN)
  let b ← b.writeUInt16LE (.ofNat TXN_DESCRIPTOR)
  let b := b.writeBuffer txnDescriptor
  let b ← b.writeUInt32LE (.ofNat outstandingRequestCount)
  let data := b.data.2
  let length ← writeUIntLE 4 (.ofNat data.length)
  return { b.data.1 with compositeBuffer := overwrite data 0 length }

end AllHeaders

/-- `options.tdsVersion >= '7_2'`. -/
def since72 (tdsVersion : JsString) : Bool := decide (JsString.ofString "7_2" ≤ tdsVersion)

structure SqlBatchPayload where
  sqlText : JsString
  txnDescriptor : Bytes
  tdsVersion : JsString

/-- `[Symbol.iterator]`: what it yields. -/
def SqlBatchPayload.iterator (payload : SqlBatchPayload) : Except JsError (List Bytes) := do
  let text := ucs2Bytes payload.sqlText
  if since72 payload.tdsVersion then
    let buffer := new 18 (some .ucs2) false
    let buffer ← AllHeaders.writeToTrackingBuffer payload.txnDescriptor 1 buffer
    return [buffer.data.2, text]
  else return [text]

/-! ### Reading -/

/-- A header, as it stands in front of a request. -/
structure RequestHeader where
  type : Nat
  data : Bytes
  deriving DecidableEq, Repr

/-- A header counts the six bytes of its length and its type. -/
def readHeader : Reader RequestHeader := do
  let length ← readUInt32LE
  if length < 6 then .error "Invalid header length."
  let type ← readUInt16LE
  let data ← readSlice (length - 6)
  pure { type, data }

/-- Headers of some length together. -/
def readHeaders : (rounds length : Nat) → Reader (List RequestHeader)
  | 0, _ => pure []
  | rounds + 1, length => do
    if length = 0 then pure []
    else
      let header ← readHeader
      let headers ← readHeaders rounds (length - (6 + header.data.length))
      pure (header :: headers)

/-- The length of all headers counts its own four bytes. -/
def readAllHeaders : Reader (List RequestHeader) := do
  let length ← readUInt32LE
  readHeaders (length - 4) (length - 4)

/-- The headers of a message, and what stands behind them. -/
def splitHeaders (tdsVersion : JsString) (bytes : Bytes) : Option (List RequestHeader × Bytes) :=
  if since72 tdsVersion then
    match readAllHeaders.run bytes 0 with
    | .ok ⟨headers, offset⟩ => some (headers, bytes.drop offset.toNat)
    | .error _ => none
  else some ([], bytes)

/-- The header of a request that is part of a transaction. -/
def transactionHeader (txnDescriptor : Bytes) (outstandingRequestCount : Nat) : RequestHeader where
  type := 2
  data := txnDescriptor ++ leBytes 4 outstandingRequestCount

/-- The headers that a client sends with its requests. -/
def requestHeaders (tdsVersion : JsString) (txnDescriptor : Bytes) : List RequestHeader :=
  if since72 tdsVersion then [transactionHeader txnDescriptor 1] else []

/-! ### One against the other -/

/-- The bytes of the headers. -/
def headerBytes (txnDescriptor : Bytes) (outstandingRequestCount : Nat) : Bytes :=
  leBytes 4 (14 + txnDescriptor.length) ++ (leBytes 4 18 ++ (leBytes 2 2 ++ (txnDescriptor ++
    leBytes 4 outstandingRequestCount)))

variable {default : WritableTrackingBuffer.Encoding} {b : WritableTrackingBuffer}
  {txnDescriptor : Bytes}

/-- The headers are written into a buffer that has nothing in it yet. -/
theorem writeToTrackingBuffer_spec (hb : (view default).valid b)
    (hempty : (view default).contents b = []) (hdescriptor : txnDescriptor.length = 8)
    {outstandingRequestCount : Nat} (hcount : outstandingRequestCount < 4294967296) :
    ∃ b', AllHeaders.writeToTrackingBuffer txnDescriptor outstandingRequestCount b = .ok b' ∧
      (view default).valid b' ∧
      (view default).contents b' = headerBytes txnDescriptor outstandingRequestCount := by
  obtain ⟨b₁, hrun, hvalid, hcontents⟩ := (writeUInt32LE_ofNat_appends (n := 0) (by decide)).bind
    ((writeUInt32LE_ofNat_appends (n := 18) (by decide)).bind
      ((writeUInt16LE_ofNat_appends (n := 2) (by decide)).bind
        ((append_appends txnDescriptor).bind (writeUInt32LE_ofNat_appends hcount)))) b hb
  have hdata : b₁.data.2 = leBytes 4 0 ++ (leBytes 4 18 ++ (leBytes 2 2 ++ (txnDescriptor ++
      leBytes 4 outstandingRequestCount))) := by
    rw [hempty, List.nil_append] at hcontents
    exact (data_snd b₁).trans hcontents
  have hlength : b₁.data.2.length = 22 := by
    rw [hdata]
    simp [hdescriptor]
  have hwrite : writeUIntLE 4 (.ofNat b₁.data.2.length) = .ok (leBytes 4 22) := by
    rw [hlength]
    exact writeUIntLE_ofNat (by decide)
  have hwritten : AllHeaders.writeToTrackingBuffer txnDescriptor outstandingRequestCount b =
      .ok { b₁.data.1 with compositeBuffer := overwrite b₁.data.2 0 (leBytes 4 22) } := by
    obtain ⟨s₁, h₁, hrun⟩ := Except.bind_ok hrun
    obtain ⟨s₂, h₂, hrun⟩ := Except.bind_ok hrun
    obtain ⟨s₃, h₃, hrun⟩ := Except.bind_ok hrun
    obtain ⟨s₄, h₄, hrun⟩ := Except.bind_ok hrun
    cases h₄
    unfold AllHeaders.writeToTrackingBuffer
    simp only [h₁, bind, Except.bind]
    rw [show s₁.writeUInt32LE (.ofNat AllHeaders.TXNDESCRIPTOR_HEADER_LEN) = .ok s₂ from h₂]
    dsimp only
    rw [show s₂.writeUInt16LE (.ofNat AllHeaders.TXN_DESCRIPTOR) = .ok s₃ from h₃]
    dsimp only
    rw [show (s₃.writeBuffer txnDescriptor).writeUInt32LE (.ofNat outstandingRequestCount) = .ok b₁
      from hrun]
    dsimp only
    rw [hwrite]
    rfl
  refine ⟨_, hwritten, valid_newBuffer hvalid 0, ?_⟩
  have hover : ∀ back : Bytes, overwrite ([] ++ (leBytes 4 0 ++ back)) 0 (leBytes 4 22) =
      [] ++ (leBytes 4 22 ++ back) := fun back => overwrite_middle rfl (by simp)
  show overwrite b₁.data.2 0 (leBytes 4 22) ++ [] = _
  rw [List.append_nil, hdata, headerBytes, hdescriptor]
  exact hover _

/-- A header is read with exactly its bytes. -/
theorem readHeader_reads {type : Nat} {data : Bytes} (htype : type < 65536)
    (hdata : data.length < 4294967290) :
    Reads readHeader (leBytes 4 (6 + data.length) ++ (leBytes 2 type ++ data)) { type, data } := by
  refine (readUInt32LE_reads (by omega)).bind ?_
  rw [if_neg (by omega), Nat.add_sub_cancel_left]
  exact (readUInt16LE_reads htype).bind ((readSlice_reads data).map (RequestHeader.mk type))

/-- **The headers of a request are read back.** -/
theorem readAllHeaders_reads (hdescriptor : txnDescriptor.length = 8)
    (outstandingRequestCount : Nat) :
    Reads readAllHeaders (headerBytes txnDescriptor outstandingRequestCount)
      [transactionHeader txnDescriptor outstandingRequestCount] := by
  have hlength : (txnDescriptor ++ leBytes 4 outstandingRequestCount).length = 12 := by
    simp [hdescriptor]
  have hheader : Reads readHeader (leBytes 4 (6 + (txnDescriptor ++
      leBytes 4 outstandingRequestCount).length) ++ (leBytes 2 2 ++ (txnDescriptor ++
        leBytes 4 outstandingRequestCount)))
      (transactionHeader txnDescriptor outstandingRequestCount) :=
    readHeader_reads (by decide) (by omega)
  rw [hlength] at hheader
  rw [headerBytes, hdescriptor]
  refine (readUInt32LE_reads (by decide)).bind ?_
  show Reads (readHeaders 18 18) _ _
  rw [readHeaders, if_neg (by decide)]
  refine hheader.bind_nil ?_
  rw [transactionHeader, hlength]
  exact (Reads.pure []).map _

/-- What stands behind the headers is left. -/
theorem splitHeaders_append (tdsVersion : JsString) (hdescriptor : txnDescriptor.length = 8)
    (rest : Bytes) :
    splitHeaders tdsVersion
        ((if since72 tdsVersion then headerBytes txnDescriptor 1 else []) ++ rest) =
      some (requestHeaders tdsVersion txnDescriptor, rest) := by
  unfold splitHeaders requestHeaders
  split
  · have hrun := (readAllHeaders_reads hdescriptor 1).returns [] rest
    rw [List.nil_append, List.length_nil, Nat.cast_zero] at hrun
    rw [hrun]
    dsimp only
    rw [Int.toNat_natCast, List.drop_left]
  · rfl

/-! ### Batches -/

/-- What a server reads: the headers, and the text. -/
def readBatch (tdsVersion : JsString) (bytes : Bytes) : Option (List RequestHeader × JsString) :=
  (splitHeaders tdsVersion bytes).map fun (headers, rest) => (headers, ucs2 rest)

/-- **A batch arrives**, within the transaction that it was sent in. -/
theorem readBatch_iterator (payload : SqlBatchPayload)
    (hdescriptor : payload.txnDescriptor.length = 8) :
    ∃ chunks, payload.iterator = .ok chunks ∧ readBatch payload.tdsVersion chunks.flatten =
      some (requestHeaders payload.tdsVersion payload.txnDescriptor, payload.sqlText) := by
  obtain ⟨buffer, hwritten, -, hcontents⟩ := writeToTrackingBuffer_spec
    (valid_new 18 (some .ucs2) false) rfl hdescriptor (by decide : 1 < 4294967296)
  have hsplit := splitHeaders_append payload.tdsVersion hdescriptor (ucs2Bytes payload.sqlText)
  unfold SqlBatchPayload.iterator
  by_cases hsince : since72 payload.tdsVersion = true
  · have hdata : buffer.data.2 = headerBytes payload.txnDescriptor 1 :=
      (data_snd buffer).trans hcontents
    rw [if_pos hsince] at hsplit ⊢
    refine ⟨[buffer.data.2, ucs2Bytes payload.sqlText], by dsimp only; rw [hwritten]; rfl, ?_⟩
    rw [hdata]
    simp [readBatch, hsplit, ucs2_ucs2Bytes]
  · rw [if_neg hsince] at hsplit ⊢
    rw [List.nil_append] at hsplit
    refine ⟨[ucs2Bytes payload.sqlText], rfl, ?_⟩
    simp [readBatch, hsplit, ucs2_ucs2Bytes]

end Tedious
