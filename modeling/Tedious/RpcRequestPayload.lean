import Tedious.AllHeaders
import Tedious.DataTypes.ColumnValues

/-!
# Tedious.RpcRequestPayload

A call of a procedure (`rpcrequest-payload.ts`): the headers, the procedure's name or number, and
for each parameter its name, a status, the description of its type and its value.

`readRpcRequest` is the server's side. How many parameters there are is not written: it reads to
the end of the message. `readRpcRequest_generateData` says that it finds the call again, parameter
by parameter, whatever their types and values are.
-/

namespace Tedious

open Chunked Appending WritableTrackingBuffer

/-! ### The payload -/

/-- A procedure is called by its name, or by the number of a special one. -/
inductive Procedure
  | name (name : JsString)
  | id (id : Nat)
  deriving DecidableEq, Repr

/-- `Parameter`, with a value that its type has accepted. -/
structure RpcParameter (js : Runtime) (useUTC : Bool) where
  name : JsString
  output : Bool
  type : DataType
  data : ParameterData (sendType js useUTC type).α

structure RpcRequestPayload (js : Runtime) (useUTC : Bool) where
  procedure : Procedure
  parameters : List (RpcParameter js useUTC)
  txnDescriptor : Bytes
  tdsVersion : JsString
  collation : Option Collation

/-- `STATUS.BY_REF_VALUE`. -/
def BY_REF_VALUE : Nat := 0x01

section Generate

variable {js : Runtime} {useUTC : Bool}

namespace RpcParameter

variable (parameter : RpcParameter js useUTC)

def methods : DataTypeMethods (sendType js useUTC parameter.type).α :=
  (sendType js useUTC parameter.type).methods

/-- A name is written behind an `@`, no name without one. -/
def sentName : JsString :=
  if parameter.name.isEmpty then [] else JsString.ofString "@" ++ parameter.name

def statusFlags : Nat := if parameter.output then 0 ||| BY_REF_VALUE else 0

/-- `generateParameterData`: the list of what it yields. -/
def generate (collation : Option Collation) : Except JsError (List Bytes) := do
  let buffer := new (1 + 2 + (ucs2Bytes parameter.name).length + 1) none false
  let buffer ← buffer.writeBVarchar none parameter.sentName
  let buffer ← buffer.writeUInt8 (.ofNat parameter.statusFlags)
  let param := parameter.methods.rpcParameter collation parameter.data
  let typeInfo ← parameter.methods.generateTypeInfo param
  let length ← parameter.methods.generateParameterLength param
  let data ← parameter.methods.generateParameterData param
  pure (buffer.data.2 :: typeInfo :: length :: data)

end RpcParameter

namespace RpcRequestPayload

variable (payload : RpcRequestPayload js useUTC)

def writeHeaders (buffer : WritableTrackingBuffer) : Except JsError WritableTrackingBuffer :=
  if since72 payload.tdsVersion then
    let outstandingRequestCount := 1
    AllHeaders.writeToTrackingBuffer payload.txnDescriptor outstandingRequestCount buffer
  else pure buffer

/-- The number of a special procedure stands behind a length that no name has. -/
def writeProcedure (buffer : WritableTrackingBuffer) : Except JsError WritableTrackingBuffer :=
  match payload.procedure with
  | .name procedure => buffer.writeUsVarchar none procedure
  | .id procedure => do
    let buffer ← buffer.writeUShort (.ofNat 0xFFFF)
    buffer.writeUShort (.ofNat procedure)

/-- What stands before the parameters. -/
def generateHead : Except JsError Bytes := do
  let buffer := new 500 none false
  let buffer ← payload.writeHeaders buffer
  let buffer ← payload.writeProcedure buffer
  let optionFlags := 0
  let buffer ← buffer.writeUInt16LE (.ofNat optionFlags)
  pure buffer.data.2

/-- `generateData`: the list of what it yields. -/
def generateData : Except JsError (List Bytes) := do
  let head ← payload.generateHead
  let parameters ← payload.parameters.mapM fun parameter => parameter.generate payload.collation
  pure (head :: parameters.flatten)

end RpcRequestPayload

end Generate

/-! ### The server -/

/-- A parameter that has been read. -/
structure ReadParameter where
  name : JsString
  status : Nat
  metadata : Metadata
  value : Value

structure ReadRpcRequest where
  headers : List RequestHeader
  procedure : Procedure
  optionFlags : Nat
  parameters : List ReadParameter

/-- `0xFFFF` is no length of a name. -/
def readProcedure : Reader Procedure := do
  let length ← readUInt16LE
  if length = 0xFFFF then
    let id ← readUInt16LE
    pure (.id id)
  else
    let name ← readUcs2 (length * 2)
    pure (.name name)

def readCall : Reader (Procedure × Nat) := do
  let procedure ← readProcedure
  let optionFlags ← readUInt16LE
  pure (procedure, optionFlags)

/-- The description of a type and its value are read as the client itself reads them. -/
def readRpcParameter (options : ParserOptions) : ParserTask ReadParameter := do
  let name ← Task.await readBVarChar
  let status ← Task.await readUInt8
  let metadata ← Task.await (readDescription 0 0)
  let value ← awaitValue options metadata
  pure { name, status, metadata, value }

/-- Parameters up to the end of the message. -/
def readRpcParameters (options : ParserOptions) : (rounds : Nat) → Bytes →
    Option (List ReadParameter)
  | _, [] => some []
  | 0, _ :: _ => none
  | rounds + 1, b :: bytes =>
    match (readRpcParameter options).scan (b :: bytes) [] with
    | .done parameter rest _ => (readRpcParameters options rounds rest).map (parameter :: ·)
    | _ => none

def readRpcRequest (options : ParserOptions) (bytes : Bytes) : Option ReadRpcRequest := do
  let (headers, rest) ← splitHeaders options.tdsVersion bytes
  match readCall.run rest 0 with
  | .ok ⟨(procedure, optionFlags), offset⟩ =>
    let rest := rest.drop offset.toNat
    let parameters ← readRpcParameters options rest.length rest
    some { headers, procedure, optionFlags, parameters }
  | .error _ => none

/-! ### One parameter -/

/-- The types of parameters that are read back. -/
def DataType.isParameter (type : DataType) : Bool :=
  type.isColumn || type ∈ [DataType.VarChar, .Char, .VarBinary]

section Parameter

variable (js : Runtime) (useUTC : Bool) (options : ParserOptions) (collation : Option Collation)

/-- What is read of a value, where that is the value itself. -/
def shownParameter : (type : DataType) → (sendType js useUTC type).α → Option Value
  | .VarChar | .Char => fun bytes : Bytes => some (decodedText options collation bytes)
  | .VarBinary => fun bytes : Bytes => some (.buffer bytes)
  | type => shownValue js useUTC type

/-- A value of 65535 bytes behind two length bytes looks like `null`. -/
def looksNull : (type : DataType) → ParameterData (sendType js useUTC type).α → Prop
  | .VarChar | .VarBinary => fun parameter : ParameterData Bytes =>
    isShort 8000 parameter.length = true ∧ ∃ bytes ∈ parameter.value, bytes.length = 65535
  | .Char => fun parameter : ParameterData Bytes => ∃ bytes ∈ parameter.value, bytes.length = 65535
  | _ => fun _ => False

end Parameter

variable {js : Runtime} {useUTC : Bool} {options : ParserOptions} {collation : Option Collation}

/-- What a type has written is read back, as what is shown of the value. -/
def ReadsParameter (options : ParserOptions) (methods : DataTypeMethods α)
    (shown : α → Option Value) (parameter : ParameterData α) : Prop :=
  ∀ typeInfo bytes, methods.build parameter = .ok (typeInfo, bytes) →
    ∃ metadata read, Reads (readDescription 0 0) typeInfo metadata ∧
      Shows shown parameter.value read ∧
      ∀ s, Task.Takes (awaitValue options metadata) s bytes read s

theorem readsParameter_of_readBack {methods : DataTypeMethods α} {shown : α → Value}
    {parameter : ParameterData α} (hne : ∀ v, shown v ≠ .null)
    (h : ReadBack options (methods.build parameter)
      ((parameter.value.map shown).getD .null)) :
    ReadsParameter options methods (fun v => some (shown v)) parameter := by
  intro typeInfo bytes hbuild
  obtain ⟨metadata, hdescribes, htakes⟩ := h typeInfo bytes hbuild 0 0
  refine ⟨metadata, _, hdescribes, ?_, htakes⟩
  cases hvalue : parameter.value with
  | none => exact ⟨iff_of_true rfl rfl, nofun⟩
  | some value =>
    refine ⟨iff_of_false (hne value) nofun, ?_⟩
    rintro v ⟨⟩ expected ⟨⟩
    rfl

/-- A column is read back with any collation, where neither its lengths nor its data depend on
one. -/
theorem readsParameter_of_column {methods : DataTypeMethods α} {shown : α → Option Value}
    (h : ReadsColumn options methods shown)
    (hlength : ∀ parameter collation, methods.generateParameterLength { parameter with collation } =
      methods.generateParameterLength parameter)
    (hdata : ∀ parameter collation, methods.generateParameterData { parameter with collation } =
      methods.generateParameterData parameter)
    (parameter : ParameterData α) : ReadsParameter options methods shown parameter := by
  intro typeInfo bytes hbuild
  obtain ⟨length, data, hinfo, hlength', hdata', rfl⟩ := methods.build_ok hbuild
  obtain ⟨metadata, hdescribes, -, hvalues⟩ := h parameter typeInfo hinfo 0 0
  obtain ⟨read, hshows, htakes⟩ := hvalues parameter.value length data
    ((hlength parameter none).trans hlength') ((hdata parameter none).trans hdata')
  exact ⟨metadata, read, hdescribes, hshows, htakes⟩

/-- A value is read back unless it looks like `null`. -/
theorem readsParameter {type : DataType} (htype : type.isParameter = true)
    {parameter : ParameterData (sendType js useUTC type).α}
    (hcollation : parameter.collation = collation) (hnull : ¬ looksNull js useUTC type parameter) :
    ReadsParameter options (sendType js useUTC type).methods
      (shownParameter js useUTC options collation type) parameter := by
  subst hcollation
  cases type with
  | VarChar =>
    refine readsParameter_of_readBack (fun _ => nofun) (readBack_VarChar ?_)
    exact fun hshort bytes hbytes hlength => hnull ⟨hshort, bytes, hbytes, hlength⟩
  | Char =>
    refine readsParameter_of_readBack (fun _ => nofun) (readBack_Char ?_)
    exact fun bytes hbytes hlength => hnull ⟨bytes, hbytes, hlength⟩
  | VarBinary =>
    refine readsParameter_of_readBack (fun _ => nofun) (readBack_VarBinary ?_)
    exact fun hshort bytes hbytes hlength => hnull ⟨hshort, bytes, hbytes, hlength⟩
  | TinyInt | SmallInt | Int | BigInt | Bit | SmallMoney | Money | Real | Float | Decimal | Numeric
  | SmallDateTime | DateTime | Date | Time | DateTime2 | DateTimeOffset | UniqueIdentifier
  | NVarChar | NChar =>
    exact readsParameter_of_column (readsColumn js useUTC rfl) (fun _ _ => rfl) (fun _ _ => rfl) _
  | _ => cases htype

/-! ### Parameters -/

namespace RpcParameter

/-- A parameter that has been read, next to the one that was sent. -/
structure Arrives (options : ParserOptions) (collation : Option Collation)
    (parameter : RpcParameter js useUTC) (read : ReadParameter) : Prop where
  name : read.name = parameter.sentName
  status : read.status = parameter.statusFlags
  metadata : ∃ typeInfo, parameter.methods.generateTypeInfo
      (parameter.methods.rpcParameter collation parameter.data) = .ok typeInfo ∧
    Reads (readDescription 0 0) typeInfo read.metadata
  value : Shows (shownParameter js useUTC options collation parameter.type) parameter.data.value
    read.value

/-- The type is one that is read back, and the value does not look like `null`. -/
structure Readable (collation : Option Collation) (parameter : RpcParameter js useUTC) :
    Prop where
  type : parameter.type.isParameter = true
  value : ¬ looksNull js useUTC parameter.type
    (parameter.methods.rpcParameter collation parameter.data)

variable {parameter : RpcParameter js useUTC} {chunks : List Bytes}

theorem statusFlags_lt : parameter.statusFlags < 256 := by
  unfold statusFlags
  split <;> decide

/-- The name and the status stand in front of what the type writes. -/
theorem generate_ok (h : parameter.generate collation = .ok chunks) :
    parameter.sentName.length < 256 ∧ ∃ typeInfo bytes,
      parameter.methods.build (parameter.methods.rpcParameter collation parameter.data) =
        .ok (typeInfo, bytes) ∧
      chunks.flatten = bVarChar parameter.sentName ++ (leBytes 1 parameter.statusFlags ++
        (typeInfo ++ bytes)) := by
  obtain ⟨b₁, hname, h⟩ := Except.bind_ok h
  obtain ⟨b₂, hstatus, h⟩ := Except.bind_ok h
  obtain ⟨typeInfo, hinfo, h⟩ := Except.bind_ok h
  obtain ⟨length, hlength, h⟩ := Except.bind_ok h
  obtain ⟨data, hdata, h⟩ := Except.bind_ok h
  cases h
  have hvalid := valid_new (1 + 2 + (ucs2Bytes parameter.name).length + 1) none false
  have hlt : parameter.sentName.length < 256 := by
    by_contra hge
    have hthrows := View.Throws.bind (g := fun b => .ok (b.writeString none parameter.sentName))
      (writeUInt8_ofNat_throws (Nat.not_lt.1 hge)) _ hvalid
    cases hthrows.symm.trans hname
  obtain ⟨b, hb, -, hcontents⟩ := (writeBVarchar_appends none hlt).bind
    (writeUInt8_ofNat_appends statusFlags_lt) _ hvalid
  obtain ⟨b₁', hname', hstatus'⟩ := Except.bind_ok hb
  cases hname'.symm.trans hname
  cases hstatus'.symm.trans hstatus
  refine ⟨hlt, typeInfo, length ++ data.flatten, ?_, ?_⟩
  · rw [DataTypeMethods.build, hinfo, hlength, hdata]
    rfl
  · have hhead : b₂.data.2 = bVarChar parameter.sentName ++ leBytes 1 parameter.statusFlags :=
      (data_snd b₂).trans hcontents
    simp only [List.flatten_cons, hhead, List.append_assoc]

/-- **One parameter** is taken with exactly its bytes, and arrives. -/
theorem generate_takes (options : ParserOptions) (hreadable : parameter.Readable collation)
    (h : parameter.generate collation = .ok chunks) :
    ∃ read, parameter.Arrives options collation read ∧
      ∀ s, Task.Takes (readRpcParameter options) s chunks.flatten read s := by
  obtain ⟨hname, typeInfo, bytes, hbuild, hflat⟩ := generate_ok h
  have hreads : ReadsParameter options _ _
      (parameter.methods.rpcParameter collation parameter.data) :=
    readsParameter hreadable.type rfl hreadable.value
  obtain ⟨metadata, value, hdescribes, hshows, htakes⟩ := hreads typeInfo bytes hbuild
  obtain ⟨length, data, hinfo, -, -, -⟩ := parameter.methods.build_ok hbuild
  refine ⟨⟨parameter.sentName, parameter.statusFlags, metadata, value⟩,
    ⟨rfl, rfl, ⟨typeInfo, hinfo, hdescribes⟩, hshows⟩, fun s => ?_⟩
  rw [hflat]
  refine (Task.Takes.await (readBVarChar_reads hname).returns s).bind ?_
  refine (Task.Takes.await (readUInt8_reads statusFlags_lt).returns s).bind ?_
  exact (Task.Takes.await hdescribes.returns s).bind ((htakes s).map _)

end RpcParameter

open RpcParameter

/-- **All parameters**, up to the end of the message. -/
theorem readRpcParameters_flatten (options : ParserOptions)
    {parameters : List (RpcParameter js useUTC)} {chunks : List (List Bytes)}
    (hreadable : ∀ parameter ∈ parameters, parameter.Readable collation)
    (h : parameters.mapM (RpcParameter.generate · collation) = .ok chunks) :
    ∃ reads, List.Forall₂ (RpcParameter.Arrives options collation) parameters reads ∧
      ∀ rounds, chunks.flatten.flatten.length ≤ rounds →
        readRpcParameters options rounds chunks.flatten.flatten = some reads := by
  induction parameters generalizing chunks with
  | nil =>
    cases h
    exact ⟨[], .nil, fun rounds _ => by cases rounds <;> rfl⟩
  | cons parameter parameters ih =>
    rw [List.mapM_cons] at h
    obtain ⟨first, hfirst, h⟩ := Except.bind_ok h
    obtain ⟨others, hothers, h⟩ := Except.bind_ok h
    cases h
    obtain ⟨read, harrives, htakes⟩ :=
      generate_takes options (hreadable parameter List.mem_cons_self) hfirst
    obtain ⟨reads, hall, hreads⟩ :=
      ih (fun p hp => hreadable p (List.mem_cons_of_mem _ hp)) hothers
    refine ⟨read :: reads, .cons harrives hall, fun rounds hrounds => ?_⟩
    have hflat : (first :: others).flatten.flatten = first.flatten ++ others.flatten.flatten := by
      simp
    rw [hflat] at hrounds ⊢
    -- A parameter has its two first bytes at least, and so one round is enough for it.
    obtain ⟨-, typeInfo, bytes, -, hbytes⟩ := generate_ok hfirst
    have htwo : 2 ≤ first.flatten.length := by
      rw [hbytes]
      simp
      omega
    have hscan := htakes [] others.flatten.flatten
    rw [List.length_append] at hrounds
    obtain ⟨rounds, rfl⟩ : ∃ n, rounds = n + 1 := ⟨rounds - 1, by omega⟩
    obtain ⟨b, rest, hcons⟩ : ∃ b rest, first.flatten ++ others.flatten.flatten = b :: rest :=
      List.exists_cons_of_ne_nil (by
        intro hnil
        have := congrArg List.length hnil
        rw [List.length_append] at this
        simp only [List.length_nil] at this
        omega)
    rw [hcons] at hscan ⊢
    rw [readRpcParameters, hscan]
    dsimp only
    rw [hreads rounds (by omega)]
    rfl

/-! ### The call -/

/-- What fits into the two bytes of the length of a name, or of a number. A name of 65535 code
units would begin with the marker of a number. -/
def Procedure.Fits : Procedure → Prop
  | name procedure => procedure.length < 65536
  | id procedure => procedure < 65536

def Procedure.bytes : Procedure → Bytes
  | name procedure => usVarChar procedure
  | id procedure => leBytes 2 0xFFFF ++ leBytes 2 procedure

namespace RpcRequestPayload

variable {payload : RpcRequestPayload js useUTC} {default : WritableTrackingBuffer.Encoding}

theorem writeProcedure_appends (h : payload.procedure.Fits) :
    (view .ucs2).Appends payload.writeProcedure payload.procedure.bytes := by
  unfold writeProcedure
  cases hprocedure : payload.procedure with
  | name procedure =>
    rw [hprocedure] at h
    exact writeUsVarchar_appends none h
  | id procedure =>
    rw [hprocedure] at h
    exact (writeUInt16LE_ofNat_appends (by decide)).bind (writeUInt16LE_ofNat_appends h)

theorem writeProcedure_throws (h : ¬ payload.procedure.Fits) :
    (view .ucs2).Throws payload.writeProcedure .rangeError := by
  unfold writeProcedure
  cases hprocedure : payload.procedure with
  | name procedure =>
    rw [hprocedure] at h
    exact View.Throws.bind (writeUInt16LE_ofNat_throws (Nat.not_lt.1 h))
  | id procedure =>
    rw [hprocedure] at h
    exact (writeUInt16LE_ofNat_appends (by decide)).throws
      (writeUInt16LE_ofNat_throws (Nat.not_lt.1 h))

/-- The headers, the procedure, and no options. -/
theorem generateHead_ok (hdescriptor : payload.txnDescriptor.length = 8) {head : Bytes}
    (h : payload.generateHead = .ok head) :
    payload.procedure.Fits ∧
      head = (if since72 payload.tdsVersion then headerBytes payload.txnDescriptor 1 else []) ++
        (payload.procedure.bytes ++ leBytes 2 0) := by
  obtain ⟨b₁, hheaders, h⟩ := Except.bind_ok h
  obtain ⟨b₂, hprocedure, h⟩ := Except.bind_ok h
  obtain ⟨b₃, hflags, h⟩ := Except.bind_ok h
  cases h
  have hvalid := valid_new 500 none false
  have hfirst : (view .ucs2).valid b₁ ∧ (view .ucs2).contents b₁ =
      if since72 payload.tdsVersion then headerBytes payload.txnDescriptor 1 else [] := by
    unfold writeHeaders at hheaders
    split at hheaders
    · next hsince =>
      obtain ⟨b, hb, hvalid', hcontents⟩ :=
        writeToTrackingBuffer_spec hvalid rfl hdescriptor (by decide : 1 < 4294967296)
      cases hb.symm.trans hheaders
      exact ⟨hvalid', hcontents.trans (if_pos hsince).symm⟩
    · next hsince =>
      cases hheaders
      exact ⟨hvalid, (if_neg hsince).symm⟩
  have hfits : payload.procedure.Fits := by
    by_contra hnot
    cases (writeProcedure_throws hnot b₁ hfirst.1).symm.trans hprocedure
  obtain ⟨b, hb, -, hcontents⟩ := (writeProcedure_appends hfits).bind
    (writeUInt16LE_ofNat_appends (n := 0) (by decide)) b₁ hfirst.1
  obtain ⟨b₂', hprocedure', hflags'⟩ := Except.bind_ok hb
  cases hprocedure'.symm.trans hprocedure
  cases hflags'.symm.trans hflags
  refine ⟨hfits, ?_⟩
  rw [← hfirst.2]
  exact (data_snd b₃).trans hcontents

end RpcRequestPayload

theorem readProcedure_reads {procedure : Procedure} (h : procedure.Fits)
    (hmarker : ∀ name, procedure = .name name → name.length ≠ 65535) :
    Reads readProcedure procedure.bytes procedure := by
  cases procedure with
  | name procedure =>
    refine (readUInt16LE_reads h).bind ?_
    rw [if_neg (hmarker procedure rfl)]
    exact (readUcs2_reads procedure).map Procedure.name
  | id procedure =>
    refine (readUInt16LE_reads (by decide)).bind ?_
    rw [if_pos rfl]
    exact (readUInt16LE_reads h).map Procedure.id

/-- The call is read, and what stands behind it is left for the parameters. -/
theorem readRpcRequest_append {tdsVersion : JsString} {txnDescriptor : Bytes}
    (htds : options.tdsVersion = tdsVersion) (hdescriptor : txnDescriptor.length = 8)
    {procedure : Procedure} (h : procedure.Fits)
    (hmarker : ∀ name, procedure = .name name → name.length ≠ 65535) (rest : Bytes) :
    readRpcRequest options ((if since72 tdsVersion then headerBytes txnDescriptor 1 else []) ++
        (procedure.bytes ++ leBytes 2 0) ++ rest) =
      (readRpcParameters options rest.length rest).map fun parameters =>
        { headers := requestHeaders tdsVersion txnDescriptor, procedure, optionFlags := 0,
          parameters } := by
  subst htds
  have hcall : Reads readCall (procedure.bytes ++ leBytes 2 0) (procedure, 0) :=
    (readProcedure_reads h hmarker).bind
      ((readUInt16LE_reads (n := 0) (by decide)).map (Prod.mk procedure))
  have hrun := hcall.returns [] rest
  rw [List.nil_append, List.length_nil, Nat.cast_zero] at hrun
  unfold readRpcRequest
  rw [List.append_assoc, splitHeaders_append options.tdsVersion hdescriptor]
  show (match readCall.run (procedure.bytes ++ leBytes 2 0 ++ rest) 0 with
    | .ok ⟨(procedure, optionFlags), offset⟩ => _
    | .error _ => none) = _
  rw [hrun]
  dsimp only
  rw [Int.toNat_natCast, List.drop_left]
  cases readRpcParameters options rest.length rest <;> rfl

/-- A call that has been read, next to the payload that was sent. -/
structure RpcRequestPayload.Received (options : ParserOptions)
    (payload : RpcRequestPayload js useUTC) (call : ReadRpcRequest) : Prop where
  headers : call.headers = requestHeaders payload.tdsVersion payload.txnDescriptor
  procedure : call.procedure = payload.procedure
  optionFlags : call.optionFlags = 0
  parameters : List.Forall₂ (RpcParameter.Arrives options payload.collation) payload.parameters
    call.parameters

theorem received_generateData {payload : RpcRequestPayload js useUTC}
    (htds : options.tdsVersion = payload.tdsVersion)
    (hdescriptor : payload.txnDescriptor.length = 8)
    (hmarker : ∀ name, payload.procedure = .name name → name.length ≠ 65535)
    (hreadable : ∀ parameter ∈ payload.parameters, parameter.Readable payload.collation)
    {chunks : List Bytes} (h : payload.generateData = .ok chunks) :
    ∃ call, readRpcRequest options chunks.flatten = some call ∧ payload.Received options call := by
  obtain ⟨head, hhead, h⟩ := Except.bind_ok h
  obtain ⟨parameters, hparameters, h⟩ := Except.bind_ok h
  cases h
  obtain ⟨hfits, rfl⟩ := RpcRequestPayload.generateHead_ok hdescriptor hhead
  obtain ⟨reads, hall, hreads⟩ :=
    readRpcParameters_flatten options hreadable hparameters
  refine ⟨⟨_, _, _, reads⟩, ?_, ⟨rfl, rfl, rfl, hall⟩⟩
  rw [List.flatten_cons, readRpcRequest_append htds hdescriptor hfits hmarker,
    hreads _ (Nat.le_refl _)]
  rfl

/-- **A call arrives**: where its payload can be written, a server reads the procedure that was
called, in the transaction of the connection, and every parameter, under its name and status,
with its type and its value. -/
theorem readRpcRequest_generateData (payload : RpcRequestPayload js useUTC)
    (htds : options.tdsVersion = payload.tdsVersion)
    (hdescriptor : payload.txnDescriptor.length = 8)
    (hmarker : ∀ name, payload.procedure = .name name → name.length ≠ 65535)
    (hreadable : ∀ parameter ∈ payload.parameters, parameter.Readable payload.collation)
    {chunks : List Bytes} (h : payload.generateData = .ok chunks) :
    ∃ reads,
      List.Forall₂ (RpcParameter.Arrives options payload.collation) payload.parameters reads ∧
      readRpcRequest options chunks.flatten = some
        { headers := requestHeaders payload.tdsVersion payload.txnDescriptor
          procedure := payload.procedure, optionFlags := 0, parameters := reads } := by
  obtain ⟨⟨headers, procedure, optionFlags, reads⟩, hread, rfl, rfl, rfl, hall⟩ :=
    received_generateData htds hdescriptor hmarker hreadable h
  exact ⟨reads, hall, hread⟩

/-- A call of `p` with `@a`, which is 7 and comes back. -/
def callOfP : RpcRequestPayload numberRuntime true where
  procedure := .name [0x70]
  parameters := [
    { name := [0x61], output := true, type := .Int
      data := { length := none, precision := none, scale := none, collation := none
                value := some (7 : Int) } }]
  txnDescriptor := List.replicate 8 0
  tdsVersion := JsString.ofString "7_4"
  collation := none

theorem readRpcRequest_generateData_callOfP : ∃ chunks reads,
    callOfP.generateData = .ok chunks ∧
    List.Forall₂ (RpcParameter.Arrives (.default asciiPlatform) none) callOfP.parameters reads ∧
    readRpcRequest (.default asciiPlatform) chunks.flatten = some
      { headers := [transactionHeader (List.replicate 8 0) 1], procedure := .name [0x70]
        optionFlags := 0, parameters := reads } := by
  have hok : callOfP.generateData.isOk = true := by decide +kernel
  have hmarker : ∀ name, callOfP.procedure = .name name → name.length ≠ 65535 := by
    rintro name ⟨⟩
    decide
  have hreadable : ∀ parameter ∈ callOfP.parameters, parameter.Readable callOfP.collation := by
    intro parameter hparameter
    obtain rfl := List.mem_singleton.1 hparameter
    exact ⟨rfl, not_false⟩
  cases hchunks : callOfP.generateData with
  | error e =>
    rw [hchunks] at hok
    cases hok
  | ok chunks =>
    have htds : (ParserOptions.default asciiPlatform).tdsVersion = callOfP.tdsVersion := rfl
    obtain ⟨reads, hall, hread⟩ :=
      readRpcRequest_generateData callOfP htds rfl hmarker hreadable hchunks
    exact ⟨chunks, reads, rfl, hall, hread⟩

end Tedious
