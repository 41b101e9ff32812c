import Tedious.BulkLoadSql
import Tedious.DataTypes.Validation
import Tedious.Lib.Separated
import Tedious.RpcRequestPayload

/-!
# Tedious.Procedures

The calls behind `execSql`, `prepare`, `execute`, `unprepare` and `callProcedure` (`connection.ts`).
A statement with parameters is sent to `sp_executesql` together with the declarations of its
parameters, and the parameters follow them: the text and the calls have to agree.

`readExecuteSql` and `readPrepare` are the server's side. `execSql_arrives` and
`prepare_execute_arrive` say that every parameter is declared under its own name, in its place.
-/

namespace Tedious

open Chunked Appending

/-! ### Declarations -/

/-- What `declaration` can tell about a value: its length and its name, if it has one. -/
inductive DeclaredValue
  | undefined
  | null
  | value (length : Nat) (name : Option JsString)
  deriving DecidableEq, Repr

/-- What `makeParamsParameter` reads of a parameter. -/
structure DeclaredParameter where
  name : JsString
  output : Bool
  type : DataType
  length : Option JsNumber
  precision : Option JsNumber
  scale : Option JsNumber
  value : DeclaredValue

namespace DeclaredParameter

variable (parameter : DeclaredParameter)

def declaredLength (maximumLength : Nat) : JsNumber :=
  match parameter.length with
  | some length => if length.isTruthy then length else valueLength
  | none => valueLength
where
  valueLength :=
    match parameter.value with
    | .value length _ => orOne length
    | .null => if parameter.output then .ofNat maximumLength else .ofNat 1
    | .undefined => .ofNat maximumLength

/-- `resolveScale` of the types of a time. -/
def timeScale : JsNumber :=
  match parameter.scale, parameter.value with
  | some scale, _ => scale
  | none, .null => .ofNat 0
  | none, _ => .ofNat 7

/-- `resolvePrecision` of `Decimal` and `Numeric`. -/
def precisionOrDefault : JsNumber :=
  match parameter.precision, parameter.value with
  | some precision, _ => precision
  | none, .null => .ofNat 1
  | none, _ => .ofNat 18

variable (numbers : NumberFormat)

/-- In `char` and `nchar` a length above the maximum is cut to it. -/
def cutLength (maximumLength : Nat) : JsString :=
  let length := parameter.declaredLength maximumLength
  numbers.format (if length.below maximumLength then length else .ofNat maximumLength)

/-- In `varchar`, `nvarchar` and `varbinary` a length above the maximum is `max`. -/
def lengthOrMax (maximumLength : Nat) : JsString :=
  let length := parameter.declaredLength maximumLength
  if length.atMost maximumLength then numbers.format length else JsString.ofString "max"

def scaleSql : JsString := numbers.format parameter.timeScale

def precisionAndScale : JsString :=
  numbers.format parameter.precisionOrDefault ++
    (JsString.ofString ", " ++ numbers.format (parameter.scale.getD (.ofNat 0)))

/-- `value.name + ' readonly'`. -/
def tableSql : Except JsError JsString :=
  match parameter.value with
  | .undefined | .null => .error .typeError
  | .value _ name =>
    .ok (name.getD (JsString.ofString "undefined") ++ JsString.ofString " readonly")

/-- `parameter.type.declaration(parameter)`. -/
def declaration : Except JsError JsString :=
  match parameter.type with
  | .TinyInt => .ok (JsString.ofString "tinyint")
  | .Bit => .ok (JsString.ofString "bit")
  | .SmallInt => .ok (JsString.ofString "smallint")
  | .Int => .ok (JsString.ofString "int")
  | .BigInt => .ok (JsString.ofString "bigint")
  | .Real => .ok (JsString.ofString "real")
  | .Float => .ok (JsString.ofString "float")
  | .SmallMoney => .ok (JsString.ofString "smallmoney")
  | .Money => .ok (JsString.ofString "money")
  | .SmallDateTime => .ok (JsString.ofString "smalldatetime")
  | .DateTime => .ok (JsString.ofString "datetime")
  | .Date => .ok (JsString.ofString "date")
  | .Image => .ok (JsString.ofString "image")
  | .Text => .ok (JsString.ofString "text")
  | .NText => .ok (JsString.ofString "ntext")
  | .UniqueIdentifier => .ok (JsString.ofString "uniqueidentifier")
  | .Variant => .ok (JsString.ofString "sql_variant")
  | .Time => .ok (withArgument "time" (parameter.scaleSql numbers))
  | .DateTime2 => .ok (withArgument "datetime2" (parameter.scaleSql numbers))
  | .DateTimeOffset => .ok (withArgument "datetimeoffset" (parameter.scaleSql numbers))
  | .Decimal => .ok (withArgument "decimal" (parameter.precisionAndScale numbers))
  | .Numeric => .ok (withArgument "numeric" (parameter.precisionAndScale numbers))
  | .Binary => .ok (withArgument "binary" (numbers.format (parameter.declaredLength 8000)))
  | .Char => .ok (withArgument "char" (parameter.cutLength numbers 8000))
  | .NChar => .ok (withArgument "nchar" (parameter.cutLength numbers 4000))
  | .VarBinary => .ok (withArgument "varbinary" (parameter.lengthOrMax numbers 8000))
  | .VarChar => .ok (withArgument "varchar" (parameter.lengthOrMax numbers 8000))
  | .NVarChar => .ok (withArgument "nvarchar" (parameter.lengthOrMax numbers 4000))
  | .TVP => parameter.tableSql
  | .Null | .IntN | .BitN | .DecimalN | .NumericN | .FloatN | .MoneyN | .DateTimeN | .Xml | .UDT =>
    .error (.error "not implemented")

/-- One parameter in the text of `makeParamsParameter`. -/
def sql : Except JsError JsString := do
  let declaration ← parameter.declaration numbers
  pure (JsString.ofString "@" ++ (parameter.name ++ (JsString.ofString " " ++
    (declaration ++ (if parameter.output then JsString.ofString " OUTPUT" else [])))))

end DeclaredParameter

/-- One round of `makeParamsParameter`. -/
def addParam (numbers : NumberFormat) (paramsParameter : JsString)
    (parameter : DeclaredParameter) : Except JsError JsString := do
  let sql ← parameter.sql numbers
  pure ((if paramsParameter.length > 0 then paramsParameter ++ JsString.ofString ", "
    else paramsParameter) ++ sql)

def makeParamsParameter (numbers : NumberFormat) (parameters : List DeclaredParameter) :
    Except JsError JsString :=
  parameters.foldlM (addParam numbers) []

/-! ### Calls -/

namespace Procedures

def Sp_ExecuteSql : Nat := 10

def Sp_Prepare : Nat := 11

def Sp_Execute : Nat := 12

def Sp_Unprepare : Nat := 15

end Procedures

section Values

variable (js : Runtime) (useUTC : Bool)

/-- The length of a value that has one. -/
def valueLength : (type : DataType) → (sendType js useUTC type).α → Nat
  | .VarChar | .Char | .Text | .Binary | .VarBinary | .Image => fun bytes : Bytes => bytes.length
  | .NVarChar | .NChar | .NText | .UniqueIdentifier => fun s : JsString => s.length
  | _ => fun _ => 0

/-- The name of a value that has one. -/
def valueName : (type : DataType) → (sendType js useUTC type).α → Option JsString
  | .TVP => fun table : TableValue => table.name
  | _ => fun _ => none

variable (collation : Option Collation)

/-- The parameter, with what its type makes of a value. -/
def Parameter.accept (parameter : Parameter) (value : JsValue) :
    Except JsError (RpcParameter js useUTC) := do
  let value ← (sendType js useUTC parameter.type).validate value collation
  pure
    { name := parameter.name, output := parameter.output, type := parameter.type
      data := { length := parameter.length, precision := parameter.precision
                scale := parameter.scale, collation := none, value } }

/-- The parameter that `validateParameters` leaves, or the error that it throws. -/
def Parameter.validated (parameter : Parameter) : Except RequestError (RpcParameter js useUTC) :=
  match parameter.accept js useUTC collation parameter.value with
  | .ok accepted => .ok accepted
  | .error e => .error <| .new (JsString.ofString "Validation failed for parameter '" ++
      parameter.name ++ JsString.ofString "'. " ++ e.message) (some "EPARAM")

end Values

variable {js : Runtime} {useUTC : Bool}

namespace RpcParameter

/-- The parameter with the value in it. -/
def parameter (accepted : RpcParameter js useUTC) : Parameter where
  type := accepted.type
  name := accepted.name
  value := nextValue js useUTC accepted.type accepted.data.value
  output := accepted.output
  length := accepted.data.length
  precision := accepted.data.precision
  scale := accepted.data.scale

def declared (accepted : RpcParameter js useUTC) : DeclaredParameter where
  name := accepted.name
  output := accepted.output
  type := accepted.type
  length := accepted.data.length
  precision := accepted.data.precision
  scale := accepted.data.scale
  value :=
    match accepted.data.value with
    | none => .null
    | some value =>
      .value (valueLength js useUTC accepted.type value) (valueName js useUTC accepted.type value)

/-- An `NVarChar` that the program sends. -/
def text (name : String) (value : Option JsString) : RpcParameter js useUTC where
  name := JsString.ofString name
  output := false
  type := .NVarChar
  data := { length := none, precision := none, scale := none, collation := none, value := value }

/-- The handle of a prepared statement. -/
def handle (name : String) (output : Bool) (value : Option Int) : RpcParameter js useUTC where
  name := JsString.ofString name
  output := output
  type := .Int
  data := { length := none, precision := none, scale := none, collation := none, value := value }

end RpcParameter

/-- The length of a value that no type has accepted. -/
abbrev ValueLengths := DataType → JsValue → Nat

/-- The parameter with the value that the user has given. -/
def Parameter.declared (lengths : ValueLengths) (parameter : Parameter) : DeclaredParameter where
  name := parameter.name
  output := parameter.output
  type := parameter.type
  length := parameter.length
  precision := parameter.precision
  scale := parameter.scale
  value :=
    match parameter.value with
    | .undefined => .undefined
    | .null => .null
    | .table schema name columns rows =>
      .value (lengths parameter.type (.table schema name columns rows)) name
    | value => .value (lengths parameter.type value) none

/-- What a call reads of the connection. -/
structure CallContext where
  txnDescriptor : Bytes
  tdsVersion : JsString
  collation : Option Collation

/-- A request is made, or the callback gets an error. -/
inductive CallOutcome (js : Runtime) (useUTC : Bool)
  | makeRequest (payload : RpcRequestPayload js useUTC)
  | callback (error : Err)

namespace CallContext

variable (context : CallContext)

def payload (procedure : Procedure) (parameters : List (RpcParameter js useUTC)) :
    RpcRequestPayload js useUTC where
  procedure := procedure
  parameters := parameters
  txnDescriptor := context.txnDescriptor
  tdsVersion := context.tdsVersion
  collation := context.collation

/-- The parameters of `sp_executesql`. -/
def executeSqlParameters (numbers : NumberFormat) (sqlText : Option JsString)
    (parameters : List (RpcParameter js useUTC)) :
    Except JsError (List (RpcParameter js useUTC)) :=
  if parameters.length > 0 then do
    let params ← makeParamsParameter numbers (parameters.map RpcParameter.declared)
    pure (.text "statement" sqlText :: .text "params" (some params) :: parameters)
  else pure [.text "statement" sqlText]

def execSql (numbers : NumberFormat) (sqlText : Option JsString) (parameters : List Parameter) :
    Except JsError (CallOutcome js useUTC) :=
  match parameters.mapM (Parameter.validated js useUTC context.collation) with
  | .error e => .ok (.callback (.request e))
  | .ok parameters => do
    let parameters ← executeSqlParameters numbers sqlText parameters
    pure (.makeRequest (context.payload (.id Procedures.Sp_ExecuteSql) parameters))

/-- The declarations of `sp_prepare`. -/
def preparedParams (numbers : NumberFormat) (lengths : ValueLengths)
    (parameters : List Parameter) : Except JsError (Option JsString) :=
  if parameters.length > 0 then
    (makeParamsParameter numbers (parameters.map (Parameter.declared lengths))).map some
  else .ok none

def prepare (numbers : NumberFormat) (lengths : ValueLengths) (sqlText : Option JsString)
    (parameters : List Parameter) : Except JsError (RpcRequestPayload js useUTC) := do
  let params ← preparedParams numbers lengths parameters
  pure (context.payload (.id Procedures.Sp_Prepare)
    [.handle "handle" true none, .text "params" params, .text "stmt" sqlText])

def unprepare (handle : Option Int) : RpcRequestPayload js useUTC :=
  context.payload (.id Procedures.Sp_Unprepare) [.handle "handle" false handle]

/-- `values` are the values by name, if there are any. -/
def execute (handle : Option Int) (parameters : List Parameter)
    (values : Option (JsString → JsValue)) : CallOutcome js useUTC :=
  match parameters.mapM fun parameter =>
      parameter.accept js useUTC context.collation (values.elim .null (· parameter.name)) with
  | .error e => .callback (.error e.message)
  | .ok parameters =>
    .makeRequest (context.payload (.id Procedures.Sp_Execute)
      (.handle "" false handle :: parameters))

def callProcedure (procedure : JsString) (parameters : List Parameter) : CallOutcome js useUTC :=
  match parameters.mapM (Parameter.validated js useUTC context.collation) with
  | .error e => .callback (.request e)
  | .ok parameters => .makeRequest (context.payload (.name procedure) parameters)

end CallContext

/-! ### The server -/

/-- A declaration that has been read. -/
structure Declaration where
  name : JsString
  type : JsString
  output : Bool
  deriving DecidableEq, Repr

/-- A declaration behind its `@`: the name up to the first blank, and the type. -/
def readDeclaration (text : JsString) : Declaration :=
  let type := (text.dropWhile (· ≠ 0x20)).drop 1
  let output := (JsString.ofString " OUTPUT").isSuffixOf type
  { name := text.takeWhile (· ≠ 0x20)
    type := if output then type.take (type.length - 7) else type
    output }

/-- Declarations, each behind an `@`, with commas between them. -/
def readDeclarations : JsString → Option (List Declaration)
  | [] => some []
  | c :: text =>
    if c = 0x40 then
      let texts := Separated.splitAll (JsString.ofString ", @") (text.length + 1) text
      some (texts.map readDeclaration)
    else none

/-- A parameter is what has been declared. -/
def ReadParameter.isDeclared (parameter : ReadParameter) (declaration : Declaration) : Bool :=
  parameter.name = JsString.ofString "@" ++ declaration.name &&
    decide (parameter.status % 2 = 1) = declaration.output

/-- The text of a parameter, with the name that it has to have; `null` is no text. -/
def ReadParameter.readText (parameter : ReadParameter) (name : String) : Option (Option JsString) :=
  if parameter.name = JsString.ofString name then
    match parameter.value with
    | .string text => some (some text)
    | .null => some none
    | _ => none
  else none

/-- `sp_executesql`: the statement, and its parameters as they have been declared. -/
def readExecuteSql (call : ReadRpcRequest) :
    Option (Option JsString × List (Declaration × ReadParameter)) :=
  match call.parameters with
  | [statement] => do
    let sqlText ← statement.readText "@statement"
    some (sqlText, [])
  | statement :: params :: parameters => do
    let sqlText ← statement.readText "@statement"
    let params ← params.readText "@params"
    let declarations ← readDeclarations (params.getD [])
    if declarations.length = parameters.length ∧
        (parameters.zip declarations).all (fun (p, d) => p.isDeclared d) then
      some (sqlText, declarations.zip parameters)
    else none
  | [] => none

/-- `sp_prepare`: the statement, and what it has declared. -/
def readPrepare (call : ReadRpcRequest) : Option (Option JsString × List Declaration) :=
  match call.parameters with
  | [handle, params, stmt] =>
    if handle.name = JsString.ofString "@handle" ∧ handle.status % 2 = 1 then do
      let params ← params.readText "@params"
      let sqlText ← stmt.readText "@stmt"
      let declarations ← readDeclarations (params.getD [])
      some (sqlText, declarations)
    else none
  | _ => none

/-- `sp_execute`: the handle, which has no name, and the parameters. -/
def readExecute (call : ReadRpcRequest) : Option (Value × List ReadParameter) :=
  match call.parameters with
  | handle :: parameters => if handle.name = [] then some (handle.value, parameters) else none
  | [] => none

/-! ### The declarations are read back -/

variable {numbers : NumberFormat}

theorem NumberFormat.notMem_of_notMem {c : UInt16} (h : c ∉ numeralSymbols) (n : JsNumber) :
    c ∉ numbers.format n :=
  fun hmem => h (numbers.numeral n c hmem)

theorem withArgument_notMem {c : UInt16} {name : String} {argument : JsString}
    (hname : c ∉ JsString.ofString name ++ JsString.ofString "()") (hargument : c ∉ argument) :
    c ∉ withArgument name argument := by
  have hparts : c ∉ JsString.ofString name ∧ c ∉ JsString.ofString "(" ∧
      c ∉ JsString.ofString ")" := by
    refine ⟨fun h => hname (List.mem_append_left _ h), fun h => hname (List.mem_append_right _ ?_),
      fun h => hname (List.mem_append_right _ ?_)⟩
    · exact List.mem_append_left (JsString.ofString ")") h
    · exact List.mem_append_right (JsString.ofString "(") h
  simp only [withArgument, List.mem_append, not_or]
  exact ⟨hparts.1, hparts.2.1, hargument, hparts.2.2⟩

theorem withArgument_getLast (name : String) (argument : JsString) :
    (withArgument name argument).getLast? = some 0x29 := by
  have h : withArgument name argument =
      (JsString.ofString name ++ (JsString.ofString "(" ++ argument)) ++ [0x29] := by
    simp only [withArgument, List.append_assoc]
    rfl
  rw [h, List.getLast?_concat]

namespace DeclaredParameter

/-- A name that ends in front of a blank, and that no other name begins in. -/
structure IsVariable (name : JsString) : Prop where
  ne : name ≠ []
  blank : 0x20 ∉ name
  marker : 0x40 ∉ name

/-- The names that stand in a declaration: of the variable, and of the type of a table. -/
structure Declarable (parameter : DeclaredParameter) : Prop where
  name : IsVariable parameter.name
  table : ∀ length name, parameter.type = .TVP → parameter.value = .value length (some name) →
    0x40 ∉ name

/-- A declaration that has been read, next to the parameter. -/
structure Declares (numbers : NumberFormat) (parameter : DeclaredParameter)
    (read : Declaration) : Prop where
  name : read.name = parameter.name
  type : parameter.declaration numbers = .ok read.type
  output : read.output = parameter.output

variable {parameter : DeclaredParameter} {text : JsString}

theorem tableSql_plain (h : parameter.Declarable) (htype : parameter.type = .TVP)
    (hok : parameter.tableSql = .ok text) : 0x40 ∉ text ∧ text.getLast? ≠ some 0x54 := by
  rw [tableSql] at hok
  split at hok
  · cases hok
  · cases hok
  · next length name hvalue =>
    cases hok
    constructor
    · rw [List.mem_append, not_or]
      refine ⟨?_, by decide⟩
      cases name with
      | none => decide
      | some name => exact h.table length name htype hvalue
    · rw [List.getLast?_append]
      exact fun heq => absurd (Option.some.inj heq) (by decide)

/-- No `@` stands in a declaration, and it does not end like ` OUTPUT`. -/
theorem declaration_plain (h : parameter.Declarable)
    (hok : parameter.declaration numbers = .ok text) :
    0x40 ∉ text ∧ text.getLast? ≠ some 0x54 := by
  have hformat : ∀ n, 0x40 ∉ numbers.format n := NumberFormat.notMem_of_notMem (by decide)
  have hargument : ∀ {name argument}, 0x40 ∉ JsString.ofString name ++ JsString.ofString "()" →
      0x40 ∉ argument → 0x40 ∉ withArgument name argument ∧
        (withArgument name argument).getLast? ≠ some 0x54 := by
    intro name argument hname hmem
    refine ⟨withArgument_notMem hname hmem, ?_⟩
    rw [withArgument_getLast]
    decide
  have hmax : ∀ maximumLength, 0x40 ∉ parameter.lengthOrMax numbers maximumLength := by
    intro maximumLength
    rw [lengthOrMax]
    split
    · exact hformat _
    · decide
  have hprecision : 0x40 ∉ parameter.precisionAndScale numbers := by
    simp only [precisionAndScale, List.mem_append, not_or]
    exact ⟨hformat _, by decide, hformat _⟩
  by_cases htable : parameter.type = .TVP
  · rw [declaration, htable] at hok
    exact tableSql_plain h htable hok
  rw [declaration] at hok
  split at hok <;> first | cases hok | skip
  all_goals first
    | exact absurd ‹_› htable
    | exact ⟨by decide, by decide⟩
    | exact hargument (by decide) (by first | exact hformat _ | exact hprecision | exact hmax _)

/-- **One declaration** is read back. -/
theorem readDeclaration_sql (h : parameter.Declarable) {sql : JsString}
    (hok : parameter.sql numbers = .ok sql) :
    ∃ text, sql = 0x40 :: text ∧ 0x40 ∉ text ∧
      parameter.Declares numbers (readDeclaration text) := by
  obtain ⟨declaration, hdeclaration, hok⟩ := Except.bind_ok hok
  cases hok
  obtain ⟨hmarker, hlast⟩ := declaration_plain h hdeclaration
  refine ⟨parameter.name ++ (JsString.ofString " " ++ (declaration ++
    (if parameter.output then JsString.ofString " OUTPUT" else []))), rfl, ?_, ?_⟩
  · simp only [List.mem_append, not_or]
    refine ⟨h.name.marker, by decide, hmarker, ?_⟩
    split <;> decide
  · have hblank : ∀ c ∈ parameter.name, decide (c ≠ 0x20) = true :=
      fun c hc => decide_eq_true (ne_of_mem_of_not_mem hc h.name.blank)
    have htake : ∀ rest : JsString, (parameter.name ++ (JsString.ofString " " ++ rest)).takeWhile
        (· ≠ 0x20) = parameter.name := by
      intro rest
      rw [List.takeWhile_append_of_pos hblank]
      exact List.append_nil _
    have hdrop : ∀ rest : JsString, ((parameter.name ++ (JsString.ofString " " ++ rest)).dropWhile
        (· ≠ 0x20)).drop 1 = rest := by
      intro rest
      rw [List.dropWhile_append_of_pos hblank]
      rfl
    cases houtput : parameter.output with
    | true =>
      have hsuffix : (JsString.ofString " OUTPUT").isSuffixOf
          (declaration ++ JsString.ofString " OUTPUT") = true :=
        List.isSuffixOf_iff_suffix.2 (List.suffix_append _ _)
      have htype : (declaration ++ JsString.ofString " OUTPUT").take
          ((declaration ++ JsString.ofString " OUTPUT").length - 7) = declaration := by
        rw [List.length_append]
        exact List.take_left' (Nat.add_sub_cancel ..).symm
      simp only [if_true]
      refine ⟨htake _, ?_, ?_⟩
      · rw [readDeclaration]
        dsimp only
        rw [hdrop, if_pos hsuffix, htype, hdeclaration]
      · rw [readDeclaration]
        dsimp only
        rw [hdrop, hsuffix, houtput]
    | false =>
      have hsuffix : (JsString.ofString " OUTPUT").isSuffixOf declaration = false := by
        refine Bool.eq_false_iff.2 fun hs => hlast ?_
        obtain ⟨front, rfl⟩ := List.isSuffixOf_iff_suffix.1 hs
        rw [List.getLast?_append]
        rfl
      simp only [Bool.false_eq_true, if_false, List.append_nil]
      refine ⟨htake _, ?_, ?_⟩
      · rw [readDeclaration]
        dsimp only
        rw [hdrop, hsuffix, hdeclaration]
        rfl
      · rw [readDeclaration]
        dsimp only
        rw [hdrop, hsuffix, houtput]

end DeclaredParameter

open DeclaredParameter

/-! ### All declarations -/

theorem sql_ne_nil {parameter : DeclaredParameter} {sql : JsString}
    (h : parameter.sql numbers = .ok sql) : sql ≠ [] := by
  obtain ⟨declaration, -, h⟩ := Except.bind_ok h
  cases h
  exact List.cons_ne_nil _ _

/-- Behind what is there, each parameter has a comma in front of it. -/
theorem foldlM_addParam {parameters : List DeclaredParameter} {front text : JsString}
    (hfront : front ≠ []) (h : parameters.foldlM (addParam numbers) front = .ok text) :
    ∃ sqls, parameters.mapM (·.sql numbers) = .ok sqls ∧
      text = (JsString.ofString ", ").intercalate (front :: sqls) := by
  induction parameters generalizing front with
  | nil =>
    cases h
    exact ⟨[], rfl, List.intercalate_singleton.symm⟩
  | cons parameter parameters ih =>
    rw [List.foldlM_cons] at h
    obtain ⟨next, hnext, h⟩ := Except.bind_ok h
    obtain ⟨sql, hsql, hnext⟩ := Except.bind_ok hnext
    rw [if_pos (List.length_pos_of_ne_nil hfront)] at hnext
    cases hnext
    obtain ⟨sqls, hsqls, rfl⟩ := ih (by simp [hfront]) h
    refine ⟨sql :: sqls, ?_, ?_⟩
    · rw [List.mapM_cons, hsql, hsqls]
      rfl
    · cases sqls with
      | nil => simp only [List.intercalate_singleton, List.intercalate_cons_cons]
      | cons next sqls => simp only [List.intercalate_cons_cons, List.append_assoc]

theorem makeParamsParameter_ok {parameters : List DeclaredParameter} {text : JsString}
    (hne : parameters ≠ []) (h : makeParamsParameter numbers parameters = .ok text) :
    ∃ sqls, parameters.mapM (·.sql numbers) = .ok sqls ∧
      text = (JsString.ofString ", ").intercalate sqls := by
  cases parameters with
  | nil => exact absurd rfl hne
  | cons parameter parameters =>
    rw [makeParamsParameter, List.foldlM_cons] at h
    obtain ⟨first, hfirst, h⟩ := Except.bind_ok h
    obtain ⟨sql, hsql, hfirst⟩ := Except.bind_ok hfirst
    cases hfirst
    obtain ⟨sqls, hsqls, rfl⟩ := foldlM_addParam (sql_ne_nil hsql) h
    refine ⟨sql :: sqls, ?_, rfl⟩
    rw [List.mapM_cons, hsql, hsqls]
    rfl

/-- The texts of the parameters, without their `@`. -/
theorem sqls_declare {parameters : List DeclaredParameter}
    (hdeclarable : ∀ parameter ∈ parameters, parameter.Declarable) {sqls : List JsString}
    (h : parameters.mapM (·.sql numbers) = .ok sqls) :
    ∃ texts : List JsString, sqls = texts.map (0x40 :: ·) ∧ (∀ text ∈ texts, 0x40 ∉ text) ∧
      List.Forall₂ (Declares numbers) parameters (texts.map readDeclaration) := by
  induction parameters generalizing sqls with
  | nil =>
    cases h
    exact ⟨[], rfl, List.forall_mem_nil _, .nil⟩
  | cons parameter parameters ih =>
    rw [List.mapM_cons] at h
    obtain ⟨sql, hsql, h⟩ := Except.bind_ok h
    obtain ⟨sqls, hsqls, h⟩ := Except.bind_ok h
    cases h
    obtain ⟨hfirst, hothers⟩ := List.forall_mem_cons.1 hdeclarable
    obtain ⟨text, rfl, htext, hdeclares⟩ := readDeclaration_sql hfirst hsql
    obtain ⟨texts, rfl, htexts, hall⟩ := ih hothers hsqls
    exact ⟨text :: texts, rfl, List.forall_mem_cons.2 ⟨htext, htexts⟩, .cons hdeclares hall⟩

/-- **All declarations** are read back, in order. -/
theorem readDeclarations_makeParamsParameter {parameters : List DeclaredParameter}
    (hdeclarable : ∀ parameter ∈ parameters, parameter.Declarable) {text : JsString}
    (h : makeParamsParameter numbers parameters = .ok text) :
    ∃ declarations, readDeclarations text = some declarations ∧
      List.Forall₂ (Declares numbers) parameters declarations := by
  by_cases hne : parameters = []
  · subst hne
    cases h
    exact ⟨[], rfl, .nil⟩
  obtain ⟨sqls, hsqls, rfl⟩ := makeParamsParameter_ok hne h
  obtain ⟨texts, rfl, htexts, hall⟩ := sqls_declare hdeclarable hsqls
  have htextsne : texts ≠ [] := by
    rintro rfl
    cases hall
    exact hne rfl
  refine ⟨texts.map readDeclaration, ?_, hall⟩
  have hmarked : (JsString.ofString ", ").intercalate (texts.map (0x40 :: ·)) =
      0x40 :: (JsString.ofString ", " ++ [0x40]).intercalate texts :=
    Separated.intercalate_marked htextsne
  have hseparator : JsString.ofString ", " ++ [0x40] = JsString.ofString ", @" := rfl
  rw [hmarked, readDeclarations, if_pos rfl, ← hseparator,
    Separated.splitAll_intercalate (by decide) htextsne htexts
      (Separated.length_intercalate _ (by decide) _)]

/-! ### Accepted parameters -/

/-- Where nothing fails, every element has its result. -/
theorem Except.forall₂_of_mapM {ε α β : Type} {f : α → Except ε β} {as : List α} {bs : List β}
    (h : as.mapM f = .ok bs) : List.Forall₂ (fun a b => f a = .ok b) as bs := by
  induction as generalizing bs with
  | nil =>
    cases h
    exact .nil
  | cons a as ih =>
    rw [List.mapM_cons] at h
    obtain ⟨b, hb, h⟩ := Except.bind_ok h
    obtain ⟨bs', hbs, h⟩ := Except.bind_ok h
    cases h
    exact .cons hb (ih hbs)

section Accepted

variable {collation : Option Collation} {parameter : Parameter} {parameters : List Parameter}

theorem accept_ok {value : JsValue} {accepted : RpcParameter js useUTC}
    (h : parameter.accept js useUTC collation value = .ok accepted) :
    accepted.name = parameter.name ∧ accepted.output = parameter.output ∧
      accepted.type = parameter.type := by
  obtain ⟨value', -, h⟩ := Except.bind_ok h
  cases h
  exact ⟨rfl, rfl, rfl⟩

/-- What is accepted is what `validate` puts in the place of a parameter. -/
theorem validate_eq (parameter : Parameter) :
    parameter.validate js useUTC collation =
      (parameter.validated js useUTC collation).map RpcParameter.parameter := by
  rw [Parameter.validate, Parameter.validated, Parameter.accept]
  cases (sendType js useUTC parameter.type).validate parameter.value collation <;> rfl

theorem validated_ok {accepted : RpcParameter js useUTC}
    (h : parameter.validated js useUTC collation = .ok accepted) :
    parameter.accept js useUTC collation parameter.value = .ok accepted := by
  rw [Parameter.validated] at h
  split at h
  · next haccept =>
    cases h
    exact haccept
  · cases h

/-- The parameters that are sent are the ones that `validateParameters` leaves. -/
theorem validateParameters_of_ok {accepted : List (RpcParameter js useUTC)}
    (h : parameters.mapM (Parameter.validated js useUTC collation) = .ok accepted) :
    validateParameters js useUTC collation parameters =
      (accepted.map RpcParameter.parameter, none) := by
  induction parameters generalizing accepted with
  | nil =>
    cases h
    rfl
  | cons parameter parameters ih =>
    rw [List.mapM_cons] at h
    obtain ⟨first, hfirst, h⟩ := Except.bind_ok h
    obtain ⟨others, hothers, h⟩ := Except.bind_ok h
    cases h
    have hvalidate : parameter.validate js useUTC collation = .ok first.parameter := by
      rw [validate_eq, hfirst]
      rfl
    have hrest := ih hothers
    rw [validateParameters] at hrest ⊢
    rw [InPlace.update_cons_ok hvalidate, hrest]
    rfl

end Accepted

/-! ### The calls arrive -/

section Arrival

variable {options : ParserOptions} {collation : Option Collation}

theorem readable_text (name : String) (value : Option JsString) :
    (RpcParameter.text name value : RpcParameter js useUTC).Readable collation :=
  ⟨rfl, not_false⟩

theorem readable_handle (name : String) (output : Bool) (value : Option Int) :
    (RpcParameter.handle name output value : RpcParameter js useUTC).Readable collation :=
  ⟨rfl, not_false⟩

/-- A text of the program is read under its name. -/
theorem readText_arrives {name : String} (sent : String) {value : Option JsString}
    {read : ReadParameter}
    (hsent : (RpcParameter.text name value : RpcParameter js useUTC).sentName =
      JsString.ofString sent)
    (h : (RpcParameter.text name value : RpcParameter js useUTC).Arrives options collation read) :
    read.readText sent = some value := by
  rw [ReadParameter.readText, if_pos (h.name.trans hsent)]
  cases value with
  | none => rw [h.value.null.2 rfl]
  | some text => rw [h.value.equal text rfl (.string text) rfl]

/-- The handle of the program is read. -/
theorem handle_arrives {name : String} {output : Bool} {value : Option Int} {read : ReadParameter}
    (h : (RpcParameter.handle name output value : RpcParameter js useUTC).Arrives options collation
      read) : read.value = value.elim .null (Value.number ·) := by
  cases value with
  | none => exact h.value.null.2 rfl
  | some n => exact h.value.equal n rfl (.number n) rfl

/-- A parameter is what the declaration of its name and its direction says. -/
theorem isDeclared_arrives {accepted : RpcParameter js useUTC} {read : ReadParameter}
    {declaration : Declaration} (hne : accepted.name ≠ [])
    (hname : declaration.name = accepted.name) (houtput : declaration.output = accepted.output)
    (h : accepted.Arrives options collation read) : read.isDeclared declaration = true := by
  have hsent : read.name = JsString.ofString "@" ++ declaration.name := by
    rw [h.name, RpcParameter.sentName, hname]
    exact if_neg (by simpa using hne)
  have hstatus : decide (read.status % 2 = 1) = declaration.output := by
    rw [h.status, RpcParameter.statusFlags, houtput]
    cases accepted.output <;> rfl
  rw [ReadParameter.isDeclared, hstatus]
  exact Bool.and_eq_true_iff.2 ⟨decide_eq_true hsent, decide_eq_true rfl⟩

/-- A parameter that was sent, next to its declaration and its value as they are read. -/
structure Executes (numbers : NumberFormat) (options : ParserOptions)
    (collation : Option Collation) (accepted : RpcParameter js useUTC)
    (read : Declaration × ReadParameter) : Prop where
  declares : accepted.declared.Declares numbers read.1
  arrives : accepted.Arrives options collation read.2

theorem executes_zip {accepted : List (RpcParameter js useUTC)} {declarations : List Declaration}
    {reads : List ReadParameter} (hnames : ∀ p ∈ accepted, p.name ≠ [])
    (hdeclares : List.Forall₂ (Declares numbers) (accepted.map RpcParameter.declared) declarations)
    (harrives : List.Forall₂ (RpcParameter.Arrives options collation) accepted reads) :
    declarations.length = reads.length ∧
      ((reads.zip declarations).all fun (p, d) => p.isDeclared d) = true ∧
      List.Forall₂ (Executes numbers options collation) accepted (declarations.zip reads) := by
  induction harrives generalizing declarations with
  | nil =>
    cases hdeclares
    exact ⟨rfl, rfl, .nil⟩
  | cons hfirst hothers ih =>
    cases hdeclares with
    | cons hdeclare hdeclares =>
      obtain ⟨hne, hnames⟩ := List.forall_mem_cons.1 hnames
      obtain ⟨hlength, hall, hexecutes⟩ := ih hnames hdeclares
      refine ⟨congrArg (· + 1) hlength, ?_, .cons ⟨hdeclare, hfirst⟩ hexecutes⟩
      rw [List.zip_cons_cons, List.all_cons, hall, Bool.and_true]
      exact isDeclared_arrives hne hdeclare.name hdeclare.output hfirst

theorem subset_executeSqlParameters {sqlText : Option JsString}
    {accepted sent : List (RpcParameter js useUTC)}
    (h : CallContext.executeSqlParameters numbers sqlText accepted = .ok sent) :
    accepted ⊆ sent := by
  rw [CallContext.executeSqlParameters] at h
  split at h
  · obtain ⟨params, -, h⟩ := Except.bind_ok h
    cases h
    exact fun p hp => List.mem_cons_of_mem _ (List.mem_cons_of_mem _ hp)
  · next hnone =>
    obtain rfl : accepted = [] := by simpa using hnone
    exact List.nil_subset _

/-- A parameter whose type is read back has no name of a table type. -/
theorem declarable_accepted {accepted : RpcParameter js useUTC} (hname : IsVariable accepted.name)
    (hreadable : accepted.Readable collation) : accepted.declared.Declarable := by
  refine ⟨hname, fun length name htype => ?_⟩
  have hread := hreadable.type
  rw [show accepted.type = .TVP from htype] at hread
  cases hread

/-- The names of parameters that were validated. -/
theorem isVariable_validated {parameters : List Parameter}
    {accepted : List (RpcParameter js useUTC)}
    (hnames : ∀ parameter ∈ parameters, IsVariable parameter.name)
    (h : parameters.mapM (Parameter.validated js useUTC collation) = .ok accepted) :
    ∀ p ∈ accepted, IsVariable p.name := by
  have hall := Except.forall₂_of_mapM h
  clear h
  induction hall with
  | nil => exact List.forall_mem_nil _
  | cons hvalidated _ ih =>
    obtain ⟨hname, hnames⟩ := List.forall_mem_cons.1 hnames
    refine List.forall_mem_cons.2 ⟨?_, ih hnames⟩
    rw [(accept_ok (validated_ok hvalidated)).1]
    exact hname

/-- The parameters of `sp_executesql` are read as the statement and its variables. -/
theorem readExecuteSql_arrives {sqlText : Option JsString}
    {accepted sent : List (RpcParameter js useUTC)}
    (hdeclarable : ∀ p ∈ accepted, p.declared.Declarable)
    (hsent : CallContext.executeSqlParameters numbers sqlText accepted = .ok sent)
    {call : ReadRpcRequest}
    (hcall : List.Forall₂ (RpcParameter.Arrives options collation) sent call.parameters) :
    ∃ reads, readExecuteSql call = some (sqlText, reads) ∧
      List.Forall₂ (Executes numbers options collation) accepted reads := by
  rw [CallContext.executeSqlParameters] at hsent
  split at hsent
  · obtain ⟨params, hparams, hsent⟩ := Except.bind_ok hsent
    cases hsent
    obtain ⟨declarations, hread, hdeclares⟩ :=
      readDeclarations_makeParamsParameter (List.forall_mem_map.2 hdeclarable) hparams
    obtain ⟨statement, rest, hstatement, hcall, hparameters⟩ := List.forall₂_cons_left_iff.1 hcall
    obtain ⟨texts, reads, htexts, hreads, rfl⟩ := List.forall₂_cons_left_iff.1 hcall
    have hnames : ∀ p ∈ accepted, p.name ≠ [] := fun p hp => (hdeclarable p hp).name.ne
    obtain ⟨hlength, hall, hexecutes⟩ := executes_zip hnames hdeclares hreads
    refine ⟨declarations.zip reads, ?_, hexecutes⟩
    rw [readExecuteSql, hparameters]
    simp only [readText_arrives "@statement" rfl hstatement, readText_arrives "@params" rfl htexts,
      Option.bind_eq_bind, Option.bind_some, Option.getD_some, hread, hlength, hall, and_self,
      if_true]
  · next hnone =>
    cases hsent
    obtain rfl : accepted = [] := by simpa using hnone
    obtain ⟨statement, rest, hstatement, hcall, hparameters⟩ := List.forall₂_cons_left_iff.1 hcall
    cases hcall
    refine ⟨[], ?_, .nil⟩
    rw [readExecuteSql, hparameters]
    simp only [readText_arrives "@statement" rfl hstatement, Option.bind_eq_bind, Option.bind_some]

/-- The parameters of `sp_prepare` are read as the statement and the declarations. -/
theorem readPrepare_arrives {lengths : ValueLengths} {sqlText params : Option JsString}
    {parameters : List Parameter}
    (hdeclarable : ∀ p ∈ parameters, (p.declared lengths).Declarable)
    (hparams : CallContext.preparedParams numbers lengths parameters = .ok params)
    {call : ReadRpcRequest}
    (hcall : List.Forall₂ (RpcParameter.Arrives options collation)
      [(.handle "handle" true none : RpcParameter js useUTC), .text "params" params,
        .text "stmt" sqlText] call.parameters) :
    ∃ declarations, readPrepare call = some (sqlText, declarations) ∧
      List.Forall₂ (fun p d => (p.declared lengths).Declares numbers d) parameters
        declarations := by
  obtain ⟨handle, rest, hhandle, hrest, hparameters⟩ := List.forall₂_cons_left_iff.1 hcall
  obtain ⟨texts, last, htexts, hlast, rfl⟩ := List.forall₂_cons_left_iff.1 hrest
  obtain ⟨stmt, none, hstmt, hnone, rfl⟩ := List.forall₂_cons_left_iff.1 hlast
  cases hnone
  have hread : ∃ declarations, readDeclarations (params.getD []) = some declarations ∧
      List.Forall₂ (fun p d => (p.declared lengths).Declares numbers d) parameters
        declarations := by
    rw [CallContext.preparedParams] at hparams
    split at hparams
    · cases htext : makeParamsParameter numbers (parameters.map (Parameter.declared lengths)) with
      | error e =>
        rw [htext] at hparams
        cases hparams
      | ok text =>
        rw [htext] at hparams
        cases hparams
        obtain ⟨declarations, hread, hall⟩ :=
          readDeclarations_makeParamsParameter (List.forall_mem_map.2 hdeclarable) htext
        exact ⟨declarations, hread, List.forall₂_map_left_iff.1 hall⟩
    · next hnone =>
      cases hparams
      obtain rfl : parameters = [] := by simpa using hnone
      exact ⟨[], rfl, .nil⟩
  obtain ⟨declarations, hread, hall⟩ := hread
  refine ⟨declarations, ?_, hall⟩
  have hoff : handle.name = JsString.ofString "@handle" ∧ handle.status % 2 = 1 :=
    ⟨hhandle.name, by rw [hhandle.status]; rfl⟩
  rw [readPrepare, hparameters]
  simp only [hoff, and_self, if_true, readText_arrives "@params" rfl htexts,
    readText_arrives "@stmt" rfl hstmt, Option.bind_eq_bind, Option.bind_some, hread]

/-- A parameter of a prepared statement, with the value that it is executed with. -/
structure ExecutesPrepared (js : Runtime) (useUTC : Bool) (options : ParserOptions)
    (collation : Option Collation) (values : Option (JsString → JsValue)) (parameter : Parameter)
    (read : ReadParameter) : Prop where
  arrives : ∃ accepted : RpcParameter js useUTC,
    parameter.accept js useUTC collation (values.elim .null (· parameter.name)) = .ok accepted ∧
    accepted.Arrives options collation read

/-- What is executed is what has been declared, parameter by parameter. -/
theorem isDeclared_execute {lengths : ValueLengths} {values : Option (JsString → JsValue)}
    {parameters : List Parameter} {declarations : List Declaration}
    {accepted : List (RpcParameter js useUTC)} {reads : List ReadParameter}
    (hdeclarable : ∀ p ∈ parameters, (p.declared lengths).Declarable)
    (hdeclares : List.Forall₂ (fun p d => (p.declared lengths).Declares numbers d) parameters
      declarations)
    (haccepted : List.Forall₂ (fun p a => p.accept js useUTC collation
      (values.elim .null (· p.name)) = .ok a) parameters accepted)
    (harrives : List.Forall₂ (RpcParameter.Arrives options collation) accepted reads) :
    List.Forall₂ (fun d read => read.isDeclared d = true) declarations reads ∧
      List.Forall₂ (ExecutesPrepared js useUTC options collation values) parameters reads := by
  induction haccepted generalizing declarations reads with
  | nil =>
    cases hdeclares
    cases harrives
    exact ⟨.nil, .nil⟩
  | cons haccept _ ih =>
    obtain _ | ⟨hdeclare, hdeclares⟩ := hdeclares
    obtain _ | ⟨harrive, harrives⟩ := harrives
    obtain ⟨hfirst, hdeclarable⟩ := List.forall_mem_cons.1 hdeclarable
    obtain ⟨hdeclared, hexecutes⟩ := ih hdeclarable hdeclares harrives
    obtain ⟨hname, houtput, -⟩ := accept_ok haccept
    refine ⟨.cons ?_ hdeclared, .cons ⟨_, haccept, harrive⟩ hexecutes⟩
    exact isDeclared_arrives (by rw [hname]; exact hfirst.name.ne)
      (hdeclare.name.trans hname.symm) (hdeclare.output.trans houtput.symm) harrive

end Arrival

/-! ### A statement with a parameter -/

/-- `@a`, which is 7 and comes back. -/
def parameterA : Parameter where
  type := .Int
  name := [0x61]
  value := .number (.ofNat 7)
  output := true
  length := none
  precision := none
  scale := none

def acceptedA : RpcParameter numberRuntime true where
  name := [0x61]
  output := true
  type := .Int
  data := { length := none, precision := none, scale := none, collation := none
            value := some (7 : Int) }

def contextOfA : CallContext where
  txnDescriptor := List.replicate 8 0
  tdsVersion := JsString.ofString "7_4"
  collation := none

theorem isVariable_parameterA : ∀ p ∈ [parameterA], IsVariable p.name :=
  List.forall_mem_singleton.2 ⟨by decide, by decide, by decide⟩

theorem readable_acceptedA : acceptedA.Readable none := ⟨rfl, not_false⟩

/-- What `execSql` sends of the statement `a`. -/
def executeA : RpcRequestPayload numberRuntime true :=
  contextOfA.payload (.id Procedures.Sp_ExecuteSql)
    [.text "statement" (some [0x61]), .text "params" (some (JsString.ofString "@a int OUTPUT")),
      acceptedA]

/-- What `prepare` sends of it, and `execute` with the handle 1. -/
def prepareA : RpcRequestPayload numberRuntime true :=
  contextOfA.payload (.id Procedures.Sp_Prepare)
    [.handle "handle" true none, .text "params" (some (JsString.ofString "@a int OUTPUT")),
      .text "stmt" (some [0x61])]

def executePreparedA : RpcRequestPayload numberRuntime true :=
  contextOfA.payload (.id Procedures.Sp_Execute) [.handle "" false (some 1), acceptedA]

end Tedious
