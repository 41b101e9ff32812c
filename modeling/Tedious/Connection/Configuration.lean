import Tedious.Connection.State
import Tedious.DataTypes.Validation
import Tedious.GuidParser

/-!
# Tedious.Connection.Configuration

The constructor of a connection (`connection.ts`), as far as it reads its configuration. Every
option is checked on its own, and those that are not given have their defaults; of `port` and
`instanceName` the one that is given takes the place of the other.

`constructed_iff` says which configurations a connection can have. They are accepted again, as
themselves.
-/

namespace Tedious

/-! ### Values -/

/-- A value of a configuration, as far as the checks can tell it from others. -/
inductive ConfigValue
  | undefined
  | null
  | boolean (b : Bool)
  | number (n : JsNumber)
  | string (s : JsString)
  | bigint (n : Int)
  | symbol (id : Nat)
  | function (id : Nat)
  | object (id : Nat)
  deriving DecidableEq, Repr

namespace ConfigValue

def typeof : ConfigValue → String
  | undefined => "undefined"
  | null | object _ => "object"
  | boolean _ => "boolean"
  | number _ => "number"
  | string _ => "string"
  | bigint _ => "bigint"
  | symbol _ => "symbol"
  | function _ => "function"

def isTruthy : ConfigValue → Bool
  | undefined | null => false
  | boolean b => b
  | number n => n.isTruthy
  | string s => !s.isEmpty
  | bigint n => n ≠ 0
  | symbol _ | function _ | object _ => true

def asBoolean : ConfigValue → Option Bool
  | boolean b => some b
  | _ => none

def asNumber : ConfigValue → Option JsNumber
  | number n => some n
  | _ => none

def asString : ConfigValue → Option JsString
  | string s => some s
  | _ => none

def asFunction : ConfigValue → Option Nat
  | function id => some id
  | _ => none

def asObject : ConfigValue → Option Nat
  | object id => some id
  | _ => none

/-- `null` is a value as well. -/
def orNull (as : ConfigValue → Option α) : ConfigValue → Option (Option α)
  | null => some none
  | value => (as value).map some

end ConfigValue

/-- Something that is read by its properties: `other` is `null`, or no object. -/
inductive ObjectArgument (α : Type)
  | undefined
  | other
  | object (properties : α)

/-- What the constructor throws. -/
inductive ConfigError
  | typeError (message : JsString)
  | rangeError (message : JsString)
  | error (message : JsString)
  deriving DecidableEq, Repr

/-- The engine. -/
structure ConfigPlatform where
  /-- `String(value)`. -/
  print : ConfigValue → JsString
  toUpperCase : JsString → JsString

namespace JsNumber

/-- `n < bound`. -/
def lessThan (bound : Rat) : JsNumber → Bool
  | finite q => q < bound
  | negInfinity => true
  | infinity | nan => false

/-- `n > bound`. -/
def greaterThan (bound : Rat) : JsNumber → Bool
  | finite q => bound < q
  | infinity => true
  | negInfinity | nan => false

/-- `n >= bound`. -/
def atLeast (bound : Rat) : JsNumber → Bool
  | finite q => bound ≤ q
  | infinity => true
  | negInfinity | nan => false

end JsNumber

/-! ### Checks -/

namespace ConfigOption

open ConfigValue

/-- `The "path" property must be of type ...` -/
def mustBe (path type : String) : ConfigError :=
  .typeError (JsString.ofString ("The \"" ++ path ++ "\" property must be of type " ++ type ++ "."))

/-- A value of a type. -/
def checked (as : ConfigValue → Option α) (error : ConfigError) (value : ConfigValue) :
    Except ConfigError α :=
  match as value with
  | some a => .ok a
  | none => .error error

/-- `if (value !== undefined) { ... }`. -/
def given (default : α) (check : ConfigValue → Except ConfigError α) (value : ConfigValue) :
    Except ConfigError α :=
  if value = .undefined then .ok default else check value

def path (name : String) : String := "config.options." ++ name

def booleanOption (name : String) (default : Bool) : ConfigValue → Except ConfigError Bool :=
  given default (checked asBoolean (mustBe (path name) "boolean"))

def booleanOrNullOption (name : String) (default : Option Bool) :
    ConfigValue → Except ConfigError (Option Bool) :=
  given default (checked (orNull asBoolean) (mustBe (path name) "boolean or null"))

def stringOption (name : String) : ConfigValue → Except ConfigError (Option JsString) :=
  given none fun value => (checked asString (mustBe (path name) "string") value).map some

def stringOrNullOption (name default : String) :
    ConfigValue → Except ConfigError (Option JsString) :=
  given (some (JsString.ofString default))
    (checked (orNull asString) (mustBe (path name) "string or null"))

def numberOption (name : String) (default : JsNumber) : ConfigValue → Except ConfigError JsNumber :=
  given default (checked asNumber (mustBe (path name) "number"))

section IsolationLevel

variable (platform : ConfigPlatform) (name : String) (value : ConfigValue)

/-- `The value of ... is out of range. It must be ...` -/
def outOfRange (must : String) : ConfigError :=
  .rangeError (JsString.ofString ("The value of \"" ++ name ++ "\" is out of range. It must be " ++
    must ++ ". Received: ") ++ platform.print value)

/-- A path has a point in it, an argument has none. -/
def noNumber : ConfigError :=
  let kind := if 0x2E ∈ JsString.ofString name then "property" else "argument"
  .typeError (JsString.ofString ("The \"" ++ name ++ "\" " ++ kind ++
    " must be of type number. Received type " ++ value.typeof ++ " (") ++ platform.print value ++
      JsString.ofString ")")

/-- `assertValidIsolationLevel`. -/
def assertValidIsolationLevel : Except ConfigError JsNumber :=
  match value with
  | .number (.finite q) =>
    if q.den = 1 then
      if 0 ≤ q ∧ q ≤ 5 then .ok (.finite q)
      else .error (outOfRange platform name value ">= 0 && <= 5")
    else .error (outOfRange platform name value "an integer")
  | .number _ => .error (outOfRange platform name value "an integer")
  | _ => .error (noNumber platform name value)

end IsolationLevel

/-! ### Options with a check of their own -/

/-- The error says `string`. -/
def abortTransactionOnError : ConfigValue → Except ConfigError (Option Bool) :=
  given (some false) (checked (orNull asBoolean)
    (mustBe (path "abortTransactionOnError") "string or null"))

/-- A value that is not truthy is none. The error names another option. -/
def columnNameReplacer (value : ConfigValue) : Except ConfigError (Option Nat) :=
  if value.isTruthy then
    (checked asFunction (mustBe (path "cancelTimeout") "function") value).map some
  else .ok none

def connector : ConfigValue → Except ConfigError (Option Nat) :=
  given none fun value => (checked asFunction (.typeError (JsString.ofString
    ("The \"" ++ path "connector" ++ "\" property must be a function."))) value).map some

/-- `none` is the default, an empty object. -/
def cryptoCredentialsDetails : ConfigValue → Except ConfigError (Option Nat) :=
  given none fun value =>
    (checked asObject (mustBe (path "cryptoCredentialsDetails") "Object") value).map some

def datefirst : ConfigValue → Except ConfigError (Option JsNumber) :=
  given (some (.ofNat 7)) fun value => do
    let datefirst ← checked (orNull asNumber) (mustBe (path "datefirst") "number") value
    match datefirst with
    | none => .ok none
    | some n =>
      if n.lessThan 1 || n.greaterThan 7 then
        .error (.rangeError (JsString.ofString
          ("The \"" ++ path "datefirst" ++ "\" property must be >= 1 and <= 7")))
      else .ok (some n)

def encrypt : ConfigValue → Except ConfigError Encrypt :=
  given .yes fun value =>
    match value with
    | .boolean true => .ok .yes
    | .boolean false => .ok .no
    | .string s =>
      if s = JsString.ofString "strict" then .ok .strict else .error wrong
    | _ => .error wrong
where
  wrong := .typeError (JsString.ofString
    "The \"encrypt\" property must be set to \"strict\", or of type boolean.")

/-- Where to connect to: the port, or the name of the instance. -/
structure Address where
  port : Option JsNumber
  instanceName : Option JsString
  deriving DecidableEq, Repr

/-- `DEFAULT_PORT`. -/
def Address.default : Address where
  port := some (.ofNat 1433)
  instanceName := none

def instanceName : ConfigValue → Except ConfigError Address :=
  given .default fun value => do
    let instanceName ← checked asString (mustBe (path "instanceName") "string") value
    pure { port := none, instanceName := some instanceName }

def port (address : Address) : ConfigValue → Except ConfigError Address :=
  given address fun value => do
    let port ← checked asNumber (mustBe (path "port") "number") value
    if port.atMost 0 || port.atLeast 65536 then
      .error (.rangeError (JsString.ofString
        ("The \"" ++ path "port" ++ "\" property must be > 0 and < 65536")))
    else .ok { port := some port, instanceName := none }

def maxRetriesOnTransientErrors : ConfigValue → Except ConfigError JsNumber :=
  given (.ofNat 3) fun value => do
    let retries ← checked asNumber (mustBe (path "maxRetriesOnTransientErrors") "number") value
    if retries.lessThan 0 then
      .error (.typeError (JsString.ofString ("The \"" ++ path "maxRetriesOnTransientErrors" ++
        "\" property must be equal or greater than 0.")))
    else .ok retries

def connectionRetryInterval : ConfigValue → Except ConfigError JsNumber :=
  given (.ofNat 500) fun value => do
    let interval ← checked asNumber (mustBe (path "connectionRetryInterval") "number") value
    if interval.atMost 0 then
      .error (.typeError (JsString.ofString ("The \"" ++ path "connectionRetryInterval" ++
        "\" property must be greater than 0.")))
    else .ok interval

/-- `null` is compared, and cut, like 0. -/
def textsize : ConfigValue → Except ConfigError JsNumber :=
  given (.ofNat 2147483647) fun value => do
    let textsize ← checked (orNull asNumber) (mustBe (path "textsize") "number or null") value
    let textsize := textsize.getD (.ofNat 0)
    if textsize.greaterThan 2147483647 then
      .error (.typeError (JsString.ofString ("The \"" ++ path "textsize" ++
        "\" can't be greater than 2147483647.")))
    else if textsize.lessThan (-1) then
      .error (.typeError (JsString.ofString ("The \"" ++ path "textsize" ++
        "\" can't be smaller than -1.")))
    else .ok (.finite textsize.toInt32)

end ConfigOption

/-! ### Arguments -/

/-- `config.options.debug`. -/
structure DebugArgument where
  data : ConfigValue := .undefined
  packet : ConfigValue := .undefined
  payload : ConfigValue := .undefined
  token : ConfigValue := .undefined

/-- `config.options`. -/
structure ConnectionOptions where
  abortTransactionOnError : ConfigValue := .undefined
  appName : ConfigValue := .undefined
  camelCaseColumns : ConfigValue := .undefined
  cancelTimeout : ConfigValue := .undefined
  columnNameReplacer : ConfigValue := .undefined
  connectionIsolationLevel : ConfigValue := .undefined
  connectTimeout : ConfigValue := .undefined
  connector : ConfigValue := .undefined
  cryptoCredentialsDetails : ConfigValue := .undefined
  database : ConfigValue := .undefined
  datefirst : ConfigValue := .undefined
  dateFormat : ConfigValue := .undefined
  /-- `none` where it is not truthy. -/
  debug : Option DebugArgument := none
  enableAnsiNull : ConfigValue := .undefined
  enableAnsiNullDefault : ConfigValue := .undefined
  enableAnsiPadding : ConfigValue := .undefined
  enableAnsiWarnings : ConfigValue := .undefined
  enableArithAbort : ConfigValue := .undefined
  enableConcatNullYieldsNull : ConfigValue := .undefined
  enableCursorCloseOnCommit : ConfigValue := .undefined
  enableImplicitTransactions : ConfigValue := .undefined
  enableNumericRoundabort : ConfigValue := .undefined
  enableQuotedIdentifier : ConfigValue := .undefined
  encrypt : ConfigValue := .undefined
  fallbackToDefaultDb : ConfigValue := .undefined
  instanceName : ConfigValue := .undefined
  isolationLevel : ConfigValue := .undefined
  language : ConfigValue := .undefined
  localAddress : ConfigValue := .undefined
  multiSubnetFailover : ConfigValue := .undefined
  packetSize : ConfigValue := .undefined
  port : ConfigValue := .undefined
  readOnlyIntent : ConfigValue := .undefined
  requestTimeout : ConfigValue := .undefined
  maxRetriesOnTransientErrors : ConfigValue := .undefined
  connectionRetryInterval : ConfigValue := .undefined
  rowCollectionOnDone : ConfigValue := .undefined
  rowCollectionOnRequestCompletion : ConfigValue := .undefined
  tdsVersion : ConfigValue := .undefined
  textsize : ConfigValue := .undefined
  trustServerCertificate : ConfigValue := .undefined
  serverName : ConfigValue := .undefined
  useColumnNames : ConfigValue := .undefined
  useUTC : ConfigValue := .undefined
  workstationId : ConfigValue := .undefined
  lowerCaseGuids : ConfigValue := .undefined

/-- `config.authentication.options`. -/
structure AuthenticationOptions where
  userName : ConfigValue := .undefined
  password : ConfigValue := .undefined
  domain : ConfigValue := .undefined
  clientId : ConfigValue := .undefined
  clientSecret : ConfigValue := .undefined
  tenantId : ConfigValue := .undefined
  token : ConfigValue := .undefined

/-- `config.authentication`. -/
structure AuthenticationArgument where
  type : ConfigValue
  options : ObjectArgument AuthenticationOptions

structure ConnectionConfiguration where
  server : ConfigValue
  authentication : ObjectArgument AuthenticationArgument := .undefined
  /-- `none` where they are not truthy. -/
  options : Option ConnectionOptions := none

/-! ### What the connection keeps -/

structure DebugOptions where
  data : Bool
  packet : Bool
  payload : Bool
  token : Bool
  deriving DecidableEq, Repr

/-- The options that a configuration can set. -/
structure InternalConnectionOptions where
  abortTransactionOnError : Option Bool
  appName : Option JsString
  camelCaseColumns : Bool
  cancelTimeout : JsNumber
  columnNameReplacer : Option Nat
  connectionIsolationLevel : JsNumber
  connectTimeout : JsNumber
  connector : Option Nat
  cryptoCredentialsDetails : Option Nat
  database : Option JsString
  datefirst : Option JsNumber
  dateFormat : Option JsString
  debug : DebugOptions
  enableAnsiNull : Option Bool
  enableAnsiNullDefault : Option Bool
  enableAnsiPadding : Option Bool
  enableAnsiWarnings : Option Bool
  enableArithAbort : Option Bool
  enableConcatNullYieldsNull : Option Bool
  enableCursorCloseOnCommit : Option Bool
  enableImplicitTransactions : Option Bool
  enableNumericRoundabort : Option Bool
  enableQuotedIdentifier : Option Bool
  encrypt : Encrypt
  fallbackToDefaultDb : Bool
  isolationLevel : JsNumber
  language : Option JsString
  localAddress : Option JsString
  multiSubnetFailover : Bool
  packetSize : JsNumber
  address : ConfigOption.Address
  readOnlyIntent : Bool
  requestTimeout : JsNumber
  maxRetriesOnTransientErrors : JsNumber
  connectionRetryInterval : JsNumber
  rowCollectionOnDone : Bool
  rowCollectionOnRequestCompletion : Bool
  tdsVersion : JsString
  textsize : JsNumber
  trustServerCertificate : Bool
  serverName : Option JsString
  useColumnNames : Bool
  useUTC : Bool
  workstationId : Option JsString
  lowerCaseGuids : Bool
  deriving DecidableEq, Repr

/-- The authentication with its options. -/
inductive ConnectionAuthentication
  | default (userName password : Option JsString)
  | ntlm (userName password : Option JsString) (domain : JsString)
  | azureActiveDirectoryPassword (userName password tenantId : Option JsString)
      (clientId : JsString)
  | azureActiveDirectoryAccessToken (token : JsString)
  | azureActiveDirectoryMsiVm (clientId : Option JsString)
  | azureActiveDirectoryMsiAppService (clientId : Option JsString)
  | azureActiveDirectoryDefault (clientId : Option JsString)
  | azureActiveDirectoryServicePrincipalSecret (clientId clientSecret tenantId : JsString)
  deriving DecidableEq, Repr

structure InternalConnectionConfig where
  server : JsString
  authentication : ConnectionAuthentication
  options : InternalConnectionOptions
  deriving DecidableEq, Repr

/-! ### The constructor -/

namespace ConfigOption

open ConfigValue

variable (platform : ConfigPlatform)

/-- `READ_COMMITTED` where there is none. -/
def isolationLevelOption (name : String) : ConfigValue → Except ConfigError JsNumber :=
  given (.ofNat 2) (assertValidIsolationLevel platform (path name))

def tdsVersion : ConfigValue → Except ConfigError JsString :=
  given (JsString.ofString "7_4") (checked asString (mustBe (path "tdsVersion") "string"))

def debug : Option DebugArgument → Except ConfigError DebugOptions
  | none => .ok { data := false, packet := false, payload := false, token := false }
  | some argument => do
    let data ← booleanOption "debug.data" false argument.data
    let packet ← booleanOption "debug.packet" false argument.packet
    let payload ← booleanOption "debug.payload" false argument.payload
    let token ← booleanOption "debug.token" false argument.token
    pure { data, packet, payload, token }

/-- `port` and `instanceName` cannot be given both. -/
def exclusive (options : ConnectionOptions) : Except ConfigError Unit :=
  if options.port.isTruthy && options.instanceName.isTruthy then
    .error (.error (JsString.ofString "Port and instanceName are mutually exclusive, but " ++
      platform.print options.port ++ JsString.ofString " and " ++
        platform.print options.instanceName ++ JsString.ofString " provided"))
  else .ok ()

/-- The options, in the order in which they are checked. -/
def construct (options : ConnectionOptions) : Except ConfigError InternalConnectionOptions := do
  exclusive platform options
  let abortTransactionOnError ← abortTransactionOnError options.abortTransactionOnError
  let appName ← stringOption "appName" options.appName
  let camelCaseColumns ← booleanOption "camelCaseColumns" false options.camelCaseColumns
  let cancelTimeout ← numberOption "cancelTimeout" (.ofNat 5000) options.cancelTimeout
  let columnNameReplacer ← columnNameReplacer options.columnNameReplacer
  let connectionIsolationLevel ←
    isolationLevelOption platform "connectionIsolationLevel" options.connectionIsolationLevel
  let connectTimeout ← numberOption "connectTimeout" (.ofNat 15000) options.connectTimeout
  let connector ← connector options.connector
  let cryptoCredentialsDetails ← cryptoCredentialsDetails options.cryptoCredentialsDetails
  let database ← stringOption "database" options.database
  let datefirst ← datefirst options.datefirst
  let dateFormat ← stringOrNullOption "dateFormat" "mdy" options.dateFormat
  let debug ← debug options.debug
  let enableAnsiNull ← booleanOrNullOption "enableAnsiNull" (some true) options.enableAnsiNull
  let enableAnsiNullDefault ←
    booleanOrNullOption "enableAnsiNullDefault" (some true) options.enableAnsiNullDefault
  let enableAnsiPadding ←
    booleanOrNullOption "enableAnsiPadding" (some true) options.enableAnsiPadding
  let enableAnsiWarnings ←
    booleanOrNullOption "enableAnsiWarnings" (some true) options.enableAnsiWarnings
  let enableArithAbort ← booleanOrNullOption "enableArithAbort" (some true) options.enableArithAbort
  let enableConcatNullYieldsNull ←
    booleanOrNullOption "enableConcatNullYieldsNull" (some true) options.enableConcatNullYieldsNull
  let enableCursorCloseOnCommit ←
    booleanOrNullOption "enableCursorCloseOnCommit" none options.enableCursorCloseOnCommit
  let enableImplicitTransactions ←
    booleanOrNullOption "enableImplicitTransactions" (some false) options.enableImplicitTransactions
  let enableNumericRoundabort ←
    booleanOrNullOption "enableNumericRoundabort" (some false) options.enableNumericRoundabort
  let enableQuotedIdentifier ←
    booleanOrNullOption "enableQuotedIdentifier" (some true) options.enableQuotedIdentifier
  let encrypt ← encrypt options.encrypt
  let fallbackToDefaultDb ← booleanOption "fallbackToDefaultDb" false options.fallbackToDefaultDb
  let address ← instanceName options.instanceName
  let isolationLevel ← isolationLevelOption platform "isolationLevel" options.isolationLevel
  let language ← stringOrNullOption "language" "us_english" options.language
  let localAddress ← stringOption "localAddress" options.localAddress
  let multiSubnetFailover ← booleanOption "multiSubnetFailover" false options.multiSubnetFailover
  let packetSize ← numberOption "packetSize" (.ofNat 4096) options.packetSize
  let address ← port address options.port
  let readOnlyIntent ← booleanOption "readOnlyIntent" false options.readOnlyIntent
  let requestTimeout ← numberOption "requestTimeout" (.ofNat 15000) options.requestTimeout
  let maxRetriesOnTransientErrors ←
    maxRetriesOnTransientErrors options.maxRetriesOnTransientErrors
  let connectionRetryInterval ← connectionRetryInterval options.connectionRetryInterval
  let rowCollectionOnDone ← booleanOption "rowCollectionOnDone" false options.rowCollectionOnDone
  let rowCollectionOnRequestCompletion ← booleanOption "rowCollectionOnRequestCompletion" false
    options.rowCollectionOnRequestCompletion
  let tdsVersion ← tdsVersion options.tdsVersion
  let textsize ← textsize options.textsize
  let trustServerCertificate ←
    booleanOption "trustServerCertificate" false options.trustServerCertificate
  let serverName ← stringOption "serverName" options.serverName
  let useColumnNames ← booleanOption "useColumnNames" false options.useColumnNames
  let useUTC ← booleanOption "useUTC" true options.useUTC
  let workstationId ← stringOption "workstationId" options.workstationId
  let lowerCaseGuids ← booleanOption "lowerCaseGuids" false options.lowerCaseGuids
  pure
    { abortTransactionOnError, appName, camelCaseColumns, cancelTimeout, columnNameReplacer,
      connectionIsolationLevel, connectTimeout, connector, cryptoCredentialsDetails, database,
      datefirst, dateFormat, debug, enableAnsiNull, enableAnsiNullDefault, enableAnsiPadding,
      enableAnsiWarnings, enableArithAbort, enableConcatNullYieldsNull, enableCursorCloseOnCommit,
      enableImplicitTransactions, enableNumericRoundabort, enableQuotedIdentifier, encrypt,
      fallbackToDefaultDb, isolationLevel, language, localAddress, multiSubnetFailover, packetSize,
      address, readOnlyIntent, requestTimeout, maxRetriesOnTransientErrors, connectionRetryInterval,
      rowCollectionOnDone, rowCollectionOnRequestCompletion, tdsVersion, textsize,
      trustServerCertificate, serverName, useColumnNames, useUTC, workstationId, lowerCaseGuids }

/-- `config.authentication.options`, where the type asks for them. -/
def authenticationPath (name : String) : String := "config.authentication.options." ++ name

def requiredString (name : String) : ConfigValue → Except ConfigError JsString :=
  checked asString (mustBe (authenticationPath name) "string")

def optionalString (name : String) : ConfigValue → Except ConfigError (Option JsString) :=
  given none fun value => (requiredString name value).map some

/-- The branch of a type. -/
def authenticate (options : AuthenticationOptions) :
    AuthenticationType → Except ConfigError ConnectionAuthentication
  | .ntlm => do
    let domain ← requiredString "domain" options.domain
    let userName ← optionalString "userName" options.userName
    let password ← optionalString "password" options.password
    pure (.ntlm userName password (if domain.isEmpty then domain else platform.toUpperCase domain))
  | .azureActiveDirectoryPassword => do
    let clientId ← requiredString "clientId" options.clientId
    let userName ← optionalString "userName" options.userName
    let password ← optionalString "password" options.password
    let tenantId ← optionalString "tenantId" options.tenantId
    pure (.azureActiveDirectoryPassword userName password tenantId clientId)
  | .azureActiveDirectoryAccessToken => do
    let token ← requiredString "token" options.token
    pure (.azureActiveDirectoryAccessToken token)
  | .azureActiveDirectoryMsiVm => do
    let clientId ← optionalString "clientId" options.clientId
    pure (.azureActiveDirectoryMsiVm clientId)
  | .azureActiveDirectoryDefault => do
    let clientId ← optionalString "clientId" options.clientId
    pure (.azureActiveDirectoryDefault clientId)
  | .azureActiveDirectoryMsiAppService => do
    let clientId ← optionalString "clientId" options.clientId
    pure (.azureActiveDirectoryMsiAppService clientId)
  | .azureActiveDirectoryServicePrincipalSecret => do
    let clientId ← requiredString "clientId" options.clientId
    let clientSecret ← requiredString "clientSecret" options.clientSecret
    let tenantId ← requiredString "tenantId" options.tenantId
    pure (.azureActiveDirectoryServicePrincipalSecret clientId clientSecret tenantId)
  | .default => do
    let userName ← optionalString "userName" options.userName
    let password ← optionalString "password" options.password
    pure (.default userName password)

/-- The types, as `authentication.type` names them. -/
def authenticationTypes : List AuthenticationType :=
  [.default, .ntlm, .azureActiveDirectoryPassword, .azureActiveDirectoryAccessToken,
    .azureActiveDirectoryMsiVm, .azureActiveDirectoryMsiAppService,
    .azureActiveDirectoryServicePrincipalSecret, .azureActiveDirectoryDefault]

def findType (type : JsString) : Except ConfigError AuthenticationType :=
  match authenticationTypes.find? fun t => JsString.ofString t.name = type with
  | some t => .ok t
  | none => .error <| .typeError <| JsString.ofString <| "The \"type\" property must one of " ++
      "\"default\", \"ntlm\", \"azure-active-directory-password\", " ++
      "\"azure-active-directory-access-token\", \"azure-active-directory-default\", " ++
      "\"azure-active-directory-msi-vm\" or \"azure-active-directory-msi-app-service\" or " ++
      "\"azure-active-directory-service-principal-secret\"."

def authenticationOptions :
    ObjectArgument AuthenticationOptions → Except ConfigError AuthenticationOptions
  | .undefined => .ok {}
  | .object options => .ok options
  | .other => .error (mustBe "config.authentication.options" "object")

def authentication :
    ObjectArgument AuthenticationArgument → Except ConfigError ConnectionAuthentication
  | .undefined => .ok (.default none none)
  | .other => .error (mustBe "config.authentication" "Object")
  | .object argument => do
    let type ← checked asString (mustBe "config.authentication.type" "string") argument.type
    let type ← findType type
    let options ← authenticationOptions argument.options
    authenticate platform options type

end ConfigOption

/-- `new Connection(config)`, up to `this.config`. -/
def InternalConnectionConfig.new (platform : ConfigPlatform) :
    ObjectArgument ConnectionConfiguration → Except ConfigError InternalConnectionConfig
  | .object config => do
    let server ← ConfigOption.checked ConfigValue.asString (.typeError (JsString.ofString
      "The \"config.server\" property is required and must be of type string.")) config.server
    let authentication ← ConfigOption.authentication platform config.authentication
    let options ← ConfigOption.construct platform (config.options.getD {})
    pure { server, authentication, options }
  | _ => .error (.typeError (JsString.ofString
      "The \"config\" argument is required and must be of type Object."))

/-! ### The configurations that a connection can have -/

/-- A whole number from 0 to 5. -/
def IsIsolationLevel (level : JsNumber) : Prop := ∃ n : Nat, n ≤ 5 ∧ level = .ofNat n

namespace InternalConnectionOptions

/-- `NaN` is in every range but the ones of an isolation level and of `textsize`. -/
structure Valid (options : InternalConnectionOptions) : Prop where
  connectionIsolationLevel : IsIsolationLevel options.connectionIsolationLevel
  isolationLevel : IsIsolationLevel options.isolationLevel
  datefirst : ∀ n ∈ options.datefirst, n.lessThan 1 = false ∧ n.greaterThan 7 = false
  /-- A port or the name of an instance, and not both. -/
  address : options.address.port.isSome ≠ options.address.instanceName.isSome
  port : ∀ n ∈ options.address.port, n.atMost 0 = false ∧ n.atLeast 65536 = false
  maxRetriesOnTransientErrors : options.maxRetriesOnTransientErrors.lessThan 0 = false
  connectionRetryInterval : options.connectionRetryInterval.atMost 0 = false
  textsize : ∃ n : Int, -1 ≤ n ∧ n ≤ 2147483647 ∧ options.textsize = .finite n

/-- `undefined` where there is none. -/
def optional (value : α → ConfigValue) : Option α → ConfigValue
  | none => .undefined
  | some a => value a

def nullable (value : α → ConfigValue) : Option α → ConfigValue
  | none => .null
  | some a => value a

/-- The options as a configuration gives them. -/
def argument (options : InternalConnectionOptions) : ConnectionOptions where
  abortTransactionOnError := nullable .boolean options.abortTransactionOnError
  appName := optional .string options.appName
  camelCaseColumns := .boolean options.camelCaseColumns
  cancelTimeout := .number options.cancelTimeout
  columnNameReplacer := optional .function options.columnNameReplacer
  connectionIsolationLevel := .number options.connectionIsolationLevel
  connectTimeout := .number options.connectTimeout
  connector := optional .function options.connector
  cryptoCredentialsDetails := optional .object options.cryptoCredentialsDetails
  database := optional .string options.database
  datefirst := nullable .number options.datefirst
  dateFormat := nullable .string options.dateFormat
  debug := some
    { data := .boolean options.debug.data
      packet := .boolean options.debug.packet
      payload := .boolean options.debug.payload
      token := .boolean options.debug.token }
  enableAnsiNull := nullable .boolean options.enableAnsiNull
  enableAnsiNullDefault := nullable .boolean options.enableAnsiNullDefault
  enableAnsiPadding := nullable .boolean options.enableAnsiPadding
  enableAnsiWarnings := nullable .boolean options.enableAnsiWarnings
  enableArithAbort := nullable .boolean options.enableArithAbort
  enableConcatNullYieldsNull := nullable .boolean options.enableConcatNullYieldsNull
  enableCursorCloseOnCommit := nullable .boolean options.enableCursorCloseOnCommit
  enableImplicitTransactions := nullable .boolean options.enableImplicitTransactions
  enableNumericRoundabort := nullable .boolean options.enableNumericRoundabort
  enableQuotedIdentifier := nullable .boolean options.enableQuotedIdentifier
  encrypt :=
    match options.encrypt with
    | .no => .boolean false
    | .yes => .boolean true
    | .strict => .string (JsString.ofString "strict")
  fallbackToDefaultDb := .boolean options.fallbackToDefaultDb
  instanceName := optional .string options.address.instanceName
  isolationLevel := .number options.isolationLevel
  language := nullable .string options.language
  localAddress := optional .string options.localAddress
  multiSubnetFailover := .boolean options.multiSubnetFailover
  packetSize := .number options.packetSize
  port := optional .number options.address.port
  readOnlyIntent := .boolean options.readOnlyIntent
  requestTimeout := .number options.requestTimeout
  maxRetriesOnTransientErrors := .number options.maxRetriesOnTransientErrors
  connectionRetryInterval := .number options.connectionRetryInterval
  rowCollectionOnDone := .boolean options.rowCollectionOnDone
  rowCollectionOnRequestCompletion := .boolean options.rowCollectionOnRequestCompletion
  tdsVersion := .string options.tdsVersion
  textsize := .number options.textsize
  trustServerCertificate := .boolean options.trustServerCertificate
  serverName := optional .string options.serverName
  useColumnNames := .boolean options.useColumnNames
  useUTC := .boolean options.useUTC
  workstationId := optional .string options.workstationId
  lowerCaseGuids := .boolean options.lowerCaseGuids

end InternalConnectionOptions

namespace ConnectionAuthentication

open InternalConnectionOptions

/-- A domain is in upper case. -/
def Valid (platform : ConfigPlatform) : ConnectionAuthentication → Prop
  | ntlm _ _ domain => domain ≠ [] → platform.toUpperCase domain = domain
  | _ => True

def type : ConnectionAuthentication → AuthenticationType
  | default .. => .default
  | ntlm .. => .ntlm
  | azureActiveDirectoryPassword .. => .azureActiveDirectoryPassword
  | azureActiveDirectoryAccessToken _ => .azureActiveDirectoryAccessToken
  | azureActiveDirectoryMsiVm _ => .azureActiveDirectoryMsiVm
  | azureActiveDirectoryMsiAppService _ => .azureActiveDirectoryMsiAppService
  | azureActiveDirectoryDefault _ => .azureActiveDirectoryDefault
  | azureActiveDirectoryServicePrincipalSecret .. => .azureActiveDirectoryServicePrincipalSecret

def options : ConnectionAuthentication → AuthenticationOptions
  | default userName password =>
    { userName := optional .string userName, password := optional .string password }
  | ntlm userName password domain =>
    { userName := optional .string userName, password := optional .string password
      domain := .string domain }
  | azureActiveDirectoryPassword userName password tenantId clientId =>
    { userName := optional .string userName, password := optional .string password
      tenantId := optional .string tenantId, clientId := .string clientId }
  | azureActiveDirectoryAccessToken token => { token := .string token }
  | azureActiveDirectoryMsiVm clientId | azureActiveDirectoryMsiAppService clientId
  | azureActiveDirectoryDefault clientId => { clientId := optional .string clientId }
  | azureActiveDirectoryServicePrincipalSecret clientId clientSecret tenantId =>
    { clientId := .string clientId, clientSecret := .string clientSecret
      tenantId := .string tenantId }

/-- The authentication as a configuration gives it. -/
def argument (authentication : ConnectionAuthentication) : ObjectArgument AuthenticationArgument :=
  .object
    { type := .string (JsString.ofString authentication.type.name)
      options := .object authentication.options }

end ConnectionAuthentication

namespace InternalConnectionConfig

variable (config : InternalConnectionConfig)

structure Valid (platform : ConfigPlatform) : Prop where
  authentication : config.authentication.Valid platform
  options : config.options.Valid

def argument : ObjectArgument ConnectionConfiguration :=
  .object
    { server := .string config.server
      authentication := config.authentication.argument
      options := some config.options.argument }

end InternalConnectionConfig

theorem Except.ok_bind {ε α β : Type} (a : α) (f : α → Except ε β) :
    (Except.ok a >>= f) = f a := rfl

namespace ConfigOption

open ConfigValue InternalConnectionOptions

/-! ### Checks accept what they return -/

section Again

variable {name : String}

@[simp] theorem booleanOption_boolean (default b : Bool) :
    booleanOption name default (.boolean b) = .ok b := rfl

@[simp] theorem numberOption_number (default n : JsNumber) :
    numberOption name default (.number n) = .ok n := rfl

@[simp] theorem booleanOrNullOption_nullable (default b : Option Bool) :
    booleanOrNullOption name default (nullable .boolean b) = .ok b := by
  cases b <;> rfl

@[simp] theorem stringOption_optional (s : Option JsString) :
    stringOption name (optional .string s) = .ok s := by
  cases s <;> rfl

@[simp] theorem stringOrNullOption_nullable (default : String) (s : Option JsString) :
    stringOrNullOption name default (nullable .string s) = .ok s := by
  cases s <;> rfl

@[simp] theorem abortTransactionOnError_nullable (b : Option Bool) :
    abortTransactionOnError (nullable .boolean b) = .ok b := by
  cases b <;> rfl

@[simp] theorem columnNameReplacer_optional (id : Option Nat) :
    columnNameReplacer (optional .function id) = .ok id := by
  cases id <;> rfl

@[simp] theorem connector_optional (id : Option Nat) :
    connector (optional .function id) = .ok id := by
  cases id <;> rfl

@[simp] theorem cryptoCredentialsDetails_optional (id : Option Nat) :
    cryptoCredentialsDetails (optional .object id) = .ok id := by
  cases id <;> rfl

@[simp] theorem debug_boolean (d : DebugOptions) :
    debug (some { data := .boolean d.data, packet := .boolean d.packet
                  payload := .boolean d.payload, token := .boolean d.token }) = .ok d := rfl

@[simp] theorem tdsVersion_string (s : JsString) : tdsVersion (.string s) = .ok s := rfl

end Again

theorem datefirst_nullable {n : Option JsNumber}
    (h : ∀ m ∈ n, m.lessThan 1 = false ∧ m.greaterThan 7 = false) :
    datefirst (nullable .number n) = .ok n := by
  cases n with
  | none => rfl
  | some n =>
    obtain ⟨hlow, hhigh⟩ := h n rfl
    show (if n.lessThan 1 || n.greaterThan 7 then _ else Except.ok (some n)) = _
    rw [hlow, hhigh]
    rfl

theorem isolationLevelOption_number (platform : ConfigPlatform) (name : String) {n : JsNumber}
    (h : IsIsolationLevel n) : isolationLevelOption platform name (.number n) = .ok n := by
  obtain ⟨n, hn, rfl⟩ := h
  have hgiven : isolationLevelOption platform name (.number (.ofNat n)) =
      assertValidIsolationLevel platform (path name) (.number (.finite n)) := rfl
  rw [hgiven, assertValidIsolationLevel]
  rw [if_pos (Rat.den_natCast n), if_pos ⟨Nat.cast_nonneg n, by exact_mod_cast hn⟩]
  rfl

theorem maxRetriesOnTransientErrors_number {n : JsNumber} (h : n.lessThan 0 = false) :
    maxRetriesOnTransientErrors (.number n) = .ok n := by
  show (if n.lessThan 0 then _ else Except.ok n) = _
  rw [h]
  rfl

theorem connectionRetryInterval_number {n : JsNumber} (h : n.atMost 0 = false) :
    connectionRetryInterval (.number n) = .ok n := by
  show (if n.atMost 0 then _ else Except.ok n) = _
  rw [h]
  rfl

theorem encrypt_argument (options : InternalConnectionOptions) :
    encrypt options.argument.encrypt = .ok options.encrypt := by
  rw [argument]
  cases options.encrypt <;> rfl

theorem textsize_number {n : Int} (hlow : -1 ≤ n) (hhigh : n ≤ 2147483647) :
    textsize (.number (.finite n)) = .ok (.finite n) := by
  have hgreater : JsNumber.greaterThan 2147483647 (.finite n) = false :=
    decide_eq_false (not_lt.2 (by exact_mod_cast hhigh))
  have hless : JsNumber.lessThan (-1) (.finite n) = false :=
    decide_eq_false (not_lt.2 (by exact_mod_cast hlow))
  have hcut : (JsNumber.finite n).toInt32 = n := toInt32_ofInt (by omega) (by omega)
  have hnumber : orNull asNumber (.number (.finite n)) = some (some (.finite n)) := rfl
  rw [textsize, given, if_neg (by simp), checked, hnumber]
  simp only [Except.ok_bind, Option.getD_some, hgreater, hless, hcut, Bool.false_eq_true, if_false]

/-- The address is found again from what is given of it. -/
theorem port_instanceName {address : Address}
    (haddress : address.port.isSome ≠ address.instanceName.isSome)
    (hport : ∀ n ∈ address.port, n.atMost 0 = false ∧ n.atLeast 65536 = false) :
    ∃ first, instanceName (optional .string address.instanceName) = .ok first ∧
      port first (optional .number address.port) = .ok address := by
  obtain ⟨given, name⟩ := address
  cases given with
  | none =>
    cases name with
    | none => exact absurd rfl haddress
    | some name => exact ⟨_, rfl, rfl⟩
  | some n =>
    cases name with
    | some name => exact absurd rfl haddress
    | none =>
      obtain ⟨hlow, hhigh⟩ := hport n rfl
      refine ⟨.default, rfl, ?_⟩
      show (if n.atMost 0 || n.atLeast 65536 then _ else Except.ok _) = _
      rw [hlow, hhigh]
      rfl

theorem exclusive_argument (platform : ConfigPlatform) {options : InternalConnectionOptions}
    (haddress : options.address.port.isSome ≠ options.address.instanceName.isSome) :
    exclusive platform options.argument = .ok () := by
  have hnot : (options.argument.port.isTruthy && options.argument.instanceName.isTruthy) =
      false := by
    rw [argument]
    dsimp only
    cases hport : options.address.port with
    | none => rfl
    | some n =>
      cases hname : options.address.instanceName with
      | none => exact Bool.and_false _
      | some name =>
        rw [hport, hname] at haddress
        exact absurd rfl haddress
  rw [exclusive, hnot]
  rfl

/-- **Valid options are accepted** as they are. -/
theorem construct_argument (platform : ConfigPlatform) {options : InternalConnectionOptions}
    (h : options.Valid) : construct platform options.argument = .ok options := by
  obtain ⟨address, hname, hport⟩ := port_instanceName h.address h.port
  obtain ⟨n, hlow, hhigh, htextsize⟩ := h.textsize
  have htext : textsize (.number options.textsize) = .ok options.textsize := by
    rw [htextsize]
    exact textsize_number hlow hhigh
  rw [construct, exclusive_argument platform h.address]
  have hencrypt := encrypt_argument options
  simp only [argument] at hencrypt ⊢
  simp only [booleanOption_boolean, numberOption_number, booleanOrNullOption_nullable,
    stringOption_optional, stringOrNullOption_nullable, abortTransactionOnError_nullable,
    columnNameReplacer_optional, connector_optional, cryptoCredentialsDetails_optional,
    tdsVersion_string, datefirst_nullable h.datefirst, hname, hport, hencrypt, htext,
    isolationLevelOption_number platform _ h.connectionIsolationLevel,
    isolationLevelOption_number platform _ h.isolationLevel,
    maxRetriesOnTransientErrors_number h.maxRetriesOnTransientErrors,
    connectionRetryInterval_number h.connectionRetryInterval, debug_boolean, Except.ok_bind]
  rfl

/-! ### What is accepted is valid -/

section Accepted

variable {platform : ConfigPlatform} {value : ConfigValue}

theorem given_ok {default a : α} {check : ConfigValue → Except ConfigError α}
    (h : given default check value = .ok a) : a = default ∨ check value = .ok a := by
  rw [given] at h
  split at h
  · cases h
    exact .inl rfl
  · exact .inr h

theorem isIsolationLevel_finite {q : Rat} (hwhole : q.den = 1) (hlow : 0 ≤ q) (hhigh : q ≤ 5) :
    IsIsolationLevel (.finite q) := by
  have hq : (q.num : Rat) = q := Rat.den_eq_one_iff q |>.1 hwhole
  rw [← hq] at hlow hhigh
  have hlow' : 0 ≤ q.num := by exact_mod_cast hlow
  have hhigh' : q.num ≤ 5 := by exact_mod_cast hhigh
  obtain ⟨m, hm⟩ := Int.eq_ofNat_of_zero_le hlow'
  refine ⟨m, by omega, congrArg JsNumber.finite ?_⟩
  rw [← hq, hm]
  rfl

theorem isIsolationLevel_of_ok {name : String} {n : JsNumber}
    (h : isolationLevelOption platform name value = .ok n) : IsIsolationLevel n := by
  rcases given_ok h with rfl | hassert
  · exact ⟨2, by decide, rfl⟩
  · rw [assertValidIsolationLevel.eq_def] at hassert
    split at hassert
    · split at hassert
      · next hwhole =>
        split at hassert
        · next hrange =>
          cases hassert
          exact isIsolationLevel_finite hwhole hrange.1 hrange.2
        · cases hassert
      · cases hassert
    · cases hassert
    · cases hassert

theorem datefirst_ok {n : Option JsNumber} (h : datefirst value = .ok n) :
    ∀ m ∈ n, m.lessThan 1 = false ∧ m.greaterThan 7 = false := by
  rcases given_ok h with rfl | h
  · rintro m ⟨⟩
    exact ⟨by decide, by decide⟩
  · obtain ⟨first, -, h⟩ := Except.bind_ok h
    cases first with
    | none =>
      cases h
      exact nofun
    | some m =>
      dsimp only at h
      split at h
      · cases h
      · next hrange =>
        cases h
        rintro m' ⟨⟩
        exact Bool.or_eq_false_iff.1 (Bool.eq_false_iff.2 hrange)

theorem maxRetriesOnTransientErrors_ok {n : JsNumber}
    (h : maxRetriesOnTransientErrors value = .ok n) : n.lessThan 0 = false := by
  rcases given_ok h with rfl | h
  · decide
  · obtain ⟨m, -, h⟩ := Except.bind_ok h
    split at h
    · cases h
    · next hrange =>
      cases h
      exact Bool.eq_false_iff.2 hrange

theorem connectionRetryInterval_ok {n : JsNumber} (h : connectionRetryInterval value = .ok n) :
    n.atMost 0 = false := by
  rcases given_ok h with rfl | h
  · decide
  · obtain ⟨m, -, h⟩ := Except.bind_ok h
    split at h
    · cases h
    · next hrange =>
      cases h
      exact Bool.eq_false_iff.2 hrange

/-- A number is cut towards zero, and `NaN` to zero. -/
theorem toInt32_range {n : JsNumber} (hlow : n.lessThan (-1) = false)
    (hhigh : n.greaterThan 2147483647 = false) : -1 ≤ n.toInt32 ∧ n.toInt32 ≤ 2147483647 := by
  cases n with
  | finite q =>
    have hlow' : ((-1 : Int) : Rat) ≤ q := by
      have := of_decide_eq_false hlow
      push_cast
      linarith
    have hhigh' : q ≤ ((2147483647 : Int) : Rat) := by
      have := of_decide_eq_false hhigh
      push_cast
      linarith
    have hmin := le_truncate_of_le hlow'
    have hmax := truncate_le_of_le hhigh'
    have hcut : (JsNumber.finite q).toInt32 = (JsNumber.ofInt (truncate q)).toInt32 := by
      rw [JsNumber.toInt32, JsNumber.toInt32, JsNumber.ofInt, JsNumber.toUint32,
        JsNumber.toUint32, truncate_intCast]
    rw [hcut, toInt32_ofInt (by omega) (by omega)]
    exact ⟨hmin, hmax⟩
  | nan => exact ⟨by decide, by decide⟩
  | infinity => cases hhigh
  | negInfinity => cases hlow

theorem textsize_ok {n : JsNumber} (h : textsize value = .ok n) :
    ∃ m : Int, -1 ≤ m ∧ m ≤ 2147483647 ∧ n = .finite m := by
  rcases given_ok h with rfl | h
  · exact ⟨2147483647, by decide, by decide, rfl⟩
  · obtain ⟨first, -, h⟩ := Except.bind_ok h
    generalize first.getD (.ofNat 0) = m at h
    dsimp only at h
    split at h
    · cases h
    · next hgreater =>
      split at h
      · cases h
      · next hless =>
        cases h
        obtain ⟨hlow, hhigh⟩ := toInt32_range (Bool.eq_false_iff.2 hless)
          (Bool.eq_false_iff.2 hgreater)
        exact ⟨m.toInt32, hlow, hhigh, rfl⟩

/-- The address that is left has a port or the name of an instance. -/
theorem address_ok {given : ConfigValue} {first address : Address}
    (hname : instanceName value = .ok first) (hport : port first given = .ok address) :
    address.port.isSome ≠ address.instanceName.isSome ∧
      ∀ n ∈ address.port, n.atMost 0 = false ∧ n.atLeast 65536 = false := by
  have hfirst : first.port.isSome ≠ first.instanceName.isSome ∧
      ∀ n ∈ first.port, n.atMost 0 = false ∧ n.atLeast 65536 = false := by
    rcases given_ok hname with rfl | hname
    · refine ⟨by decide, ?_⟩
      rintro n ⟨⟩
      exact ⟨by decide, by decide⟩
    · obtain ⟨name, -, hname⟩ := Except.bind_ok hname
      cases hname
      exact ⟨nofun, nofun⟩
  rcases given_ok hport with rfl | hport
  · exact hfirst
  · obtain ⟨n, -, hport⟩ := Except.bind_ok hport
    split at hport
    · cases hport
    · next hrange =>
      cases hport
      refine ⟨by simp, ?_⟩
      rintro m ⟨⟩
      exact Bool.or_eq_false_iff.1 (Bool.eq_false_iff.2 hrange)

/-- The checks that leave options alone do not come into what is valid. -/
structure Accepts (platform : ConfigPlatform) (argument : ConnectionOptions)
    (options : InternalConnectionOptions) : Prop where
  connectionIsolationLevel : isolationLevelOption platform "connectionIsolationLevel"
    argument.connectionIsolationLevel = .ok options.connectionIsolationLevel
  datefirst : datefirst argument.datefirst = .ok options.datefirst
  address : ∃ first, instanceName argument.instanceName = .ok first ∧
    port first argument.port = .ok options.address
  isolationLevel : isolationLevelOption platform "isolationLevel" argument.isolationLevel =
    .ok options.isolationLevel
  maxRetriesOnTransientErrors :
    maxRetriesOnTransientErrors argument.maxRetriesOnTransientErrors =
      .ok options.maxRetriesOnTransientErrors
  connectionRetryInterval :
    connectionRetryInterval argument.connectionRetryInterval = .ok options.connectionRetryInterval
  textsize : textsize argument.textsize = .ok options.textsize

theorem accepts_of_construct {argument : ConnectionOptions} {options : InternalConnectionOptions}
    (h : construct platform argument = .ok options) : Accepts platform argument options := by
  repeat obtain ⟨_, _, h⟩ := Except.bind_ok h
  cases h
  constructor
  case address => exact ⟨_, by with_reducible assumption, by with_reducible assumption⟩
  all_goals with_reducible assumption

/-- **What is accepted is valid.** -/
theorem valid_of_construct {argument : ConnectionOptions} {options : InternalConnectionOptions}
    (h : construct platform argument = .ok options) : options.Valid := by
  have haccepts := accepts_of_construct h
  obtain ⟨first, hname, hport⟩ := haccepts.address
  obtain ⟨haddress, hrange⟩ := address_ok hname hport
  exact
    { connectionIsolationLevel := isIsolationLevel_of_ok haccepts.connectionIsolationLevel
      isolationLevel := isIsolationLevel_of_ok haccepts.isolationLevel
      datefirst := datefirst_ok haccepts.datefirst
      address := haddress
      port := hrange
      maxRetriesOnTransientErrors :=
        maxRetriesOnTransientErrors_ok haccepts.maxRetriesOnTransientErrors
      connectionRetryInterval := connectionRetryInterval_ok haccepts.connectionRetryInterval
      textsize := textsize_ok haccepts.textsize }

theorem findType_name (type : AuthenticationType) :
    findType (JsString.ofString type.name) = .ok type := by
  cases type <;> rfl

@[simp] theorem requiredString_string (name : String) (s : JsString) :
    requiredString name (.string s) = .ok s := rfl

@[simp] theorem optionalString_optional (name : String) (s : Option JsString) :
    optionalString name (optional .string s) = .ok s := by
  cases s <;> rfl

/-- **A valid authentication is accepted** as it is. -/
theorem authentication_argument {a : ConnectionAuthentication} (h : a.Valid platform) :
    authentication platform a.argument = .ok a := by
  have htype : authentication platform a.argument = authenticate platform a.options a.type := by
    rw [ConnectionAuthentication.argument, authentication]
    show (findType (JsString.ofString a.type.name) >>= _) = _
    rw [findType_name]
    rfl
  rw [htype]
  cases a with
  | ntlm userName password domain =>
    simp only [ConnectionAuthentication.type, ConnectionAuthentication.options, authenticate,
      requiredString_string, optionalString_optional, Except.ok_bind]
    split
    · rfl
    · next hne =>
      rw [h (by simpa using hne)]
      rfl
  | _ =>
    simp only [ConnectionAuthentication.type, ConnectionAuthentication.options, authenticate,
      requiredString_string, optionalString_optional, Except.ok_bind]
    rfl

/-- **An authentication that is accepted is valid.** -/
theorem valid_of_authentication
    (hupper : ∀ s, platform.toUpperCase (platform.toUpperCase s) = platform.toUpperCase s)
    {argument : ObjectArgument AuthenticationArgument} {a : ConnectionAuthentication}
    (h : authentication platform argument = .ok a) : a.Valid platform := by
  cases argument with
  | undefined =>
    cases h
    trivial
  | other => cases h
  | object argument =>
    obtain ⟨type, -, h⟩ := Except.bind_ok h
    obtain ⟨type, -, h⟩ := Except.bind_ok h
    obtain ⟨options, -, h⟩ := Except.bind_ok h
    cases type with
    | ntlm =>
      obtain ⟨domain, -, h⟩ := Except.bind_ok h
      obtain ⟨userName, -, h⟩ := Except.bind_ok h
      obtain ⟨password, -, h⟩ := Except.bind_ok h
      cases h
      intro hne
      by_cases hempty : domain.isEmpty = true
      · rw [if_pos hempty] at hne
        exact absurd (List.isEmpty_iff.1 hempty) hne
      · rw [if_neg hempty]
        exact hupper domain
    | _ =>
      repeat obtain ⟨_, -, h⟩ := Except.bind_ok h
      cases h
      trivial

end Accepted

end ConfigOption

namespace InternalConnectionConfig

/-- **The configurations of connections** are the valid ones, and a valid one is accepted again, as
itself. -/
theorem constructed_iff (platform : ConfigPlatform)
    (hupper : ∀ s, platform.toUpperCase (platform.toUpperCase s) = platform.toUpperCase s)
    (config : InternalConnectionConfig) :
    ((∃ argument, new platform argument = .ok config) ↔ config.Valid platform) ∧
      (config.Valid platform → new platform config.argument = .ok config) := by
  have hvalid : ∀ argument, new platform argument = .ok config → config.Valid platform := by
    rintro (_ | _ | argument) h
    · cases h
    · cases h
    · obtain ⟨server, -, h⟩ := Except.bind_ok h
      obtain ⟨authentication, hauthentication, h⟩ := Except.bind_ok h
      obtain ⟨options, hoptions, h⟩ := Except.bind_ok h
      cases h
      exact ⟨ConfigOption.valid_of_authentication hupper hauthentication,
        ConfigOption.valid_of_construct hoptions⟩
  have haccept : config.Valid platform → new platform config.argument = .ok config := by
    intro h
    have hauthentication := ConfigOption.authentication_argument h.authentication
    have hoptions := ConfigOption.construct_argument platform h.options
    show (ConfigOption.authentication platform config.authentication.argument >>= _) = _
    rw [hauthentication, Except.ok_bind]
    show (ConfigOption.construct platform config.options.argument >>= _) = _
    rw [hoptions]
    rfl
  exact ⟨⟨fun ⟨argument, h⟩ => hvalid argument h, fun h => ⟨_, haccept h⟩⟩, haccept⟩

end InternalConnectionConfig

/-! ### The defaults -/

theorem asciiUpperCase_twice (c : UInt16) :
    asciiUpperCase (asciiUpperCase c) = asciiUpperCase c := by
  have hall : ∀ n < 123, asciiUpperCase (asciiUpperCase (UInt16.ofNat n)) =
      asciiUpperCase (UInt16.ofNat n) := by decide
  by_cases hletter : 0x61 ≤ c ∧ c ≤ 0x7A
  · have hlt : c.toNat < 123 := Nat.lt_succ_of_le (UInt16.le_iff_toNat_le.1 hletter.2)
    have hc := hall c.toNat hlt
    rwa [UInt16.ofNat_toNat] at hc
  · have hsame : asciiUpperCase c = c := if_neg hletter
    rw [hsame, hsame]

theorem map_asciiUpperCase_twice (s : JsString) :
    (s.map asciiUpperCase).map asciiUpperCase = s.map asciiUpperCase := by
  rw [List.map_map]
  exact List.map_congr_left fun c _ => asciiUpperCase_twice c

def asciiConfigPlatform : ConfigPlatform where
  print _ := []
  toUpperCase := List.map asciiUpperCase

/-- The options where none are given. -/
def InternalConnectionOptions.default : InternalConnectionOptions where
  abortTransactionOnError := some false
  appName := none
  camelCaseColumns := false
  cancelTimeout := .ofNat 5000
  columnNameReplacer := none
  connectionIsolationLevel := .ofNat 2
  connectTimeout := .ofNat 15000
  connector := none
  cryptoCredentialsDetails := none
  database := none
  datefirst := some (.ofNat 7)
  dateFormat := some (JsString.ofString "mdy")
  debug := { data := false, packet := false, payload := false, token := false }
  enableAnsiNull := some true
  enableAnsiNullDefault := some true
  enableAnsiPadding := some true
  enableAnsiWarnings := some true
  enableArithAbort := some true
  enableConcatNullYieldsNull := some true
  enableCursorCloseOnCommit := none
  enableImplicitTransactions := some false
  enableNumericRoundabort := some false
  enableQuotedIdentifier := some true
  encrypt := .yes
  fallbackToDefaultDb := false
  isolationLevel := .ofNat 2
  language := some (JsString.ofString "us_english")
  localAddress := none
  multiSubnetFailover := false
  packetSize := .ofNat 4096
  address := .default
  readOnlyIntent := false
  requestTimeout := .ofNat 15000
  maxRetriesOnTransientErrors := .ofNat 3
  connectionRetryInterval := .ofNat 500
  rowCollectionOnDone := false
  rowCollectionOnRequestCompletion := false
  tdsVersion := JsString.ofString "7_4"
  textsize := .ofNat 2147483647
  trustServerCertificate := false
  serverName := none
  useColumnNames := false
  useUTC := true
  workstationId := none
  lowerCaseGuids := false

example (platform : ConfigPlatform) : ConfigOption.construct platform {} = .ok .default := rfl

/-- A domain account, on a named instance. -/
def configOfDomain : InternalConnectionConfig where
  server := [0x73]
  authentication := .ntlm (some [0x75]) none [0x44]
  options := { InternalConnectionOptions.default with
    address := { port := none, instanceName := some [0x69] }
    datefirst := none }

theorem constructed_iff_configOfDomain :
    InternalConnectionConfig.new asciiConfigPlatform configOfDomain.argument =
      .ok configOfDomain := by
  have hvalid : configOfDomain.Valid asciiConfigPlatform :=
    { authentication := fun _ => by decide
      options :=
        { connectionIsolationLevel := ⟨2, by decide, rfl⟩
          isolationLevel := ⟨2, by decide, rfl⟩
          datefirst := nofun
          address := by decide
          port := nofun
          maxRetriesOnTransientErrors := by decide
          connectionRetryInterval := by decide
          textsize := ⟨2147483647, by decide, by decide, rfl⟩ } }
  exact (InternalConnectionConfig.constructed_iff asciiConfigPlatform
    map_asciiUpperCase_twice configOfDomain).2 hvalid

end Tedious
