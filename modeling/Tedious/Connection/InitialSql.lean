import Tedious.AllHeaders
import Tedious.BulkLoadSql
import Tedious.Connection.Configuration
import Tedious.Lib.Separated

/-!
# Tedious.Connection.InitialSql

The statements that a connection sends when it has logged in (`getInitialSql` in `connection.ts`):
one line for every option of the session, and none for an option that is `null`.

`SessionSettings.run` is the server's side, line by line. `initialSql_arrives`: the session that a
server has made of the message is the one that the options ask for.
-/

namespace Tedious

open Chunked

/-! ### The statements -/

/-- The settings that are on or off. -/
inductive Switch
  | ansi_nulls | ansi_null_dflt_on | ansi_padding | ansi_warnings | arithabort
  | concat_null_yields_null | cursor_close_on_commit | implicit_transactions
  | numeric_roundabort | quoted_identifier | xact_abort
  deriving DecidableEq, Repr

namespace Switch

def name : Switch → String
  | ansi_nulls => "ansi_nulls"
  | ansi_null_dflt_on => "ansi_null_dflt_on"
  | ansi_padding => "ansi_padding"
  | ansi_warnings => "ansi_warnings"
  | arithabort => "arithabort"
  | concat_null_yields_null => "concat_null_yields_null"
  | cursor_close_on_commit => "cursor_close_on_commit"
  | implicit_transactions => "implicit_transactions"
  | numeric_roundabort => "numeric_roundabort"
  | quoted_identifier => "quoted_identifier"
  | xact_abort => "xact_abort"

end Switch

/-- A setting with a text behind it. -/
def setSql (name : String) (value : JsString) : JsString :=
  JsString.ofString "set " ++ (JsString.ofString name ++ (JsString.ofString " " ++ value))

/-- Nothing is said about a setting that is `null`. -/
def Switch.sql (s : Switch) : Option Bool → List JsString
  | some true => [setSql s.name (JsString.ofString "on")]
  | some false => [setSql s.name (JsString.ofString "off")]
  | none => []

/-- `getIsolationLevelText`: everything else is `read committed`. -/
def getIsolationLevelText (isolationLevel : JsNumber) : JsString :=
  if isolationLevel = .ofNat 1 then JsString.ofString "read uncommitted"
  else if isolationLevel = .ofNat 3 then JsString.ofString "repeatable read"
  else if isolationLevel = .ofNat 4 then JsString.ofString "serializable"
  else if isolationLevel = .ofNat 5 then JsString.ofString "snapshot"
  else JsString.ofString "read committed"

namespace InternalConnectionOptions

variable (numbers : NumberFormat) (options : InternalConnectionOptions)

/-- The lines of `getInitialSql`. `textsize` and the isolation level are never `null`. -/
def initialStatements : List JsString :=
  Switch.ansi_nulls.sql options.enableAnsiNull ++
    (Switch.ansi_null_dflt_on.sql options.enableAnsiNullDefault ++
    (Switch.ansi_padding.sql options.enableAnsiPadding ++
    (Switch.ansi_warnings.sql options.enableAnsiWarnings ++
    (Switch.arithabort.sql options.enableArithAbort ++
    (Switch.concat_null_yields_null.sql options.enableConcatNullYieldsNull ++
    (Switch.cursor_close_on_commit.sql options.enableCursorCloseOnCommit ++
    (options.datefirst.toList.map (fun n => setSql "datefirst" (numbers.format n)) ++
    (options.dateFormat.toList.map (setSql "dateformat") ++
    (Switch.implicit_transactions.sql options.enableImplicitTransactions ++
    (options.language.toList.map (setSql "language") ++
    (Switch.numeric_roundabort.sql options.enableNumericRoundabort ++
    (Switch.quoted_identifier.sql options.enableQuotedIdentifier ++
    ([setSql "textsize" (numbers.format options.textsize)] ++
    ([setSql "transaction" (JsString.ofString "isolation level " ++
      getIsolationLevelText options.connectionIsolationLevel)] ++
    Switch.xact_abort.sql options.abortTransactionOnError))))))))))))))

def getInitialSql : JsString :=
  (JsString.ofString "\n").intercalate (options.initialStatements numbers)

end InternalConnectionOptions

/-! ### The server -/

/-- The isolation levels of a server. -/
inductive IsolationLevel
  | readUncommitted | readCommitted | repeatableRead | serializable | snapshot
  deriving DecidableEq, Repr

namespace IsolationLevel

def name : IsolationLevel → String
  | readUncommitted => "read uncommitted"
  | readCommitted => "read committed"
  | repeatableRead => "repeatable read"
  | serializable => "serializable"
  | snapshot => "snapshot"

def read (text : JsString) : Option IsolationLevel :=
  [readUncommitted, readCommitted, repeatableRead, serializable, snapshot].find? fun level =>
    JsString.ofString level.name = text

end IsolationLevel

/-- The settings of a session, none of which depends on another. -/
@[ext] structure SessionSettings where
  switches : Switch → Bool
  datefirst : JsString
  dateformat : JsString
  language : JsString
  textsize : JsString
  isolationLevel : IsolationLevel

namespace SessionSettings

def readSwitch (value : JsString) : Option Bool :=
  if value = JsString.ofString "on" then some true
  else if value = JsString.ofString "off" then some false
  else none

def allSwitches : List Switch :=
  [.ansi_nulls, .ansi_null_dflt_on, .ansi_padding, .ansi_warnings, .arithabort,
    .concat_null_yields_null, .cursor_close_on_commit, .implicit_transactions,
    .numeric_roundabort, .quoted_identifier, .xact_abort]

/-- Put a switch. -/
def put (session : SessionSettings) (s : Switch) (on : Bool) : SessionSettings :=
  { session with switches := Function.update session.switches s on }

/-- `set transaction isolation level value`. -/
def setTransaction (session : SessionSettings) (value : JsString) : Option SessionSettings :=
  let setting := JsString.ofString "isolation level "
  if setting.isPrefixOf value then
    (IsolationLevel.read (value.drop setting.length)).map fun isolationLevel =>
      { session with isolationLevel }
  else none

/-- `set name value`, for what is no switch. -/
def setText (session : SessionSettings) (name value : JsString) : Option SessionSettings :=
  if name = JsString.ofString "datefirst" then some { session with datefirst := value }
  else if name = JsString.ofString "dateformat" then some { session with dateformat := value }
  else if name = JsString.ofString "language" then some { session with language := value }
  else if name = JsString.ofString "textsize" then some { session with textsize := value }
  else if name = JsString.ofString "transaction" then session.setTransaction value
  else none

def findSwitch (name : JsString) : Option Switch :=
  allSwitches.find? fun s => JsString.ofString s.name = name

/-- `set name value`. -/
def set (session : SessionSettings) (name value : JsString) : Option SessionSettings :=
  match findSwitch name with
  | some s => (readSwitch value).map (session.put s)
  | none => session.setText name value

/-- A line: `set`, and a name that ends at the next blank. -/
def runStatement (session : SessionSettings) (statement : JsString) : Option SessionSettings :=
  if (JsString.ofString "set ").isPrefixOf statement then
    let setting := statement.drop 4
    session.set (setting.takeWhile (· ≠ 0x20)) ((setting.dropWhile (· ≠ 0x20)).drop 1)
  else none

/-- The lines of a text, one after the other. -/
def run (session : SessionSettings) (sql : JsString) : Option SessionSettings :=
  (Separated.splitAll [0x0A] (sql.length + 1) sql).foldlM runStatement session

end SessionSettings

/-! ### What the options ask for -/

namespace InternalConnectionOptions

variable (numbers : NumberFormat) (options : InternalConnectionOptions)

/-- The option behind a switch. -/
def switch : Switch → Option Bool
  | .ansi_nulls => options.enableAnsiNull
  | .ansi_null_dflt_on => options.enableAnsiNullDefault
  | .ansi_padding => options.enableAnsiPadding
  | .ansi_warnings => options.enableAnsiWarnings
  | .arithabort => options.enableArithAbort
  | .concat_null_yields_null => options.enableConcatNullYieldsNull
  | .cursor_close_on_commit => options.enableCursorCloseOnCommit
  | .implicit_transactions => options.enableImplicitTransactions
  | .numeric_roundabort => options.enableNumericRoundabort
  | .quoted_identifier => options.enableQuotedIdentifier
  | .xact_abort => options.abortTransactionOnError

/-- `ISOLATION_LEVEL`, the other way round. -/
def isolationLevels : List (Nat × IsolationLevel) :=
  [(1, .readUncommitted), (2, .readCommitted), (3, .repeatableRead), (4, .serializable),
    (5, .snapshot)]

/-- The level that an option asks for. `NO_CHANGE` asks for `READ_COMMITTED` too. -/
def askedLevel (isolationLevel : JsNumber) : IsolationLevel :=
  ((isolationLevels.find? fun (n, _) => isolationLevel = .ofNat n).map Prod.snd).getD .readCommitted

/-- A session with the options in it: what is `null` stays as the server has it. -/
def session (before : SessionSettings) : SessionSettings where
  switches s := (options.switch s).getD (before.switches s)
  datefirst := (options.datefirst.map numbers.format).getD before.datefirst
  dateformat := options.dateFormat.getD before.dateformat
  language := options.language.getD before.language
  textsize := numbers.format options.textsize
  isolationLevel := askedLevel options.connectionIsolationLevel

end InternalConnectionOptions

/-! ### Line by line -/

namespace SessionSettings

variable {numbers : NumberFormat} {options : InternalConnectionOptions} (session : SessionSettings)

/-- A name without a blank, and the text behind it. -/
theorem runStatement_setSql (name : String) (value : JsString)
    (hname : ∀ c ∈ JsString.ofString name, decide (c ≠ 0x20) = true) :
    session.runStatement (setSql name value) = session.set (JsString.ofString name) value := by
  have hprefix : (JsString.ofString "set ").isPrefixOf (setSql name value) = true :=
    List.isPrefixOf_iff_prefix.2 (List.prefix_append _ _)
  have hdrop : (setSql name value).drop 4 =
      JsString.ofString name ++ (JsString.ofString " " ++ value) := List.drop_left' rfl
  rw [runStatement, if_pos hprefix, hdrop]
  dsimp only
  rw [List.takeWhile_append_of_pos hname, List.dropWhile_append_of_pos hname]
  exact congrArg₂ session.set (List.append_nil _) rfl

theorem findSwitch_name (s : Switch) : findSwitch (JsString.ofString s.name) = some s := by
  cases s <;> rfl

theorem runStatement_switch (s : Switch) {value : JsString} {on : Bool}
    (hvalue : readSwitch value = some on) :
    session.runStatement (setSql s.name value) = some (session.put s on) := by
  have hname : ∀ c ∈ JsString.ofString s.name, decide (c ≠ 0x20) = true :=
    List.all_eq_true.1 (by cases s <;> decide)
  rw [session.runStatement_setSql s.name value hname, set, findSwitch_name, hvalue]
  rfl

theorem run_switch (s : Switch) (value : Option Bool) :
    (s.sql value).foldlM runStatement session =
      some (session.put s (value.getD (session.switches s))) := by
  cases value with
  | none =>
    have hsame : session.put s (session.switches s) = session := by
      rw [put, Function.update_eq_self]
    exact congrArg some hsame.symm
  | some on =>
    have hoff : readSwitch (JsString.ofString "off") = some false := by decide
    have hon : readSwitch (JsString.ofString "on") = some true := by decide
    cases on with
    | false => exact congrArg (· >>= pure) (session.runStatement_switch s hoff)
    | true => exact congrArg (· >>= pure) (session.runStatement_switch s hon)

/-- A setting that is no switch. -/
theorem run_setText {name : String} (value : JsString)
    (hname : ∀ c ∈ JsString.ofString name, decide (c ≠ 0x20) = true)
    (hnone : findSwitch (JsString.ofString name) = none) :
    [setSql name value].foldlM runStatement session =
      session.setText (JsString.ofString name) value := by
  rw [List.foldlM_cons, session.runStatement_setSql name value hname, set, hnone]
  dsimp only
  cases session.setText (JsString.ofString name) value <;> rfl

theorem run_datefirst (value : Option JsNumber) :
    (value.toList.map fun n => setSql "datefirst" (numbers.format n)).foldlM runStatement session =
      some { session with datefirst := (value.map numbers.format).getD session.datefirst } := by
  cases value with
  | none => rfl
  | some n => exact session.run_setText _ (List.all_eq_true.1 (by decide)) (by decide +kernel)

theorem run_dateFormat (value : Option JsString) :
    (value.toList.map (setSql "dateformat")).foldlM runStatement session =
      some { session with dateformat := value.getD session.dateformat } := by
  cases value with
  | none => rfl
  | some text => exact session.run_setText text (List.all_eq_true.1 (by decide)) (by decide +kernel)

theorem run_language (value : Option JsString) :
    (value.toList.map (setSql "language")).foldlM runStatement session =
      some { session with language := value.getD session.language } := by
  cases value with
  | none => rfl
  | some text => exact session.run_setText text (List.all_eq_true.1 (by decide)) (by decide +kernel)

theorem run_textsize (value : JsString) :
    [setSql "textsize" value].foldlM runStatement session =
      some { session with textsize := value } :=
  session.run_setText value (List.all_eq_true.1 (by decide)) (by decide +kernel)

/-- The text of a level is read as the level that was asked for. -/
theorem read_getIsolationLevelText (level : JsNumber) :
    IsolationLevel.read (getIsolationLevelText level) =
      some (InternalConnectionOptions.askedLevel level) := by
  rw [InternalConnectionOptions.askedLevel, InternalConnectionOptions.isolationLevels,
    getIsolationLevelText]
  split_ifs with h1 h3 h4 h5
  · subst h1
    decide +kernel
  · subst h3
    decide +kernel
  · subst h4
    decide +kernel
  · subst h5
    decide +kernel
  · have hread : IsolationLevel.read (JsString.ofString "read committed") =
        some .readCommitted := by
      decide
    rw [hread]
    by_cases h2 : level = .ofNat 2
    · subst h2
      decide +kernel
    · simp [h1, h2, h3, h4, h5]

theorem run_isolationLevel (level : JsNumber) :
    [setSql "transaction" (JsString.ofString "isolation level " ++
      getIsolationLevelText level)].foldlM runStatement session = some
        { session with isolationLevel := InternalConnectionOptions.askedLevel level } := by
  have hset : session.setTransaction
      (JsString.ofString "isolation level " ++ getIsolationLevelText level) = some
        { session with isolationLevel := InternalConnectionOptions.askedLevel level } := by
    rw [setTransaction, if_pos (List.isPrefixOf_iff_prefix.2 (List.prefix_append _ _)),
      List.drop_left, read_getIsolationLevelText]
    rfl
  exact (session.run_setText _ (List.all_eq_true.1 (by decide)) (by decide +kernel)).trans hset

/-- **All lines** make the session that the options ask for. -/
theorem run_initialStatements (numbers : NumberFormat) (options : InternalConnectionOptions) :
    (options.initialStatements numbers).foldlM runStatement session =
      some (options.session numbers session) := by
  simp only [InternalConnectionOptions.initialStatements, List.foldlM_append, run_switch,
    run_datefirst, run_dateFormat, run_language, run_textsize, run_isolationLevel,
    Option.bind_eq_bind, Option.bind_some]
  refine congrArg some ?_
  refine SessionSettings.ext (funext fun s => ?_) rfl rfl rfl rfl rfl
  cases s <;> rfl

/-! ### The text -/

theorem plain_setSql {name : String} {value : JsString} (hname : 0x0A ∉ JsString.ofString name)
    (hvalue : 0x0A ∉ value) : 0x0A ∉ setSql name value := by
  simp only [setSql, List.mem_append, not_or]
  exact ⟨by decide, hname, by decide, hvalue⟩

theorem plain_switch (s : Switch) (value : Option Bool) :
    ∀ statement ∈ s.sql value, 0x0A ∉ statement := by
  cases value with
  | none => exact List.forall_mem_nil _
  | some on =>
    have hname : 0x0A ∉ JsString.ofString s.name := by cases s <;> decide
    cases on with
    | false => exact List.forall_mem_singleton.2 (plain_setSql hname (by decide))
    | true => exact List.forall_mem_singleton.2 (plain_setSql hname (by decide))

theorem plain_getIsolationLevelText (level : JsNumber) :
    0x0A ∉ getIsolationLevelText level := by
  rw [getIsolationLevelText]
  repeat' split
  all_goals decide

/-- No line breaks off where the texts of the options do not. -/
theorem plain_initialStatements (numbers : NumberFormat)
    (hdateFormat : ∀ s ∈ options.dateFormat, 0x0A ∉ s)
    (hlanguage : ∀ s ∈ options.language, 0x0A ∉ s) :
    ∀ statement ∈ options.initialStatements numbers, 0x0A ∉ statement := by
  have hnumber : ∀ n, 0x0A ∉ numbers.format n :=
    fun n hmem => absurd (numbers.numeral n _ hmem) (by decide)
  have hdatefirst : ∀ statement ∈ options.datefirst.toList.map
      (fun n => setSql "datefirst" (numbers.format n)), 0x0A ∉ statement :=
    List.forall_mem_map.2 fun n _ => plain_setSql (by decide) (hnumber n)
  have htext : ∀ (name : String) (value : Option JsString), 0x0A ∉ JsString.ofString name →
      (∀ s ∈ value, 0x0A ∉ s) → ∀ statement ∈ value.toList.map (setSql name), 0x0A ∉ statement :=
    fun name value hname hvalue => List.forall_mem_map.2 fun s hs =>
      plain_setSql hname (hvalue s (Option.mem_toList.1 hs))
  have hlevel : 0x0A ∉ JsString.ofString "isolation level " ++
      getIsolationLevelText options.connectionIsolationLevel := by
    rw [List.mem_append, not_or]
    exact ⟨by decide, plain_getIsolationLevelText _⟩
  simp only [InternalConnectionOptions.initialStatements, List.forall_mem_append,
    List.forall_mem_singleton]
  exact ⟨plain_switch _ _, plain_switch _ _, plain_switch _ _, plain_switch _ _, plain_switch _ _,
    plain_switch _ _, plain_switch _ _, hdatefirst, htext _ _ (by decide) hdateFormat,
    plain_switch _ _, htext _ _ (by decide) hlanguage, plain_switch _ _, plain_switch _ _,
    plain_setSql (by decide) (hnumber _), plain_setSql (by decide) hlevel, plain_switch _ _⟩

theorem initialStatements_ne_nil (numbers : NumberFormat) :
    options.initialStatements numbers ≠ [] := by
  intro hnil
  have htextsize : setSql "textsize" (numbers.format options.textsize) ∈
      options.initialStatements numbers := by
    simp [InternalConnectionOptions.initialStatements]
  rw [hnil] at htextsize
  cases htextsize

/-- The text is run as its lines. -/
theorem run_getInitialSql (numbers : NumberFormat)
    (hdateFormat : ∀ s ∈ options.dateFormat, 0x0A ∉ s)
    (hlanguage : ∀ s ∈ options.language, 0x0A ∉ s) :
    session.run (options.getInitialSql numbers) = some (options.session numbers session) := by
  have hsplit := Separated.splitAll_intercalate (List.not_mem_nil (a := (0x0A : UInt16)))
    (initialStatements_ne_nil numbers) (plain_initialStatements numbers hdateFormat hlanguage)
    (Separated.length_intercalate [0x0A] (by decide) _)
  rw [run, ← run_initialStatements]
  exact congrArg (List.foldlM runStatement session) hsplit

end SessionSettings

/-- **The initial SQL arrives**: from the message that a connection sends when it has logged in, a
server makes the session that the options of the connection ask for, and leaves alone what is
`null`. -/
theorem initialSql_arrives (numbers : NumberFormat) (options : InternalConnectionOptions)
    (before : SessionSettings) {txnDescriptor : Bytes} (hdescriptor : txnDescriptor.length = 8)
    (hdateFormat : ∀ s ∈ options.dateFormat, 0x0A ∉ s)
    (hlanguage : ∀ s ∈ options.language, 0x0A ∉ s) :
    ∃ chunks sql headers,
      SqlBatchPayload.iterator { sqlText := options.getInitialSql numbers, txnDescriptor
                                 tdsVersion := options.tdsVersion } = .ok chunks ∧
      readBatch options.tdsVersion chunks.flatten = some (headers, sql) ∧
      before.run sql = some (options.session numbers before) := by
  obtain ⟨chunks, hchunks, hread⟩ := readBatch_iterator
    { sqlText := options.getInitialSql numbers, txnDescriptor, tdsVersion := options.tdsVersion }
    hdescriptor
  exact ⟨chunks, _, _, hchunks, hread,
    SessionSettings.run_getInitialSql before numbers hdateFormat hlanguage⟩

/-- A session with everything off. -/
def SessionSettings.allOff : SessionSettings where
  switches _ := false
  datefirst := []
  dateformat := []
  language := []
  textsize := []
  isolationLevel := .readCommitted

theorem initialSql_arrives_default : ∃ chunks sql headers,
    SqlBatchPayload.iterator
      { sqlText := InternalConnectionOptions.default.getInitialSql BulkLoad.wholeNumbers
        txnDescriptor := List.replicate 8 0
        tdsVersion := InternalConnectionOptions.default.tdsVersion } = .ok chunks ∧
    readBatch InternalConnectionOptions.default.tdsVersion chunks.flatten = some (headers, sql) ∧
    SessionSettings.allOff.run sql =
      some (InternalConnectionOptions.default.session BulkLoad.wholeNumbers .allOff) := by
  have hdateFormat : ∀ s ∈ InternalConnectionOptions.default.dateFormat, 0x0A ∉ s := by
    rintro s ⟨⟩
    decide
  have hlanguage : ∀ s ∈ InternalConnectionOptions.default.language, 0x0A ∉ s := by
    rintro s ⟨⟩
    decide
  exact initialSql_arrives BulkLoad.wholeNumbers InternalConnectionOptions.default .allOff
    List.length_replicate hdateFormat hlanguage

end Tedious
