import Tedious.BulkLoad
import Tedious.Lib.Quoted

/-!
# Tedious.BulkLoadSql

The two statements that a bulk load writes about its columns: `insert bulk`, and the
`CREATE TABLE` that a user may ask for. A column's name stands between brackets as it is.

`columnsRead_iff`: read with `]]` for a `]` inside of brackets, a statement names the columns
exactly when no name has a `]` in it and the text of the table closes its own brackets.
-/

namespace Tedious

open Quoted

/-! ### Declarations -/

/-- The symbols of `String(n)` for a number. -/
def numeralSymbols : JsString := JsString.ofString "0123456789+-.eInfityNa"

/-- `String(n)`. -/
structure NumberFormat where
  format : JsNumber → JsString
  numeral : ∀ n, ∀ c ∈ format n, c ∈ numeralSymbols

/-- `n < bound`. -/
def JsNumber.below (bound : Nat) : JsNumber → Bool
  | finite q => q < bound
  | negInfinity => true
  | infinity | nan => false

/-- `name(argument)`. -/
def withArgument (name : String) (argument : JsString) : JsString :=
  JsString.ofString name ++ (JsString.ofString "(" ++ (argument ++ JsString.ofString ")"))

namespace BulkColumn

variable (column : BulkColumn)

/-- The length of a declaration. A column's value is `null`. -/
def declaredLength (maximumLength : Nat) : JsNumber :=
  match column.length with
  | some length => if length.isTruthy then length else missing
  | none => missing
where
  missing := if column.output then .ofNat maximumLength else .ofNat 1

variable (numbers : NumberFormat)

/-- In `char` and `nchar` a length above the maximum is cut to it. -/
def cutLength (maximumLength : Nat) : JsString :=
  let length := column.declaredLength maximumLength
  numbers.format (if length.below maximumLength then length else .ofNat maximumLength)

/-- In `varchar`, `nvarchar` and `varbinary` a length above the maximum is `max`. -/
def lengthOrMax (maximumLength : Nat) : JsString :=
  let length := column.declaredLength maximumLength
  if length.atMost maximumLength then numbers.format length else JsString.ofString "max"

/-- `resolveScale` for a column. -/
def scaleSql : JsString := numbers.format (column.scale.getD (.ofNat 0))

/-- `resolvePrecision` and `resolveScale` for a column. -/
def precisionAndScale : JsString :=
  numbers.format (column.precision.getD (.ofNat 1)) ++
    (JsString.ofString ", " ++ column.scaleSql numbers)

/-- `c.type.declaration(c)`. -/
def declaration : Except JsError JsString :=
  match column.type with
  | .TinyInt => .ok (JsString.ofString "tinyint")
  | .Bit => .ok (JsString.ofString "bit")
  | .SmallInt => .ok (JsString.ofString "smallint")
  | .Int => .ok (JsString.ofString "int")
  | .BigInt => .ok (JsString.ofString "bigint")
  | .Real => .ok (JsString.ofString "real")
  | .Float => .ok (JsString.ofString "float")
  | .SmallMoney => .ok (JsString.ofString "smallmoney")
  | .Money => .ok (JsString.ofString "money")
  | .SmallDateTime => .ok (JsString.ofString "smalldatetime")
  | .DateTime => .ok (JsString.ofString "datetime")
  | .Date => .ok (JsString.ofString "date")
  | .Image => .ok (JsString.ofString "image")
  | .Text => .ok (JsString.ofString "text")
  | .NText => .ok (JsString.ofString "ntext")
  | .UniqueIdentifier => .ok (JsString.ofString "uniqueidentifier")
  | .Variant => .ok (JsString.ofString "sql_variant")
  | .Time => .ok (withArgument "time" (column.scaleSql numbers))
  | .DateTime2 => .ok (withArgument "datetime2" (column.scaleSql numbers))
  | .DateTimeOffset => .ok (withArgument "datetimeoffset" (column.scaleSql numbers))
  | .Decimal => .ok (withArgument "decimal" (column.precisionAndScale numbers))
  | .Numeric => .ok (withArgument "numeric" (column.precisionAndScale numbers))
  | .Binary => .ok (withArgument "binary" (numbers.format (column.declaredLength 8000)))
  | .Char => .ok (withArgument "char" (column.cutLength numbers 8000))
  | .NChar => .ok (withArgument "nchar" (column.cutLength numbers 4000))
  | .VarBinary => .ok (withArgument "varbinary" (column.lengthOrMax numbers 8000))
  | .VarChar => .ok (withArgument "varchar" (column.lengthOrMax numbers 8000))
  | .NVarChar => .ok (withArgument "nvarchar" (column.lengthOrMax numbers 4000))
  -- `value.name` of `null`.
  | .TVP => .error .typeError
  | .Null | .IntN | .BitN | .DecimalN | .NumericN | .FloatN | .MoneyN | .DateTimeN | .Xml | .UDT =>
    .error (.error "not implemented")

end BulkColumn

/-! ### The statements -/

namespace BulkLoad

variable (numbers : NumberFormat) (load : BulkLoad)

/-- `addOptions`. -/
def addOptions : List JsString :=
  let options := load.bulkOptions
  let orderColumns := options.order.map fun (column, direction) =>
    column ++ JsString.ofString (match direction with | .ASC => " ASC" | .DESC => " DESC")
  (if options.checkConstraints then [JsString.ofString "CHECK_CONSTRAINTS"] else []) ++
    (if options.fireTriggers then [JsString.ofString "FIRE_TRIGGERS"] else []) ++
    (if options.keepNulls then [JsString.ofString "KEEP_NULLS"] else []) ++
    (if options.lockTable then [JsString.ofString "TABLOCK"] else []) ++
    (if orderColumns ≠ [] then
      [JsString.ofString "ORDER (" ++ (JsString.ofString ", ").intercalate orderColumns ++
        JsString.ofString ")"]
    else [])

def getOptionsSql : JsString :=
  if load.addOptions ≠ [] then
    JsString.ofString " WITH (" ++ (JsString.ofString ",").intercalate load.addOptions ++
      JsString.ofString ")"
  else []

/-- `'[' + c.name + '] ' + c.type.declaration(c)`, and what a statement has to say about the column
after that. -/
def columnSql (after : BulkColumn → JsString) (column : BulkColumn) : Except JsError JsString := do
  let declaration ← column.declaration numbers
  pure (JsString.ofString "[" ++ (column.name ++ (JsString.ofString "] " ++
    (declaration ++ after column))))

/-- The columns, one behind the other. -/
def columnsSql (separator : JsString) (after : BulkColumn → JsString) :
    Except JsError JsString := do
  let columns ← load.columns.mapM (columnSql numbers after)
  pure (separator.intercalate columns)

/-- What a statement begins with. -/
def insertFront : JsString :=
  JsString.ofString "insert bulk " ++ (load.table ++ JsString.ofString "(")

def getBulkInsertSql : Except JsError JsString := do
  let columns ← load.columnsSql numbers (JsString.ofString ", ") fun _ => []
  pure (load.insertFront ++ (columns ++ (JsString.ofString ")" ++ load.getOptionsSql)))

/-- What `CREATE TABLE` says about `null` in a column. -/
def nullability (column : BulkColumn) : JsString :=
  match column.nullable with
  | none => []
  | some nullable => JsString.ofString (if nullable then " NULL" else " NOT NULL")

def creationFront : JsString :=
  JsString.ofString "CREATE TABLE " ++ (load.table ++ JsString.ofString "(\n")

def getTableCreationSql : Except JsError JsString := do
  let columns ← load.columnsSql numbers (JsString.ofString ",\n") nullability
  pure (load.creationFront ++ (columns ++ JsString.ofString "\n)"))

end BulkLoad

/-! ### Text without brackets -/

theorem NumberFormat.plain (numbers : NumberFormat) (n : JsNumber) : 0x5B ∉ numbers.format n :=
  fun h => absurd (numbers.numeral n _ h) (by decide)

theorem withArgument_plain {name : String} {argument : JsString}
    (hname : 0x5B ∉ JsString.ofString name) (hargument : 0x5B ∉ argument) :
    0x5B ∉ withArgument name argument := by
  simp only [withArgument, List.mem_append, not_or]
  exact ⟨hname, by decide, hargument, by decide⟩

/-- No bracket stands in a declaration. -/
theorem BulkColumn.declaration_plain {numbers : NumberFormat} {column : BulkColumn}
    {text : JsString} (h : column.declaration numbers = .ok text) : 0x5B ∉ text := by
  have hcut : ∀ maximumLength, 0x5B ∉ column.cutLength numbers maximumLength :=
    fun _ => numbers.plain _
  have hmax : ∀ maximumLength, 0x5B ∉ column.lengthOrMax numbers maximumLength := by
    intro maximumLength
    rw [lengthOrMax]
    split
    · exact numbers.plain _
    · decide
  have hscale : 0x5B ∉ column.scaleSql numbers := numbers.plain _
  have hprecision : 0x5B ∉ column.precisionAndScale numbers := by
    simp only [precisionAndScale, List.mem_append, not_or]
    exact ⟨numbers.plain _, by decide, hscale⟩
  rw [BulkColumn.declaration] at h
  split at h <;> cases h
  all_goals first
    | decide
    | refine withArgument_plain (by decide) ?_
      first | exact hscale | exact hprecision | exact hcut _ | exact hmax _ | exact numbers.plain _

/-! ### What is read -/

/-- A statement under the rule of T-SQL: between brackets `]]` is a `]`. -/
def lexSql (sql : JsString) : List (Quoted.Token UInt16) := lex 0x5B 0x5D sql

/-- A column as a statement means it. -/
def BulkColumn.part (numbers : NumberFormat) (after : BulkColumn → JsString) (column : BulkColumn) :
    Except JsError (Quoted.Part UInt16) := do
  let declaration ← column.declaration numbers
  pure { part := column.name, text := JsString.ofString " " ++ (declaration ++ after column) }

namespace BulkLoad

variable (numbers : NumberFormat) (load : BulkLoad)

/-- Between what a statement begins and ends with, it is read as the columns in order: each as its
name in brackets, with its type behind it. -/
def ReadsColumns (front separator : JsString) (after : BulkColumn → JsString)
    (back sql : JsString) : Prop :=
  ∃ parts, load.columns.mapM (BulkColumn.part numbers after) = .ok parts ∧
    lexSql sql = lexSql front ++
      ((separator.map Quoted.Token.plain).intercalate (parts.map Quoted.Part.tokens) ++ lexSql back)

def InsertReadsColumns (sql : JsString) : Prop :=
  load.ReadsColumns numbers load.insertFront (JsString.ofString ", ") (fun _ => [])
    (JsString.ofString ")" ++ load.getOptionsSql) sql

def CreationReadsColumns (sql : JsString) : Prop :=
  load.ReadsColumns numbers load.creationFront (JsString.ofString ",\n") nullability
    (JsString.ofString "\n)") sql

/-- The text of the table closes its own brackets, and no name has a closing bracket in it. -/
structure Quotable : Prop where
  table : Closed 0x5B 0x5D load.table
  names : ∀ column ∈ load.columns, 0x5D ∉ column.name

variable {numbers load}

theorem columnSql_part {after : BulkColumn → JsString} {column : BulkColumn}
    (hafter : 0x5B ∉ after column) {sql : JsString} (h : columnSql numbers after column = .ok sql) :
    ∃ p, column.part numbers after = .ok p ∧ sql = p.render 0x5B 0x5D ∧ p.part = column.name ∧
      IsText 0x5B 0x5D p.text := by
  obtain ⟨declaration, hdeclaration, h⟩ := Except.bind_ok h
  cases h
  refine ⟨{ part := column.name, text := JsString.ofString " " ++ (declaration ++ after column) },
    ?_, rfl, rfl, ?_, List.cons_ne_nil _ _, fun h => absurd (Option.some.inj h) (by decide)⟩
  · rw [BulkColumn.part, hdeclaration]
    rfl
  · simp only [List.mem_append, not_or]
    exact ⟨by decide, BulkColumn.declaration_plain hdeclaration, hafter⟩

/-- The columns of a statement, as parts of its text. -/
theorem columnSqls_parts {after : BulkColumn → JsString} (hafter : ∀ column, 0x5B ∉ after column)
    {columns : List BulkColumn} {pieces : List JsString}
    (h : columns.mapM (columnSql numbers after) = .ok pieces) :
    ∃ parts, columns.mapM (BulkColumn.part numbers after) = .ok parts ∧
      pieces = parts.map (Quoted.Part.render 0x5B 0x5D) ∧
      parts.map Quoted.Part.part = columns.map BulkColumn.name ∧
      ∀ p ∈ parts, IsText 0x5B 0x5D p.text := by
  induction columns generalizing pieces with
  | nil =>
    cases h
    exact ⟨[], rfl, rfl, rfl, List.forall_mem_nil _⟩
  | cons column columns ih =>
    rw [List.mapM_cons] at h
    obtain ⟨first, hfirst, h⟩ := Except.bind_ok h
    obtain ⟨rest, hrest, h⟩ := Except.bind_ok h
    cases h
    obtain ⟨p, hp, rfl, hname, htext⟩ := columnSql_part (hafter column) hfirst
    obtain ⟨parts, hparts, rfl, hnames, htexts⟩ := ih hrest
    refine ⟨p :: parts, ?_, rfl, ?_, List.forall_mem_cons.2 ⟨htext, htexts⟩⟩
    · rw [List.mapM_cons, hp, hparts]
      rfl
    · rw [List.map_cons, List.map_cons, hname, hnames]

/-- A statement of any front and back: it is read as its columns exactly when they are quotable. -/
theorem readsColumns_iff {front separator back : JsString} {after : BulkColumn → JsString}
    (hafter : ∀ column, 0x5B ∉ after column) (hseparator : IsText 0x5B 0x5D separator)
    (hne : back ≠ []) (hback : back.head? ≠ some 0x5D) {columns : JsString}
    (h : load.columnsSql numbers separator after = .ok columns) :
    load.ReadsColumns numbers front separator after back (front ++ (columns ++ back)) ↔
      Closed 0x5B 0x5D front ∧ ∀ column ∈ load.columns, 0x5D ∉ column.name := by
  obtain ⟨pieces, hpieces, h⟩ := Except.bind_ok h
  cases h
  obtain ⟨parts, hparts, rfl, hnames, htexts⟩ := columnSqls_parts hafter hpieces
  have hsame : (∀ p ∈ parts, 0x5D ∉ p.part) ↔ ∀ column ∈ load.columns, 0x5D ∉ column.name := by
    have hmap := List.forall_mem_map (l := parts) (f := Quoted.Part.part)
      (P := fun name => 0x5D ∉ name)
    rw [← hmap, hnames, List.forall_mem_map]
  rw [← hsame, ← lex_between_iff (by decide) hseparator htexts hne hback, ReadsColumns]
  constructor
  · rintro ⟨parts', hparts', hlex⟩
    rw [hparts] at hparts'
    cases hparts'
    exact hlex
  · exact fun hlex => ⟨parts, hparts, hlex⟩

theorem insertReadsColumns_iff {sql : JsString} (h : load.getBulkInsertSql numbers = .ok sql) :
    load.InsertReadsColumns numbers sql ↔ load.Quotable := by
  obtain ⟨columns, hcolumns, h⟩ := Except.bind_ok h
  cases h
  have hfront : Closed 0x5B 0x5D load.insertFront ↔ Closed 0x5B 0x5D load.table :=
    closed_between_iff (by decide) ⟨by decide, by decide, by decide⟩ (by decide)
  have hback : (JsString.ofString ")" ++ load.getOptionsSql).head? ≠ some 0x5D :=
    fun h => absurd (Option.some.inj h) (by decide)
  rw [InsertReadsColumns, readsColumns_iff (fun _ => List.not_mem_nil)
    ⟨by decide, by decide, by decide⟩ (by exact List.cons_ne_nil _ _) hback hcolumns, hfront]
  exact ⟨fun h => ⟨h.1, h.2⟩, fun h => ⟨h.table, h.names⟩⟩

theorem creationReadsColumns_iff {sql : JsString}
    (h : load.getTableCreationSql numbers = .ok sql) :
    load.CreationReadsColumns numbers sql ↔ load.Quotable := by
  obtain ⟨columns, hcolumns, h⟩ := Except.bind_ok h
  cases h
  have hfront : Closed 0x5B 0x5D load.creationFront ↔ Closed 0x5B 0x5D load.table :=
    closed_between_iff (by decide) ⟨by decide, by decide, by decide⟩ (by decide)
  have hafter : ∀ column, 0x5B ∉ nullability column := by
    intro column
    rw [nullability]
    split
    · exact List.not_mem_nil
    · split <;> decide
  rw [CreationReadsColumns, readsColumns_iff hafter ⟨by decide, by decide, by decide⟩ (by decide)
    (by decide) hcolumns, hfront]
  exact ⟨fun h => ⟨h.1, h.2⟩, fun h => ⟨h.table, h.names⟩⟩

/-- **Column names in the statements.** Both statements are read as the columns of the bulk load
exactly when its names are quotable. -/
theorem columnsRead_iff (numbers : NumberFormat) (load : BulkLoad) :
    (∀ sql, load.getBulkInsertSql numbers = .ok sql →
      (load.InsertReadsColumns numbers sql ↔ load.Quotable)) ∧
    (∀ sql, load.getTableCreationSql numbers = .ok sql →
      (load.CreationReadsColumns numbers sql ↔ load.Quotable)) :=
  ⟨fun _ => insertReadsColumns_iff, fun _ => creationReadsColumns_iff⟩

theorem numerals_of_all {s : JsString} (h : (s.all fun c => c ∈ numeralSymbols) = true) :
    ∀ c ∈ s, c ∈ numeralSymbols :=
  fun c hc => of_decide_eq_true (List.all_eq_true.1 h c hc)

theorem digit_mem_numeralSymbols : ∀ n < 10, UInt16.ofNat (48 + n) ∈ numeralSymbols := by
  decide

/-- Whole numbers in decimal. -/
def wholeNumbers : NumberFormat where
  format
    | .finite q =>
      if q.den = 1 ∧ 0 ≤ q.num then
        (Nat.toDigits 10 q.num.toNat).map fun c => UInt16.ofNat c.toNat
      else JsString.ofString "NaN"
    | .infinity => JsString.ofString "Infinity"
    | .negInfinity => JsString.ofString "-Infinity"
    | .nan => JsString.ofString "NaN"
  numeral n c hc := by
    cases n with
    | finite q =>
      simp only at hc
      split at hc
      · obtain ⟨digit, hdigit, rfl⟩ := List.mem_map.1 hc
        have hisDigit := Nat.isDigit_of_mem_toDigits (by decide) (by decide) hdigit
        have hrange : 48 ≤ digit.toNat ∧ digit.toNat ≤ 57 := by
          simpa [Char.isDigit, UInt32.le_iff_toNat_le] using hisDigit
        obtain ⟨n, hn⟩ := Nat.exists_eq_add_of_le hrange.1
        rw [hn]
        exact digit_mem_numeralSymbols n (by omega)
      · exact numerals_of_all (by decide) c hc
    | infinity | negInfinity | nan => exact numerals_of_all (by decide) c hc

/-- A bulk load into `dbo.t` of a column of numbers and one of texts. -/
def twoColumns (first second : String) : BulkLoad where
  table := JsString.ofString "dbo.t"
  collation := none
  tdsVersion := JsString.ofString "7_4"
  useUTC := true
  columns := [
    { type := .Int
      name := JsString.ofString first
      length := none
      precision := none
      scale := none
      objName := JsString.ofString first
      nullable := some false
      collation := none },
    { type := .NVarChar
      name := JsString.ofString second
      length := some (.ofNat 50)
      precision := none
      scale := none
      objName := JsString.ofString second
      nullable := some true
      collation := none }]

/-- Commas, quotes and opening brackets in a name. -/
theorem columnsRead_iff_twoColumns :
    (twoColumns "a, [b" "'c'").InsertReadsColumns wholeNumbers (JsString.ofString
      "insert bulk dbo.t([a, [b] int, ['c'] nvarchar(50))") ∧
    (twoColumns "a, [b" "'c'").CreationReadsColumns wholeNumbers (JsString.ofString
      "CREATE TABLE dbo.t(\n[a, [b] int NOT NULL,\n['c'] nvarchar(50) NULL\n)") := by
  have hquotable : (twoColumns "a, [b" "'c'").Quotable := ⟨by unfold Closed; decide, by decide⟩
  obtain ⟨hinsert, hcreation⟩ := columnsRead_iff wholeNumbers (twoColumns "a, [b" "'c'")
  exact ⟨(hinsert _ (by decide)).2 hquotable, (hcreation _ (by decide)).2 hquotable⟩

/-- A name that ends its brackets, and the statement with them. -/
theorem not_columnsRead : ¬ ∀ (numbers : NumberFormat) (load : BulkLoad) (sql : JsString),
    load.getBulkInsertSql numbers = .ok sql → load.InsertReadsColumns numbers sql := by
  intro h
  have hread := h wholeNumbers (twoColumns "a" "b] int); drop table t --") (JsString.ofString
    "insert bulk dbo.t([a] int, [b] int); drop table t --] nvarchar(50))") (by decide)
  have hquotable := (insertReadsColumns_iff (by decide)).1 hread
  exact absurd hquotable.names (by decide)

end BulkLoad

end Tedious
