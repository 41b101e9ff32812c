import Tedious.DataTypes.RoundTrip

/-!
# Tedious.Token.PlpStream

PLP streams on their own, as `readPLPStream` reads them from whatever buffer the parser has and
whatever chunks of the network are still to come.

The check of a known length compares numbers: `Number(expectedLength)` is rounded to 53 bits,
and so is the sum of the chunk lengths. That does no harm to a stream of less than `2 ^ 53` bytes,
and no other can be kept: `plpStream_reads`.
-/

namespace Tedious

open Chunked

/-! ### Streams -/

/-- A PLP stream that is not `NULL`: its total length, unless it is unknown, and its chunks. -/
structure PlpStream where
  total : Option Nat
  chunks : List Bytes
  total_lt : ∀ n ∈ total, n < unknownPlpLen
  chunk_length : ∀ chunk ∈ chunks, 0 < chunk.length ∧ chunk.length < 4294967296

namespace PlpStream

variable (stream : PlpStream)

def bytes : Bytes := leBytes 8 (stream.total.getD unknownPlpLen) ++ plpChunks stream.chunks

/-- A known total length is the sum of the chunk lengths. -/
def Honest : Prop := ∀ n ∈ stream.total, n = stream.chunks.flatten.length

end PlpStream

section Runs

variable (options : ParserOptions)

/-- However `bytes` are cut into chunks, `readPLPStream` gives `result` to what follows, and the
position is right behind `bytes`. -/
def PlpReturns (bytes : Bytes) (result : Option (List Bytes)) : Prop :=
  ∀ (run : Run JsError (List ColumnMetadata) Token)
    (k : Option (List Bytes) → ParserTask (Option Token)) (rest : Bytes)
    (s : List ColumnMetadata),
    Scanner.Reading run (readPLPStream.bind k) (bytes ++ rest) s →
    ∃ run', (parser options).Continues run run' rest s ∧
      ∃ awaited, run'.control = .reading (k result) awaited

/-- However `bytes` are cut into chunks, `readPLPStream` fails with a message. -/
def PlpFails (bytes : Bytes) : Prop :=
  ∀ (run : Run JsError (List ColumnMetadata) Token)
    (k : Option (List Bytes) → ParserTask (Option Token)) (rest : Bytes)
    (s : List ColumnMetadata),
    Scanner.Reading run (readPLPStream.bind k) (bytes ++ rest) s →
    ∃ message, (parser options).Ends run run.yielded (.threw (.error message))

variable {options}

theorem readPLPStream_allStable : readPLPStream.AllStable := readPLPStream_sound.allStable

theorem PlpReturns.of_takes {bytes : Bytes} {result : Option (List Bytes)}
    (h : ∀ s, Task.Takes readPLPStream s bytes result s) : PlpReturns options bytes result := by
  intro run k rest s hread
  have hfollows := (parser options).task_follows readPLPStream_allStable hread
  rw [h s rest] at hfollows
  exact hfollows

theorem PlpFails.of_scan {bytes : Bytes} (message : String)
    (h : ∀ s rest, readPLPStream.scan (bytes ++ rest) s = .threw (.error message)) :
    PlpFails options bytes := by
  intro run k rest s hread
  have hfollows := (parser options).task_follows readPLPStream_allStable hread
  rw [h s rest] at hfollows
  exact ⟨message, hfollows⟩

/-- A parser that is about to read `bytes`, all of which have arrived. -/
def readingPlp (bytes : Bytes) (k : Option (List Bytes) → ParserTask (Option Token)) :
    Run JsError (List ColumnMetadata) Token where
  decoder := { buffer := bytes, position := 0, register := [], chunks := [] }
  control := .reading (readPLPStream.bind k) false
  yielded := []

theorem readingPlp_reading (bytes : Bytes) (k : Option (List Bytes) → ParserTask (Option Token)) :
    Scanner.Reading (readingPlp bytes k) (readPLPStream.bind k) (bytes ++ []) [] where
  control := ⟨false, rfl⟩
  wellPlaced := ⟨le_rfl, Int.natCast_nonneg _⟩
  rest := rfl
  register := rfl

theorem ends_of_throw {run run' : Run JsError (List ColumnMetadata) Token} {rest : Bytes}
    {s : List ColumnMetadata} {awaited : Bool} {e : JsError}
    (hcont : (parser options).Continues run run' rest s)
    (hcontrol : run'.control = .reading (.throw e) awaited) :
    (parser options).Ends run run.yielded (.threw e) := by
  have hthrows : (parser options).Ends run' run'.yielded (.threw e) := by
    refine ⟨1, ?_, ?_⟩ <;> rw [Function.iterate_one, (parser options).step_throw hcontrol]
  rw [hcont.yielded] at hthrows
  exact Scanner.Ends.of_reaches _ hcont.reaches hthrows

/-- What follows a stream fails as it likes. -/
theorem PlpReturns.ends {bytes : Bytes} {result : Option (List Bytes)}
    (h : PlpReturns options bytes result) (k : Option (List Bytes) → ParserTask (Option Token))
    {e : JsError} (hk : k result = .throw e) :
    (parser options).Ends (readingPlp bytes k) [] (.threw e) := by
  obtain ⟨run', hcont, awaited, hcontrol⟩ := h _ k [] [] (readingPlp_reading ..)
  rw [hk] at hcontrol
  exact ends_of_throw hcont hcontrol

/-- One and the same stream cannot do both. -/
theorem PlpReturns.not_fails {bytes : Bytes} {result : Option (List Bytes)}
    (h : PlpReturns options bytes result) : ¬ PlpFails options bytes := by
  intro hfails
  obtain ⟨message, hends⟩ := hfails _ (fun _ => .throw .typeError) [] [] (readingPlp_reading ..)
  cases ((parser options).ends_unique hends (h.ends (fun _ => .throw .typeError) rfl)).2

/-- What follows a stream that must have ended: one more byte, which is not to come. -/
def oneByteMore : ParserTask (Option Token) :=
  (Task.await readUInt8).bind fun _ => .throw .typeError

theorem oneByteMore_ends {run run' : Run JsError (List ColumnMetadata) Token} {rest : Bytes}
    {s : List ColumnMetadata} {awaited : Bool} (hcont : (parser options).Continues run run' rest s)
    (hcontrol : run'.control = .reading oneByteMore awaited) :
    (parser options).Ends run run.yielded (if rest = [] then .waiting else .threw .typeError) := by
  have hread : Scanner.Reading run' oneByteMore rest s :=
    ⟨⟨awaited, hcontrol⟩, hcont.wellPlaced, hcont.rest, hcont.register⟩
  have hfollows := (parser options).task_follows (t := Task.await readUInt8)
    (.await (Reader.number_steady leNat 1).stable) hread
  cases rest with
  | nil =>
    rw [← hcont.yielded]
    exact Scanner.Ends.of_reaches _ hcont.reaches hfollows
  | cons b rest =>
    have hone : Task.Takes (Task.await readUInt8 : ParserTask Nat) s [b] (leNat [b]) s :=
      .await (Reader.number_reads leNat [b]).returns s
    rw [← List.singleton_append, hone rest] at hfollows
    obtain ⟨run'', hcont', awaited', hcontrol'⟩ := hfollows
    exact ends_of_throw (hcont.trans _ hcont') hcontrol'

theorem readPLPStream_allForward : readPLPStream.AllForward := by
  refine Task.AllForward.bind (.await (Reader.number_steady leNat 8).forward) fun total => ?_
  split
  · trivial
  · refine Task.AllForward.bind ⟨fun acc => ?_, fun _ => trivial⟩ fun acc => ?_
    · refine Task.AllForward.bind (.await (Reader.number_steady leNat 4).forward) fun length => ?_
      split
      · trivial
      · exact Task.AllForward.bind (.await (readSlice_steady length).forward) fun _ => trivial
    · rw [checkPLPLength]
      split <;> trivial

/-- What is returned is what the reference returns, with nothing left over. -/
theorem PlpReturns.scan {bytes : Bytes} {result : Option (List Bytes)}
    (h : PlpReturns options bytes result) :
    ∃ s', readPLPStream.scan bytes [] = .done result [] s' := by
  have hfollows (k) := (parser options).task_follows readPLPStream_allStable
    (readingPlp_reading bytes k)
  rw [List.append_nil] at hfollows
  cases hscan : readPLPStream.scan bytes [] with
  | done result' rest s' =>
    -- The one result is told from all others by what follows it, and so is the end.
    let k : Option (List Bytes) → ParserTask (Option Token) := fun result' =>
      if result' = result then oneByteMore else .throw .typeError
    have hk : k result = oneByteMore := if_pos rfl
    obtain ⟨run₁, hcont₁, awaited₁, hcontrol₁⟩ := h _ k [] [] (readingPlp_reading ..)
    rw [hk] at hcontrol₁
    have hwaits := oneByteMore_ends hcont₁ hcontrol₁
    rw [if_pos rfl] at hwaits
    have hreads := hfollows k
    rw [hscan] at hreads
    obtain ⟨run₂, hcont₂, awaited₂, hcontrol₂⟩ := hreads
    by_cases hresult : result' = result
    · subst hresult
      rw [hk] at hcontrol₂
      have hends := oneByteMore_ends hcont₂ hcontrol₂
      have hsame := ((parser options).ends_unique hwaits hends).2
      split at hsame
      · next hrest => exact ⟨s', by rw [hrest]⟩
      · cases hsame
    · rw [show k result' = .throw .typeError from if_neg hresult] at hcontrol₂
      cases ((parser options).ends_unique hwaits (ends_of_throw hcont₂ hcontrol₂)).2
  | threw e =>
    -- The failure is the same whatever follows, and what follows may throw something else.
    have hne : ∃ e' : JsError, e ≠ e' := by
      by_cases he : e = .typeError
      · exact ⟨.rangeError, by rw [he]; decide⟩
      · exact ⟨.typeError, he⟩
    obtain ⟨e', hne⟩ := hne
    have hfails := hfollows fun _ => .throw e'
    rw [hscan] at hfails
    have hthrows : (parser options).Ends _ [] (.threw e) := hfails
    have hsame := ((parser options).ends_unique hthrows (h.ends (fun _ => .throw e') rfl)).2
    exact absurd (Ending.threw.inj hsame) hne
  | starved =>
    have hstarves := hfollows fun _ => .throw .typeError
    rw [hscan] at hstarves
    have hwaits : (parser options).Ends _ [] .waiting := hstarves
    cases ((parser options).ends_unique hwaits (h.ends (fun _ => .throw .typeError) rfl)).2
  | rewound => exact absurd hscan (Task.scan_ne_rewound readPLPStream_allForward _ _)
  | stalled => exact absurd hscan (Task.scan_ne_stalled readPLPStream_sound.consuming _ _)

end Runs

/-! ### The length check -/

namespace PlpStream

variable (stream : PlpStream)

theorem total_lt_256 : stream.total.getD unknownPlpLen < 256 ^ 8 := by
  have h256 : 256 ^ 8 = 18446744073709551616 := rfl
  cases htotal : stream.total with
  | none => decide
  | some n =>
    have hlt := stream.total_lt n htotal
    rw [unknownPlpLen] at hlt
    rw [Option.getD_some]
    omega

/-- The stream is read up to the check of its length. -/
theorem scan_eq (rest : Bytes) (s : List ColumnMetadata) :
    readPLPStream.scan (stream.bytes ++ rest) s =
      (checkPLPLength (stream.total.getD unknownPlpLen)
        (stream.chunks, currentLength 0 stream.chunks)).scan rest s := by
  have htotal : Task.Takes (Task.await readBigUInt64LE : ParserTask Nat) s _ _ s :=
    .await (Reader.number_le stream.total_lt_256).returns s
  have hloop := readPLPChunks_takes stream.chunk_length [] 0 s
  have hnull : stream.total.getD unknownPlpLen ≠ plpNull := by
    cases hsome : stream.total with
    | none => decide
    | some n =>
      have hlt := stream.total_lt n hsome
      rw [unknownPlpLen] at hlt
      rw [Option.getD_some, plpNull]
      omega
  rw [bytes, List.append_assoc]
  refine (htotal.scan_bind _ _).trans ?_
  rw [if_neg hnull]
  refine (hloop.scan_bind _ _).trans ?_
  rw [List.nil_append]

/-- Nothing is wrong with the length, as the check sees it. -/
theorem returns {options : ParserOptions}
    (h : ∀ n ∈ stream.total, toNumber n = currentLength 0 stream.chunks) :
    PlpReturns options stream.bytes (some stream.chunks) := by
  refine .of_takes fun s rest => (stream.scan_eq rest s).trans ?_
  rw [checkPLPLength, if_neg]
  · rfl
  · rintro ⟨hknown, hne⟩
    cases htotal : stream.total with
    | none =>
      rw [htotal] at hknown
      exact hknown rfl
    | some n =>
      rw [htotal] at hne
      exact hne (h n htotal).symm

theorem fails {options : ParserOptions} {n : Nat} (htotal : stream.total = some n)
    (h : toNumber n ≠ currentLength 0 stream.chunks) : PlpFails options stream.bytes := by
  refine .of_scan ("Partially Length-prefixed Bytes unmatched lengths : expected " ++
    toString n ++ ", but got " ++ toString (currentLength 0 stream.chunks) ++ " bytes")
    fun s rest => (stream.scan_eq rest s).trans ?_
  have hlt := stream.total_lt n htotal
  rw [htotal, Option.getD_some, checkPLPLength, if_pos ⟨hlt.ne, h.symm⟩]
  rfl

/-- The stream is read as it should be: its chunks, or a failure exactly where they do not add up
to a known total length. -/
def ReadRight (options : ParserOptions) : Prop :=
  (stream.Honest → PlpReturns options stream.bytes (some stream.chunks)) ∧
    (PlpFails options stream.bytes ↔ ¬ stream.Honest)

/-- Rounding does no harm to a stream of less than `2 ^ 53` bytes. -/
theorem toNumber_eq_iff (h : stream.chunks.flatten.length < 2 ^ 53) (n : Nat) :
    toNumber n = currentLength 0 stream.chunks ↔ n = stream.chunks.flatten.length := by
  rw [currentLength_eq (by omega), Nat.zero_add]
  constructor
  · intro hsame
    by_cases hn : n ≤ 2 ^ 53
    · rwa [toNumber_of_le hn] at hsame
    · have hle := le_toNumber (n := n) (by omega)
      omega
  · rintro rfl
    exact toNumber_of_le (by omega)

theorem readRight {options : ParserOptions} (h : stream.chunks.flatten.length < 2 ^ 53) :
    stream.ReadRight options := by
  have hreturns : stream.Honest → PlpReturns options stream.bytes (some stream.chunks) :=
    fun hhonest => stream.returns fun n hn => (stream.toNumber_eq_iff h n).2 (hhonest n hn)
  refine ⟨hreturns, fun hfails hhonest => (hreturns hhonest).not_fails hfails, ?_⟩
  intro hdishonest
  obtain ⟨n, hn, hne⟩ : ∃ n ∈ stream.total, n ≠ stream.chunks.flatten.length := by
    by_contra hnone
    push Not at hnone
    exact hdishonest hnone
  exact stream.fails hn fun hsame => hne ((stream.toNumber_eq_iff h n).1 hsame)

end PlpStream

/-! ### The `NULL` marker -/

/-- Only the marker is read as `NULL`. -/
theorem readPLPStream_none {bytes rest : Bytes} {s s' : List ColumnMetadata}
    (h : readPLPStream.scan bytes s = .done none rest s') : bytes = MAX_NULL_LENGTH ++ rest := by
  by_cases hlength : 8 ≤ bytes.length
  · have htake : (bytes.take 8).length = 8 := List.length_take_of_le hlength
    have hreads : Reads readBigUInt64LE (bytes.take 8) (leNat (bytes.take 8)) := by
      have hnumber := Reader.number_reads leNat (bytes.take 8)
      rwa [htake] at hnumber
    have htakes : Task.Takes (Task.await readBigUInt64LE : ParserTask Nat) s _ _ s :=
      .await hreads.returns s
    have hscan := (htakes.scan_bind _ (bytes.drop 8)).symm.trans
      ((congrArg (readPLPStream.scan · s) (List.take_append_drop 8 bytes)).trans h)
    split at hscan
    · next hnull =>
      cases hscan
      have hmarker : bytes.take 8 = MAX_NULL_LENGTH := leNat_inj htake hnull
      rw [← hmarker, List.take_append_drop]
    · obtain ⟨acc, rest', s'', -, hcheck⟩ :=
        Scan.bind_eq_done ((Task.scan_bind _ _ _ _).symm.trans hscan)
      rw [checkPLPLength] at hcheck
      split at hcheck <;> cases hcheck
  · have hfixed : (OffsetReader.fixed .rangeError 8 : Reader Bytes).run bytes 0 =
        .error (.notEnoughData 8) := by
      rw [OffsetReader.run_fixed, if_pos (by push_cast; omega)]
      rfl
    have hrun : readBigUInt64LE.run bytes 0 = .error (.notEnoughData 8) :=
      OffsetReader.run_bind_of_error hfixed
    have hscan : readPLPStream.scan bytes s = .starved := by
      show Task.scan (Task.read _ _) bytes s = _
      rw [Task.scan, hrun]
    rw [hscan] at h
    cases h

/-- What is read as `NULL` is exactly the marker, with nothing behind it. -/
theorem plpReturns_none_iff {options : ParserOptions} {bytes : Bytes} :
    PlpReturns options bytes none ↔ bytes = MAX_NULL_LENGTH := by
  constructor
  · intro h
    obtain ⟨s', hscan⟩ := h.scan
    rw [readPLPStream_none hscan, List.append_nil]
  · rintro rfl
    exact .of_takes readPLPStream_null

/-! ### What the types write -/

/-- A value that `generateParameterData` of `NVarChar` and `VarBinary` knows how to write,
validated or not. -/
inductive StringOrBuffer
  | string (text : JsString)
  | buffer (bytes : Bytes)

/-- The bytes of the value; those of a string are its `ucs2` ones. -/
def StringOrBuffer.content : StringOrBuffer → Bytes
  | string text => ucs2Bytes text
  | buffer bytes => bytes

namespace NVarChar

def generateParameterLength (parameter : ParameterData StringOrBuffer) : Except JsError Bytes :=
  shortOrPlpLength 4000 parameter.length (parameter.value.map StringOrBuffer.content)

def generateParameterData (parameter : ParameterData StringOrBuffer) :
    Except JsError (List Bytes) :=
  shortOrPlpData 4000 parameter.length (parameter.value.map StringOrBuffer.content)

end NVarChar

namespace VarBinary

def generateParameterLength (parameter : ParameterData StringOrBuffer) : Except JsError Bytes :=
  shortOrPlpLength 8000 parameter.length (parameter.value.map StringOrBuffer.content)

def generateParameterData (parameter : ParameterData StringOrBuffer) :
    Except JsError (List Bytes) :=
  shortOrPlpData 8000 parameter.length (parameter.value.map StringOrBuffer.content)

end VarBinary

/-- Above its maximum length a type writes a stream that comes back as the bytes of the value,
and `NULL` as `NULL`. -/
def WritesPlp (options : ParserOptions) (maximumLength : Nat)
    (generateLength : ParameterData α → Except JsError Bytes)
    (generateData : ParameterData α → Except JsError (List Bytes)) (content : α → Bytes) : Prop :=
  ∀ parameter length data, isShort maximumLength parameter.length = false →
    generateLength parameter = .ok length → generateData parameter = .ok data →
    ∃ result : Option (List Bytes),
      result.map List.flatten = parameter.value.map content ∧
        PlpReturns options (length ++ data.flatten) result

theorem shortOrPlp_writesPlp {options : ParserOptions} {maximumLength : Nat}
    {declared : Option JsNumber} {content : Option Bytes} {length : Bytes} {data : List Bytes}
    (hshort : isShort maximumLength declared = false)
    (hlength : shortOrPlpLength maximumLength declared content = .ok length)
    (hdata : shortOrPlpData maximumLength declared content = .ok data) :
    ∃ result : Option (List Bytes), result.map List.flatten = content ∧
      PlpReturns options (length ++ data.flatten) result := by
  rw [shortOrPlpLength, hshort] at hlength
  cases hlength
  cases content with
  | none =>
    cases hdata
    exact ⟨none, rfl, .of_takes readPLPStream_null⟩
  | some bytes =>
    rw [shortOrPlpData, hshort] at hdata
    obtain ⟨chunks, hflat, htakes⟩ := readPLPStream_plpData hdata
    exact ⟨some chunks, congrArg some hflat, .of_takes htakes⟩

theorem VarChar.writesPlp (options : ParserOptions) :
    WritesPlp options 8000 TYPES.VarChar.generateParameterLength
      TYPES.VarChar.generateParameterData id := by
  intro parameter length data hshort hlength hdata
  rw [Option.map_id]
  exact shortOrPlp_writesPlp hshort hlength hdata

/-! ### Every stream -/

/-- **PLP streams.** A stream of less than `2 ^ 53` bytes is read as it should be, only the marker
is `NULL`, and what the types write is read back. -/
theorem plpStream_reads (options : ParserOptions) :
    (∀ stream : PlpStream, stream.chunks.flatten.length < 2 ^ 53 → stream.ReadRight options) ∧
      (∀ bytes, PlpReturns options bytes none ↔ bytes = MAX_NULL_LENGTH) ∧
      WritesPlp options 4000 NVarChar.generateParameterLength NVarChar.generateParameterData
        StringOrBuffer.content ∧
      WritesPlp options 8000 TYPES.VarChar.generateParameterLength
        TYPES.VarChar.generateParameterData id ∧
      WritesPlp options 8000 VarBinary.generateParameterLength VarBinary.generateParameterData
        StringOrBuffer.content :=
  ⟨fun stream => stream.readRight, fun _ => plpReturns_none_iff,
    fun _ _ _ hshort hlength hdata => shortOrPlp_writesPlp hshort hlength hdata,
    VarChar.writesPlp options,
    fun _ _ _ hshort hlength hdata => shortOrPlp_writesPlp hshort hlength hdata⟩

/-- A stream of three bytes, whatever it announces. -/
def streamOf (total : Fin 256) : PlpStream where
  total := some total
  chunks := [[1, 2], [3]]
  total_lt n hn := by
    cases hn
    exact total.isLt.trans (by decide)
  chunk_length := by decide

theorem plpStream_reads_three :
    PlpReturns (.default asciiPlatform) (streamOf 3).bytes (some [[1, 2], [3]]) ∧
      PlpFails (.default asciiPlatform) (streamOf 4).bytes := by
  have hreads := (plpStream_reads (.default asciiPlatform)).1
  refine ⟨(hreads (streamOf 3) (by decide)).1 ?_, (hreads (streamOf 4) (by decide)).2.2 ?_⟩
  · rintro n ⟨⟩
    rfl
  · intro hhonest
    exact absurd (hhonest 4 rfl) (by decide)

end Tedious
