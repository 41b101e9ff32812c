import Tedious.DataTypes.Variable
import Tedious.Lib.Takes
import Tedious.Token.StreamParser

/-!
# Tedious.DataTypes.RoundTrip

What the client itself reads where a type of variable length has written. `build` is the
type description of a parameter and the bytes of its value; `RoundTrips` says that under the
described type the value parser takes exactly these bytes and finds the value.

The one value that does not come back is the one whose 65535 bytes stand behind two length
bytes: its length is the marker of `NULL` (`roundTrips_iff`).
-/

namespace Tedious

open Chunked

/-! ### Type descriptions -/

/-- What `readMetadata` reads behind the user type and the flags. -/
def readDescription (userType flags : Nat) : Reader Metadata := do
  let typeNumber ← readUInt8
  match DataType.ofId typeNumber with
  | none => .error s!"Unrecognised data type 0x{hexByte typeNumber}"
  | some type => readTypeInfo userType flags type

theorem readMetadata_eq (options : ParserOptions) :
    readMetadata options = (do
      let userType ← options.select readUInt16LE readUInt32LE
      let flags ← readUInt16LE
      readDescription userType flags) := rfl

/-- So a description is read behind the two. -/
theorem readMetadata_reads {options : ParserOptions} {userType flags : Nat} {description : Bytes}
    {metadata : Metadata} (huser : userType < 256 ^ options.width) (hflags : flags < 65536)
    (h : Reads (readDescription userType flags) description metadata) :
    Reads (readMetadata options)
      (leBytes options.width userType ++ (leBytes 2 flags ++ description)) metadata := by
  rw [readMetadata_eq]
  exact (ParserOptions.select_reads huser).bind ((readUInt16LE_reads hflags).bind h)

theorem readDescription_reads (typeNumber : Nat) {userType flags : Nat} {type : DataType}
    {typeInfo : Bytes} {metadata : Metadata} (hnumber : typeNumber < 256)
    (htype : DataType.ofId typeNumber = some type)
    (hinfo : Reads (readTypeInfo userType flags type) typeInfo metadata) :
    Reads (readDescription userType flags) (leBytes 1 typeNumber ++ typeInfo) metadata := by
  refine (readUInt8_reads hnumber).bind ?_
  rw [htype]
  exact hinfo

theorem readCollation_reads {bytes : Bytes} (h : bytes.length = 5) :
    Reads readCollation bytes (Collation.fromBuffer bytes) := by
  have hreads := Reader.number_reads Collation.fromBuffer bytes
  rwa [h] at hreads

/-- A type with a length and a collation. -/
theorem readTypeInfo_reads_text {type : DataType} (userType flags : Nat)
    (htype : type ∈ [DataType.VarChar, .Char, .NVarChar, .NChar]) {length : Nat}
    (hlength : length < 65536) (collation : Option Collation) :
    Reads (readTypeInfo userType flags type) (leBytes 2 length ++ collationField collation)
      { userType, flags, type, collation := some (Collation.fromBuffer (collationField collation)),
        dataLength := some length } := by
  have hcollation := readCollation_reads (length_collationField collation)
  have hreads : Reads (readUInt16LE >>= fun dataLength => readCollation >>= fun collation =>
      pure ({ userType, flags, type, collation := some collation, dataLength := some dataLength } :
        Metadata)) (leBytes 2 length ++ collationField collation) _ :=
    (readUInt16LE_reads hlength).bind (hcollation.map fun collation =>
      ({ userType, flags, type, collation := some collation, dataLength := some length } :
        Metadata))
  simp only [List.mem_cons, List.not_mem_nil, or_false] at htype
  rcases htype with rfl | rfl | rfl | rfl <;> exact hreads

/-- A type with a length. -/
theorem readTypeInfo_reads_binary {type : DataType} (userType flags : Nat)
    (htype : type ∈ [DataType.VarBinary, .Binary]) {length : Nat} (hlength : length < 65536) :
    Reads (readTypeInfo userType flags type) (leBytes 2 length)
      { userType, flags, type, dataLength := some length } := by
  have hreads := (readUInt16LE_reads hlength).map fun length =>
    ({ userType, flags, type, dataLength := some length } : Metadata)
  simp only [List.mem_cons, List.not_mem_nil, or_false] at htype
  rcases htype with rfl | rfl <;> exact hreads

/-! ### Values behind two length bytes -/

theorem readShortNullable_null (reader : Nat → Reader Value) :
    Reads (readShortNullable reader) NULL_LENGTH .null :=
  (readUInt16LE_reads (n := 0xFFFF) (by decide)).bind_nil (.pure Value.null)

theorem readShortNullable_reads {reader : Nat → Reader Value} {bytes : Bytes} {v : Value}
    (hlength : bytes.length < 0xFFFF) (hreads : Reads (reader bytes.length) bytes v) :
    Reads (readShortNullable reader) (leBytes 2 bytes.length ++ bytes) v := by
  refine (readUInt16LE_reads (by omega)).bind ?_
  rw [if_neg (by omega)]
  exact hreads

theorem readColumnBinary_reads (bytes : Bytes) :
    Reads (readColumnBinary bytes.length) bytes (.buffer bytes) :=
  (readSlice_reads bytes).map Value.buffer

theorem readColumnNChars_reads (text : JsString) :
    Reads (readColumnNChars (ucs2Bytes text).length) (ucs2Bytes text) (.string text) := by
  have hreads := (readUcs2_reads text).map Value.string
  rw [Nat.mul_comm, ← length_ucs2Bytes] at hreads
  exact hreads

theorem readColumnChars_reads (options : ParserOptions) (collation : Collation) (bytes : Bytes) :
    Reads (readColumnChars options (some collation) bytes.length) bytes
      (.string (decodeChars options.platform collation.codepage bytes)) :=
  ((readSlice_reads bytes).map (decodeChars options.platform collation.codepage)).map Value.string

/-! ### PLP streams -/

theorem readPLPChunk_consumes {acc acc' : PlpChunks} {rest rest' : Bytes}
    {s s' : List ColumnMetadata}
    (h : (readPLPChunk acc).scan rest s = .done (.inl acc') rest' s') :
    rest'.length < rest.length := by
  refine Task.scan_await_bind_lt (fun h => ?_) h
  obtain ⟨-, hoff, hle⟩ := Reader.number_ok h
  omega

theorem readPLPStream_null (s : List ColumnMetadata) :
    Task.Takes readPLPStream s MAX_NULL_LENGTH none s := by
  have hlength := Task.Takes.await (Reader.number_le (k := 8) (n := plpNull) (by decide)).returns s
  refine hlength.bind_nil ?_
  rw [if_pos rfl]
  exact .pure none s

/-- Chunks behind an unknown length, up to the terminator. -/
theorem readPLPStream_unknown {chunks : Bytes} {acc : PlpChunks} {s : List ColumnMetadata}
    (h : Task.Takes (Task.whileTrue ([], 0) readPLPChunk) s chunks acc s) :
    Task.Takes readPLPStream s (UNKNOWN_PLP_LEN ++ chunks) (some acc.1) s := by
  have hlength := Task.Takes.await (Reader.number_le (k := 8) (n := unknownPlpLen) (by decide)).returns s
  refine hlength.bind ?_
  rw [if_neg (by decide)]
  exact h.bind_nil (.pure _ s)

theorem readPLPChunk_terminator (acc : PlpChunks) (s : List ColumnMetadata) :
    Task.Takes (Task.whileTrue acc readPLPChunk) s PLP_TERMINATOR acc s := by
  refine .loop_exit (fun _ _ _ _ _ _ => readPLPChunk_consumes) ?_
  have hlength := Task.Takes.await (readUInt32LE_reads (n := 0) (by decide)).returns s
  exact hlength.bind_nil (.pure (Sum.inr acc) s)

/-- The bytes of some chunks: each behind its length, and the terminator. -/
def plpChunks (chunks : List Bytes) : Bytes :=
  chunks.flatMap (fun chunk => leBytes 4 chunk.length ++ chunk) ++ PLP_TERMINATOR

theorem readPLPChunk_reads {chunk : Bytes} (h : 0 < chunk.length ∧ chunk.length < 4294967296)
    (chunks : List Bytes) (n : Nat) (s : List ColumnMetadata) :
    Task.Takes (readPLPChunk (chunks, n)) s (leBytes 4 chunk.length ++ chunk)
      (.inl (chunks ++ [chunk], toNumber (n + chunk.length))) s := by
  refine (Task.Takes.await (readUInt32LE_reads h.2).returns s).bind ?_
  rw [if_neg (by omega)]
  exact (Task.Takes.await (readSlice_reads chunk).returns s).map fun chunk' =>
    (.inl (chunks ++ [chunk'], toNumber (n + chunk.length)) : PlpChunks ⊕ PlpChunks)

/-- `currentLength` behind some chunks. -/
def currentLength (n : Nat) (chunks : List Bytes) : Nat :=
  chunks.foldl (fun n chunk => toNumber (n + chunk.length)) n

/-- Up to `2 ^ 53` bytes, the length is the number of bytes. -/
theorem currentLength_eq {n : Nat} {chunks : List Bytes} (h : n + chunks.flatten.length ≤ 2 ^ 53) :
    currentLength n chunks = n + chunks.flatten.length := by
  induction chunks generalizing n with
  | nil => rfl
  | cons chunk chunks ih =>
    rw [List.flatten_cons, List.length_append, ← Nat.add_assoc] at h ⊢
    have hround : toNumber (n + chunk.length) = n + chunk.length := toNumber_of_le (by omega)
    rw [currentLength, List.foldl_cons, hround, ← currentLength]
    exact ih h

/-- The loop over the chunks, chunk by chunk. -/
theorem readPLPChunks_takes {chunks : List Bytes}
    (h : ∀ chunk ∈ chunks, 0 < chunk.length ∧ chunk.length < 4294967296) (before : List Bytes)
    (n : Nat) (s : List ColumnMetadata) :
    Task.Takes (Task.whileTrue (before, n) readPLPChunk) s (plpChunks chunks)
      (before ++ chunks, currentLength n chunks) s := by
  induction chunks generalizing before n with
  | nil =>
    rw [List.append_nil]
    exact readPLPChunk_terminator (before, n) s
  | cons chunk chunks ih =>
    have hnext := Task.Takes.loop_next readPLPChunk (fun _ _ _ _ _ _ => readPLPChunk_consumes)
      (readPLPChunk_reads (h chunk (List.mem_cons_self ..)) before n s)
      (ih (fun chunk' hchunk => h chunk' (List.mem_cons_of_mem _ hchunk)) (before ++ [chunk])
        (toNumber (n + chunk.length)))
    rw [List.append_assoc before, List.singleton_append] at hnext
    rw [plpChunks, List.flatMap_cons, List.append_assoc]
    exact hnext

/-- The stream that `plpData` writes. -/
theorem readPLPStream_plpData {bytes : Bytes} {data : List Bytes} (h : plpData bytes = .ok data) :
    ∃ chunks, chunks.flatten = bytes ∧
      ∀ s, Task.Takes readPLPStream s (UNKNOWN_PLP_LEN ++ data.flatten) (some chunks) s := by
  rw [plpData] at h
  split at h
  · next h0 =>
    rw [writeUIntLE_ofNat_eq] at h
    split at h
    · next hlength =>
      cases h
      have hchunk : ∀ chunk ∈ [bytes], 0 < chunk.length ∧ chunk.length < 4294967296 := by
        intro chunk hchunk
        rw [List.mem_singleton] at hchunk
        subst hchunk
        exact ⟨h0, hlength⟩
      refine ⟨[bytes], by simp, fun s => ?_⟩
      have hstream := readPLPStream_unknown (readPLPChunks_takes hchunk [] 0 s)
      simpa [plpChunks] using hstream
    · cases h
  · next h0 =>
    cases h
    refine ⟨[], ?_, fun s => ?_⟩
    · rw [List.flatten_nil]
      exact (List.length_eq_zero_iff.1 (by omega)).symm
    · have hstream := readPLPStream_unknown (readPLPChunk_terminator ([], 0) s)
      simpa using hstream

/-! ### Values under their metadata -/

variable {options : ParserOptions} {metadata : Metadata} {s : List ColumnMetadata}

theorem awaitValue_short {bytes : Bytes} {v : Value} (hplp : isPLPStream metadata = false)
    (hreads : Reads (readValue options metadata) bytes v) :
    Task.Takes (awaitValue options metadata) s bytes v s := by
  rw [awaitValue, if_neg (by rw [hplp]; decide)]
  exact .await hreads.returns s

theorem awaitValue_plp {bytes : Bytes} {chunks : Option (List Bytes)}
    (hplp : isPLPStream metadata = true) (hstream : Task.Takes readPLPStream s bytes chunks s) :
    Task.Takes (awaitValue options metadata) s bytes (plpValue options metadata chunks) s := by
  rw [awaitValue, if_pos hplp]
  exact hstream.map (plpValue options metadata)

/-- A value behind two length bytes, unless its length is the one of `NULL`. -/
theorem awaitValue_shortLength {reader : Nat → Reader Value} {value : Option Bytes}
    {length : Bytes} {decoded : Bytes → Value} (hplp : isPLPStream metadata = false)
    (hread : readValue options metadata = readShortNullable reader)
    (hlength : shortLength value = .ok length)
    (hreader : ∀ bytes ∈ value, Reads (reader bytes.length) bytes (decoded bytes))
    (hnull : ∀ bytes ∈ value, bytes.length ≠ 0xFFFF) :
    Task.Takes (awaitValue options metadata) s (length ++ value.getD [])
      ((value.map decoded).getD .null) s := by
  refine awaitValue_short hplp ?_
  rw [hread]
  cases value with
  | none =>
    cases hlength
    exact readShortNullable_null reader
  | some bytes =>
    rw [shortLength, writeUIntLE_ofNat_eq] at hlength
    split at hlength
    · next hlt =>
      cases hlength
      have hne := hnull bytes rfl
      have h65536 : 256 ^ 2 = 65536 := rfl
      exact readShortNullable_reads (by omega) (hreader bytes rfl)
    · cases hlength

/-- A value behind two length bytes or in a PLP stream. -/
theorem awaitValue_shortOrPlp {maximumLength : Nat} {declared : Option JsNumber}
    {reader : Nat → Reader Value} {value : Option Bytes} {length : Bytes} {data : List Bytes}
    {decoded : Bytes → Value} (hplp : isPLPStream metadata = !isShort maximumLength declared)
    (hread : readValue options metadata = readShortNullable reader)
    (hlength : shortOrPlpLength maximumLength declared value = .ok length)
    (hdata : shortOrPlpData maximumLength declared value = .ok data)
    (hreader : ∀ bytes ∈ value, Reads (reader bytes.length) bytes (decoded bytes))
    (hchunks : ∀ chunks, plpValue options metadata (some chunks) = decoded chunks.flatten)
    (hnull : isShort maximumLength declared = true → ∀ bytes ∈ value, bytes.length ≠ 0xFFFF) :
    Task.Takes (awaitValue options metadata) s (length ++ data.flatten)
      ((value.map decoded).getD .null) s := by
  rw [shortOrPlpLength] at hlength
  by_cases hshort : isShort maximumLength declared = true
  · rw [if_pos hshort] at hlength
    rw [hshort] at hplp
    have hflat : data.flatten = value.getD [] := by
      cases value with
      | none =>
        cases hdata
        rfl
      | some bytes =>
        rw [shortOrPlpData, if_pos hshort] at hdata
        cases hdata
        simp
    rw [hflat]
    exact awaitValue_shortLength hplp hread hlength hreader (hnull hshort)
  · rw [if_neg hshort] at hlength
    rw [Bool.not_eq_true] at hshort
    rw [hshort] at hplp
    cases value with
    | none =>
      cases hlength
      cases hdata
      exact awaitValue_plp hplp (readPLPStream_null s)
    | some bytes =>
      cases hlength
      rw [shortOrPlpData, hshort] at hdata
      obtain ⟨chunks, hflat, hstream⟩ := readPLPStream_plpData hdata
      have hvalue : Task.Takes (awaitValue options metadata) s _ _ s :=
        awaitValue_plp hplp (hstream s)
      rwa [hchunks chunks, hflat] at hvalue

/-- A length of `0xFFFF` makes `NULL` of any value. -/
theorem awaitValue_collision {reader : Nat → Reader Value} {bytes : Bytes} {v : Value}
    (hplp : isPLPStream metadata = false)
    (hread : readValue options metadata = readShortNullable reader) (hne : bytes ≠ [])
    (h : Task.Takes (awaitValue options metadata) s (NULL_LENGTH ++ bytes) v s) : False := by
  have hnull := readShortNullable_null reader
  rw [← hread] at hnull
  have htaken := awaitValue_short (s := s) hplp hnull bytes
  have hfull := h []
  rw [List.append_nil, htaken] at hfull
  cases hfull
  exact hne rfl

end Tedious
