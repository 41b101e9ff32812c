import Tedious.Token.StreamParser

/-!
# Tedious.Token.Chunking

What the way a response is cut into chunks means for the token parser.

The yardstick is the scan of the whole response at once (`Scanner.scanAll`). Two
things can go wrong in it besides an error: the response ends inside a token
(`Truncated`), or a value hands back an offset that lies before its own beginning
(`Rewinds`). The second happens for an `sql_variant` whose declared length is too
short for its property bytes, and for nothing else (`readValue_rewinds`).
-/

namespace Tedious

open Chunked

/-! ### Values that move back -/

/-- `rest` begins with a variant whose property count exceeds the declared length and
what stands before it together. -/
def ShortVariant (rest : Bytes) : Prop :=
  let dataLength := leNat (rest.take 4)
  let baseType := leNat ((rest.drop 4).take 1)
  let propBytes := leNat ((rest.drop 5).take 1)
  ∃ header, (DataType.ofId baseType).bind variantHeader = some header ∧
    dataLength + 4 + header < propBytes

theorem run_number_bind_ok {decode : Bytes → α} {n k : Nat} {f : α → Reader β} {buf : Bytes}
    {res : Result β} (h : (Reader.number decode n >>= f).run buf k = .ok res) :
    (f (decode ((buf.drop k).take n))).run buf ((k + n : Nat) : Int) = .ok res := by
  obtain ⟨v, mid, h₁, h₂⟩ := OffsetReader.run_bind_ok h
  obtain ⟨-, rfl, hle⟩ := Reader.number_ok h₁
  obtain ⟨bytes, mid', h₃, h₄⟩ := OffsetReader.run_bind_ok h₁
  rw [OffsetReader.run_fixed, if_neg (by omega), if_neg (by omega)] at h₃
  simp only [OffsetReader.run_pure, Except.ok.injEq, Result.mk.injEq] at h₃ h₄
  rw [← h₄.1, ← h₃.1, Int.toNat_natCast] at h₂
  exact_mod_cast h₂

/-- A chain that ends in reading `n` bytes ends `n` bytes further. -/
theorem run_window_map_ok {cut : Bytes → Int → Int → α} {n : Int} {g : α → β} {buf : Bytes}
    {offset : Int} {v : β} {off : Int}
    (h : (OffsetReader.window cut n >>= fun a => pure (g a) : Reader β).run buf offset =
      .ok ⟨v, off⟩) : off = offset + n := by
  obtain ⟨w, mid, h₁, h₂⟩ := OffsetReader.run_bind_ok h
  rw [OffsetReader.run_window] at h₁
  split at h₁
  · cases h₁
  · simp only [OffsetReader.run_pure, Except.ok.injEq, Result.mk.injEq] at h₁ h₂
    omega

/-- Where the data of a variant ends: never before its beginning, or what its length
says behind the header. -/
theorem readVariantData_offset {options : ParserOptions} {type : DataType} {dataLength : Int}
    {buf : Bytes} {k : Nat} {v : Value} {off : Int}
    (h : (readVariantData options type dataLength).run buf k = .ok ⟨v, off⟩) :
    k ≤ off ∨ ∃ header, variantHeader type = some header ∧ off = k + header + dataLength := by
  cases hheader : variantHeader type with
  | none => exact Or.inl ((readVariantData_steady options dataLength hheader).forward h)
  | some header =>
    refine Or.inr ⟨header, rfl, ?_⟩
    cases type with
    | VarBinary | Binary =>
      obtain rfl : 2 = header := by simpa [variantHeader] using hheader
      have := run_window_map_ok (run_number_bind_ok h)
      omega
    | NVarChar | NChar =>
      obtain rfl : 7 = header := by simpa [variantHeader] using hheader
      have h := run_number_bind_ok h
      have h := run_window_map_ok (run_number_bind_ok h)
      omega
    | VarChar | Char =>
      obtain rfl : 7 = header := by simpa [variantHeader] using hheader
      have h := run_number_bind_ok h
      have h := run_number_bind_ok h
      obtain ⟨w, mid, h₁, h₂⟩ := OffsetReader.run_bind_ok h
      have := run_window_map_ok h₁
      simp only [OffsetReader.run_pure, Except.ok.injEq, Result.mk.injEq] at h₂
      omega
    | _ => cases hheader

/-- Only a variant that is too short for its properties ends before its beginning. -/
theorem readValue_rewinds {options : ParserOptions} {metadata : Metadata} {rest : Bytes}
    {v : Value} {off : Int} (h : (readValue options metadata).run rest 0 = .ok ⟨v, off⟩)
    (hoff : off < 0) : metadata.type = .Variant ∧ ShortVariant rest := by
  by_cases htype : metadata.type = .Variant
  · refine ⟨htype, ?_⟩
    unfold readValue at h
    rw [htype] at h
    have h := run_number_bind_ok (k := 0) h
    rw [List.drop_zero] at h
    split at h
    · simp only [OffsetReader.run_pure, Except.ok.injEq, Result.mk.injEq] at h
      omega
    · have h := run_number_bind_ok h
      have h := run_number_bind_ok h
      simp only [Nat.zero_add] at h
      cases hid : DataType.ofId (leNat ((rest.drop 4).take 1)) with
      | none => rw [hid] at h; cases h
      | some type =>
        rw [hid] at h
        rcases readVariantData_offset h with hge | ⟨header, hheader, hend⟩
        · omega
        · refine ⟨header, by rw [hid]; exact hheader, ?_⟩
          push_cast at hend
          omega
  · exact absurd ((readValue_steady options htype).forward (k := 0) h) (by omega)

/-! ### Responses -/

/-- A value of the response hands back an offset before its own beginning. -/
def Rewinds (options : ParserOptions) (colMetadata : List ColumnMetadata) (bs : Bytes) : Prop :=
  ((parser options).scanAll bs colMetadata).2 = .rewound

/-- The response ends inside a token. -/
def Truncated (options : ParserOptions) (colMetadata : List ColumnMetadata) (bs : Bytes) : Prop :=
  ((parser options).scanAll bs colMetadata).2 = .starved

/-- Every `ENVCHANGE` of the response is of a type that is decoded. -/
def Decoded (options : ParserOptions) (colMetadata : List ColumnMetadata) (bs : Bytes) : Prop :=
  ∀ token ∈ ((parser options).scanAll bs colMetadata).1, token ≠ none

/-- All ways of cutting the response into chunks yield the same tokens and end the same
way. -/
def ChunkIndependent (options : ParserOptions) (colMetadata : List ColumnMetadata) (bs : Bytes) :
    Prop :=
  ∃ tokens ending, ∀ chunks : List Bytes, chunks.flatten = bs →
    (parser options).Ends (parseTokens chunks colMetadata) tokens ending

instance (options : ParserOptions) (colMetadata : List ColumnMetadata) (bs : Bytes) :
    Decidable (Rewinds options colMetadata bs) :=
  inferInstanceAs (Decidable (_ = _))

instance (options : ParserOptions) (colMetadata : List ColumnMetadata) (bs : Bytes) :
    Decidable (Truncated options colMetadata bs) :=
  inferInstanceAs (Decidable (_ = _))

instance (options : ParserOptions) (colMetadata : List ColumnMetadata) (bs : Bytes) :
    Decidable (Decoded options colMetadata bs) :=
  inferInstanceAs (Decidable (∀ token ∈ _, _))

/-- Unless a value rewinds, the scan of the response says what every run over it yields
and how it ends. -/
theorem parseTokens_ends {options : ParserOptions} {colMetadata : List ColumnMetadata} {bs : Bytes}
    (h : ¬ Rewinds options colMetadata bs) :
    ∃ ending, (ending = .waiting ↔ Truncated options colMetadata bs) ∧
      ∀ chunks : List Bytes, chunks.flatten = bs →
        ∃ out, Scanner.Thinned ((parser options).scanAll bs colMetadata).1 out ∧
          (parser options).Ends (parseTokens chunks colMetadata) out ending := by
  have hstall := (parser options).scanAll_ne_stalled
    (fun type => (readToken_sound options type).consuming) bs colMetadata
  have hruns : ∀ {ending}, ((parser options).scanAll bs colMetadata).2.ending = some ending →
      ∀ chunks : List Bytes, chunks.flatten = bs →
        ∃ out, Scanner.Thinned ((parser options).scanAll bs colMetadata).1 out ∧
          (parser options).Ends (parseTokens chunks colMetadata) out ending := by
    rintro ending hending chunks rfl
    exact (parser options).ends_of_scanAll (fun type => (readToken_sound options type).allStable)
      chunks colMetadata hending
  unfold Rewinds at h
  unfold Truncated
  cases hend : ((parser options).scanAll bs colMetadata).2 with
  | returned => exact ⟨.returned, by simp, hruns (by rw [hend]; rfl)⟩
  | threw e => exact ⟨.threw e, by simp, hruns (by rw [hend]; rfl)⟩
  | starved => exact ⟨.waiting, by simp, hruns (by rw [hend]; rfl)⟩
  | rewound => exact absurd hend h
  | stalled => exact absurd hend hstall

/-! ### Chunk independence -/

/-- **Chunking does not matter** for a response in which no value rewinds. -/
theorem parseTokens_chunkIndependent {options : ParserOptions}
    {colMetadata : List ColumnMetadata} {bs : Bytes} (hdecoded : Decoded options colMetadata bs)
    (hrewinds : ¬ Rewinds options colMetadata bs) : ChunkIndependent options colMetadata bs := by
  obtain ⟨ending, -, hruns⟩ := parseTokens_ends hrewinds
  refine ⟨((parser options).scanAll bs colMetadata).1, ending, fun chunks hchunks => ?_⟩
  obtain ⟨out, hthin, hends⟩ := hruns chunks hchunks
  rwa [hthin.eq_of_forall_ne_none hdecoded] at hends

/-- A `RETURNSTATUS` followed by a `DONE`. -/
theorem parseTokens_chunkIndependent_done :
    ChunkIndependent (.default asciiPlatform) []
      [0x79, 7, 0, 0, 0, 0xFD, 0x10, 0, 0xC1, 0, 3, 0, 0, 0, 0, 0, 0, 0] :=
  parseTokens_chunkIndependent (by decide) (by decide)

/-- A column of type `sql_variant`. -/
def variantColumn : ColumnMetadata :=
  { userType := 0, flags := 0, type := .Variant, dataLength := some 8009, colName := [],
    tableName := none }

/-- A `RETURNSTATUS` and a row with a variant of one byte that announces nine property
bytes: its value ends one byte before the row. -/
def shortVariantRow : Bytes := [0x79, 0, 0, 0, 0, 0xD1, 1, 0, 0, 0, 0xA5, 9, 0, 0]

/-- In one chunk, that row leads back into the `RETURNSTATUS`; with a cut before the row
there is nothing to go back to. -/
theorem parseTokens_not_chunkIndependent :
    ¬ ∀ (options : ParserOptions) (colMetadata : List ColumnMetadata) (bs : Bytes),
        Decoded options colMetadata bs → ChunkIndependent options colMetadata bs := by
  intro h
  obtain ⟨tokens, ending, hruns⟩ :=
    h (.default asciiPlatform) [variantColumn] shortVariantRow (by decide)
  have hwhole := hruns [shortVariantRow] rfl
  have hcut := hruns [shortVariantRow.take 5, shortVariantRow.drop 5] rfl
  have hwhole' : (parser (.default asciiPlatform)).Ends
      (parseTokens [shortVariantRow] [variantColumn]) _ (.threw (.error "Unknown type: 0")) :=
    ⟨10, rfl, rfl⟩
  have hcut' : (parser (.default asciiPlatform)).Ends
      (parseTokens [shortVariantRow.take 5, shortVariantRow.drop 5] [variantColumn]) _
      (.threw .rangeError) :=
    ⟨11, rfl, rfl⟩
  have h₁ := (Scanner.ends_unique _ hwhole hwhole').2
  have h₂ := (Scanner.ends_unique _ hcut hcut').2
  rw [h₁] at h₂
  cases h₂

/-! ### Termination -/

/-- **Termination.** Where no value rewinds, the parser comes to an end exactly on the responses
that do not end inside a token. -/
theorem parseTokens_terminates_iff_of_not_rewinds {options : ParserOptions}
    {colMetadata : List ColumnMetadata} {chunks : List Bytes}
    (hrewinds : ¬ Rewinds options colMetadata chunks.flatten) :
    (parser options).Terminates (parseTokens chunks colMetadata) ↔
      ¬ Truncated options colMetadata chunks.flatten := by
  obtain ⟨ending, hwaiting, hruns⟩ := parseTokens_ends hrewinds
  obtain ⟨out, -, hends⟩ := hruns chunks rfl
  rw [← hwaiting]
  constructor
  · rintro hterm rfl
    exact (parser options).not_terminates_of_waiting hends hterm
  · exact fun hne => (parser options).terminates_of_ends hends hne

/-- An empty `DONE`, delivered in two chunks. -/
theorem parseTokens_terminates_done :
    (parser (.default asciiPlatform)).Terminates
      (parseTokens [[0xFD, 0, 0, 0], [0, 0, 0, 0, 0, 0, 0, 0, 0]] []) :=
  (parseTokens_terminates_iff_of_not_rewinds (by decide)).2 (by decide)

/-- On a `RETURNSTATUS` without its value the parser waits for a chunk forever. -/
theorem parseTokens_not_terminates :
    ¬ ∀ (options : ParserOptions) (colMetadata : List ColumnMetadata) (chunks : List Bytes),
        (parser options).Terminates (parseTokens chunks colMetadata) := by
  intro h
  have hrewinds : ¬ Rewinds (.default asciiPlatform) [] [0x79] := by decide
  obtain ⟨ending, hwaiting, hruns⟩ := parseTokens_ends hrewinds
  obtain ⟨out, -, hends⟩ := hruns [[0x79]] rfl
  rw [hwaiting.2 (by decide)] at hends
  exact Scanner.not_terminates_of_waiting _ hends (h _ _ _)

end Tedious
