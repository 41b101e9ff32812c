import Tedious.Lib.CutOut
import Tedious.Token.Encoding

/-!
# Tedious.Token.SkippedChange

The `ENVCHANGE` tokens that the parser does not decode: those of an unknown type, and
`TXN_ENDED`. Their read answers `undefined`, which `parseTokens` drops where it comes at once
and yields where the read had to wait.
-/

namespace Tedious

open Chunked

/-- An `ENVCHANGE` of a type that is not decoded. -/
structure UndecodedChange where
  typeNumber : UInt8
  content : Bytes
  undecoded : EnvChangeType.ofNumber typeNumber.toNat = none ∨
    EnvChangeType.ofNumber typeNumber.toNat = some .TXN_ENDED
  fits : content.length + 1 < 65536

namespace UndecodedChange

/-- The length, the type and the content. -/
def body (change : UndecodedChange) : Bytes :=
  leBytes 2 (change.content.length + 1) ++ (leBytes 1 change.typeNumber.toNat ++ change.content)

def encode (change : UndecodedChange) : Bytes := 0xE3 :: change.body

variable {options : ParserOptions} {colMetadata : List ColumnMetadata} {change : UndecodedChange}
  {pre post : Bytes} {chunks : List Bytes}

theorem skipChange_returns (content : Bytes) :
    Returns (skipChange (content.length + 1)) content none := by
  have hlength : ((content.length + 1 : Nat) : Int) - 1 = (content.length : Nat) := by omega
  rw [skipChange, hlength]
  exact (Returns.skip content.length rfl).map fun _ => none

/-- Both branches that skip stop behind the content. -/
theorem envChangeParser_skips (change : UndecodedChange) :
    Reads envChangeParser change.body none := by
  have hlength : (leBytes 1 change.typeNumber.toNat ++ change.content).length =
      change.content.length + 1 := by
    rw [List.length_append, length_leBytes, Nat.add_comm]
  refine (readUInt16LE_reads change.fits).bind (Reads.ensure_bind hlength ?_)
  refine (readUInt8_reads change.typeNumber.toNat_lt).returns.bind ?_
  rcases change.undecoded with h | h
  · rw [h]
    exact skipChange_returns change.content
  · rw [h]
    exact skipChange_returns change.content

/-- The stream in `chunks`, in which the token stands behind `pre`, yields what it yields without
the token. -/
def SkippedInvisibly (options : ParserOptions) (colMetadata : List ColumnMetadata) (pre : Bytes)
    (change : UndecodedChange) (chunks : List Bytes) : Prop :=
  ∀ out ending, (parser options).Ends (parseTokens chunks colMetadata) out ending ↔
    (parser options).Ends
      (parseTokens (cutOut pre.length change.encode.length chunks) colMetadata) out ending

/-- **An environment change that is not decoded is skipped invisibly** exactly if it comes in one
chunk. -/
theorem skippedInvisibly_iff
    (hpre : ((parser options).scanAll pre colMetadata).2 = .returned)
    (hrewinds : ¬ Rewinds options colMetadata (pre ++ post))
    (hchunks : chunks.flatten = pre ++ (change.encode ++ post)) :
    SkippedInvisibly options colMetadata pre change chunks ↔
      ∃ before c₁ c₂ after, chunks = before ++ (c₁ ++ (change.encode ++ c₂)) :: after ∧
        before.flatten ++ c₁ = pre :=
  (parser options).ends_cutOut_iff (fun type => readToken_sound options type)
    (f := fun answer => answer.map .envChange) rfl (envChangeParser_skips change) rfl hpre hrewinds
    hchunks

/-- An unknown type between two `RETURNSTATUS`, in one chunk with the beginning of the second. -/
theorem skippedInvisibly_unknown :
    SkippedInvisibly (.default asciiPlatform) [] [0x79, 0, 0, 0, 0]
      { typeNumber := 0xFF, content := [7], undecoded := .inl rfl, fits := by decide }
      [[0x79, 0, 0], [0, 0, 0xE3, 2, 0, 0xFF, 7, 0x79], [1, 0, 0, 0]] :=
  (skippedInvisibly_iff (by decide) (by decide) rfl).2
    ⟨[[0x79, 0, 0]], [0, 0], [0x79], [[1, 0, 0, 0]], rfl, rfl⟩

/-- A `TXN_ENDED` that comes in two chunks yields `undefined`. -/
theorem not_skippedInvisibly :
    ¬ ∀ (options : ParserOptions) (colMetadata : List ColumnMetadata) (pre post : Bytes)
        (change : UndecodedChange) (chunks : List Bytes),
        ((parser options).scanAll pre colMetadata).2 = .returned →
        ¬ Rewinds options colMetadata (pre ++ post) →
        chunks.flatten = pre ++ (change.encode ++ post) →
        SkippedInvisibly options colMetadata pre change chunks := by
  intro h
  have hskipped := h (.default asciiPlatform) [] [] []
    { typeNumber := 17, content := [], undecoded := .inr rfl, fits := by decide }
    [[0xE3, 1, 0], [17]] rfl (by decide) rfl
  have hcut : (parser (.default asciiPlatform)).Ends (parseTokens [[0xE3, 1, 0], [17]] []) [none]
      .returned := ⟨8, rfl, rfl⟩
  have hwithout : (parser (.default asciiPlatform)).Ends (parseTokens [[], []] []) [] .returned :=
    ⟨8, rfl, rfl⟩
  have hends := (hskipped [none] .returned).1 hcut
  cases (Scanner.ends_unique _ hends hwithout).1

end UndecodedChange

end Tedious
