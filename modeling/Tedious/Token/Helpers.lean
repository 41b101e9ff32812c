import Tedious.Js
import Tedious.Lib.Repeat

/-!
# Tedious.Token.Helpers

The integer and text readers that every token parser is written with
(`token/helpers.ts`). All of them check the length of the buffer first and raise
`NotEnoughDataError` with the offset they would have needed, so all of them are
`Steady`.
-/

namespace Tedious

open Chunked

/-- A reader of `token/helpers.ts`. -/
abbrev Reader (α : Type) := OffsetReader JsError α

namespace Reader

/-- `n` bytes, decoded by `decode`; below offset 0 the `Buffer` method throws. -/
def number (decode : Bytes → α) (n : Nat) : Reader α := do
  let bytes ← OffsetReader.fixed .rangeError n
  pure (decode bytes)

/-- Fail with a message of the repository. -/
def error (message : String) : Reader α := OffsetReader.fail (.error message)

theorem number_steady (decode : Bytes → α) (n : Nat) : Steady (number decode n) :=
  .bind (.fixed _ n) fun _ => .pure _

/-- A number takes exactly its bytes, which are inside the buffer. -/
theorem number_ok {decode : Bytes → α} {n : Nat} {buf : Bytes} {offset : Int} {v : α} {off : Int}
    (h : (number decode n).run buf offset = .ok ⟨v, off⟩) :
    0 ≤ offset ∧ off = offset + n ∧ off ≤ buf.length := by
  obtain ⟨bytes, mid, h₁, h₂⟩ := OffsetReader.run_bind_ok h
  simp only [OffsetReader.run_pure, Except.ok.injEq, Result.mk.injEq] at h₂
  rw [OffsetReader.run_fixed] at h₁
  split at h₁
  · cases h₁
  · split at h₁
    · cases h₁
    · simp only [Except.ok.injEq, Result.mk.injEq] at h₁
      omega

/-- A loop whose rounds begin with a number makes progress. -/
theorem progress {β γ : Type} {decode : Bytes → α} {n : Nat} {f : β → α → Reader (β ⊕ γ)}
    (hn : 0 < n) (hf : ∀ b a, Steady (f b a)) : Progress fun b => number decode n >>= f b := by
  intro b buf offset b' off h
  obtain ⟨a, mid, h₁, h₂⟩ := OffsetReader.run_bind_ok h
  obtain ⟨h0, hmid, hle⟩ := number_ok h₁
  lift mid to ℕ using by omega
  have hfwd := (hf b a).forward h₂
  have hin := ((hf b a).stable.ok [] [] (by omega) (by omega) h₂).1
  exact ⟨by omega, hin⟩

theorem error_steady (message : String) : Steady (error message : Reader α) := .fail _

end Reader

/-! ### Integers -/

def readUInt8 : Reader Nat := .number leNat 1

def readUInt16LE : Reader Nat := .number leNat 2

def readInt16LE : Reader Int := .number leInt 2

def readUInt24LE : Reader Nat := .number leNat 3

def readUInt32LE : Reader Nat := .number leNat 4

def readUInt32BE : Reader Nat := .number beNat 4

def readUInt40LE : Reader Nat := .number leNat 5

def readInt32LE : Reader Int := .number leInt 4

def readBigUInt64LE : Reader Nat := .number leNat 8

def readBigInt64LE : Reader Int := .number leInt 8

/-- The bits of the IEEE single. -/
def readFloatLE : Reader Nat := .number leNat 4

/-- The bits of the IEEE double. -/
def readDoubleLE : Reader Nat := .number leNat 8

def readUNumeric64LE : Reader Nat := .number leNat 8

def readUNumeric96LE : Reader Nat := .number leNat 12

def readUNumeric128LE : Reader Nat := .number leNat 16

theorem readUInt8_steady : Steady readUInt8 := Reader.number_steady ..

theorem readUInt16LE_steady : Steady readUInt16LE := Reader.number_steady ..

theorem readUInt32LE_steady : Steady readUInt32LE := Reader.number_steady ..

theorem readInt32LE_steady : Steady readInt32LE := Reader.number_steady ..

/-! ### Length-prefixed text and bytes -/

/-- `byteLength` bytes as a UTF-16 string. -/
def readUcs2 (byteLength : Nat) : Reader JsString := .window toUcs2 byteLength

/-- `byteLength` bytes as a buffer. -/
def readSlice (byteLength : Nat) : Reader Bytes := .window Bytes.slice byteLength

def readBVarChar : Reader JsString := do
  let charCount ← readUInt8
  readUcs2 (charCount * 2)

def readBVarByte : Reader Bytes := do
  let byteLength ← readUInt8
  readSlice byteLength

def readUsVarChar : Reader JsString := do
  let charCount ← readUInt16LE
  readUcs2 (charCount * 2)

def readUsVarByte : Reader Bytes := do
  let byteLength ← readUInt16LE
  readSlice byteLength

theorem readUcs2_steady (byteLength : Nat) : Steady (readUcs2 byteLength) :=
  .window toUcs2_windowed byteLength

theorem readSlice_steady (byteLength : Nat) : Steady (readSlice byteLength) :=
  .window slice_windowed byteLength

theorem readBVarChar_steady : Steady readBVarChar :=
  .bind readUInt8_steady fun _ => readUcs2_steady _

theorem readBVarByte_steady : Steady readBVarByte :=
  .bind readUInt8_steady fun _ => readSlice_steady _

theorem readUsVarChar_steady : Steady readUsVarChar :=
  .bind readUInt16LE_steady fun _ => readUcs2_steady _

theorem readUsVarByte_steady : Steady readUsVarByte :=
  .bind readUInt16LE_steady fun _ => readSlice_steady _

end Tedious
