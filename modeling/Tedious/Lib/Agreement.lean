import Tedious.Lib.Exact

/-!
# Tedious.Lib.Agreement

**A writer against a grammar.** The writer may throw; the grammar may have no encoding.
`Agrees w spec fits` says that where the writer gives its chunks, it follows the grammar
exactly when `fits`, and that it never writes more than the grammar asks for. The bound on
the length is what makes the relation compose: two parts that together follow the grammar
do so each on its own (`Agrees.append`).
-/

namespace Chunked

variable {ε : Type} {w w₁ w₂ : Except ε (List Bytes)} {spec spec₁ spec₂ : Option Bytes}
  {fits fits₁ fits₂ : Prop}

def Agrees (w : Except ε (List Bytes)) (spec : Option Bytes) (fits : Prop) : Prop :=
  ∀ chunks, w = .ok chunks → (fits → spec = some chunks.flatten) ∧
    ∀ expected, spec = some expected →
      chunks.flatten.length ≤ expected.length ∧ (expected = chunks.flatten → fits)

/-- Some writer and grammar, one after the other. -/
def andThen (w₁ w₂ : Except ε (List Bytes)) : Except ε (List Bytes) := do
  let first ← w₁
  let second ← w₂
  pure (first ++ second)

def specThen (spec₁ spec₂ : Option Bytes) : Option Bytes := do
  let first ← spec₁
  let second ← spec₂
  pure (first ++ second)

theorem Agrees.iff (h : Agrees w spec fits) {chunks : List Bytes} (hw : w = .ok chunks) :
    spec = some chunks.flatten ↔ fits := by
  obtain ⟨hfits, hspec⟩ := h chunks hw
  exact ⟨fun heq => (hspec _ heq).2 rfl, hfits⟩

theorem Agrees.error (e : ε) : Agrees (.error e) spec fits := fun _ h => nomatch h

/-- What the grammar asks for, whatever the input. -/
theorem Agrees.ok {chunks : List Bytes} (h : spec = some chunks.flatten) :
    Agrees (.ok chunks : Except ε (List Bytes)) spec True := by
  intro chunks' hw
  cases hw
  refine ⟨fun _ => h, fun expected heq => ?_⟩
  cases h.symm.trans heq
  exact ⟨le_rfl, fun _ => trivial⟩

/-- The writer leaves out what the grammar asks for. -/
theorem Agrees.missing (h : ∀ expected, spec = some expected → 0 < expected.length) :
    Agrees (.ok [] : Except ε (List Bytes)) spec False := by
  intro chunks hw
  cases hw
  refine ⟨False.elim, fun expected heq => ⟨Nat.zero_le _, fun hnil => ?_⟩⟩
  have hpos := h expected heq
  rw [hnil] at hpos
  exact absurd hpos (Nat.lt_irrefl 0)

theorem Agrees.congr (h : Agrees w spec fits₁) (hfits : fits₁ ↔ fits₂) : Agrees w spec fits₂ := by
  intro chunks hw
  obtain ⟨hf, hspec⟩ := h chunks hw
  exact ⟨fun h₂ => hf (hfits.2 h₂), fun expected heq =>
    ⟨(hspec expected heq).1, fun hsame => hfits.1 ((hspec expected heq).2 hsame)⟩⟩

theorem Agrees.append (h₁ : Agrees w₁ spec₁ fits₁) (h₂ : Agrees w₂ spec₂ fits₂) :
    Agrees (andThen w₁ w₂) (specThen spec₁ spec₂) (fits₁ ∧ fits₂) := by
  intro chunks hw
  cases hw₁ : w₁ with
  | error e =>
    rw [hw₁] at hw
    cases hw
  | ok first =>
    cases hw₂ : w₂ with
    | error e =>
      rw [hw₁, hw₂] at hw
      cases hw
    | ok second =>
      rw [hw₁, hw₂] at hw
      cases hw
      obtain ⟨hfits₁, hspec₁⟩ := h₁ first hw₁
      obtain ⟨hfits₂, hspec₂⟩ := h₂ second hw₂
      rw [List.flatten_append]
      constructor
      · intro hfits
        rw [hfits₁ hfits.1, hfits₂ hfits.2]
        rfl
      · intro expected heq
        obtain ⟨first', hfirst, heq⟩ := Option.bind_eq_some_iff.1 heq
        obtain ⟨second', hsecond, heq⟩ := Option.bind_eq_some_iff.1 heq
        cases heq
        obtain ⟨hle₁, hsame₁⟩ := hspec₁ first' hfirst
        obtain ⟨hle₂, hsame₂⟩ := hspec₂ second' hsecond
        refine ⟨by rw [List.length_append, List.length_append]; omega, fun hsame => ?_⟩
        -- Neither part is longer than its own share, so both are all of it.
        have hlength := congrArg List.length hsame
        rw [List.length_append, List.length_append] at hlength
        obtain ⟨hfirst', hsecond'⟩ := List.append_inj hsame (by omega)
        exact ⟨hsame₁ hfirst', hsame₂ hsecond'⟩

end Chunked
