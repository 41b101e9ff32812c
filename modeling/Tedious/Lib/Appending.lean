import Mathlib.Init

/-!
# Tedious.Lib.Appending

**Stores that are only appended to.** A `View` of a store says in which states it is valid, and
which symbols it then holds; how it holds them is its own affair. `Appends` is the triple of this
library: an operation that may fail does not, leaves a valid state, and has put some symbols behind
those that were there.

The rules follow the way operations are put together: one after the other (`Appends.bind`), a choice
(`Appends.ite`), and a list of them (`Appends.foldlM`). `Throws` is for an operation that does fail,
and for what comes before it (`Appends.throws`).
-/

namespace Appending

/-- The valid states of a store, and what it holds. -/
structure View (σ α : Type) where
  valid : σ → Prop
  contents : σ → List α

variable {σ α ε β : Type}

/-- An operation appends some symbols. -/
def View.Appends (view : View σ α) (op : σ → Except ε σ) (symbols : List α) : Prop :=
  ∀ s, view.valid s →
    ∃ s', op s = .ok s' ∧ view.valid s' ∧ view.contents s' = view.contents s ++ symbols

/-- An operation fails in every valid state. -/
def View.Throws (view : View σ α) (op : σ → Except ε σ) (e : ε) : Prop :=
  ∀ s, view.valid s → op s = .error e

namespace View.Appends

variable {view : View σ α} {f g : σ → Except ε σ} {xs ys : List α}

theorem of_eq (h : view.Appends f xs) (heq : xs = ys) : view.Appends f ys := heq ▸ h

/-- An operation that never fails. -/
theorem of_total {f : σ → σ} (hvalid : ∀ s, view.valid s → view.valid (f s))
    (hcontents : ∀ s, view.valid s → view.contents (f s) = view.contents s ++ xs) :
    view.Appends (fun s => (.ok (f s) : Except ε σ)) xs :=
  fun s hs => ⟨f s, rfl, hvalid s hs, hcontents s hs⟩

theorem pure : view.Appends (fun s => (.ok s : Except ε σ)) [] :=
  of_total (fun _ hs => hs) fun _ _ => (List.append_nil _).symm

/-- **One after the other.** -/
theorem bind (hf : view.Appends f xs) (hg : view.Appends g ys) :
    view.Appends (fun s => f s >>= g) (xs ++ ys) := by
  intro s hs
  obtain ⟨s₁, hs₁, hvalid₁, hcontents₁⟩ := hf s hs
  obtain ⟨s₂, hs₂, hvalid₂, hcontents₂⟩ := hg s₁ hvalid₁
  refine ⟨s₂, ?_, hvalid₂, ?_⟩
  · show f s >>= g = .ok s₂
    rw [hs₁]
    exact hs₂
  · rw [hcontents₂, hcontents₁, List.append_assoc]

/-- The first of them never fails. -/
theorem comp {f : σ → σ} (hf : view.Appends (fun s => (.ok (f s) : Except ε σ)) xs)
    (hg : view.Appends g ys) : view.Appends (fun s => g (f s)) (xs ++ ys) :=
  hf.bind hg

theorem ite {p : Prop} [Decidable p] (hf : p → view.Appends f xs)
    (hg : ¬ p → view.Appends g ys) :
    view.Appends (fun s => if p then f s else g s) (if p then xs else ys) := by
  by_cases hp : p
  · simpa only [if_pos hp] using hf hp
  · simpa only [if_neg hp] using hg hp

/-- **A list of operations.** -/
theorem foldlM {run : β → σ → Except ε σ} {encoding : β → List α} {ops : List β}
    (h : ∀ op ∈ ops, view.Appends (run op) (encoding op)) :
    view.Appends (fun s => ops.foldlM (fun s op => run op s) s) (ops.flatMap encoding) := by
  induction ops with
  | nil => exact pure
  | cons op ops ih =>
    simp only [List.foldlM_cons, List.flatMap_cons]
    exact (h op List.mem_cons_self).bind (ih fun op' hop' => h op' (List.mem_cons_of_mem _ hop'))

/-- What comes before an operation that fails does not help. -/
theorem throws {e : ε} (hf : view.Appends f xs) (hg : view.Throws g e) :
    view.Throws (fun s => f s >>= g) e := by
  intro s hs
  obtain ⟨s₁, hs₁, hvalid₁, -⟩ := hf s hs
  show f s >>= g = .error e
  rw [hs₁]
  exact hg s₁ hvalid₁

/-- The first of them never fails. -/
theorem throws_comp {f : σ → σ} {e : ε}
    (hf : view.Appends (fun s => (.ok (f s) : Except ε σ)) xs) (hg : view.Throws g e) :
    view.Throws (fun s => g (f s)) e :=
  hf.throws hg

end View.Appends

/-- What comes behind an operation that fails is not reached. -/
theorem View.Throws.bind {view : View σ α} {f g : σ → Except ε σ} {e : ε} (hf : view.Throws f e) :
    view.Throws (fun s => f s >>= g) e := by
  intro s hs
  show f s >>= g = .error e
  rw [hf s hs]
  rfl

/-- An operation behind one that may fail in the same way. -/
theorem View.Throws.after {view : View σ α} {f g : σ → Except ε σ} {xs : List α} {e : ε}
    (hf : view.Appends f xs ∨ view.Throws f e) (hg : view.Throws g e) :
    view.Throws (fun s => f s >>= g) e :=
  hf.elim (fun hf => hf.throws hg) View.Throws.bind

end Appending
