import Mathlib.Data.List.Infix

/-!
# Tedious.Lib.Generator

**Generators.** A `Generator` is asked for the next value; it yields one, returns, throws, or is not
ready yet. Between two questions it may move on by events of its own, as an asynchronous generator
does.

A generator here yields a list in pieces. `Keeps` is the rule for what it is for: an invariant of
the generator and what it has yielded so far, from which one reads off what it returns and throws.
`ofList` is the generator of pieces that are known beforehand.
-/

namespace Chunked

/-- What a generator does when it is asked for the next value. -/
inductive Generator.Answer (α ε : Type)
  | yield (piece : List α)
  | done
  | throw (error : ε)

/-- A generator with states `σ` and events `ι` of its own. -/
structure Generator (σ ι α ε : Type) where
  step : σ → ι → Option σ
  next : σ → Option (Generator.Answer α ε × σ)

namespace Generator

variable {σ ι α ε : Type}

/-- `I` holds of what a generator has yielded and of its state; where it returns, what it has yielded
is something it may return, and where it throws, the error is one it may throw. -/
structure Keeps (g : Generator σ ι α ε) (I : List α → σ → Prop) (returns : List α → Prop)
    (throws : ε → Prop) : Prop where
  step : ∀ {xs s e s'}, I xs s → g.step s e = some s' → I xs s'
  yield : ∀ {xs s piece s'}, I xs s → g.next s = some (.yield piece, s') → I (xs ++ piece) s'
  done : ∀ {xs s s'}, I xs s → g.next s = some (.done, s') → returns xs ∧ I xs s'
  throw : ∀ {xs s error s'}, I xs s → g.next s = some (.throw error, s') → throws error
  /-- What is yielded is the beginning of whatever may be returned. -/
  isPrefix : ∀ {xs s}, I xs s → ∀ {ys}, returns ys → xs <+: ys

/-! ### Known pieces -/

/-- A generator that yields some pieces, and then returns or throws. -/
def ofList : Generator (List (List α) × Option ε) Empty α ε where
  step _ e := e.elim
  next
    | (piece :: pieces, error) => some (.yield piece, (pieces, error))
    | ([], none) => some (.done, ([], none))
    | ([], some error) => some (.throw error, ([], some error))

theorem keeps_ofList (pieces : List (List α)) (error : Option ε) :
    (ofList : Generator _ _ α ε).Keeps
      (fun xs s => xs ++ s.1.flatten = pieces.flatten ∧ s.2 = error)
      (fun xs => xs = pieces.flatten ∧ error = none) (fun e => error = some e) where
  step {xs s e s'} h hstep := e.elim
  yield := by
    rintro xs ⟨_ | ⟨first, rest⟩, _ | e⟩ piece s' ⟨hxs, rfl⟩ hnext <;> cases hnext
    all_goals exact ⟨by rw [← hxs, List.append_assoc]; rfl, rfl⟩
  done := by
    rintro xs ⟨_ | ⟨first, rest⟩, _ | e⟩ s' ⟨hxs, rfl⟩ hnext <;> cases hnext
    exact ⟨⟨by rw [← hxs]; exact (List.append_nil xs).symm, rfl⟩, hxs, rfl⟩
  throw := by
    rintro xs ⟨_ | ⟨first, rest⟩, _ | e⟩ error s' ⟨hxs, rfl⟩ hnext <;> cases hnext
    rfl
  isPrefix := by
    rintro xs s ⟨hxs, -⟩ ys ⟨rfl, -⟩
    exact ⟨s.1.flatten, hxs⟩

end Generator

end Chunked
