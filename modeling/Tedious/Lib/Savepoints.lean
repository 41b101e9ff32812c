import Mathlib.Init

/-!
# Tedious.Lib.Savepoints

**The work of a transaction, with savepoints.** A transaction keeps what has been done in
it, the newest entry first, and between the effects the names of the savepoints that have
been set. Rolling back to a savepoint drops what is newer than it; of several savepoints
of one name the newest is meant.

The rule of the library is `rollback_append`: whatever has been done since a savepoint was
set, if no savepoint of its name has been set again, rolling back to it restores the work.
-/

namespace Savepoints

/-- Names `ν`, effects `ε`. -/
inductive Entry (ν ε : Type)
  | effect (e : ε)
  | savepoint (name : ν)
  deriving DecidableEq, Repr

/-- What has been done, the newest entry first. -/
abbrev Work (ν ε : Type) := List (Entry ν ε)

namespace Work

variable {ν ε : Type}

/-- The effects, the oldest first. -/
def effects (work : Work ν ε) : List ε :=
  (work.filterMap fun
    | .effect e => some e
    | .savepoint _ => none).reverse

/-- The names of the savepoints. -/
def names (work : Work ν ε) : List ν :=
  work.filterMap fun
    | .effect _ => none
    | .savepoint name => some name

/-- Do something more. -/
def perform (work : Work ν ε) (es : List ε) : Work ν ε := (es.map .effect).reverse ++ work

/-- Set a savepoint. -/
def save (work : Work ν ε) (name : ν) : Work ν ε := .savepoint name :: work

/-- Roll back to a savepoint, which stays. -/
def rollback [DecidableEq ν] (name : ν) : Work ν ε → Work ν ε
  | [] => []
  | .effect _ :: work => rollback name work
  | .savepoint name' :: work =>
      if name' = name then .savepoint name' :: work else rollback name work

@[simp] theorem effects_nil : effects ([] : Work ν ε) = [] := rfl

@[simp] theorem effects_append (work work' : Work ν ε) :
    effects (work ++ work') = work'.effects ++ work.effects := by
  simp [effects, List.filterMap_append]

@[simp] theorem effects_savepoint (name : ν) :
    effects ([.savepoint name] : Work ν ε) = [] := rfl

@[simp] theorem effects_reverse_map (es : List ε) :
    effects ((es.map .effect).reverse : Work ν ε) = es := by
  rw [effects, List.filterMap_reverse, List.reverse_reverse, List.filterMap_map]
  exact List.filterMap_some

@[simp] theorem names_append (work work' : Work ν ε) :
    names (work ++ work') = work.names ++ work'.names := List.filterMap_append ..

@[simp] theorem names_savepoint (name : ν) :
    names ([.savepoint name] : Work ν ε) = [name] := rfl

@[simp] theorem names_save (work : Work ν ε) (name : ν) :
    (work.save name).names = name :: work.names := rfl

@[simp] theorem names_reverse_map (es : List ε) :
    names ((es.map .effect).reverse : Work ν ε) = [] := by
  rw [names, List.filterMap_reverse, List.filterMap_map, List.reverse_eq_nil_iff]
  exact List.filterMap_eq_nil_iff.2 fun _ _ => rfl

/-- **Rolling back** drops what has been done since, and nothing else. -/
theorem rollback_append [DecidableEq ν] {name : ν} {since : Work ν ε}
    (h : name ∉ since.names) (work : Work ν ε) :
    rollback name (since ++ work.save name) = work.save name := by
  induction since with
  | nil => simp [save, rollback]
  | cons entry since ih =>
    cases entry with
    | effect e => exact ih h
    | savepoint name' =>
      obtain ⟨hne, hsince⟩ : ¬name = name' ∧ name ∉ names since := by
        simpa [names] using h
      rw [List.cons_append, rollback, if_neg (Ne.symm hne)]
      exact ih hsince

end Work

end Savepoints
