/-!
# Tedious.Lib.InPlace

A list whose elements are replaced one by one, until one of the replacements fails. What has been
replaced by then stays replaced.

`atomic_iff` and `idempotent_iff` reduce two properties of the whole list to the elements: that a
failure leaves the list as it was, and that going over a list again changes nothing.
-/

namespace InPlace

variable {α ε : Type}

/-- Replace the elements in order; the list as it is in the end, and the failure. -/
def update (f : α → Except ε α) : List α → List α × Option ε
  | [] => ([], none)
  | a :: as =>
    match f a with
    | .error e => (a :: as, some e)
    | .ok b => (b :: (update f as).1, (update f as).2)

/-- A list that fails is as it was. -/
def Atomic (f : α → Except ε α) (as : List α) : Prop :=
  (update f as).2 ≠ none → (update f as).1 = as

/-- A list that does not fail does not fail again, and does not change any more. -/
def Idempotent (f : α → Except ε α) (as : List α) : Prop :=
  (update f as).2 = none → update f (update f as).1 = ((update f as).1, none)

/-- There is a replacement. -/
def Accepts (f : α → Except ε α) (a : α) : Prop := ∃ b, f a = .ok b

variable {f : α → Except ε α}

theorem update_cons_error {a : α} {e : ε} (h : f a = .error e) (as : List α) :
    update f (a :: as) = (a :: as, some e) := by
  rw [update, h]

theorem update_cons_ok {a b : α} (h : f a = .ok b) (as : List α) :
    update f (a :: as) = (b :: (update f as).1, (update f as).2) := by
  rw [update, h]

theorem update_none_iff {as : List α} : (update f as).2 = none ↔ ∀ a ∈ as, Accepts f a := by
  induction as with
  | nil => exact iff_of_true rfl fun _ h => nomatch h
  | cons a as ih =>
    rw [List.forall_mem_cons]
    cases h : f a with
    | error e =>
      rw [update_cons_error h]
      refine iff_of_false nofun ?_
      rintro ⟨⟨b, hb⟩, -⟩
      rw [h] at hb
      cases hb
    | ok b =>
      rw [update_cons_ok h, ih]
      exact ⟨fun hall => ⟨⟨b, h⟩, hall⟩, fun hall => hall.2⟩

/-- Nothing was replaced by anything else. -/
theorem update_eq_self_iff {as : List α} (h : ∀ a ∈ as, Accepts f a) :
    (update f as).1 = as ↔ ∀ a ∈ as, f a = .ok a := by
  induction as with
  | nil => exact iff_of_true rfl fun _ h => nomatch h
  | cons a as ih =>
    rw [List.forall_mem_cons] at h ⊢
    obtain ⟨⟨b, hb⟩, hrest⟩ := h
    rw [update_cons_ok hb, List.cons_eq_cons, ih hrest, hb, Except.ok.injEq]

/-- Where the first failure is. -/
theorem update_append {before : List α} (h : ∀ b ∈ before, Accepts f b) (as : List α) :
    update f (before ++ as) = ((update f before).1 ++ (update f as).1, (update f as).2) := by
  induction before with
  | nil => rfl
  | cons b before ih =>
    rw [List.forall_mem_cons] at h
    obtain ⟨⟨c, hc⟩, hrest⟩ := h
    rw [List.cons_append, update_cons_ok hc, update_cons_ok hc, ih hrest, List.cons_append]

theorem exists_first_failure {as : List α} (h : (update f as).2 ≠ none) :
    ∃ before a behind, as = before ++ a :: behind ∧ (∀ b ∈ before, Accepts f b) ∧
      ¬ Accepts f a := by
  induction as with
  | nil => exact absurd rfl h
  | cons a as ih =>
    cases ha : f a with
    | error e =>
      refine ⟨[], a, as, rfl, fun _ hb => (nomatch hb), ?_⟩
      rintro ⟨b, hb⟩
      rw [ha] at hb
      cases hb
    | ok b =>
      rw [update_cons_ok ha] at h
      obtain ⟨before, c, behind, rfl, haccepts, hc⟩ := ih h
      refine ⟨a :: before, c, behind, rfl, ?_, hc⟩
      rw [List.forall_mem_cons]
      exact ⟨⟨b, ha⟩, haccepts⟩

/-- At a failure, the elements before it have been replaced. -/
theorem update_failure {before : List α} (behind : List α) {a : α} (h : ∀ b ∈ before, Accepts f b)
    (ha : ¬ Accepts f a) :
    (update f (before ++ a :: behind)).2 ≠ none ∧
      (update f (before ++ a :: behind)).1 = (update f before).1 ++ a :: behind := by
  cases hfails : f a with
  | ok b => exact absurd ⟨b, hfails⟩ ha
  | error e =>
    rw [update_append h, update_cons_error hfails]
    exact ⟨nofun, rfl⟩

/-- A list is left as it was exactly when the elements in front of the first failure are their
own replacements. -/
theorem atomic_iff {as : List α} :
    Atomic f as ↔ ∀ before a behind, as = before ++ a :: behind → (∀ b ∈ before, Accepts f b) →
      ¬ Accepts f a → ∀ b ∈ before, f b = .ok b := by
  constructor
  · rintro hatomic before a behind rfl haccepts ha
    obtain ⟨hfails, hlist⟩ := update_failure behind haccepts ha
    have hsame := hatomic hfails
    rw [hlist, List.append_left_inj] at hsame
    exact (update_eq_self_iff haccepts).1 hsame
  · intro h hfails
    obtain ⟨before, a, behind, rfl, haccepts, ha⟩ := exists_first_failure hfails
    rw [(update_failure behind haccepts ha).2,
      (update_eq_self_iff haccepts).2 (h _ _ _ rfl haccepts ha)]

/-- The elements after an update that did not fail. -/
theorem update_mem_iff {as : List α} (h : ∀ a ∈ as, Accepts f a) {p : α → Prop} :
    (∀ b ∈ (update f as).1, p b) ↔ ∀ a ∈ as, ∀ b, f a = .ok b → p b := by
  induction as with
  | nil => exact iff_of_true (fun _ h => nomatch h) fun _ h => nomatch h
  | cons a as ih =>
    rw [List.forall_mem_cons] at h ⊢
    obtain ⟨⟨b, hb⟩, hrest⟩ := h
    rw [update_cons_ok hb, List.forall_mem_cons, ih hrest, hb]
    exact and_congr_left' ⟨fun hp c hc => by cases hc; exact hp, fun hp => hp b rfl⟩

/-- What the replacements keep of their elements, an update keeps of the list. -/
theorem update_map {β : Type} {g : α → β} {as : List α} (haccepts : ∀ a ∈ as, Accepts f a)
    (h : ∀ a ∈ as, ∀ b, f a = .ok b → g b = g a) : (update f as).1.map g = as.map g := by
  induction as with
  | nil => rfl
  | cons a as ih =>
    rw [List.forall_mem_cons] at haccepts h
    obtain ⟨⟨b, hb⟩, hrest⟩ := haccepts
    rw [update_cons_ok hb, List.map_cons, List.map_cons, ih hrest h.2, h.1 b hb]

/-- A second update changes nothing exactly when the replacements are their own replacements. -/
theorem idempotent_iff {as : List α} :
    Idempotent f as ↔
      ((∀ a ∈ as, Accepts f a) → ∀ a ∈ as, ∀ b, f a = .ok b → f b = .ok b) := by
  rw [Idempotent, update_none_iff]
  refine forall_congr' fun haccepts => ?_
  rw [← update_mem_iff haccepts (p := fun b => f b = .ok b)]
  constructor
  · intro h
    have hagain : ∀ b ∈ (update f as).1, Accepts f b := update_none_iff.1 (by rw [h])
    exact (update_eq_self_iff hagain).1 (by rw [h])
  · intro h
    have hagain : ∀ b ∈ (update f as).1, Accepts f b := fun b hb => ⟨b, h b hb⟩
    exact Prod.ext ((update_eq_self_iff hagain).2 h) (update_none_iff.2 hagain)

end InPlace
