import Mathlib.Data.List.Basic

/-!
# Tedious.Lib.Separated

Texts that stand behind one another with a separator between them. The last symbol of the
separator is a marker that neither the rest of it nor the texts have in them, and so the first
separator that is found is the first one that was written (`split_append`), and all texts are
found again (`splitAll_intercalate`).
-/

namespace Separated

variable {α : Type} [DecidableEq α]

/-- What stands in front of the first separator, and what stands behind it, if there is one. -/
def split (separator : List α) : List α → List α × Option (List α)
  | [] => ([], none)
  | c :: text =>
    if separator.isPrefixOf (c :: text) then ([], some ((c :: text).drop separator.length))
    else (c :: (split separator text).1, (split separator text).2)

/-- The texts between the separators. -/
def splitAll (separator : List α) : (rounds : Nat) → List α → List (List α)
  | 0, _ => []
  | rounds + 1, text =>
    match split separator text with
    | (first, none) => [first]
    | (first, some rest) => first :: splitAll separator rounds rest

variable {front : List α} {marker : α}

/-- The first marker is the one of the first separator. -/
theorem not_prefix (hfront : marker ∉ front) {text : List α} (htext : marker ∉ text)
    (hne : text ≠ []) (rest : List α) :
    ¬ (front ++ [marker]) <+: text ++ (front ++ marker :: rest) := by
  rintro ⟨rest', hrest⟩
  have hindex := congrArg (List.idxOf marker) hrest
  rw [List.append_assoc, List.singleton_append, List.idxOf_append_of_notMem hfront,
    List.idxOf_append_of_notMem htext, List.idxOf_append_of_notMem hfront, List.idxOf_cons_self,
    List.idxOf_cons_self] at hindex
  have hpos := List.length_pos_of_ne_nil hne
  omega

/-- **A text is found again** in front of a separator. -/
theorem split_append (hfront : marker ∉ front) {text : List α} (htext : marker ∉ text)
    (rest : List α) :
    split (front ++ [marker]) (text ++ (front ++ marker :: rest)) = (text, some rest) := by
  induction text with
  | nil =>
    have hseparator : front ++ marker :: rest = (front ++ [marker]) ++ rest := by simp
    rw [List.nil_append, hseparator]
    cases hcons : (front ++ [marker]) ++ rest with
    | nil => simp at hcons
    | cons c text =>
      rw [split, ← hcons, if_pos (List.isPrefixOf_iff_prefix.2 (List.prefix_append _ _)),
        List.drop_left]
  | cons c text ih =>
    have hnot : ¬ (front ++ [marker]).isPrefixOf (c :: (text ++ (front ++ marker :: rest))) = true :=
      fun h => not_prefix hfront htext (List.cons_ne_nil c text) rest
        (List.isPrefixOf_iff_prefix.1 h)
    rw [List.cons_append, split, if_neg hnot, ih fun hmem => htext (List.mem_cons_of_mem _ hmem)]

/-- There is no separator behind the last text. -/
theorem split_last {text : List α} (htext : marker ∉ text) :
    split (front ++ [marker]) text = (text, none) := by
  induction text with
  | nil => rfl
  | cons c text ih =>
    have hnot : ¬ (front ++ [marker]).isPrefixOf (c :: text) = true := by
      intro h
      refine htext ((List.isPrefixOf_iff_prefix.1 h).subset ?_)
      exact List.mem_append_right _ (List.mem_singleton_self marker)
    rw [split, if_neg hnot, ih fun hmem => htext (List.mem_cons_of_mem _ hmem)]

omit [DecidableEq α] in
/-- There is a symbol between two texts at least. -/
theorem length_intercalate (separator : List α) (hne : separator ≠ []) (texts : List (List α)) :
    texts.length ≤ (separator.intercalate texts).length + 1 := by
  have hpos := List.length_pos_of_ne_nil hne
  induction texts with
  | nil => exact Nat.zero_le _
  | cons text texts ih =>
    cases texts with
    | nil => simp
    | cons next texts =>
      rw [List.intercalate_cons_cons, List.length_append, List.length_append, List.length_cons]
      omega

omit [DecidableEq α] in
/-- Texts that all begin with the marker have the whole separator between them. -/
theorem intercalate_marked {texts : List (List α)} (hne : texts ≠ []) :
    front.intercalate (texts.map (marker :: ·)) =
      marker :: (front ++ [marker]).intercalate texts := by
  induction texts with
  | nil => exact absurd rfl hne
  | cons text texts ih =>
    cases texts with
    | nil => rfl
    | cons next texts =>
      rw [List.map_cons, List.map_cons, List.intercalate_cons_cons, ← List.map_cons,
        ih (List.cons_ne_nil _ _), List.intercalate_cons_cons]
      simp only [List.cons_append, List.append_assoc, List.nil_append]

/-- **All texts are found again.** -/
theorem splitAll_intercalate (hfront : marker ∉ front) {texts : List (List α)}
    (hne : texts ≠ []) (htexts : ∀ text ∈ texts, marker ∉ text) {rounds : Nat}
    (hrounds : texts.length ≤ rounds) :
    splitAll (front ++ [marker]) rounds ((front ++ [marker]).intercalate texts) = texts := by
  induction texts generalizing rounds with
  | nil => exact absurd rfl hne
  | cons text texts ih =>
    obtain ⟨rounds, rfl⟩ : ∃ n, rounds = n + 1 :=
      ⟨rounds - 1, by rw [List.length_cons] at hrounds; omega⟩
    obtain ⟨htext, hothers⟩ := List.forall_mem_cons.1 htexts
    cases texts with
    | nil => rw [List.intercalate_singleton, splitAll, split_last htext]
    | cons next texts =>
      rw [List.intercalate_cons_cons, List.append_assoc, List.append_assoc, List.singleton_append,
        splitAll, split_append hfront htext]
      dsimp only
      rw [ih (List.cons_ne_nil _ _) hothers (Nat.le_of_succ_le_succ hrounds)]

end Separated
