import Mathlib.Data.List.Basic

/-!
# Tedious.Lib.Quoted

**Quoted parts of a text.** Between an opening and a closing symbol anything may stand; the closing
symbol stands for itself when it is doubled. `lex` tells the quoted parts from the others.

A part that was put between the two symbols without doubling anything is read as itself exactly
when the closing symbol is not in it (`lex_quoted_iff`), and so are any number of parts with other
text between them (`lex_parts_iff`).
-/

namespace Quoted

variable {α : Type} [DecidableEq α]

/-- A symbol outside of the quotes, a quoted part, or one that is not closed. -/
inductive Token (α : Type)
  | plain (c : α)
  | quoted (part : List α)
  | unclosed (part : List α)
  deriving DecidableEq, Repr

namespace Token

def isUnclosed : Token α → Bool
  | unclosed _ => true
  | plain _ | quoted _ => false

end Token

section Lexing

variable (opening closing : α)

/-- Read on, outside of the quotes or with a part that has been read so far. -/
def lexFrom : Option (List α) → List α → List (Token α)
  | none, [] => []
  | some part, [] => [.unclosed part]
  | none, c :: s => if c = opening then lexFrom (some []) s else .plain c :: lexFrom none s
  | some part, [c] => if c = closing then [.quoted part] else [.unclosed (part ++ [c])]
  | some part, c :: d :: s =>
    if c ≠ closing then lexFrom (some (part ++ [c])) (d :: s)
    else if d = closing then lexFrom (some (part ++ [closing])) s
    else .quoted part :: lexFrom none (d :: s)

def lex (s : List α) : List (Token α) := lexFrom opening closing none s

end Lexing

variable {opening closing : α}

theorem lex_plain {c : α} (h : c ≠ opening) (s : List α) :
    lex opening closing (c :: s) = .plain c :: lex opening closing s := by
  rw [lex, lexFrom, if_neg h]
  rfl

theorem lex_opening (s : List α) :
    lex opening closing (opening :: s) = lexFrom opening closing (some []) s := by
  rw [lex, lexFrom, if_pos rfl]

/-- A text without quotes is read symbol by symbol. -/
theorem lex_append_plain {text : List α} (h : opening ∉ text) (s : List α) :
    lex opening closing (text ++ s) = text.map .plain ++ lex opening closing s := by
  induction text with
  | nil => rfl
  | cons c text ih =>
    rw [List.mem_cons, not_or] at h
    rw [List.cons_append, lex_plain (Ne.symm h.1), ih h.2]
    rfl

theorem lexFrom_other {c : α} (h : c ≠ closing) (part s : List α) :
    lexFrom opening closing (some part) (c :: s) =
      lexFrom opening closing (some (part ++ [c])) s := by
  cases s with
  | nil => simp only [lexFrom, if_neg h]
  | cons d s => rw [lexFrom, if_pos h]

theorem lexFrom_doubled (part s : List α) :
    lexFrom opening closing (some part) (closing :: closing :: s) =
      lexFrom opening closing (some (part ++ [closing])) s := by
  rw [lexFrom, if_neg (not_not_intro rfl), if_pos rfl]

theorem lexFrom_closing {s : List α} (h : s.head? ≠ some closing) (part : List α) :
    lexFrom opening closing (some part) (closing :: s) =
      .quoted part :: lex opening closing s := by
  cases s with
  | nil =>
    rw [lexFrom, if_pos rfl]
    rfl
  | cons d s =>
    rw [List.head?_cons, ne_eq, Option.some_inj] at h
    rw [lexFrom, if_neg (not_not_intro rfl), if_neg h]
    rfl

/-! ### One part -/

/-- A part without the closing symbol, in quotes. -/
theorem lexFrom_part {part s : List α} (hpart : closing ∉ part) (hs : s.head? ≠ some closing)
    (before : List α) :
    lexFrom opening closing (some before) (part ++ closing :: s) =
      .quoted (before ++ part) :: lex opening closing s := by
  induction part generalizing before with
  | nil => rw [List.nil_append, lexFrom_closing hs, List.append_nil]
  | cons c part ih =>
    rw [List.mem_cons, not_or] at hpart
    rw [List.cons_append, lexFrom_other (Ne.symm hpart.1), ih hpart.2, List.append_assoc]
    rfl

/-- Every closing symbol twice. -/
def double (closing : α) (part : List α) : List α :=
  part.flatMap fun c => if c = closing then [closing, closing] else [c]

theorem double_cons_other {c : α} (h : c ≠ closing) (part : List α) :
    double closing (c :: part) = c :: double closing part := by
  rw [double, List.flatMap_cons, if_neg h]
  rfl

theorem double_cons_closing (part : List α) :
    double closing (closing :: part) = closing :: closing :: double closing part := by
  rw [double, List.flatMap_cons, if_pos rfl]
  rfl

theorem double_append_other {front : List α} (h : closing ∉ front) (part : List α) :
    double closing (front ++ part) = front ++ double closing part := by
  induction front with
  | nil => rfl
  | cons c front ih =>
    rw [List.mem_cons, not_or] at h
    rw [List.cons_append, double_cons_other (Ne.symm h.1), ih h.2]
    rfl

/-- What a quoted part was read from. -/
theorem eq_double_of_quoted {before part s : List α} {tokens : List (Token α)}
    (h : lexFrom opening closing (some before) s = .quoted part :: tokens) :
    ∃ rest behind, part = before ++ rest ∧ s = double closing rest ++ closing :: behind := by
  generalize hstate : some before = state at h
  fun_induction lexFrom opening closing state s generalizing before with
  | case1 => cases hstate
  | case2 => cases h
  | case3 => cases hstate
  | case4 => cases hstate
  | case5 read =>
    cases hstate
    cases h
    exact ⟨[], [], (List.append_nil _).symm, rfl⟩
  | case6 => cases h
  | case7 read c d s hother ih =>
    cases hstate
    obtain ⟨rest, behind, rfl, hrest⟩ := ih rfl h
    refine ⟨c :: rest, behind, ?_, ?_⟩
    · rw [List.append_assoc]
      rfl
    · rw [hrest, double_cons_other hother]
      rfl
  | case8 read c s hclosing ih =>
    cases hstate
    obtain ⟨rest, behind, rfl, rfl⟩ := ih rfl h
    refine ⟨closing :: rest, behind, ?_, ?_⟩
    · rw [List.append_assoc]
      rfl
    · rw [double_cons_closing, not_not.1 hclosing]
      rfl
  | case9 read c d s hclosing hother =>
    cases hstate
    cases h
    exact ⟨[], d :: s, (List.append_nil _).symm, by rw [not_not.1 hclosing]; rfl⟩

/-- A part with a closing symbol is longer when every such symbol is doubled: `n` symbols ahead are
never made up for. -/
theorem double_ne {part s behind : List α} (hs : s.head? ≠ some closing) (n : Nat) :
    part ++ closing :: s ≠
      List.replicate (n + 1) closing ++ (double closing part ++ closing :: behind) := by
  induction part generalizing n with
  | nil =>
    intro h
    rw [List.nil_append, List.replicate_succ, List.cons_append, List.cons_inj_right] at h
    refine hs ?_
    rw [h]
    cases n <;> rfl
  | cons c part ih =>
    intro h
    rw [List.replicate_succ, List.cons_append, List.cons_append, List.cons.injEq] at h
    obtain ⟨rfl, h⟩ := h
    refine ih (n + 1) ?_
    rw [h, double_cons_closing]
    simp [List.replicate_succ']

theorem lexFrom_part_iff {part s : List α} (hs : s.head? ≠ some closing)
    {tokens : List (Token α)} :
    lexFrom opening closing (some []) (part ++ closing :: s) = .quoted part :: tokens ↔
      closing ∉ part ∧ lex opening closing s = tokens := by
  constructor
  · intro h
    have hpart : closing ∉ part := by
      intro hmem
      obtain ⟨rest, behind, hrest, hdouble⟩ := eq_double_of_quoted h
      rw [List.nil_append] at hrest
      subst hrest
      -- Up to the first closing symbol nothing is doubled.
      obtain ⟨front, back, rfl, hfront⟩ := List.eq_append_cons_of_mem hmem
      rw [double_append_other hfront, double_cons_closing, List.append_assoc, List.append_assoc,
        List.append_cancel_left_eq, List.cons_append, List.cons_append, List.cons.injEq] at hdouble
      exact double_ne hs 0 hdouble.2
    rw [lexFrom_part hpart hs] at h
    exact ⟨hpart, (List.cons.inj h).2⟩
  · rintro ⟨hpart, rfl⟩
    exact lexFrom_part hpart hs []

/-! ### One text behind the other -/

/-- No quotes in a text, and something that is no quote to begin with. -/
structure IsText (opening closing : α) (text : List α) : Prop where
  plain : opening ∉ text
  ne_nil : text ≠ []
  head : text.head? ≠ some closing

omit [DecidableEq α] in
theorem IsText.head_append {text : List α} (h : IsText opening closing text) (s : List α) :
    (text ++ s).head? ≠ some closing := by
  rw [List.head?_append_of_ne_nil _ h.ne_nil]
  exact h.head

/-- Every quote of the text is closed. -/
def Closed (opening closing : α) (s : List α) : Prop :=
  ∀ token ∈ lex opening closing s, token.isUnclosed = false

theorem lexFrom_append {t : List α} (ht : t.head? ≠ some closing) (state : Option (List α))
    (s : List α) (h : ∀ token ∈ lexFrom opening closing state s, token.isUnclosed = false) :
    lexFrom opening closing state (s ++ t) =
      lexFrom opening closing state s ++ lex opening closing t := by
  fun_induction lexFrom opening closing state s with
  | case1 => rfl
  | case2 part =>
    have hclosed : true = false := h _ (List.mem_singleton_self _)
    cases hclosed
  | case3 s ih => rw [List.cons_append, lexFrom, if_pos rfl, ih h]
  | case4 c s hother ih =>
    rw [List.cons_append, lexFrom, if_neg hother, ih fun token htoken =>
      h token (List.mem_cons_of_mem _ htoken)]
    rfl
  | case5 part => exact lexFrom_closing ht part
  | case6 part c hother =>
    have hclosed : true = false := h _ (List.mem_singleton_self _)
    cases hclosed
  | case7 part c d s hother ih =>
    rw [List.cons_append, lexFrom_other hother, ih h]
  | case8 part c s hclosing ih =>
    rw [not_not.1 hclosing, List.cons_append, List.cons_append, lexFrom_doubled, ih h]
  | case9 part c d s hclosing hother ih =>
    have hd : ((d :: s) ++ t).head? ≠ some closing := fun heq => hother (Option.some.inj heq)
    rw [not_not.1 hclosing, List.cons_append, lexFrom_closing hd, lex, ih fun token htoken =>
      h token (List.mem_cons_of_mem _ htoken)]
    rfl

theorem lex_append {s t : List α} (hs : Closed opening closing s) (ht : t.head? ≠ some closing) :
    lex opening closing (s ++ t) = lex opening closing s ++ lex opening closing t :=
  lexFrom_append ht none s hs

/-- Nothing follows a quote that is not closed. -/
theorem isUnclosed_dropLast (state : Option (List α)) (s : List α) :
    ∀ token ∈ (lexFrom opening closing state s).dropLast, token.isUnclosed = false := by
  have hcons : ∀ {token first : Token α} {tokens : List (Token α)},
      token ∈ (first :: tokens).dropLast → token = first ∨ token ∈ tokens.dropLast := by
    intro token first tokens h
    cases tokens with
    | nil => cases h
    | cons second tokens => exact List.mem_cons.1 h
  fun_induction lexFrom opening closing state s with
  | case1 => exact fun _ h => by cases h
  | case2 => exact fun _ h => by cases h
  | case3 s ih => exact ih
  | case4 c s _ ih =>
    intro token h
    rcases hcons h with rfl | h
    · rfl
    · exact ih token h
  | case5 => exact fun _ h => by cases h
  | case6 => exact fun _ h => by cases h
  | case7 part c d s _ ih => exact ih
  | case8 part c s _ ih => exact ih
  | case9 part c d s _ _ ih =>
    intro token h
    rcases hcons h with rfl | h
    · rfl
    · exact ih token h

/-- What goes on behind a text shows that its quotes are closed. -/
theorem closed_of_lex_append {s t : List α} {tokens : List (Token α)} (htokens : tokens ≠ [])
    (h : lex opening closing (s ++ t) = lex opening closing s ++ tokens) :
    Closed opening closing s := by
  intro token htoken
  have hlast : token ∈ (lex opening closing (s ++ t)).dropLast := by
    rw [h, List.dropLast_append_of_ne_nil htokens]
    exact List.mem_append_left _ htoken
  exact isUnclosed_dropLast none (s ++ t) token hlast

/-- Without a closing symbol a quote stays open. -/
theorem exists_isUnclosed {t : List α} (ht : closing ∉ t) (part : List α) :
    ∃ token ∈ lexFrom opening closing (some part) t, token.isUnclosed = true := by
  induction t generalizing part with
  | nil => exact ⟨_, List.mem_singleton_self _, rfl⟩
  | cons c t ih =>
    rw [List.mem_cons, not_or] at ht
    rw [lexFrom_other (Ne.symm ht.1)]
    exact ih ht.2 (part ++ [c])

theorem isUnclosed_of_append {t : List α} (ht : closing ∉ t) (state : Option (List α)) (s : List α)
    (h : ∀ token ∈ lexFrom opening closing state (s ++ t), token.isUnclosed = false) :
    ∀ token ∈ lexFrom opening closing state s, token.isUnclosed = false := by
  have hstuck : ∀ {part : List α},
      ¬ ∀ token ∈ lexFrom opening closing (some part) t, token.isUnclosed = false := by
    intro part hclosed
    obtain ⟨token, htoken, hunclosed⟩ := exists_isUnclosed ht part
    rw [hclosed token htoken] at hunclosed
    cases hunclosed
  fun_induction lexFrom opening closing state s with
  | case1 => exact fun _ htoken => by cases htoken
  | case2 part => exact absurd h hstuck
  | case3 s ih =>
    rw [List.cons_append, lexFrom, if_pos rfl] at h
    exact ih h
  | case4 c s hother ih =>
    rw [List.cons_append, lexFrom, if_neg hother, List.forall_mem_cons] at h
    exact List.forall_mem_cons.2 ⟨h.1, ih h.2⟩
  | case5 part => exact fun _ htoken => by rw [List.mem_singleton.1 htoken]; rfl
  | case6 part c hother =>
    rw [List.cons_append, lexFrom_other hother] at h
    exact absurd h hstuck
  | case7 part c d s hother ih =>
    rw [List.cons_append, lexFrom_other hother] at h
    exact ih h
  | case8 part c s hclosing ih =>
    rw [not_not.1 hclosing, List.cons_append, List.cons_append, lexFrom_doubled] at h
    exact ih h
  | case9 part c d s hclosing hother ih =>
    have hd : ((d :: s) ++ t).head? ≠ some closing := fun heq => hother (Option.some.inj heq)
    rw [not_not.1 hclosing, List.cons_append, lexFrom_closing hd, List.forall_mem_cons] at h
    exact List.forall_mem_cons.2 ⟨h.1, ih h.2⟩

/-- A text between texts without quotes. -/
theorem closed_between_iff {front s back : List α} (hfront : opening ∉ front)
    (hback : IsText opening closing back) (hclosing : closing ∉ back) :
    Closed opening closing (front ++ (s ++ back)) ↔ Closed opening closing s := by
  have hplain : ∀ {text : List α}, ∀ token ∈ text.map Token.plain, token.isUnclosed = false := by
    intro text token htoken
    obtain ⟨c, -, rfl⟩ := List.mem_map.1 htoken
    rfl
  rw [Closed, lex_append_plain hfront, List.forall_mem_append, and_iff_right hplain]
  constructor
  · exact isUnclosed_of_append hclosing none s
  · intro h
    have hend : lex opening closing back = back.map Token.plain := by
      rw [← List.append_nil back, lex_append_plain hback.plain, List.append_nil]
      exact List.append_nil _
    rw [lex_append h hback.head, hend, List.forall_mem_append]
    exact ⟨h, hplain⟩

/-! ### Many parts -/

/-- A part and the text behind it. -/
structure Part (α : Type) where
  part : List α
  text : List α

/-- The part in quotes, with nothing doubled. -/
def Part.render (opening closing : α) (p : Part α) : List α :=
  opening :: (p.part ++ closing :: p.text)

/-- What it is meant to be read as. -/
def Part.tokens (p : Part α) : List (Token α) := .quoted p.part :: p.text.map .plain

theorem lex_part_iff {p : Part α} (hp : IsText opening closing p.text) {s : List α}
    {tokens : List (Token α)} :
    lex opening closing (p.render opening closing ++ s) = p.tokens ++ tokens ↔
      closing ∉ p.part ∧ lex opening closing s = tokens := by
  have hrender : p.render opening closing ++ s =
      opening :: (p.part ++ closing :: (p.text ++ s)) := by
    rw [Part.render, List.cons_append, List.append_assoc, List.cons_append]
  rw [hrender, lex_opening, Part.tokens, List.cons_append, lexFrom_part_iff (hp.head_append s),
    lex_append_plain hp.plain, List.append_cancel_left_eq]

/-- **Quoting without doubling.** Parts with texts between them are read as themselves exactly when
the closing symbol is in none of them. -/
theorem lex_parts_iff {separator : List α} (hseparator : IsText opening closing separator)
    {parts : List (Part α)} (hparts : ∀ p ∈ parts, IsText opening closing p.text) {s : List α} :
    lex opening closing (separator.intercalate (parts.map (Part.render opening closing)) ++ s) =
        (separator.map Token.plain).intercalate (parts.map Part.tokens) ++ lex opening closing s ↔
      ∀ p ∈ parts, closing ∉ p.part := by
  induction parts with
  | nil => simp [List.intercalate_nil]
  | cons p parts ih =>
    rw [List.forall_mem_cons] at hparts
    rw [List.forall_mem_cons, ← ih hparts.2]
    cases parts with
    | nil =>
      simp only [List.map_cons, List.map_nil, List.intercalate_singleton, List.intercalate_nil]
      rw [lex_part_iff hparts.1]
      simp
    | cons q parts =>
      simp only [List.map_cons, List.intercalate_cons_cons, List.append_assoc]
      rw [lex_part_iff hparts.1, lex_append_plain hseparator.plain, List.append_cancel_left_eq]

theorem lexFrom_ne_nil (state : Option (List α)) {s : List α} (h : s ≠ []) :
    lexFrom opening closing state s ≠ [] := by
  fun_induction lexFrom opening closing state s with
  | case1 => exact absurd rfl h
  | case2 => exact List.cons_ne_nil _ _
  | case3 s ih =>
    cases s with
    | nil => exact List.cons_ne_nil _ _
    | cons d s => exact ih (List.cons_ne_nil _ _)
  | case4 => exact List.cons_ne_nil _ _
  | case5 => exact List.cons_ne_nil _ _
  | case6 => exact List.cons_ne_nil _ _
  | case7 part c d s hother ih => exact ih (List.cons_ne_nil _ _)
  | case8 part c s hclosing ih =>
    cases s with
    | nil => exact List.cons_ne_nil _ _
    | cons d s => exact ih (List.cons_ne_nil _ _)
  | case9 => exact List.cons_ne_nil _ _

omit [DecidableEq α] in
theorem head_parts (hquotes : opening ≠ closing) (separator : List α) (parts : List (Part α))
    {back : List α} (hback : back.head? ≠ some closing) :
    (separator.intercalate (parts.map (Part.render opening closing)) ++ back).head? ≠
      some closing := by
  cases parts with
  | nil => exact hback
  | cons p parts =>
    cases parts with
    | nil => exact fun h => hquotes (Option.some.inj h)
    | cons q parts =>
      simp only [List.map_cons, List.intercalate_cons_cons]
      exact fun h => hquotes (Option.some.inj h)

/-- The parts between a front and a back: the front closes its own quotes as well. -/
theorem lex_between_iff (hquotes : opening ≠ closing) {separator : List α}
    (hseparator : IsText opening closing separator) {parts : List (Part α)}
    (hparts : ∀ p ∈ parts, IsText opening closing p.text) {front back : List α}
    (hne : back ≠ []) (hback : back.head? ≠ some closing) :
    lex opening closing (front ++
          (separator.intercalate (parts.map (Part.render opening closing)) ++ back)) =
        lex opening closing front ++ ((separator.map Token.plain).intercalate
          (parts.map Part.tokens) ++ lex opening closing back) ↔
      Closed opening closing front ∧ ∀ p ∈ parts, closing ∉ p.part := by
  have hhead := head_parts hquotes separator parts hback
  constructor
  · intro h
    have hfront : Closed opening closing front :=
      closed_of_lex_append (List.append_ne_nil_of_right_ne_nil _ (lexFrom_ne_nil none hne)) h
    rw [lex_append hfront hhead, List.append_cancel_left_eq] at h
    exact ⟨hfront, (lex_parts_iff hseparator hparts).1 h⟩
  · rintro ⟨hfront, hnames⟩
    rw [lex_append hfront hhead, (lex_parts_iff hseparator hparts).2 hnames]

end Quoted
