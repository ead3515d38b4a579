import Frontend.Token.Basic
import Mathlib.Data.List.Chain
import Mathlib.Data.List.Induction

/-!
# The order of source texts

Positions are ordered as they are reached by reading, and `Token.InOrder` says that the spans of
tokens follow one another in a source text, as those of every lexed text do.
-/

namespace Frontend

/-! ### Positions -/

namespace Position

variable {p q r : Position}

theorem le_trans (h : p ≤ q) (h' : q ≤ r) : p ≤ r := by
  change p.offset < r.offset ∨ p.offset = r.offset ∧
    (p.line < r.line ∨ p.line = r.line ∧ p.column ≤ r.column)
  rcases h with h | ⟨_, h | ⟨_, h⟩⟩ <;> rcases h' with h' | ⟨_, h' | ⟨_, h'⟩⟩ <;> omega

theorem le_of_offset_lt (h : p.offset < q.offset) : p ≤ q := Or.inl h

theorem offset_le_of_le (h : p ≤ q) : p.offset ≤ q.offset := by
  rcases h with h | ⟨h, -⟩
  · exact Nat.le_of_lt h
  · exact Nat.le_of_eq h

theorem offset_le_after (p : Position) (text : List Char) : p.offset ≤ (p.after text).offset := by
  induction text generalizing p with
  | nil => exact Nat.le_refl _
  | cons c text ih =>
    have hc := p.offset_lt_next c
    have ht := ih (p.next c)
    rw [after_cons]
    omega

theorem offset_lt_after {text : List Char} (h : text ≠ []) (p : Position) :
    p.offset < (p.after text).offset := by
  obtain ⟨c, text, rfl⟩ := List.exists_cons_of_ne_nil h
  have hc := p.offset_lt_next c
  have ht := (p.next c).offset_le_after text
  rw [after_cons]
  omega

/-- Reading never moves back. -/
theorem le_after (p : Position) (text : List Char) : p ≤ p.after text := by
  by_cases h : text = []
  · rw [h]
    exact p.le_refl
  · exact le_of_offset_lt (p.offset_lt_after h)

/-- A text at the start of another one that leads to the same place is all of it. -/
theorem eq_of_isPrefix {text text' : List Char} (h : text <+: text')
    (hp : p.after text = p.after text') : text = text' := by
  obtain ⟨more, rfl⟩ := h
  by_cases hmore : more = []
  · rw [hmore, List.append_nil]
  · have hlt := offset_lt_after hmore (p.after text)
    rw [← after_append, ← hp] at hlt
    exact absurd hlt (Nat.lt_irrefl _)

/-- The place behind a text at the start of a source: its bytes, its line feeds and its characters
since the last one. -/
def counted (text : List Char) : Position :=
  ⟨(String.ofList text).utf8ByteSize, text.count '\n', (text.reverse.takeWhile (· != '\n')).length⟩

theorem origin_after (text : List Char) : origin.after text = counted text := by
  induction text using List.reverseRecOn with
  | nil => rfl
  | append_singleton text c ih =>
    have hsize : (String.ofList (text ++ [c])).utf8ByteSize =
        (String.ofList text).utf8ByteSize + c.utf8Size := by
      rw [String.ofList_append, String.utf8ByteSize_append, ← String.singleton_eq_ofList,
        String.utf8ByteSize_singleton]
    rw [after_append, ih, after_cons, after_nil, next, counted, counted, hsize]
    split
    · next hc => simp [hc]
    · next hc => simp [hc]

end Position

/-! ### Tokens -/

namespace Token

/-- Tokens as they follow one another in a source text: no span starts behind its own end, and
none starts before the end of the one before it. -/
structure InOrder (tokens : List Token) : Prop where
  spans : ∀ t ∈ tokens, t.span.start ≤ t.span.stop
  neighbours : tokens.IsChain fun t u => t.span.stop ≤ u.span.start

namespace InOrder

variable {t u : Token} {before tokens : List Token}

theorem tail (h : InOrder (t :: tokens)) : InOrder tokens :=
  ⟨fun u hu => h.spans u (List.mem_cons_of_mem t hu), h.neighbours.tail⟩

theorem of_append (h : InOrder (before ++ tokens)) : InOrder tokens := by
  induction before with
  | nil => exact h
  | cons t before ih => exact ih h.tail

/-- The first of several tokens starts before all of them. -/
theorem start_le (h : InOrder (t :: tokens)) (hu : u ∈ t :: tokens) :
    t.span.start ≤ u.span.start := by
  induction tokens generalizing t with
  | nil =>
    rw [List.mem_singleton.mp hu]
    exact t.span.start.le_refl
  | cons v tokens ih =>
    rcases List.mem_cons.mp hu with rfl | hu
    · exact u.span.start.le_refl
    · have htv : t.span.start ≤ v.span.start :=
        Position.le_trans (h.spans t List.mem_cons_self)
          (List.isChain_cons_cons.mp h.neighbours).1
      exact Position.le_trans htv (ih h.tail hu)

/-- What stands before a token ends before the token starts. -/
theorem stop_le_start (h : InOrder (t :: tokens)) (hu : u ∈ tokens) :
    t.span.stop ≤ u.span.start := by
  cases tokens with
  | nil => cases hu
  | cons v tokens =>
    exact Position.le_trans (List.isChain_cons_cons.mp h.neighbours).1 (h.tail.start_le hu)

theorem pairwise (h : InOrder tokens) : tokens.Pairwise fun t u => t.span.stop ≤ u.span.start := by
  induction tokens with
  | nil => exact .nil
  | cons t tokens ih => exact .cons (fun u hu => h.stop_le_start hu) (ih h.tail)

/-- The last of several tokens ends behind all of them. -/
theorem stop_le (h : InOrder tokens) (ht : tokens.getLast? = some t) (hu : u ∈ tokens) :
    u.span.stop ≤ t.span.stop := by
  obtain ⟨front, rfl⟩ := List.getLast?_eq_some_iff.mp ht
  rcases List.mem_append.mp hu with hu | hu
  · have hle := (List.pairwise_append.mp h.pairwise).2.2 u hu t List.mem_cons_self
    exact Position.le_trans hle (h.spans t (by simp))
  · rw [List.mem_singleton.mp hu]
    exact t.span.stop.le_refl

theorem of_sublist (h : InOrder tokens) (hs : before.Sublist tokens) : InOrder before :=
  ⟨fun t ht => h.spans t (hs.subset ht), (h.pairwise.sublist hs).isChain⟩

theorem of_infix (h : InOrder tokens) (hi : before <:+: tokens) : InOrder before :=
  h.of_sublist hi.sublist

end InOrder

/-- Tokens of the given kinds on the first line, one column each, from a column on. -/
def row : Nat → List TokenKind → List Token
  | _, []           => []
  | n, kind :: rest => ⟨kind, ⟨n, 0, n⟩, ⟨n + 1, 0, n + 1⟩⟩ :: row (n + 1) rest

theorem row_inOrder (n : Nat) (kinds : List TokenKind) : InOrder (row n kinds) := by
  induction kinds generalizing n with
  | nil => exact ⟨by simp [row], .nil⟩
  | cons kind rest ih =>
    refine ⟨fun t ht => ?_, ?_⟩
    · rcases List.mem_cons.mp ht with rfl | ht
      · exact Position.le_of_offset_lt (Nat.lt_succ_self n)
      · exact (ih (n + 1)).spans t ht
    · cases rest with
      | nil => exact .singleton _
      | cons next rest =>
        exact List.isChain_cons_cons.mpr ⟨Position.le_refl _, (ih (n + 1)).neighbours⟩

end Token

end Frontend
