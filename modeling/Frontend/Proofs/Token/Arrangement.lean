import Frontend.Proofs.Source.Order

/-!
# Spans over stretches of tokens

A stretch of tokens frames the span from the start of its first to the end of its last token.
`Arranged own spans` says that parts of the stretch `own`, one behind the other, frame the spans.
If the tokens are in order, then the spans follow one another, and they lie inside of the span that
the whole stretch frames.
-/

namespace Frontend

variable {t u : Token} {own own' mid piece : List Token} {span span' : Span}
  {spans spans' : List Span}

/-! ### One span -/

/-- The span reaches from the start of the first to the end of the last token. -/
structure Frames (own : List Token) (span : Span) : Prop where
  start_eq : own.head?.map (·.span.start) = some span.start
  stop_eq : own.getLast?.map (·.span.stop) = some span.stop

namespace Frames

theorem token (t : Token) : Frames [t] t.span := ⟨rfl, rfl⟩

theorem exists_first (h : Frames own span) : ∃ t ∈ own, t.span.start = span.start := by
  obtain ⟨t, ht, hstart⟩ := Option.map_eq_some_iff.mp h.start_eq
  exact ⟨t, List.mem_of_mem_head? ht, hstart⟩

theorem exists_last (h : Frames own span) :
    ∃ t, own.getLast? = some t ∧ t.span.stop = span.stop := Option.map_eq_some_iff.mp h.stop_eq

theorem append (h : Frames own span) (mid : List Token) (h' : Frames own' span') :
    Frames (own ++ (mid ++ own')) ⟨span.start, span'.stop⟩ where
  start_eq := by
    obtain ⟨t, ht, hstart⟩ := Option.map_eq_some_iff.mp h.start_eq
    simp [List.head?_append, ht, hstart]
  stop_eq := by
    obtain ⟨t, ht, hstop⟩ := h'.exists_last
    simp [List.getLast?_append, ht, hstop]

/-- What stands between two tokens, and the tokens. -/
theorem enclose (t : Token) (mid : List Token) (u : Token) :
    Frames (t :: (mid ++ [u])) ⟨t.span.start, u.span.stop⟩ :=
  (token t).append mid (token u)

section Order

variable (h : Frames own span) (horder : Token.InOrder own)
include h horder

theorem start_le (ht : t ∈ own) : span.start ≤ t.span.start := by
  cases own with
  | nil => cases ht
  | cons u own =>
    have hstart : u.span.start = span.start := by simpa using h.start_eq
    exact hstart ▸ horder.start_le ht

theorem le_stop (ht : t ∈ own) : t.span.stop ≤ span.stop := by
  obtain ⟨u, hu, hstop⟩ := h.exists_last
  exact hstop ▸ horder.stop_le hu ht

theorem start_le_stop : span.start ≤ span.stop := by
  obtain ⟨t, ht, hstart⟩ := h.exists_first
  exact Position.le_trans (hstart ▸ horder.spans t ht) (h.le_stop horder ht)

end Order

end Frames

/-! ### Several spans -/

/-- Parts of the stretch, one behind the other, frame the spans. -/
inductive Arranged : List Token → List Span → Prop
  | nil {own : List Token} : Arranged own []
  | cons {gap piece own : List Token} {span : Span} {spans : List Span} (h : Frames piece span)
      (hrest : Arranged own spans) : Arranged (gap ++ (piece ++ own)) (span :: spans)

namespace Arranged

theorem prepend (h : Arranged own spans) (gap : List Token) : Arranged (gap ++ own) spans := by
  cases h with
  | nil => exact .nil
  | cons h hrest =>
    rw [← List.append_assoc]
    exact .cons h hrest

theorem append (h : Arranged own spans) (h' : Arranged own' spans') :
    Arranged (own ++ own') (spans ++ spans') := by
  induction h with
  | nil => exact h'.prepend _
  | cons h _ ih =>
    rw [List.append_assoc, List.append_assoc]
    exact .cons h ih

theorem extend (h : Arranged own spans) (more : List Token) : Arranged (own ++ more) spans := by
  have hmore : Arranged more [] := .nil
  simpa using h.append hmore

theorem single (h : Frames own span) : Arranged own [span] := by
  have hsingle : Arranged ([] ++ (own ++ [])) [span] := .cons h .nil
  simpa using hsingle

/-- Two spans with tokens between them. -/
theorem pair (h : Frames own span) (mid : List Token) (h' : Frames own' span') :
    Arranged (own ++ (mid ++ own')) [span, span'] :=
  (single h).append ((single h').prepend mid)

theorem exists_frames (h : Arranged own spans) (hspan : span ∈ spans) :
    ∃ piece, piece <:+: own ∧ Frames piece span := by
  induction h with
  | nil => cases hspan
  | @cons gap piece own _ _ h _ ih =>
    rcases List.mem_cons.mp hspan with rfl | hspan
    · exact ⟨piece, ⟨gap, own, List.append_assoc ..⟩, h⟩
    · obtain ⟨piece', hpart, h'⟩ := ih hspan
      exact ⟨piece', hpart.trans ⟨gap ++ piece, [], by simp⟩, h'⟩

/-- Each of the spans ends before the next ones start. -/
theorem pairwise (h : Arranged own spans) (horder : Token.InOrder own) :
    spans.Pairwise fun a b => a.stop ≤ b.start := by
  induction h with
  | nil => exact .nil
  | @cons gap piece own _ _ h hrest ih =>
    have hpiece := horder.of_append
    refine .cons (fun b hb => ?_) (ih hpiece.of_append)
    obtain ⟨t, ht, hstop⟩ := h.exists_last
    obtain ⟨piece', hpart, h'⟩ := hrest.exists_frames hb
    obtain ⟨u, hu, hstart⟩ := h'.exists_first
    have hle := (List.pairwise_append.mp hpiece.pairwise).2.2 t (List.mem_of_getLast? ht) u
      (hpart.subset hu)
    rwa [hstop, hstart] at hle

/-- The spans lie inside of the span of the whole stretch. -/
theorem inside (h : Arranged own spans) (hframes : Frames own span) (horder : Token.InOrder own)
    (hspan : span' ∈ spans) : span.start ≤ span'.start ∧ span'.stop ≤ span.stop := by
  obtain ⟨piece, hpart, h'⟩ := h.exists_frames hspan
  obtain ⟨t, ht, hstart⟩ := h'.exists_first
  obtain ⟨u, hu, hstop⟩ := h'.exists_last
  constructor
  · exact hstart ▸ hframes.start_le horder (hpart.subset ht)
  · exact hstop ▸ hframes.le_stop horder (hpart.subset (List.mem_of_getLast? hu))

end Arranged

end Frontend
