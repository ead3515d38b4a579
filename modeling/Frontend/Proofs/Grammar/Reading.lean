import Frontend.Proofs.Grammar.Outcome

/-!
# Reading from a stream

`s.Reads read t` says that the tokens `read` lead from the stream `s` to the stream `t`. The end
of input is never read: as long as it is ahead (`s.Ends`), each step reads the current token, and
a continuation is read as a line break and an indentation or not at all.
-/

namespace Frontend

namespace TokenStream

/-- The end of input is still ahead. -/
def Ends (s : TokenStream) : Prop := ∃ t ∈ s.ahead, t.kind = .endOfInput

/-- The tokens `read` lie between two places of a stream, before the end of input. -/
structure Reads (s : TokenStream) (read : List Token) (t : TokenStream) : Prop where
  ahead : s.ahead = read ++ t.ahead
  last : t.last = s.last
  noEnd : ∀ u ∈ read, u.kind ≠ .endOfInput

variable {s t u : TokenStream} {read more : List Token}

@[simp] theorem ofList_concat (tokens : List Token) (stop : Token) :
    ofList (tokens ++ [stop]) = ⟨tokens ++ [stop], stop⟩ := by
  simp [ofList]

/-! ### Composing -/

theorem Reads.refl (s : TokenStream) : s.Reads [] s := ⟨rfl, rfl, by simp⟩

theorem Reads.trans (h : s.Reads read t) (h' : t.Reads more u) : s.Reads (read ++ more) u where
  ahead := by rw [h.ahead, h'.ahead, List.append_assoc]
  last := h'.last.trans h.last
  noEnd := fun v hv => (List.mem_append.mp hv).elim (h.noEnd v) (h'.noEnd v)

theorem Reads.eq_of_nil (h : s.Reads [] t) : t = s := by
  cases s
  cases t
  simpa [eq_comm] using And.intro h.ahead h.last

theorem Reads.ends (h : s.Reads read t) (hs : s.Ends) : t.Ends := by
  obtain ⟨v, hv, hk⟩ := hs
  rw [h.ahead] at hv
  rcases List.mem_append.mp hv with hv | hv
  · exact absurd hk (h.noEnd v hv)
  · exact ⟨v, hv, hk⟩

theorem Reads.length (h : s.Reads read t) : s.ahead.length = read.length + t.ahead.length := by
  rw [h.ahead, List.length_append]

/-! ### Steps -/

/-- As long as the end of input is ahead, the current token is the first one ahead. -/
theorem Ends.ahead_eq (h : s.Ends) : ∃ rest, s.ahead = s.current :: rest := by
  obtain ⟨v, hv, _⟩ := h
  cases ha : s.ahead with
  | nil => simp [ha] at hv
  | cons c rest => exact ⟨rest, by simp [current, peek, ha]⟩

/-- Where tokens are ahead, a step reads the current one. -/
theorem reads_advance_of_ahead {x : Token} {rest : List Token} (hx : s.ahead = x :: rest)
    (hk : s.current.kind ≠ .endOfInput) : s.Reads [s.current] s.advance := by
  have hcurrent : s.current = x := by simp [current, peek, hx]
  have hadvance : s.advance = { s with ahead := rest } := by simp [advance, hx, hcurrent ▸ hk]
  rw [hadvance]
  exact ⟨by rw [hx, hcurrent]; rfl, rfl, fun u hu => List.mem_singleton.mp hu ▸ hk⟩

theorem Ends.reads_advance (h : s.Ends) (hk : s.current.kind ≠ .endOfInput) :
    s.Reads [s.current] s.advance := by
  obtain ⟨rest, ha⟩ := h.ahead_eq
  exact reads_advance_of_ahead ha hk

/-- What `s.peek n` sees before the end of input is what is current after `n` steps. -/
theorem Reads.peek (h : s.Reads read t) (n : Nat) : s.peek (read.length + n) = t.peek n := by
  rw [TokenStream.peek, TokenStream.peek, h.ahead, h.last,
    List.getElem?_append_right (Nat.le_add_right _ _), Nat.add_sub_cancel_left]

theorem Reads.current (h : s.Reads read t) : s.peek read.length = t.current := h.peek 0

/-- A line break and an indentation, as they stand before a line that continues another one. -/
def IsContinuation (layout : List Token) : Prop :=
  ∃ b i : Token, layout = [b, i] ∧ b.kind = .lineBreak ∧ i.kind.isIndentation

/-- Where the line goes on, a line break and an indentation are read. -/
theorem Ends.reads_of_continues {p : TokenKind → Bool} (h : s.Ends) (hc : s.continues p) :
    ∃ b i : Token, s.Reads [b, i] (s.skipContinuation p) ∧ b.kind = .lineBreak ∧
      i.kind.isIndentation ∧ p (s.skipContinuation p).current.kind ∧
        (s.skipContinuation p).current.kind.isBlank = false := by
  rw [skipContinuation, if_pos hc]
  simp only [continues, Bool.and_eq_true, beq_iff_eq, Bool.not_eq_true'] at hc
  obtain ⟨⟨⟨hb, hi⟩, hblank⟩, hp⟩ := hc
  have h₁ := h.reads_advance (by simp [hb])
  have e₁ : s.peek 1 = s.advance.current := h₁.current
  rw [e₁] at hi
  have h₂ := (h₁.ends h).reads_advance (by intro hk; simp [hk, TokenKind.isIndentation] at hi)
  have h₁₂ := h₁.trans h₂
  have e₂ : s.peek 2 = s.advance.advance.current := h₁₂.current
  rw [e₂] at hblank hp
  exact ⟨_, _, h₁₂, hb, hi, hp, hblank⟩

/-- Skipping a continuation reads a line break and an indentation before a token that satisfies the
predicate, or nothing at all. -/
theorem Ends.skipContinuation_cases (h : s.Ends) (p : TokenKind → Bool) :
    s.skipContinuation p = s ∨
      ∃ layout, IsContinuation layout ∧ s.Reads layout (s.skipContinuation p) ∧
        p (s.skipContinuation p).current.kind ∧
        (s.skipContinuation p).current.kind.isBlank = false := by
  by_cases hc : s.continues p
  · obtain ⟨b, i, hr, hb, hi, hnext⟩ := h.reads_of_continues hc
    exact .inr ⟨_, ⟨b, i, rfl, hb, hi⟩, hr, hnext⟩
  · rw [skipContinuation, if_neg hc]
    exact .inl rfl

/-- Once a continuation has been skipped, there is none to skip. -/
theorem skipContinuation_of_ne (p : TokenKind → Bool) (h : s.current.kind ≠ .lineBreak) :
    s.skipContinuation p = s := by
  have hc : s.continues p = false := by simp [continues, h]
  simp [skipContinuation, hc]

end TokenStream

end Frontend
