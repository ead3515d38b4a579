import Frontend.Proofs.Grammar.ExpressionReading
import Frontend.Proofs.Source.Order

/-!
# The parser keeps every token

An expression that is read from a stream has the tokens of the stream in their order: nothing is
lost, doubled or moved but brackets, commas and layout.
-/

namespace Frontend

namespace Parser

/-! ### Whole streams -/

theorem lineBreaks_reads (n : Nat) {s : TokenStream} (hs : s.Ends) :
    (lineBreaksWithin n).Ensures
      (fun _ t => ∃ read, s.Reads read t ∧ ∀ u ∈ read, u.kind = .lineBreak) (FailsAt s) s := by
  induction n generalizing s with
  | zero => exact .endless (.refl s)
  | succ n ih =>
    rw [lineBreaksWithin]
    simp only [ensures_bind, ensures_current, ensures_ite, ensures_advance, ensures_pure]
    refine ⟨?_, fun _ => ⟨[], .refl s, by simp⟩⟩
    intro hk
    have hb := hs.reads_advance (by simp [hk])
    refine (ih (hb.ends hs)).mono ?_ fun _ _ => .trans hb
    rintro _ t ⟨read, hr, hread⟩
    refine ⟨_, hb.trans hr, ?_⟩
    intro u hu
    rcases List.mem_append.mp hu with hu | hu
    · rw [List.mem_singleton.mp hu, hk]
    · exact hread u hu

/-- A whole expression is read up to the end of input. -/
theorem wholeExpression_reads (fixities : FixityTable) {s : TokenStream} (hs : s.Ends) :
    (wholeExpression fixities).Ensures
      (fun e t => t.current.kind = .endOfInput ∧ ∃ read, s.Reads read t ∧ Spells read e.tokens)
      (FailsAt s) s := by
  rw [wholeExpression, expression]
  simp only [ensures_bind, ensures_repeated]
  refine ((reading fixities _).expression s hs).mono ?_ fun _ _ => id
  rintro (_ | e) t ht
  · obtain ⟨-, rfl⟩ := ht
    simp only [ensures_expect]
    exact ⟨by simp, fun _ => .of_reads (.refl t) (by decide)⟩
  obtain ⟨read, hr, hspells⟩ := ht.2.exists_spells hs
  simp only [ensures_expect]
  refine ⟨?_, by simp⟩
  rintro _ ⟨⟩
  refine (lineBreaks_reads _ (hr.ends hs)).mono ?_ fun _ _ => .trans hr
  rintro _ u ⟨breaks, hbreaks, hkind⟩
  simp only [ensures_current, ensures_require]
  refine ⟨fun hend => ⟨by simpa using hend, _, hr.trans hbreaks, ?_⟩,
    fun _ => .of_reads (hr.trans hbreaks) (by decide)⟩
  have hlayout : Spells breaks [] :=
    .punctuation fun v hv => by simp [hkind v hv, TokenKind.isPunctuation]
  simpa using hspells.append hlayout

/-- The tokens of an expression are tokens of the stream it is read from. -/
theorem subset_of_parseExpression {tokens : List Token} {fixities : FixityTable} {e : Expression}
    (hend : ∃ t ∈ tokens, t.kind = .endOfInput) (h : parseExpression tokens fixities = .ok e) :
    e.tokens ⊆ tokens := by
  have hs : (TokenStream.ofList tokens).Ends := hend
  obtain ⟨t, -, read, hr, hspells⟩ := (wholeExpression_reads fixities hs).exists_of_run' h
  have htokens : tokens = read ++ t.ahead := hr.ahead
  intro u hu
  rw [← hspells.content_eq] at hu
  exact htokens ▸ List.mem_append_left _ (List.mem_of_mem_filter hu)

end Parser

/-! ### The theorem -/

/-- The tokens of a stream before the first end of input. -/
def Token.beforeEnd (tokens : List Token) : List Token :=
  tokens.takeWhile (·.kind != .endOfInput)

theorem TokenStream.Reads.eq_beforeEnd {tokens read : List Token} {t : TokenStream}
    (h : (TokenStream.ofList tokens).Reads read t) (ht : t.Ends)
    (hk : t.current.kind = .endOfInput) : read = Token.beforeEnd tokens := by
  obtain ⟨rest, hrest⟩ := ht.ahead_eq
  have htokens : tokens = read ++ t.current :: rest := hrest ▸ h.ahead
  have hread : ∀ u ∈ read, (u.kind != .endOfInput) = true := by simpa using h.noEnd
  rw [Token.beforeEnd, htokens, List.takeWhile_append_of_pos hread,
    List.takeWhile_cons_of_neg (by simp [hk]), List.append_nil]

/-- The place before the only end of input. -/
theorem TokenStream.Reads.eq_of_concat {tokens read : List Token} {stop : Token} {t : TokenStream}
    (h : (⟨tokens ++ [stop], stop⟩ : TokenStream).Reads read t) (ht : t.Ends)
    (hk : t.current.kind = .endOfInput) (hstop : stop.kind = .endOfInput)
    (htokens : ∀ u ∈ tokens, u.kind ≠ .endOfInput) : read = tokens ∧ t = ⟨[stop], stop⟩ := by
  have hread : read = Token.beforeEnd (tokens ++ [stop]) :=
    Reads.eq_beforeEnd (by rwa [ofList_concat]) ht hk
  have htokens' : ∀ u ∈ tokens, (u.kind != .endOfInput) = true := by simpa using htokens
  rw [Token.beforeEnd, List.takeWhile_append_of_pos htokens',
    List.takeWhile_cons_of_neg (by simp [hstop]), List.append_nil] at hread
  subst hread
  have hahead : [stop] = t.ahead := List.append_cancel_left h.ahead
  have hlast : t.last = stop := h.last
  cases t
  simp_all

/-- The tokens of an expression are those of the stream it was read from, up to the first end of
input, without the punctuation, and there is nothing else in the stream. -/
theorem tokens_of_parseExpression {tokens : List Token} {fixities : FixityTable} {e : Expression}
    (hend : ∃ t ∈ tokens, t.kind = .endOfInput) (h : parseExpression tokens fixities = .ok e) :
    e.tokens = (Token.beforeEnd tokens).filter (·.kind.isContent) ∧
      ∀ t ∈ Token.beforeEnd tokens, t.kind.isContent = false → t.kind.isPunctuation := by
  have hs : (TokenStream.ofList tokens).Ends := hend
  have hw := Parser.wholeExpression_reads fixities hs
  rw [parseExpression, Parser.run'] at h
  split at h
  · next hp =>
    cases h
    obtain ⟨hk, read, hr, hspells⟩ := hw.of_ok hp
    obtain rfl := hr.eq_beforeEnd (hr.ends hs) hk
    exact ⟨hspells.content_eq.symm, hspells.others⟩
  · cases h

/-- A list with a sum in brackets and, on the next line, an operator. -/
theorem tokens_of_parseExpression_list :
    let tokens := Token.row 0
      [.symbol .openCurly, .identifier "f", .symbol .openRound, .number "1", .operator "+",
        .identifier "x", .symbol .dotAccess, .identifier "y", .symbol .closeRound, .lineBreak,
        .indentation "  ", .operator "*", .text "s", .symbol .comma, .character "c",
        .symbol .closeCurly, .lineBreak, .endOfInput]
    ∃ e, parseExpression tokens .standard = .ok e ∧
      e.tokens = (Token.beforeEnd tokens).filter (·.kind.isContent) := by
  intro tokens
  have hend : ∃ t ∈ tokens, t.kind = .endOfInput := ⟨_, List.mem_of_getLast? rfl, rfl⟩
  have hok : (parseExpression tokens .standard).isOk := by decide +kernel
  obtain ⟨e, he⟩ : ∃ e, parseExpression tokens .standard = .ok e := by
    cases h : parseExpression tokens .standard with
    | ok e => exact ⟨e, rfl⟩
    | error x => simp [h, Except.isOk, Except.toBool] at hok
  exact ⟨e, he, (tokens_of_parseExpression hend he).1⟩

end Frontend
