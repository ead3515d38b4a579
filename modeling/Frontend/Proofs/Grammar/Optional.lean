import Frontend.Proofs.Grammar.Acceptance
import Frontend.Proofs.Grammar.Lookahead
import Frontend.Proofs.Grammar.ModuleLanguage

/-!
# Readers of optional expressions

An expression starts at a token that a factor can start with, or at a line break and an indentation
before such a token. The readers of optional expressions agree on this: elsewhere they give nothing
and stay where they are, and from there on they give nothing else but what they have read at least
one token for.

An end of input need not be ahead, but a token has to be: behind the last token of a stream without
an end of input, the readers see that token again without ever passing it.
-/

namespace Frontend

namespace TokenStream

variable {s t u : TokenStream} {read : List Token}

/-! ### Going forth -/

/-- At least one token lies between two places of a stream, and none of them is an end of input. -/
def Passes (s t : TokenStream) : Prop := ∃ x read, s.Reads (x :: read) t

theorem Passes.trans (h : s.Passes t) (hr : t.Reads read u) : s.Passes u := by
  obtain ⟨x, own, hown⟩ := h
  exact ⟨x, own ++ read, hown.trans hr⟩

theorem Passes.before (h : t.Passes u) (hr : s.Reads read t) : s.Passes u := by
  obtain ⟨x, own, hown⟩ := h
  obtain ⟨y, more, hmore⟩ := List.exists_cons_of_ne_nil (List.append_ne_nil_of_right_ne_nil read
    (List.cons_ne_nil x own))
  exact ⟨y, more, hmore ▸ hr.trans hown⟩

theorem Passes.reads (h : s.Passes t) : ∃ read, s.Reads read t := by
  obtain ⟨x, own, hown⟩ := h
  exact ⟨_, hown⟩

theorem Passes.ends (h : s.Passes t) (hs : s.Ends) : t.Ends := by
  obtain ⟨_, hr⟩ := h.reads
  exact hr.ends hs

theorem Passes.length_lt (h : s.Passes t) : t.ahead.length < s.ahead.length := by
  obtain ⟨x, own, hown⟩ := h
  have hlength := hown.length
  rw [List.length_cons] at hlength
  omega

theorem passes_advance (hs : s.ahead ≠ []) (hk : s.current.kind ≠ .endOfInput) :
    s.Passes s.advance := by
  obtain ⟨x, rest, hx⟩ := List.exists_cons_of_ne_nil hs
  exact ⟨_, [], reads_advance_of_ahead hx hk⟩

theorem Ends.ahead_ne_nil (h : s.Ends) : s.ahead ≠ [] := List.ne_nil_of_length_pos h.length_pos

theorem Ends.passes_advance (h : s.Ends) (hk : s.current.kind ≠ .endOfInput) :
    s.Passes s.advance :=
  TokenStream.passes_advance h.ahead_ne_nil hk

/-- A step reads the current token, or nothing. -/
theorem exists_reads_advance (s : TokenStream) : ∃ read, s.Reads read s.advance := by
  rw [advance]
  split
  · exact ⟨[], .refl s⟩
  next x rest hx =>
    split
    · exact ⟨[], .refl s⟩
    next hk => exact ⟨[x], hx, rfl, fun u hu => List.mem_singleton.mp hu ▸ hk⟩

/-! ### Where an expression starts -/

/-- Behind a continuation stands the token that it was skipped for. -/
theorem current_skipContinuation {p : TokenKind → Bool} (h : s.continues p) :
    (s.skipContinuation p).current = s.peek 2 := by
  rw [skipContinuation, if_pos h]
  simp only [continues, Bool.and_eq_true, beq_iff_eq] at h
  obtain ⟨⟨⟨hbreak, hindent⟩, -⟩, -⟩ := h
  have hb : s.current.kind ≠ .endOfInput := by simp [hbreak]
  have hd : s.advance.current.kind ≠ .endOfInput := by
    rw [current, peek_advance hb]
    intro hk
    simp [hk, TokenKind.isIndentation] at hindent
  rw [current, peek_advance hd, peek_advance hb]

theorem passes_skipContinuation {p : TokenKind → Bool} (hs : s.ahead ≠ []) (h : s.continues p) :
    s.Passes (s.skipContinuation p) := by
  have hbreak : s.current.kind ≠ .endOfInput := by
    intro hk
    simp [continues, hk] at h
  obtain ⟨read, hr⟩ := s.advance.exists_reads_advance
  rw [skipContinuation, if_pos h]
  exact (passes_advance hs hbreak).trans hr

theorem exists_reads_skipContinuation (s : TokenStream) (p : TokenKind → Bool) :
    ∃ read, s.Reads read (s.skipContinuation p) := by
  rw [skipContinuation]
  split
  · obtain ⟨_, hr⟩ := s.exists_reads_advance
    obtain ⟨_, hr'⟩ := s.advance.exists_reads_advance
    exact ⟨_, hr.trans hr'⟩
  · exact ⟨[], .refl s⟩

theorem startsFactor_of_continues (h : s.continues (·.startsFactor)) : s.startsFactor := by
  rw [startsFactor, current_skipContinuation h]
  simp only [continues, Bool.and_eq_true] at h
  exact h.2

theorem skipContinuation_of_not_startsFactor (h : s.startsFactor = false) :
    s.skipContinuation (·.startsFactor) = s := by
  have hc : ¬ s.continues (·.startsFactor) := fun hc => by
    simp [startsFactor_of_continues hc] at h
  rw [skipContinuation, if_neg hc]

/-- Where a factor starts, its first token and the layout before it can be passed. -/
theorem passes_of_startsFactor (hs : s.ahead ≠ []) (h : s.startsFactor) :
    s.Passes (s.skipContinuation (·.startsFactor)).advance := by
  by_cases hc : s.continues (·.startsFactor)
  · obtain ⟨read, hr⟩ := (s.skipContinuation (·.startsFactor)).exists_reads_advance
    exact (passes_skipContinuation hs hc).trans hr
  · rw [startsFactor] at h
    rw [skipContinuation, if_neg hc] at h ⊢
    refine passes_advance hs fun hk => ?_
    simp [hk, TokenKind.startsFactor] at h

end TokenStream

namespace Parser

variable {fixities : FixityTable} {α : Type} {p q : Parser α} {least : α → Nat}
  {cost steps : Nat} {s t : TokenStream}

/-- A reader that echoes another one goes forth. -/
theorem Echoes.goesForth (h : p.Echoes q least cost steps s) :
    p.Ensures (fun _ t => ∃ read, s.Reads read t) Fails s :=
  h.mono (fun _ _ ⟨read, hr, _⟩ => ⟨read, hr⟩) fun _ _ _ => trivial

/-! ### What is found where an expression starts -/

/-- The reader finds an expression exactly where one starts. It passes the expression, and it stays
where it is if there is none. -/
def Finds (p : Parser (Option Expression)) (s : TokenStream) : Prop :=
  p.Ensures (Answers s.startsFactor s fun _ t => s.Passes t) Fails s

theorem primaryWithin_answers (n : Nat) (s : TokenStream) :
    (primaryWithin fixities n).Ensures
      (Answers s.current.kind.startsFactor s fun _ t => ∃ read, s.advance.Reads read t) Fails
      s := by
  cases n with
  | zero => trivial
  | succ n =>
    have h := echoing fixities n
    rw [primaryWithin]
    simp only [ensures_bind, ensures_current]
    split
    iterate 3
      next hk => exact ⟨by simp [hk, TokenKind.startsFactor], [], .refl _⟩
    next hk =>
      simp only [ensures_bind, ensures_advance]
      refine (h.text _ 0 _).goesForth.mono ?_ fun _ _ => id
      exact fun e t ht => ⟨by simp [hk, TokenKind.startsFactor], ht⟩
    next hk =>
      simp only [ensures_bind, ensures_advance]
      refine (h.round _ 0 _).goesForth.mono ?_ fun _ _ => id
      exact fun e t ht => ⟨by simp [hk, TokenKind.startsFactor], ht⟩
    next hk =>
      simp only [ensures_bind, ensures_advance]
      refine (h.curly _ 0 _).goesForth.mono ?_ fun _ _ => id
      exact fun e t ht => ⟨by simp [hk, TokenKind.startsFactor], ht⟩
    next =>
      refine ⟨?_, rfl⟩
      cases hk : s.current.kind <;> simp_all [TokenKind.startsFactor]

theorem factorWithin_finds (n : Nat) (hs : s.ahead ≠ []) : (factorWithin fixities n).Finds s := by
  cases n with
  | zero => trivial
  | succ n =>
    rw [factorWithin, Finds]
    simp only [ensures_bind, ensures_skipContinuation]
    refine (primaryWithin_answers n _).mono ?_ fun _ _ => id
    rintro (_ | primary) t ⟨hstarts, ht⟩
    · exact ⟨hstarts, ht.trans (TokenStream.skipContinuation_of_not_startsFactor hstarts)⟩
    obtain ⟨read, hr⟩ := ht
    rw [ensures_bind]
    refine ((echoing fixities n).members primary 0 t).goesForth.mono ?_ fun _ _ => id
    rintro e u ⟨_, hu⟩
    exact ⟨hstarts, (TokenStream.passes_of_startsFactor hs hstarts).trans (hr.trans hu)⟩

theorem applicationWithin_finds (n : Nat) (hs : s.ahead ≠ []) :
    (applicationWithin fixities n).Finds s := by
  cases n with
  | zero => trivial
  | succ n =>
    rw [applicationWithin, Finds, ensures_bind]
    refine (factorWithin_finds n hs).mono ?_ fun _ _ => id
    rintro (_ | callee) t ⟨hstarts, ht⟩
    · exact ⟨hstarts, ht⟩
    rw [ensures_bind]
    refine ((echoing fixities n).arguments callee 0 t).goesForth.mono ?_ fun _ _ => id
    rintro e u ⟨_, hu⟩
    exact ⟨hstarts, ht.trans hu⟩

/-- The bands pass on what the tightest one finds. -/
theorem binaryWithin_finds (n band : Nat) (hs : s.ahead ≠ []) :
    (binaryWithin fixities n band).Finds s := by
  induction n generalizing band with
  | zero => trivial
  | succ n ih =>
    rw [binaryWithin, Finds, ensures_ite]
    refine ⟨fun _ => applicationWithin_finds n hs, fun _ => ?_⟩
    rw [ensures_bind]
    refine (ih (band + 1)).mono ?_ fun _ _ => id
    rintro (_ | left) t ⟨hstarts, ht⟩
    · exact ⟨hstarts, ht⟩
    rw [ensures_bind]
    refine ((echoing fixities n).operations band none left 0 t).goesForth.mono ?_ fun _ _ => id
    rintro e u ⟨_, hu⟩
    exact ⟨hstarts, ht.trans hu⟩

theorem expressionWithin_finds (n : Nat) (hs : s.ahead ≠ []) :
    (expressionWithin fixities n).Finds s := by
  cases n with
  | zero => trivial
  | succ n =>
    rw [expressionWithin, Finds, ensures_bind]
    refine (binaryWithin_finds n 0 hs).mono ?_ fun _ _ => id
    rintro (_ | first) t ⟨hstarts, ht⟩
    · exact ⟨hstarts, ht⟩
    obtain ⟨layout, hl⟩ := t.exists_reads_skipContinuation (·.isSymbol .comma)
    simp only [ensures_bind, ensures_skipContinuation, ensures_current, ensures_ite]
    refine ⟨fun _ => ?_, fun _ => ⟨hstarts, ht.trans hl⟩⟩
    refine ((echoing fixities n).elements 0 _).goesForth.mono ?_ fun _ _ => id
    rintro rest u ⟨read, hu⟩
    rw [cover, ensures_merge]
    exact ⟨fun _ => ⟨hstarts, ht.trans (hl.trans hu)⟩, fun _ => trivial⟩

/-! ### Where no expression starts -/

theorem primaryWithin_eq_none (h : s.current.kind.startsFactor = false) {n : Nat} (hn : 1 ≤ n) :
    primaryWithin fixities n s = .ok none s := by
  obtain ⟨m, rfl⟩ := Nat.exists_eq_add_of_le' hn
  exact primaryWithin_none h m

theorem factorWithin_eq_none (h : s.startsFactor = false) {n : Nat} (hn : 2 ≤ n) :
    factorWithin fixities n s = .ok none s := by
  obtain ⟨m, rfl⟩ := Nat.exists_eq_add_of_le' hn
  have hskip := TokenStream.skipContinuation_of_not_startsFactor h
  rw [TokenStream.startsFactor, hskip] at h
  have hstay : skipContinuation (·.startsFactor) s = .ok () s := by rw [skipContinuation, hskip]
  rw [factorWithin, bind_of_ok hstay, bind_of_ok (primaryWithin_none h m)]
  rfl

theorem applicationWithin_eq_none (h : s.startsFactor = false) {n : Nat} (hn : 3 ≤ n) :
    applicationWithin fixities n s = .ok none s := by
  obtain ⟨m, rfl⟩ := Nat.exists_eq_add_of_le' hn
  rw [applicationWithin, bind_of_ok (factorWithin_eq_none h (by omega))]
  rfl

/-- One call for each of the bands that are left, and four for an application. -/
theorem binaryWithin_eq_none (h : s.startsFactor = false) {n band : Nat} (hn : 4 ≤ n)
    (hband : 14 ≤ n + band) : binaryWithin fixities n band s = .ok none s := by
  induction n generalizing band with
  | zero => omega
  | succ n ih =>
    rw [binaryWithin, Fixity.maxPrecedence]
    split
    · exact applicationWithin_eq_none h (by omega)
    · rw [bind_of_ok (ih (by omega) (by omega))]
      rfl

theorem expressionWithin_eq_none (h : s.startsFactor = false) {n : Nat} (hn : 15 ≤ n) :
    expressionWithin fixities n s = .ok none s := by
  obtain ⟨m, rfl⟩ := Nat.exists_eq_add_of_le' hn
  rw [expressionWithin, bind_of_ok (binaryWithin_eq_none h (by omega) (by omega))]
  rfl

end Parser

/-! ### At a place of the tokens -/

/-- An expression starts with the first of the tokens, or on a line that continues the one that ends
there. -/
def Token.StartsExpression (ahead : List Token) : Prop :=
  (∃ t rest, ahead = t :: rest ∧ t.kind.startsFactor) ∨
    ∃ b d t rest, ahead = b :: d :: t :: rest ∧ b.kind = .lineBreak ∧ d.kind.isIndentation ∧
      t.kind.startsFactor

namespace TokenStream

variable {s t : TokenStream} {tokens read : List Token} {i : Nat}

/-- The tokens from a place on. -/
def startingAt (tokens : List Token) (i : Nat) : TokenStream :=
  { ofList tokens with ahead := tokens.drop i }

theorem Reads.eq_startingAt (h : (startingAt tokens i).Reads read t) :
    t = startingAt tokens (i + read.length) := by
  have hahead : tokens.drop (i + read.length) = t.ahead := by
    rw [← List.drop_drop, show tokens.drop i = read ++ t.ahead from h.ahead, List.drop_left]
  have hlast : t.last = (ofList tokens).last := h.last
  cases t
  simp_all [startingAt]

theorem startsFactor_iff : s.startsFactor ↔ s.current.kind.startsFactor ∨
    s.current.kind = .lineBreak ∧ (s.peek 1).kind.isIndentation ∧ (s.peek 2).kind.startsFactor := by
  by_cases hc : s.continues (·.startsFactor)
  · have hkinds := hc
    simp only [continues, Bool.and_eq_true, beq_iff_eq] at hkinds
    obtain ⟨⟨⟨hbreak, hindent⟩, -⟩, hstarts⟩ := hkinds
    exact iff_of_true (startsFactor_of_continues hc) (.inr ⟨hbreak, hindent, hstarts⟩)
  · rw [startsFactor, skipContinuation, if_neg hc]
    refine ⟨.inl, fun h => h.resolve_right ?_⟩
    rintro ⟨hbreak, hindent, hstarts⟩
    have hblank : (s.peek 2).kind.isBlank = false := by
      cases hk : (s.peek 2).kind <;> simp_all [TokenKind.startsFactor, TokenKind.isBlank]
    exact hc (by simp [continues, hbreak, hindent, hblank, hstarts])

/-- The last token is seen again behind the end, but this makes no start of an expression: there
the last token would be an indentation. -/
theorem startsFactor_iff_startsExpression (h : s.ahead.getLast? = some s.last) :
    s.startsFactor ↔ Token.StartsExpression s.ahead := by
  rw [startsFactor_iff, Token.StartsExpression]
  match hahead : s.ahead with
  | [] => simp [hahead] at h
  | [t] =>
    have hlast : s.last = t := by simpa [hahead, eq_comm] using h
    simp [current, peek, hahead, hlast]
  | [b, d] =>
    have hlast : s.last = d := by simpa [hahead, eq_comm] using h
    have hnot : ¬ (d.kind.isIndentation ∧ d.kind.startsFactor) := by
      rintro ⟨hindent, hstarts⟩
      obtain ⟨blanks, hd⟩ := TokenKind.isIndentation_iff.mp hindent
      simp [hd, TokenKind.startsFactor] at hstarts
    simp [current, peek, hahead, hlast, hnot]
  | b :: d :: t :: rest => simp [current, peek, hahead]

theorem startingAt_startsFactor (hi : i < tokens.length) :
    (startingAt tokens i).startsFactor ↔ Token.StartsExpression (tokens.drop i) := by
  refine startsFactor_iff_startsExpression (s := startingAt tokens i) ?_
  have hne : tokens ≠ [] := List.ne_nil_of_length_pos (by omega)
  simp [startingAt, ofList, List.getLast?_drop, hi, List.getLast?_eq_some_getLast hne]

end TokenStream

namespace Parser

open TokenStream (startingAt)

/-- How the reader of an optional expression answers at a place of the tokens. Exactly if there is
no start of an expression it gives nothing, and it stays at the place. If it gives an expression, it
has read tokens, none of which is an end of input, and it is at a later place. -/
structure AnswersAt (p : Parser (Option Expression)) (starts : Prop) (tokens : List Token)
    (i : Nat) : Prop where
  nothing_iff : (∃ t, p (startingAt tokens i) = .ok none t) ↔ ¬ starts
  stays : ∀ t, p (startingAt tokens i) = .ok none t → t = startingAt tokens i
  moves : ∀ e t, p (startingAt tokens i) = .ok (some e) t →
    ∃ j, i < j ∧ j ≤ tokens.length ∧ t = startingAt tokens j ∧
      ∀ u ∈ (tokens.drop i).take (j - i), u.kind ≠ .endOfInput

variable {p : Parser (Option Expression)} {starts : Bool} {tokens : List Token} {i : Nat}

theorem AnswersAt.of_answers
    (h : p.Ensures (Answers starts (startingAt tokens i) fun _ t => (startingAt tokens i).Passes t)
      Fails (startingAt tokens i))
    (hnone : starts = false → p (startingAt tokens i) = .ok none (startingAt tokens i))
    (hi : i < tokens.length) : AnswersAt p (starts = true) tokens i where
  nothing_iff := by
    rw [Bool.not_eq_true]
    exact ⟨fun ⟨t, ht⟩ => (h.of_ok ht).1, fun hs => ⟨_, hnone hs⟩⟩
  stays t ht := (h.of_ok ht).2
  moves e t ht := by
    obtain ⟨-, x, read, hr⟩ := h.of_ok ht
    have hahead : tokens.drop i = x :: read ++ t.ahead := hr.ahead
    have hlength := congrArg List.length hahead
    simp only [List.length_drop, List.length_append, List.length_cons] at hlength
    refine ⟨i + (x :: read).length, ?_, ?_, hr.eq_startingAt, ?_⟩
    · rw [List.length_cons]
      omega
    · rw [List.length_cons]
      omega
    · rw [Nat.add_sub_cancel_left, hahead, List.take_left]
      exact hr.noEnd

/-- At every token of a stream, the readers of optional expressions give nothing exactly if the
token cannot start a factor, and if it is no line break with an indentation and a token behind it
that can. They read nothing then, and at least one token for an expression. A primary expression is
read exactly from the tokens that can start a factor. -/
theorem answersAt_of_lt_length (fixities : FixityTable) {n : Nat} (hn : 15 ≤ n)
    {tokens : List Token} {i : Nat} (hi : i < tokens.length) :
    AnswersAt (expression fixities) (Token.StartsExpression (tokens.drop i)) tokens i ∧
      AnswersAt (expressionWithin fixities n) (Token.StartsExpression (tokens.drop i)) tokens i ∧
      (∀ band, AnswersAt (binaryWithin fixities n band) (Token.StartsExpression (tokens.drop i))
        tokens i) ∧
      AnswersAt (applicationWithin fixities n) (Token.StartsExpression (tokens.drop i)) tokens i ∧
      AnswersAt (factorWithin fixities n) (Token.StartsExpression (tokens.drop i)) tokens i ∧
      AnswersAt (primaryWithin fixities n) (tokens[i].kind.startsFactor) tokens i := by
  have hs : (startingAt tokens i).ahead ≠ [] := List.drop_eq_nil_iff.not.mpr (by omega)
  rw [← TokenStream.startingAt_startsFactor hi]
  have hfuel : 15 ≤ (startingAt tokens i).fuel := by
    rw [TokenStream.fuel]
    omega
  refine ⟨?_, ?_, fun band => ?_, ?_, ?_, ?_⟩
  · refine .of_answers ((ensures_repeated _).mpr (expressionWithin_finds _ hs)) (fun h => ?_) hi
    rw [expression, repeated, expressionWithin_eq_none h hfuel]
  · exact .of_answers (expressionWithin_finds n hs) (fun h => expressionWithin_eq_none h hn) hi
  · exact .of_answers (binaryWithin_finds n band hs)
      (fun h => binaryWithin_eq_none h (by omega) (by omega)) hi
  · exact .of_answers (applicationWithin_finds n hs)
      (fun h => applicationWithin_eq_none h (by omega)) hi
  · exact .of_answers (factorWithin_finds n hs) (fun h => factorWithin_eq_none h (by omega)) hi
  · have hcurrent : (startingAt tokens i).current = tokens[i] := by
      simp [TokenStream.current, TokenStream.peek, startingAt, hi]
    rw [← hcurrent]
    refine .of_answers ((primaryWithin_answers n _).mono ?_ fun _ _ => id)
      (fun h => primaryWithin_eq_none h (by omega)) hi
    rintro (_ | e) t ⟨hstarts, ht⟩
    · exact ⟨hstarts, ht⟩
    · obtain ⟨read, hr⟩ := ht
      refine ⟨hstarts, (TokenStream.passes_advance hs fun hk => ?_).trans hr⟩
      simp [hk, TokenKind.startsFactor] at hstarts

/-- An argument on a line that continues the one of its function, and the indentation before it. -/
theorem answersAt_of_lt_length_argument :
    let tokens := Token.row 0
      [.identifier "f", .lineBreak, .indentation "  ", .number "1", .endOfInput]
    15 ≤ 15 ∧ 1 < tokens.length ∧ Token.StartsExpression (tokens.drop 1) ∧
      ¬ Token.StartsExpression (tokens.drop 2) ∧
      (¬ ∃ t, factorWithin .standard 15 (startingAt tokens 1) = .ok none t) ∧
      (∃ e, factorWithin .standard 15 (startingAt tokens 1) = .ok (some e) (startingAt tokens 4)) ∧
      (∃ t, expression .standard (startingAt tokens 2) = .ok none t) ∧
      ∀ t, expression .standard (startingAt tokens 2) = .ok none t → t = startingAt tokens 2 := by
  intro tokens
  have hstarts : Token.StartsExpression (tokens.drop 1) :=
    .inr ⟨_, _, _, _, rfl, rfl, rfl, rfl⟩
  have hnot : ¬ Token.StartsExpression (tokens.drop 2) := by
    rintro (⟨t, rest, heq, hk⟩ | ⟨b, d, t, rest, heq, hk, -⟩)
    · cases heq
      cases hk
    · cases heq
      cases hk
  have hcontinued :=
    answersAt_of_lt_length .standard (Nat.le_refl 15) (by decide : 1 < tokens.length)
  have hindented :=
    answersAt_of_lt_length .standard (Nat.le_refl 15) (by decide : 2 < tokens.length)
  exact ⟨Nat.le_refl 15, by decide, hstarts, hnot,
    fun h => hcontinued.2.2.2.2.1.nothing_iff.mp h hstarts, ⟨_, rfl⟩,
    hindented.1.nothing_iff.mpr hnot, hindented.1.stays⟩

end Parser

end Frontend
