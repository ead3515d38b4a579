import Frontend.Proofs.Token.Brackets
import Frontend.Proofs.Token.Tiling

/-!
# Interpolations in the tokens of a text

The stack of the lexer is what replaying its tokens gives (`Lexer.Bracketed`). Since a text is only
accepted when no interpolation is left open, the interpolations of its tokens are balanced, and the
brackets inside of them are nested. The segments of a text literal stand right before and behind
them.
-/

namespace Frontend

open TokenKind (replay)

/-! ### Brackets that are no interpolations -/

theorem Symbol.closes?_ne_interpolation (s : Symbol) : s.closes? ≠ some .interpolation := by
  cases s <;> simp [closes?]

namespace TokenKind

theorem opens?_of_ofChar? {c : Char} {s : Symbol} (h : Symbol.ofChar? c = some s) :
    (symbol s).opens? = s.opens? := by
  have hplain := isPlain_of_ofChar? h
  cases s <;> first | rfl | cases hplain

theorem closes?_of_ofChar? {c : Char} {s : Symbol} (h : Symbol.ofChar? c = some s) :
    (symbol s).closes? = s.closes? := by
  have hplain := isPlain_of_ofChar? h
  cases s <;> first | rfl | cases hplain

/-- Words are no brackets. -/
theorem wordKind_no_bracket (k : WordClass) (word : String) :
    (Lexer.wordKind k word).opens? = none ∧ (Lexer.wordKind k word).closes? = none := by
  have hwords : ∀ s ∈ Symbol.words, (symbol s).opens? = none ∧ (symbol s).closes? = none := by
    decide
  rcases wordKind_cases k word with ⟨s, hs, -, hk⟩ | hk | hk
  · rw [hk]
    exact hwords s hs
  · rw [hk]
    exact ⟨rfl, rfl⟩
  · rw [hk]
    exact ⟨rfl, rfl⟩

end TokenKind

/-! ### The invariant of the lexer -/

namespace Lexer

variable {named? : String → Option Char} {s t : Lexer} {kind : TokenKind} {text : List Char}

/-- The kinds of the tokens read so far, in their order. -/
def kinds (s : Lexer) : List TokenKind := (s.tokens.map (·.kind)).reverse

/-- The kinds of the open brackets, the innermost first. -/
def stack (s : Lexer) : List BracketKind := s.brackets.map (·.kind)

/-- The open brackets are those that replaying the tokens gives. -/
structure Bracketed (s : Lexer) : Prop where
  stack_eq : s.stack = s.kinds.foldl replay []
  closes : Closes [] s.kinds

theorem Bracketed.add (h : s.Bracketed) (hkinds : t.kinds = s.kinds ++ [kind])
    (hstack : t.stack = replay s.stack kind)
    (hclose : kind.closes? = some .interpolation → s.stack.head? = some .interpolation) :
    t.Bracketed where
  stack_eq := by rw [hstack, hkinds, List.foldl_append, ← h.stack_eq]; rfl
  closes := by
    rw [hkinds, closes_append, ← h.stack_eq]
    exact ⟨h.closes, hclose, trivial⟩

@[simp] theorem kinds_emit : (s.emit kind text).kinds = s.kinds ++ [kind] := by
  simp [kinds, Lexer.emit]

@[simp] theorem stack_emit : (s.emit kind text).stack = s.stack := rfl

@[simp] theorem kinds_close {bracket : BracketKind} : (s.close bracket).kinds = s.kinds := by
  rw [kinds, tokens_close, kinds]

theorem stack_close {bracket : BracketKind} :
    (s.close bracket).stack =
      if s.stack.head? = some bracket then s.stack.tail else s.stack := by
  rw [Lexer.close]
  split
  · next b rest hb =>
    split
    · next hk => simp [stack, hb, hk]
    · next hk => simp [stack, hb, hk]
  · next hb => simp [stack, hb]

/-- A token that is no bracket. -/
theorem Bracketed.emit (h : s.Bracketed) (hopens : kind.opens? = none)
    (hcloses : kind.closes? = none) : (s.emit kind text).Bracketed :=
  h.add kinds_emit (replay_of_none hopens hcloses).symm (by simp [hcloses])

theorem Bracketed.open {bracket : BracketKind} {span : Span} (h : s.Bracketed)
    (hopens : kind.opens? = some bracket) : ((s.push bracket span).emit kind text).Bracketed :=
  h.add kinds_emit (replay_of_opens? hopens).symm (by simp [TokenKind.closes?_of_opens? hopens])

theorem Bracketed.close {bracket : BracketKind} (h : s.Bracketed)
    (hcloses : kind.closes? = some bracket)
    (hinner : bracket = .interpolation → s.stack.head? = some .interpolation) :
    ((s.close bracket).emit kind text).Bracketed :=
  h.add (by rw [kinds_emit, kinds_close])
    (by rw [replay_of_closes? hcloses, ← stack_close, stack_emit])
    fun hk => hinner (Option.some.inj (hcloses.symm.trans hk))

theorem Bracketed.join {last : Token} {tokens : List Token} {cursor : Cursor} (h : s.Bracketed)
    (htokens : s.tokens = last :: tokens) (hlast : last.kind = .symbol .backslash) :
    Bracketed { s with cursor := cursor, tokens := tokens } := by
  have hkinds : s.kinds = (tokens.map (·.kind)).reverse ++ [.symbol .backslash] := by
    simp [kinds, htokens, hlast]
  have hstack := h.stack_eq
  have hcloses := h.closes
  rw [hkinds, List.foldl_append] at hstack
  rw [hkinds, closes_append] at hcloses
  exact ⟨hstack, hcloses.1⟩

theorem Bracketed.move (h : s.Bracketed) (hmove : Move named? s t) : t.Bracketed := by
  cases hmove with
  | join _ htokens hlast => exact h.join htokens hlast
  | feed | blank | lineComment | blockComment => exact ⟨h.stack_eq, h.closes⟩
  | lineBreak | indentation | number | character | dotAccess | text => exact h.emit rfl rfl
  | @word k c ahead =>
    obtain ⟨hopens, hcloses⟩ :=
      TokenKind.wordKind_no_bracket k (String.ofList (c :: wordTail k ahead))
    exact h.emit hopens hcloses
  | openBracket _ hc hopens => exact h.open ((TokenKind.opens?_of_ofChar? hc).trans hopens)
  | closeBracket _ hc hcloses _ =>
    apply h.close ((TokenKind.closes?_of_ofChar? hc).trans hcloses)
    rintro rfl
    exact absurd hcloses (Symbol.closes?_ne_interpolation _)
  | separator _ hc hopens hcloses =>
    exact h.emit ((TokenKind.opens?_of_ofChar? hc).trans hopens)
      ((TokenKind.closes?_of_ofChar? hc).trans hcloses)
  | firstSegment => exact (h.emit rfl rfl).open rfl
  | lastSegment _ hbrackets =>
    exact (h.close rfl fun _ => by simp [stack, hbrackets]).emit rfl rfl
  | innerSegment _ hbrackets =>
    exact ((h.close rfl fun _ => by simp [stack, hbrackets]).emit rfl rfl).open rfl

theorem bracketed_ofText (source : List Char) : (ofText source).Bracketed := ⟨rfl, trivial⟩

end Lexer

/-! ### Whole texts -/

section Whole

variable {named? : String → Option Char} {source : String} {tokens : List Token}

/-- Replaying the tokens of a text, no interpolation is closed but the innermost bracket, and none
is left open. -/
theorem closes_of_lexWith (h : lexWith named? source = .ok tokens) :
    Closes [] (tokens.map (·.kind)) ∧ .interpolation ∉ (tokens.map (·.kind)).foldl replay [] := by
  obtain ⟨t, ⟨hstack, hcloses⟩, -, hfinish⟩ :=
    Lexer.run_preserves (fun _ _ hs hmove => hs.move hmove) (Lexer.bracketed_ofText _) h
  rw [Lexer.finish] at hfinish
  split at hfinish
  · cases hfinish
  · next hfind =>
    cases hfinish
    have hkinds : t.tokens.reverse.map (·.kind) = t.kinds := by simp [Lexer.kinds]
    rw [List.map_append, hkinds, closes_append, List.foldl_append, ← hstack]
    refine ⟨⟨hcloses, by simp [Closes, TokenKind.closes?]⟩, ?_⟩
    intro hmem
    obtain ⟨b, hb, hk⟩ := List.mem_map.mp hmem
    simpa [hk] using List.find?_eq_none.mp hfind b hb

/-- How interpolations stand among the tokens of a text. -/
structure Interpolated (tokens : List Token) : Prop where
  /-- The brackets of interpolations are balanced. -/
  balanced : Balanced (tokens.map (·.kind))
  /-- An interpolation is opened behind a segment of a text literal. -/
  textBefore : ∀ before t after, tokens = before ++ t :: after →
    t.kind = .symbol .interpolationOpen → ∃ u ∈ before.getLast?, u.kind.isText
  /-- An interpolation is closed before a segment of a text literal. -/
  textAfter : ∀ before t after, tokens = before ++ t :: after →
    t.kind = .symbol .interpolationClose → ∃ u ∈ after.head?, u.kind.isText
  /-- Between the brackets of an interpolation, every bracket that is opened is closed by one of its
  own kind. -/
  nested : ∀ before inner after, tokens.map (·.kind) =
      before ++ .symbol .interpolationOpen :: (inner ++ .symbol .interpolationClose :: after) →
    Balanced inner → Nested inner

theorem Interpolated.of_lexWith (h : lexWith named? source = .ok tokens) : Interpolated tokens := by
  obtain ⟨hcut, init, htokens, -⟩ := cut_of_lexWith h
  obtain ⟨hcloses, hend⟩ := closes_of_lexWith h
  refine ⟨hcloses.balanced hend, fun _ _ _ hsplit ht => hcut.isText_before hsplit ht, ?_, ?_⟩
  · intro before t after hsplit ht
    apply hcut.isText_after hsplit ht
    -- The last token is the end of input and closes nothing.
    rintro rfl
    obtain ⟨-, hlast⟩ := List.append_inj' (hsplit.symm.trans htokens) rfl
    obtain rfl := List.singleton_inj.mp hlast
    cases ht
  · intro before inner after hsplit hinner
    rw [hsplit] at hcloses
    exact hcloses.nested hinner

end Whole

end Frontend
