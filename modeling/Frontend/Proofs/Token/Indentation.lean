import Frontend.Proofs.Token.Interpolation

/-!
# Indentations

An indentation is all of the spaces and tabs at the start of a line. It stands right behind the line
break before it, or at the start of the source, unless its line is joined to one that holds nothing
but a backslash: the backslash is no token any more when the indentation is read, and the latest
token is the line break before both lines.
-/

namespace Frontend

open Position (origin)
open TokenKind (replay)

/-! ### Places at the start of a line -/

/-- The place behind the token before, or the start of the source. -/
def placeBehind (before? : Option Token) : Position := (before?.map (·.span.stop)).getD origin

/-- The gap ends with a line that is joined to the next one: a backslash, trivia and a line feed. -/
def EndsJoined (gap rest : List Char) : Prop :=
  ∃ front inner, gap = front ++ '\\' :: (inner ++ ['\n']) ∧
    Trivia front ('\\' :: (inner ++ '\n' :: rest)) ∧ Trivia inner ('\n' :: rest)

/-- A line starts right behind the token before, or behind trivia that ends with a joined line. -/
def StartsLine (source : List Char) (before? : Option Token) (p : Position) : Prop :=
  p = placeBehind before? ∨
    ∃ gap rest, Span.Reads source ⟨placeBehind before?, p⟩ gap rest ∧ EndsJoined gap rest

/-- How an indentation lies in the source, behind the token before it. -/
structure Indented (source : List Char) (before? : Option Token) (t : Token) : Prop where
  /-- It is a run of spaces and tabs that goes on as far as possible. -/
  blanks : ∃ blanks rest, t.span.Reads source blanks rest ∧
    t.kind = .indentation (String.ofList blanks) ∧ blanks ≠ [] ∧
    (∀ c ∈ blanks, Lexer.isIndent c = true) ∧ ∀ c ∈ rest.head?, Lexer.isIndent c = false
  column : t.span.start.column = 0
  lineBreak : ∀ u ∈ before?, u.kind = .lineBreak
  start : StartsLine source before? t.span.start

/-- Line breaks and indentations. -/
def TokenKind.isLayout : TokenKind → Bool
  | lineBreak     => true
  | indentation _ => true
  | _             => false

theorem TokenKind.isLayout_wordKind (k : WordClass) (word : String) :
    (Lexer.wordKind k word).isLayout = false := by
  rcases wordKind_cases k word with ⟨s, -, -, hk⟩ | hk | hk
  · rw [hk]
    rfl
  · rw [hk]
    rfl
  · rw [hk]
    rfl

theorem Position.column_after_ne_zero (p : Position) {text : List Char} (hne : text ≠ [])
    (hlast : text.getLast hne ≠ '\n') : (p.after text).column ≠ 0 := by
  rw [← List.dropLast_append_getLast hne, after_append, after_cons, after_nil, next, if_neg hlast]
  exact Nat.succ_ne_zero _

theorem Cut.placeBehind_eq {complete : Bool} {before rest : List Char} {tokens : List Token}
    (h : Cut complete before rest tokens) : placeBehind tokens.head? = origin.after before := by
  cases tokens with
  | nil =>
    cases h
    rfl
  | cons t tokens => exact h.stop_eq

/-- How the layout is, the latest token first: line breaks are outside of brackets of the language
itself, and indentations are at the start of a line. -/
def LaidOut (source : List Char) : List Token → Prop
  | []           => True
  | t :: earlier =>
    (t.kind = .lineBreak →
      ∀ b ∈ ((earlier.map (·.kind)).reverse.foldl replay []).head?, b = .interpolation) ∧
    (t.kind.isIndentation → Indented source earlier.head? t) ∧ LaidOut source earlier

theorem LaidOut.cons {source : List Char} {earlier : List Token} {t : Token}
    (ht : t.kind.isLayout = false) (h : LaidOut source earlier) :
    LaidOut source (t :: earlier) := by
  refine ⟨fun hk => ?_, fun hk => ?_, h⟩
  · simp [hk, TokenKind.isLayout] at ht
  · obtain ⟨blanks, hk⟩ := TokenKind.isIndentation_iff.mp hk
    simp [hk, TokenKind.isLayout] at ht

theorem LaidOut.indented {source : List Char} {later earlier : List Token} {t : Token}
    (h : LaidOut source (later ++ t :: earlier)) (ht : t.kind.isIndentation) :
    Indented source earlier.head? t := by
  induction later with
  | nil => exact h.2.1 ht
  | cons u later ih => exact ih h.2.2

/-! ### The invariant of the lexer -/

namespace Lexer

variable {named? : String → Option Char} {source : List Char} {s t : Lexer} {kind : TokenKind}
  {text : List Char}

theorem inBrackets_eq_false_iff :
    s.inBrackets = false ↔ ∀ b ∈ s.stack.head?, b = .interpolation := by
  rw [inBrackets, stack]
  cases s.brackets <;> simp

/-- What holds between two moves: where a line starts, and how the layout is. -/
structure Lines (source : List Char) (s : Lexer) : Prop where
  resting : s.Resting source
  bracketed : s.Bracketed
  starts : s.cursor.position.column = 0 → (∀ u ∈ s.tokens.head?, u.kind = .lineBreak) →
    StartsLine source s.tokens.head? s.cursor.position
  laidOut : LaidOut source s.tokens

/-- Behind a line break, or without any token, no bracket of the language itself is open. -/
theorem Lines.inBrackets_eq_false (h : s.Lines source)
    (hlast : ∀ u ∈ s.tokens.head?, u.kind = .lineBreak) : s.inBrackets = false := by
  rw [inBrackets_eq_false_iff, h.bracketed.stack_eq, kinds]
  have hlaidOut := h.laidOut
  cases htokens : s.tokens with
  | nil => simp
  | cons u tokens =>
    rw [htokens] at hlast hlaidOut
    have hu : u.kind = .lineBreak := hlast u rfl
    rw [List.map_cons, List.reverse_cons, List.foldl_append, hu]
    exact hlaidOut.1 hu

/-- The latest token is not part of the layout. -/
theorem Lines.of_isLayout {u : Token} {tokens : List Token} (hresting : t.Resting source)
    (hbracketed : t.Bracketed) (htokens : t.tokens = u :: tokens) (hu : u.kind.isLayout = false)
    (hlaidOut : LaidOut source tokens) : t.Lines source where
  resting := hresting
  bracketed := hbracketed
  starts _ hlast := by
    have hbreak := hlast u (by simp [htokens])
    simp [hbreak, TokenKind.isLayout] at hu
  laidOut := htokens ▸ .cons hu hlaidOut

/-- Behind a joined line a line starts, though the backslash is no token any more. -/
theorem Resting.startsLine_join {last : Token} {tokens : List Token} {rest : List Char}
    (h : s.Resting source) (hahead : s.ahead = '\n' :: rest) (htokens : s.tokens = last :: tokens)
    (hlast : last.kind = .symbol .backslash) :
    StartsLine source tokens.head? (s.cursor.position.after ['\n']) := by
  obtain ⟨⟨before, gap, hsource, hcut, hgap, hposition, -⟩, -⟩ := h
  rw [htokens] at hcut
  obtain ⟨before₀, gap₀, text, rfl, hcut₀, hgap₀, hspelled, -, -⟩ := hcut.exists_latest
  rw [hlast] at hspelled
  obtain rfl : text = ['\\'] := hspelled
  rw [hahead] at hsource hgap₀ hgap
  refine .inr ⟨gap₀ ++ '\\' :: (gap ++ ['\n']), rest, ⟨before₀, by simp [hsource], ?_⟩, gap₀, gap,
    rfl, by simpa using hgap₀, hgap⟩
  rw [hcut₀.placeBehind_eq, hposition, Span.ofText, ← Position.after_append,
    ← Position.after_append]
  simp

/-- What is read at the start of a line lies there. -/
theorem Lines.indented {blanks rest : List Char} (h : s.Lines source)
    (hahead : s.ahead = blanks ++ rest) (hstart : s.atLineStart = true) (hne : blanks ≠ [])
    (hall : ∀ c ∈ blanks, isIndent c = true) (hrest : ∀ c ∈ rest.head?, isIndent c = false) :
    Indented source s.tokens.head? ⟨.indentation (String.ofList blanks), s.spanOf blanks⟩ := by
  simp only [atLineStart, Bool.and_eq_true, beq_iff_eq] at hstart
  obtain ⟨⟨hcolumn, -⟩, hlast⟩ := hstart
  have hlast : ∀ u ∈ s.tokens.head?, u.kind = .lineBreak := by
    intro u hu
    obtain ⟨tokens, htokens⟩ := List.head?_eq_some_iff.mp hu
    simpa [lastIs, htokens] using hlast
  have hreads : (s.spanOf blanks).Reads source blanks rest := h.resting.at.reads_spanOf hahead
  exact ⟨⟨blanks, rest, hreads, rfl, hne, hall, hrest⟩, hcolumn, hlast, h.starts hcolumn hlast⟩

theorem Lines.move (h : s.Lines source) (hmove : Move named? s t) : t.Lines source := by
  have hresting := h.resting.move hmove
  have hbracketed := h.bracketed.move hmove
  cases hmove with
  | @join rest last tokens hahead htokens hlast =>
    refine ⟨hresting, hbracketed, fun _ _ => ?_, ?_⟩
    · exact h.resting.startsLine_join hahead htokens hlast
    · have hlaidOut := h.laidOut
      rw [htokens] at hlaidOut
      exact hlaidOut.2.2
  | feed hahead hlast hin =>
    refine ⟨hresting, hbracketed, fun _ hlast => ?_, h.laidOut⟩
    rw [h.inBrackets_eq_false hlast] at hin
    cases hin
  | lineBreak hahead hlast hin =>
    refine ⟨hresting, hbracketed, fun _ _ => .inl rfl, fun _ => ?_, fun hindent => ?_, h.laidOut⟩
    · rw [← Lexer.kinds, ← h.bracketed.stack_eq]
      exact inBrackets_eq_false_iff.mp hin
    · cases hindent
  | indentation hahead hstart hne hall hrest =>
    refine ⟨hresting, hbracketed, fun _ hlast => ?_, fun hbreak => ?_, fun _ => ?_, h.laidOut⟩
    · cases hlast _ rfl
    · cases hbreak
    · exact h.indented hahead hstart hne hall hrest
  | blank hahead hc hline hstart =>
    refine ⟨hresting, hbracketed, fun hcolumn => absurd hcolumn ?_, h.laidOut⟩
    exact Position.column_after_ne_zero _ (List.cons_ne_nil _ _) hline
  | lineComment hahead hbody hrest =>
    refine ⟨hresting, hbracketed, fun hcolumn => absurd hcolumn ?_, h.laidOut⟩
    refine Position.column_after_ne_zero _ (List.cons_ne_nil _ _) fun hlast => ?_
    have hmem := hlast ▸ List.getLast_mem (List.cons_ne_nil '/' ('/' :: _))
    exact hbody (by simpa using hmem)
  | blockComment hahead hbody =>
    obtain ⟨inner, rfl, -⟩ := hbody
    refine ⟨hresting, hbracketed, fun hcolumn => absurd hcolumn ?_, h.laidOut⟩
    exact Position.column_after_ne_zero _ (List.cons_ne_nil _ _) (by simp)
  | number | character | dotAccess | text =>
    exact .of_isLayout hresting hbracketed rfl rfl h.laidOut
  | word =>
    exact .of_isLayout hresting hbracketed rfl (TokenKind.isLayout_wordKind _ _) h.laidOut
  | openBracket | separator => exact .of_isLayout hresting hbracketed rfl rfl h.laidOut
  | closeBracket =>
    exact .of_isLayout hresting hbracketed rfl rfl ((tokens_close s _).symm ▸ h.laidOut)
  | firstSegment => exact .of_isLayout hresting hbracketed rfl rfl (.cons rfl h.laidOut)
  | lastSegment =>
    exact .of_isLayout hresting hbracketed rfl rfl (.cons rfl ((tokens_close s _).symm ▸ h.laidOut))
  | innerSegment =>
    refine .of_isLayout hresting hbracketed rfl rfl (.cons rfl (.cons rfl ?_))
    exact (tokens_close s _).symm ▸ h.laidOut

end Lexer

/-! ### Whole texts -/

/-- Every indentation of a text that the lexer accepts is a run of spaces and tabs in column zero
that goes on as far as possible. It stands right behind a line break or at the start of the source,
or behind trivia that ends with a line joined to its own. -/
theorem indented_of_lexWith {named? : String → Option Char} {source : String}
    {tokens before after : List Token} {t : Token} (h : lexWith named? source = .ok tokens)
    (hsplit : tokens = before ++ t :: after) (ht : t.kind.isIndentation) :
    Indented source.toList before.getLast? t := by
  have hstart : (Lexer.ofText source.toList).Lines source.toList :=
    ⟨Lexer.resting_ofText _, Lexer.bracketed_ofText _, fun _ _ => .inl rfl, trivial⟩
  obtain ⟨s, hlines, -, hfinish⟩ :=
    Lexer.run_preserves (fun _ _ hs hmove => hs.move hmove) hstart h
  rw [Lexer.finish] at hfinish
  split at hfinish
  · cases hfinish
  · cases hfinish
    have htokens := congrArg List.reverse hsplit
    simp only [List.reverse_append, List.reverse_reverse, List.reverse_cons, List.reverse_nil,
      List.nil_append, List.append_assoc, List.singleton_append] at htokens
    rw [← List.head?_reverse]
    -- The end of input is no indentation, so that the indentation stands before it.
    cases hafter : after.reverse with
    | nil =>
      rw [hafter] at htokens
      obtain ⟨rfl, -⟩ := List.cons.inj htokens
      cases ht
    | cons u later =>
      rw [hafter] at htokens
      obtain ⟨-, htokens⟩ := List.cons.inj htokens
      have hlaidOut := hlines.laidOut
      rw [htokens] at hlaidOut
      exact hlaidOut.indented ht

/-- An indentation right behind a line break. -/
theorem indented_behind_lineBreak :
    let tokens : List Token :=
      [⟨.identifier "x", ⟨0, 0, 0⟩, ⟨1, 0, 1⟩⟩, ⟨.lineBreak, ⟨1, 0, 1⟩, ⟨2, 1, 0⟩⟩,
        ⟨.indentation "  ", ⟨2, 1, 0⟩, ⟨4, 1, 2⟩⟩, ⟨.identifier "y", ⟨4, 1, 2⟩, ⟨5, 1, 3⟩⟩,
        ⟨.endOfInput, ⟨5, 1, 3⟩, ⟨5, 1, 3⟩⟩]
    lex "x\n  y" = .ok tokens ∧
      Indented "x\n  y".toList (some ⟨.lineBreak, ⟨1, 0, 1⟩, ⟨2, 1, 0⟩⟩)
        ⟨.indentation "  ", ⟨2, 1, 0⟩, ⟨4, 1, 2⟩⟩ := by
  intro tokens
  have h : lex "x\n  y" = .ok tokens := by decide +kernel
  have hsplit : tokens = tokens.take 2 ++
      ⟨.indentation "  ", ⟨2, 1, 0⟩, ⟨4, 1, 2⟩⟩ :: tokens.drop 3 := rfl
  exact ⟨h, indented_of_lexWith h hsplit rfl⟩

/-- Not all indentations stand at the start of the source or right behind a line break: one does
not whose line is joined to a first line that holds only the backslash. -/
theorem not_forall_indentation_behind_lineBreak :
    ¬ ∀ (source : String) (tokens before after : List Token) (t : Token),
      lex source = .ok tokens → tokens = before ++ t :: after → t.kind.isIndentation →
        (before = [] ∧ t.span.start.offset = 0) ∨
          ∃ u ∈ before.getLast?, u.kind = .lineBreak ∧ u.span.stop = t.span.start := by
  intro hall
  have h : lex "\\\n  x" = .ok
      [⟨.indentation "  ", ⟨2, 1, 0⟩, ⟨4, 1, 2⟩⟩, ⟨.identifier "x", ⟨4, 1, 2⟩, ⟨5, 1, 3⟩⟩,
        ⟨.endOfInput, ⟨5, 1, 3⟩, ⟨5, 1, 3⟩⟩] := by decide +kernel
  rcases hall _ _ [] _ _ h rfl rfl with ⟨-, hoffset⟩ | ⟨u, hu, -⟩
  · cases hoffset
  · cases hu

end Frontend
