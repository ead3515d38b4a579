import Frontend.Proofs.Source.Order
import Frontend.Proofs.Token.Interpolation
import Frontend.Proofs.Token.LineEnd

/-!
# Texts behind other texts

What the lexer reads behind a line break it reads as if the source started there: all positions are
moved by the bytes and lines before, and nothing else of what was read before makes a difference
(`run_behind`). Together with what is known of the ends of lines, the tokens of two texts with a
line feed between them are those of the first text, a line break, and those of the second text.
-/

namespace Frontend

open TokenKind (replay)

/-! ### Moved positions -/

/-- A place of a text that stands behind a place at the start of a line. -/
def Position.behind (p base : Position) : Position :=
  ⟨base.offset + p.offset, base.line + p.line, p.column⟩

/-- A span of a text that stands behind a place. -/
def Span.behind (s : Span) (base : Position) : Span := ⟨s.start.behind base, s.stop.behind base⟩

/-- A token of a text that stands behind a place. -/
def Token.behind (t : Token) (base : Position) : Token := ⟨t.kind, t.span.behind base⟩

/-- An error in a text that stands behind a place. -/
def LexicalError.behind (e : LexicalError) (base : Position) : LexicalError :=
  ⟨e.value, Span.behind e.span base⟩

/-- What is read from a text that stands behind a place: the value is changed, an error moved. -/
def relocate {α β : Type} (base : Position) (f : α → β) :
    Except LexicalError α → Except LexicalError β
  | .ok a    => .ok (f a)
  | .error e => .error (LexicalError.behind e base)

variable {base : Position}

theorem ite_eq_relocate {α β : Type} {f : α → β} {p : Prop} [Decidable p]
    {x y : Except LexicalError α} {x' y' : Except LexicalError β} (hx : x' = relocate base f x)
    (hy : y' = relocate base f y) :
    (if p then x' else y') = relocate base f (if p then x else y) := by
  split
  · exact hx
  · exact hy

theorem Position.next_behind (p : Position) (c : Char) :
    (p.next c).behind base = (p.behind base).next c := by
  unfold Position.behind Position.next
  split <;> simp [Nat.add_assoc]

theorem Position.after_behind (p : Position) (text : List Char) :
    (p.after text).behind base = (p.behind base).after text := by
  induction text generalizing p with
  | nil => rfl
  | cons c text ih => rw [after_cons, after_cons, ih, next_behind]

theorem Span.ofText_behind (p : Position) (text : List Char) :
    (ofText p text).behind base = .ofText (p.behind base) text := by
  rw [Span.behind, ofText, ofText, Position.after_behind]

namespace Lexer

variable {named? : String → Option Char} {s t : Lexer} {l : Token} {earlier : List Token} {c : Char}
  {rest text : List Char} {kind : TokenKind}

/-! ### Moved states -/

/-- The same state behind a place of a source and the tokens before it. -/
def behind (s : Lexer) (base : Position) (earlier : List Token) : Lexer where
  cursor := ⟨s.cursor.position.behind base, s.ahead⟩
  tokens := s.tokens.map (·.behind base) ++ earlier
  brackets := s.brackets.map fun b => ⟨b.kind, b.span.behind base⟩

theorem ahead_behind : (s.behind base earlier).ahead = s.ahead := rfl

theorem spanOf_behind : (s.behind base earlier).spanOf text = (s.spanOf text).behind base :=
  (Span.ofText_behind _ _).symm

theorem skip_behind : (s.behind base earlier).skip text = (s.skip text).behind base earlier := by
  simp only [skip, behind, Cursor.pass, Position.after_behind]

theorem emit_behind :
    (s.behind base earlier).emit kind text = (s.emit kind text).behind base earlier := by
  rw [emit, spanOf_behind]
  simp only [emit, behind, Cursor.pass, Position.after_behind, List.map_cons, List.cons_append,
    Token.behind]

theorem push_behind {kind : BracketKind} {span : Span} :
    (s.behind base earlier).push kind (span.behind base) =
      (s.push kind span).behind base earlier := rfl

theorem close_behind {kind : BracketKind} :
    (s.behind base earlier).close kind = (s.close kind).behind base earlier := by
  obtain ⟨cursor, tokens, brackets⟩ := s
  cases brackets with
  | nil => rfl
  | cons b brackets =>
    simp only [close, behind, List.map_cons]
    split <;> rfl

theorem inBrackets_behind : (s.behind base earlier).inBrackets = s.inBrackets := by
  obtain ⟨cursor, tokens, brackets⟩ := s
  cases brackets <;> rfl

/-! ### Moved steps -/

theorem indentation_behind :
    (s.behind base earlier).indentation = s.indentation.behind base earlier :=
  emit_behind

theorem lineComment_behind :
    (s.behind base earlier).lineComment = s.lineComment.behind base earlier :=
  skip_behind

theorem reserved_behind {symbol : Symbol} :
    (s.behind base earlier).reserved symbol c = (s.reserved symbol c).behind base earlier := by
  cases symbol <;>
    simp only [reserved, Symbol.opens?, Symbol.closes?, spanOf_behind, push_behind, close_behind,
      emit_behind]

theorem number_behind :
    (s.behind base earlier).number = relocate base (·.behind base earlier) s.number := by
  rw [number, number, ahead_behind]
  cases Number.read s.ahead with
  | ok text => exact congrArg Except.ok emit_behind
  | error e =>
    cases e with
    | finalDot text =>
      simp only [relocate, LexicalError.behind, Span.behind, Span.empty, Position.after_behind]
      rfl
    | severalDots text =>
      simp only [relocate, LexicalError.behind, Span.ofText_behind, Position.after_behind]
      rfl

theorem segment_behind {lead : List Char} {quote : Span} :
    (s.behind base earlier).segment named? lead (quote.behind base) =
      relocate base (·.behind base earlier) (s.segment named? lead quote) := by
  simp only [segment, ahead_behind, emit_behind]
  split <;> rfl

theorem text_behind : (s.behind base earlier).text named? =
    relocate base (·.behind base earlier) (s.text named?) := by
  rw [text, text, spanOf_behind, segment_behind]

theorem character_behind : (s.behind base earlier).character named? =
    relocate base (·.behind base earlier) (s.character named?) := by
  simp only [character, ahead_behind, spanOf_behind, emit_behind]
  split
  · rfl
  · split <;> rfl

theorem afterWord_behind :
    (s.behind base earlier).afterWord = relocate base (·.behind base earlier) s.afterWord := by
  rw [afterWord, afterWord, ahead_behind]
  split
  · split
    · exact congrArg Except.ok emit_behind
    · split
      · exact number_behind
      · rfl
  · rfl

theorem word_behind : (s.behind base earlier).word c rest =
    relocate base (·.behind base earlier) (s.word c rest) := by
  simp only [word, spanOf_behind, emit_behind, afterWord_behind]
  split <;> rfl

theorem blockComment_behind : (s.behind base earlier).blockComment =
    relocate base (·.behind base earlier) s.blockComment := by
  rw [blockComment, blockComment, ahead_behind, spanOf_behind]
  split
  · exact congrArg Except.ok skip_behind
  · rfl

theorem resume_behind {quote : Span} :
    (s.behind base earlier).resume named? (quote.behind base) =
      relocate base (·.behind base earlier) (s.resume named? quote) := by
  rw [resume, resume, close_behind, emit_behind, segment_behind]

/-! Behind a line break, the layout has the same meaning as at the start of a source. -/

theorem lastIs_behind (hl : l.kind = .lineBreak) (hkind : kind ≠ .lineBreak) :
    (s.behind base (l :: earlier)).lastIs kind = s.lastIs kind := by
  obtain ⟨cursor, tokens, brackets⟩ := s
  cases tokens with
  | nil => simp [lastIs, behind, hl, hkind.symm]
  | cons u tokens => rfl

theorem atLineStart_behind (hl : l.kind = .lineBreak) :
    (s.behind base (l :: earlier)).atLineStart = s.atLineStart := by
  rw [atLineStart, atLineStart, inBrackets_behind]
  obtain ⟨cursor, tokens, brackets⟩ := s
  cases tokens with
  | nil => simp [lastIs, behind, Position.behind, hl]
  | cons u tokens => rfl

theorem lineBreak_behind (hl : l.kind = .lineBreak) :
    (s.behind base (l :: earlier)).lineBreak = s.lineBreak.behind base (l :: earlier) := by
  rw [lineBreak, lineBreak, lastIs_behind hl (by simp), inBrackets_behind, skip_behind, emit_behind]
  split
  · next hlast =>
    obtain ⟨t, tokens, htokens, -⟩ := exists_tokens_of_lastIs hlast
    simp [behind, htokens]
  · split <;> rfl

theorem step_behind (hl : l.kind = .lineBreak) :
    (s.behind base (l :: earlier)).step named? c rest =
      relocate base (·.behind base (l :: earlier)) (s.step named? c rest) := by
  have hbrackets : (s.behind base (l :: earlier)).brackets =
      s.brackets.map fun b => ⟨b.kind, b.span.behind base⟩ := rfl
  rw [step, step, atLineStart_behind hl, hbrackets]
  refine ite_eq_relocate (congrArg Except.ok (lineBreak_behind hl)) ?_
  refine ite_eq_relocate (congrArg Except.ok indentation_behind) ?_
  refine ite_eq_relocate (congrArg Except.ok skip_behind) ?_
  refine ite_eq_relocate text_behind (ite_eq_relocate character_behind ?_)
  refine ite_eq_relocate number_behind ?_
  refine ite_eq_relocate (congrArg Except.ok lineComment_behind) ?_
  refine ite_eq_relocate blockComment_behind ?_
  -- A bracket that closes an interpolation is told by the innermost open bracket.
  rcases s.brackets with _ | ⟨⟨kind, quote⟩, brackets⟩
  · cases Symbol.ofChar? c with
    | none => exact word_behind
    | some symbol => exact congrArg Except.ok reserved_behind
  · rcases Symbol.ofChar? c with _ | symbol
    · cases kind <;> exact word_behind
    · cases kind <;> cases symbol <;>
        first | exact congrArg Except.ok reserved_behind | exact resume_behind

/-! ### Moved runs -/

theorem finish_behind : (s.behind base earlier).finish =
    relocate base (fun tokens => earlier.reverse ++ tokens.map (·.behind base)) s.finish := by
  have hfind : (s.behind base earlier).brackets.find? (·.kind == .interpolation) =
      (s.brackets.find? (·.kind == .interpolation)).map fun b => ⟨b.kind, b.span.behind base⟩ :=
    List.find?_map
  rw [finish, finish, hfind]
  cases s.brackets.find? (·.kind == .interpolation) with
  | some b => rfl
  | none =>
    simp [relocate, behind, Token.behind, Span.behind, Span.empty]

/-- Behind a line break the lexer reads what it reads from the start of a source. -/
theorem run_behind (hl : l.kind = .lineBreak) : (s.behind base (l :: earlier)).run named? =
    relocate base (fun tokens => (l :: earlier).reverse ++ tokens.map (·.behind base))
      (s.run named?) := by
  fun_induction run named? s with
  | case1 s ha =>
    have ha' : (s.behind base (l :: earlier)).ahead = [] := ha
    rw [run_of_nil ha', finish_behind]
  | case2 s c rest ha e he =>
    have ha' : (s.behind base (l :: earlier)).ahead = c :: rest := ha
    rw [run_of_cons ha', step_behind hl, he]
    rfl
  | case3 s c rest ha t ht ih =>
    have ha' : (s.behind base (l :: earlier)).ahead = c :: rest := ha
    rw [run_of_cons ha', step_behind hl, ht]
    exact ih

/-- At the line feed behind a text the lexer comes to a state as at the start of a source, behind
the tokens of the text and a line break. -/
theorem lineBreak_extend_eq_behind (ha : s.ahead = []) (hbrackets : s.brackets = [])
    (hlast : ∀ t ∈ s.tokens.head?, t.kind ≠ .symbol .backslash) (more : List Char) :
    (s.extend ('\n' :: more)).lineBreak =
      (ofText more).behind (s.cursor.position.after ['\n'])
        (⟨.lineBreak, s.spanOf ['\n']⟩ :: s.tokens) := by
  have hbackslash : s.lastIs (.symbol .backslash) = false := by
    rw [lastIs]
    cases htokens : s.tokens with
    | nil => rfl
    | cons t tokens => simpa using hlast t (by simp [htokens])
  have hout : s.inBrackets = false := by simp [inBrackets, hbrackets]
  have hahead : s.cursor.ahead = [] := ha
  rw [lineBreak, lastIs_extend, if_neg (by simp [hbackslash]), inBrackets_extend,
    if_neg (by simp [hout])]
  simp [emit, extend, behind, ofText, Cursor.ofText, Cursor.pass, spanOf, Span.ofText, hahead,
    hbrackets, Position.behind, Position.next, Position.origin]

end Lexer

/-! ### Texts with a line feed between them -/

open Position (counted)

/-- Reading the source comes to its end in the state `s`. -/
def Lexer.EndsIn (named? : String → Option Char) (source : String) (s : Lexer) : Prop :=
  Lexer.Steps named? (.ofText source.toList) s ∧ s.ahead = []

theorem Lexer.exists_endsIn {named? : String → Option Char} {source : String} {tokens : List Token}
    (h : lexWith named? source = .ok tokens) : ∃ s, Lexer.EndsIn named? source s := by
  obtain ⟨s, hsteps, ha, -⟩ := Lexer.exists_steps_of_run h
  exact ⟨s, hsteps, ha⟩

/-- The state at the end of a text that is accepted holds its tokens. -/
theorem Lexer.EndsIn.tokens_eq {named? : String → Option Char} {source : String} {s : Lexer}
    {tokens : List Token} {stop : Token} (h : Lexer.EndsIn named? source s)
    (hlex : lexWith named? source = .ok (tokens ++ [stop])) : s.tokens = tokens.reverse := by
  rw [lexWith, h.1.run_eq, Lexer.run_of_nil h.2, Lexer.finish] at hlex
  split at hlex
  · cases hlex
  · rw [← (List.append_inj' (Except.ok.inj hlex) rfl).1, List.reverse_reverse]

/-- The brackets that are open at the end of a text are found by replaying its tokens. -/
theorem Lexer.EndsIn.stack_eq {named? : String → Option Char} {source : String} {s : Lexer}
    {tokens : List Token} {stop : Token} (h : Lexer.EndsIn named? source s)
    (hlex : lexWith named? source = .ok (tokens ++ [stop])) :
    s.stack = (tokens.map (·.kind)).foldl replay [] := by
  have hbracketed : s.Bracketed :=
    h.1.preserves (fun _ _ hs hmove => hs.move hmove) (Lexer.bracketed_ofText _)
  rw [hbracketed.stack_eq, Lexer.kinds, h.tokens_eq hlex, List.map_reverse, List.reverse_reverse]

/-- Where the first text ends outside of brackets and not with a backslash, the tokens of two texts
with a line feed between them are those of the first one, a line break, and those of the second one
behind it. A fault of the second text is found behind the line break as well. -/
theorem lexWith_append_lineFeed {named? : String → Option Char} {first second : String} {s : Lexer}
    {tokens : List Token} {stop : Token} (hfirst : lexWith named? first = .ok (tokens ++ [stop]))
    (hend : Lexer.EndsIn named? first s) (hbrackets : s.brackets = [])
    (hlast : ∀ t ∈ tokens.getLast?, t.kind ≠ .symbol .backslash) :
    lexWith named? (first ++ "\n" ++ second) =
      relocate (counted (first.toList ++ ['\n']))
        (fun more => tokens ++
          ⟨.lineBreak, ⟨counted first.toList, counted (first.toList ++ ['\n'])⟩⟩ ::
            more.map (·.behind (counted (first.toList ++ ['\n']))))
        (lexWith named? second) := by
  have htokens := hend.tokens_eq hfirst
  obtain ⟨hsteps, ha⟩ := hend
  have hposition : s.cursor.position = counted first.toList := by
    obtain ⟨read, hread, hposition⟩ := hsteps.resting.at
    rw [hposition, Position.origin_after, hread, ha, List.append_nil]
  have hbase : s.cursor.position.after ['\n'] = counted (first.toList ++ ['\n']) := by
    rw [hposition, ← Position.origin_after, ← Position.origin_after, Position.after_append]
  have hspan : s.spanOf ['\n'] =
      ⟨counted first.toList, counted (first.toList ++ ['\n'])⟩ := by
    rw [Lexer.spanOf, Span.ofText, hbase, hposition]
  have hsource : (first ++ "\n" ++ second).toList = first.toList ++ '\n' :: second.toList := by
    simp
  rw [← List.head?_reverse, ← htokens] at hlast
  -- The first text and the line feed are read, and what is left is the second text.
  have hsteps' : Lexer.Steps named? (.ofText (first.toList ++ '\n' :: second.toList))
      (s.extend ('\n' :: second.toList)) := hsteps.extend second.toList
  have hfeed : (s.extend ('\n' :: second.toList)).ahead = '\n' :: second.toList := by
    rw [Lexer.ahead_extend, ha, List.nil_append]
  have hstep : (s.extend ('\n' :: second.toList)).step named? '\n' second.toList =
      .ok (s.extend ('\n' :: second.toList)).lineBreak := by rw [Lexer.step, if_pos rfl]
  rw [lexWith, hsource, hsteps'.run_eq, Lexer.run_of_step hfeed hstep,
    Lexer.lineBreak_extend_eq_behind ha hbrackets hlast, Lexer.run_behind rfl, hbase, hspan,
    lexWith]
  simp only [List.reverse_cons, htokens, List.reverse_reverse, List.append_assoc,
    List.singleton_append]

/-- A call and an indented line behind it: the tokens of the line are moved by one line and five
bytes. -/
theorem lexWith_append_lineFeed_call :
    lex ("f(x)" ++ "\n" ++ "  y") = .ok
      [⟨.identifier "f", ⟨0, 0, 0⟩, ⟨1, 0, 1⟩⟩, ⟨.symbol .openRound, ⟨1, 0, 1⟩, ⟨2, 0, 2⟩⟩,
        ⟨.identifier "x", ⟨2, 0, 2⟩, ⟨3, 0, 3⟩⟩, ⟨.symbol .closeRound, ⟨3, 0, 3⟩, ⟨4, 0, 4⟩⟩,
        ⟨.lineBreak, ⟨4, 0, 4⟩, ⟨5, 1, 0⟩⟩, ⟨.indentation "  ", ⟨5, 1, 0⟩, ⟨7, 1, 2⟩⟩,
        ⟨.identifier "y", ⟨7, 1, 2⟩, ⟨8, 1, 3⟩⟩, ⟨.endOfInput, ⟨8, 1, 3⟩, ⟨8, 1, 3⟩⟩] := by
  have hfirst : lex "f(x)" = .ok (
      [⟨.identifier "f", ⟨0, 0, 0⟩, ⟨1, 0, 1⟩⟩, ⟨.symbol .openRound, ⟨1, 0, 1⟩, ⟨2, 0, 2⟩⟩,
        ⟨.identifier "x", ⟨2, 0, 2⟩, ⟨3, 0, 3⟩⟩, ⟨.symbol .closeRound, ⟨3, 0, 3⟩, ⟨4, 0, 4⟩⟩] ++
      [⟨.endOfInput, ⟨4, 0, 4⟩, ⟨4, 0, 4⟩⟩]) := by decide +kernel
  have hsecond : lex "  y" = .ok
      [⟨.indentation "  ", ⟨0, 0, 0⟩, ⟨2, 0, 2⟩⟩, ⟨.identifier "y", ⟨2, 0, 2⟩, ⟨3, 0, 3⟩⟩,
        ⟨.endOfInput, ⟨3, 0, 3⟩, ⟨3, 0, 3⟩⟩] := by decide +kernel
  obtain ⟨s, hs⟩ := Lexer.exists_endsIn hfirst
  have hbrackets : s.brackets = [] := List.map_eq_nil_iff.mp (hs.stack_eq hfirst)
  rw [lex, lexWith_append_lineFeed hfirst hs hbrackets (by decide), ← lex, hsecond]
  decide +kernel

end Frontend
