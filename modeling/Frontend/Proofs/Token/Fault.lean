import Frontend.Proofs.Token.Tiling

/-!
# Where lexical faults are

The span of a lexical error is that of the text that the error is about: a quote or a comment
opening, the second dot of a number, the character that is not allowed, or the place behind the dot
of a number. An unterminated text literal is reported at the quote that opened it, however many
interpolations lie behind: the span of the quote is kept with the bracket of each interpolation
(`Lexer.Quoted`).
-/

namespace Frontend

open Position (origin)

/-- What a fault says of the text of its span, which stands between the two other texts. The lexer
comes to the quote of an unterminated text literal between two steps: the quote opens a literal. -/
def LexicalFault.Marks (named? : String → Option Char) (before text rest : List Char) :
    LexicalFault → Prop
  | unterminatedText      => text = ['"'] ∧
      ∃ s, Lexer.Steps named? (.ofText (before ++ text ++ rest)) s ∧ s.ahead = text ++ rest
  | unterminatedCharacter => text = ['\'']
  | finalDot              => text = [] ∧ before.getLast? = some '.' ∧
      ∀ c ∈ rest.head?, c.isDigit = false
  | severalDots           => text = ['.'] ∧ ∃ front whole fraction,
      before = front ++ (whole ++ '.' :: fraction) ∧ (∀ c ∈ whole, c.isDigit = true) ∧
        (∀ c ∈ fraction, c.isDigit = true) ∧ fraction ≠ []
  | unterminatedComment   => text = ['/', '*'] ∧ ¬ ['*', '/'] <:+: rest
  | illegalCharacter c    => text = [c] ∧ Text.isBlank c = false ∧ WordClass.of? c = none

/-- The span of the error is that of a text in the source which the fault is about. -/
def LexicalError.PointsInto (named? : String → Option Char) (source : List Char)
    (e : LexicalError) : Prop :=
  ∃ before text rest, source = before ++ text ++ rest ∧
    e.span = .ofText (origin.after before) text ∧ e.value.Marks named? before text rest

namespace Lexer

variable {named? : String → Option Char} {source rest : List Char} {s t : Lexer} {c : Char}
  {e : LexicalError} {quote : Span}

/-! ### Quotes -/

/-- The span is that of a quote in the source that the lexer reads a text literal from. -/
def Opens (named? : String → Option Char) (source : List Char) (quote : Span) : Prop :=
  ∃ s rest, Steps named? (.ofText source) s ∧ s.ahead = '"' :: rest ∧ quote = s.spanOf ['"']

/-- Each open interpolation keeps the span of the quote that opened its literal. -/
def Quoted (named? : String → Option Char) (source : List Char) (s : Lexer) : Prop :=
  ∀ b ∈ s.brackets, b.kind = .interpolation → Opens named? source b.span

theorem brackets_close_subset (s : Lexer) (kind : BracketKind) :
    (s.close kind).brackets ⊆ s.brackets := by
  rw [close]
  split
  · next b brackets hb =>
    split
    · exact hb ▸ List.subset_cons_self b brackets
    · exact fun _ h => h
  · exact fun _ h => h

/-- An interpolation that is open behind a move was open before, or the move reads a text literal up
to it. -/
theorem Move.interpolation {b : OpenBracket} (h : Move named? s t) (hb : b ∈ t.brackets)
    (hk : b.kind = .interpolation) :
    b ∈ s.brackets ∨ s.ahead.head? = some '"' ∧ b.span = s.spanOf ['"'] := by
  cases h with
  | join | feed | lineBreak | indentation | blank | lineComment | blockComment | number
  | character | word | dotAccess | separator | text => exact .inl hb
  | @openBracket _ _ symbol kind _ _ hopens =>
    rcases List.mem_cons.mp hb with rfl | hb
    · obtain rfl : kind = .interpolation := hk
      cases symbol <;> cases hopens
    · exact .inl hb
  | closeBracket => exact .inl (brackets_close_subset s _ hb)
  | firstSegment hahead =>
    rcases List.mem_cons.mp hb with rfl | hb
    · exact .inr ⟨by rw [hahead]; rfl, rfl⟩
    · exact .inl hb
  | lastSegment => exact .inl (brackets_close_subset s _ hb)
  | innerSegment hahead hbrackets =>
    rcases List.mem_cons.mp hb with rfl | hb
    · exact .inl (by simp [hbrackets])
    · exact .inl (brackets_close_subset s _ hb)

theorem step_interpolation {b : OpenBracket} (ha : s.ahead = c :: rest)
    (h : s.step named? c rest = .ok t) (hb : b ∈ t.brackets) (hk : b.kind = .interpolation) :
    b ∈ s.brackets ∨ s.ahead.head? = some '"' ∧ b.span = s.spanOf ['"'] := by
  rcases moves_step ha h with h | ⟨u, h, hdot, h'⟩
  · exact h.interpolation hb hk
  · rcases h'.interpolation hb hk with hb | ⟨hquote, -⟩
    · exact h.interpolation hb hk
    · -- What directly follows a word starts with a dot.
      rw [hdot] at hquote
      cases hquote

theorem Steps.quoted (h : Steps named? (.ofText source) s) : s.Quoted named? source := by
  induction h with
  | refl => exact fun b hb => nomatch hb
  | @tail s t hsteps hstep ih =>
    obtain ⟨c, rest, ha, hstep⟩ := hstep
    intro b hb hk
    rcases step_interpolation ha hstep hb hk with hb | ⟨hquote, hspan⟩
    · exact ih b hb hk
    · obtain ⟨more, hmore⟩ := List.head?_eq_some_iff.mp hquote
      exact ⟨s, more, hsteps, hmore, hspan⟩

theorem Opens.pointsInto (h : Opens named? source quote) :
    LexicalError.PointsInto named? source ⟨.unterminatedText, quote⟩ := by
  obtain ⟨s, rest, hsteps, ha, rfl⟩ := h
  obtain ⟨read, hsource, hposition⟩ := hsteps.resting.at
  rw [ha] at hsource
  obtain rfl : source = read ++ ['"'] ++ rest := by simp [hsource]
  exact ⟨read, ['"'], rest, rfl, by rw [spanOf, hposition], rfl, s, hsteps, ha⟩

/-! ### Faults of the scanners -/

theorem At.pointsInto {text : List Char} {fault : LexicalFault} (h : s.At source)
    (ha : s.ahead = text ++ rest) (hmarks : ∀ before, fault.Marks named? before text rest) :
    LexicalError.PointsInto named? source ⟨fault, s.spanOf text⟩ := by
  obtain ⟨read, hsource, hposition⟩ := h
  exact ⟨read, text, rest, by rw [hsource, ha, List.append_assoc], by rw [spanOf, hposition],
    hmarks read⟩

theorem pointsInto_of_number (hat : s.At source) (h : s.number = .error e) :
    e.PointsInto named? source := by
  obtain ⟨read, hsource, hposition⟩ := hat
  rw [number] at h
  split at h
  · cases h
  · next text hread =>
    cases h
    obtain ⟨whole, rest, rfl, ha, hrest⟩ := Number.final_of_read hread
    refine ⟨read ++ (whole ++ ['.']), [], rest, by simp [hsource, ha], ?_, rfl, by simp, hrest⟩
    rw [hposition, ← Position.after_append]
    rfl
  · next text hread =>
    cases h
    obtain ⟨whole, fraction, rest, rfl, ha, hwhole, hfraction, hne⟩ := Number.several_of_read hread
    refine ⟨read ++ (whole ++ '.' :: fraction), ['.'], rest, by simp [hsource, ha], ?_, rfl, read,
      whole, fraction, rfl, hwhole, hfraction, hne⟩
    rw [hposition, ← Position.after_append]

theorem pointsInto_of_word (hat : s.At source) (ha : s.ahead = c :: rest)
    (hc : Text.isBlank c = false) (h : s.word c rest = .error e) : e.PointsInto named? source := by
  rw [word] at h
  split at h
  · next hclass =>
    cases h
    have hsplit : s.ahead = [c] ++ rest := ha
    exact hat.pointsInto hsplit fun _ => ⟨rfl, hc, hclass⟩
  · next k hk =>
    obtain ⟨more, hmore⟩ := wordTail_isPrefix k rest
    have hword : (s.emit (wordKind k (String.ofList (c :: wordTail k rest)))
        (c :: wordTail k rest)).At source := hat.emit (ha.trans (congrArg _ hmore.symm))
    rw [afterWord] at h
    split at h
    · split at h
      · cases h
      · split at h
        · exact pointsInto_of_number hword h
        · cases h
    · cases h

theorem pointsInto_of_segment {lead : List Char} (hquote : Opens named? source quote)
    (h : s.segment named? lead quote = .error e) : e.PointsInto named? source := by
  rw [segment] at h
  split at h
  · cases h
  · cases h
  · cases h
    exact hquote.pointsInto

theorem pointsInto_of_character (hat : s.At source) (ha : s.ahead = '\'' :: rest)
    (h : s.character named? = .error e) : e.PointsInto named? source := by
  have hmissing : LexicalError.PointsInto named? source
      ⟨.unterminatedCharacter, s.spanOf ['\'']⟩ := hat.pointsInto ha fun _ => rfl
  rw [character] at h
  split at h
  · cases h
    exact hmissing
  · split at h
    · cases h
    · cases h
      exact hmissing

theorem pointsInto_of_blockComment (hat : s.At source) (ha : s.ahead = '/' :: '*' :: rest)
    (h : s.blockComment = .error e) : e.PointsInto named? source := by
  rw [blockComment, ha] at h
  split at h
  · cases h
  · next hbody =>
    cases h
    have hsplit : s.ahead = ['/', '*'] ++ rest := ha
    exact hat.pointsInto hsplit fun _ => ⟨rfl, not_isInfix_of_commentBody? hbody⟩

/-! ### All faults -/

theorem Steps.pointsInto_of_step (hsteps : Steps named? (.ofText source) s)
    (ha : s.ahead = c :: rest) (h : s.step named? c rest = .error e) :
    e.PointsInto named? source := by
  have hat := hsteps.resting.at
  rw [step] at h
  split at h
  · cases h
  split at h
  · cases h
  split at h
  · cases h
  next hblank =>
  split at h
  · next hc => exact pointsInto_of_segment ⟨s, rest, hsteps, hc ▸ ha, rfl⟩ h
  split at h
  · next hc => exact pointsInto_of_character hat (hc ▸ ha) h
  split at h
  · exact pointsInto_of_number hat h
  split at h
  · cases h
  split at h
  · next hcomment =>
    obtain ⟨rfl, hhead⟩ := hcomment
    obtain ⟨more, rfl⟩ := List.head?_eq_some_iff.mp hhead
    exact pointsInto_of_blockComment hat ha h
  split at h
  · next quote brackets hbrackets _ =>
    have hquote : Opens named? source quote :=
      hsteps.quoted ⟨.interpolation, quote⟩ (hbrackets ▸ List.mem_cons_self) rfl
    rw [resume] at h
    exact pointsInto_of_segment hquote h
  · cases h
  · exact pointsInto_of_word hat ha (by simpa using hblank) h

theorem Steps.pointsInto_of_finish (hsteps : Steps named? (.ofText source) s)
    (h : s.finish = .error e) : e.PointsInto named? source := by
  rw [finish] at h
  split at h
  · next b hfind =>
    cases h
    have hk : b.kind = .interpolation := by simpa using List.find?_some hfind
    exact (hsteps.quoted b (List.mem_of_find?_eq_some hfind) hk).pointsInto
  · cases h

end Lexer

/-- The span of an error has its ends in order, at places of the source. -/
theorem LexicalError.PointsInto.bounds {named? : String → Option Char} {source : List Char}
    {e : LexicalError} (h : e.PointsInto named? source) :
    e.span.start ≤ e.span.stop ∧ ∀ p ∈ [e.span.start, e.span.stop],
      ∃ read, read <+: source ∧ p = Position.counted read := by
  obtain ⟨before, text, rest, rfl, hspan, -⟩ := h
  rw [hspan, Span.ofText, ← Position.after_append, Position.origin_after, Position.origin_after]
  refine ⟨?_, fun p hp => ?_⟩
  · rw [← Position.origin_after, ← Position.origin_after, Position.after_append]
    exact Position.le_after _ _
  · rcases List.mem_pair.mp hp with rfl | rfl
    · exact ⟨before, ⟨text ++ rest, by simp⟩, rfl⟩
    · exact ⟨before ++ text, ⟨rest, rfl⟩, rfl⟩

theorem LexicalError.PointsInto.of_lexWith {named? : String → Option Char} {source : String}
    {e : LexicalError} (h : lexWith named? source = .error e) :
    e.PointsInto named? source.toList := by
  obtain ⟨t, hsteps, ⟨-, hrun⟩ | ⟨c, rest, e', ha, hstep, hrun⟩⟩ :=
    Lexer.exists_steps named? (.ofText source.toList)
  · exact hsteps.pointsInto_of_finish (hrun.symm.trans h)
  · obtain rfl : e' = e := Except.error.inj (hrun.symm.trans h)
    exact hsteps.pointsInto_of_step ha hstep

/-- Each lexical error points into its source, at the text that it is about. -/
theorem pointsInto_of_lexWith {named? : String → Option Char} {source : String} {e : LexicalError}
    (h : lexWith named? source = .error e) :
    e.span.start ≤ e.span.stop ∧
      (∀ p ∈ [e.span.start, e.span.stop],
        ∃ read, read <+: source.toList ∧ p = Position.counted read) ∧
      e.PointsInto named? source.toList := by
  have hpoints := LexicalError.PointsInto.of_lexWith h
  exact ⟨hpoints.bounds.1, hpoints.bounds.2, hpoints⟩

/-- A literal that is resumed behind an interpolation and not closed on its line: the error is at
the quote that opens it. -/
theorem pointsInto_of_resumed_text :
    let e : LexicalError := ⟨.unterminatedText, ⟨2, 0, 2⟩, ⟨3, 0, 3⟩⟩
    lex "f \"a$\x7bb\x7dc" = .error e ∧
      e.PointsInto CharacterName.find? "f \"a$\x7bb\x7dc".toList := by
  intro e
  have h : lex "f \"a$\x7bb\x7dc" = .error e := by decide +kernel
  exact ⟨h, (pointsInto_of_lexWith h).2.2⟩

end Frontend
