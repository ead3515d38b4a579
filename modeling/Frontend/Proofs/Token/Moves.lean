import Frontend.Proofs.Token.Kind
import Frontend.Proofs.Token.Scanning
import Mathlib.Logic.Relation

/-!
# The moves of the lexer

`Move s t` lists all that may happen between two states of the lexer, each with what is known of
the text ahead and of the state. Each step is made of moves, so that what every move preserves
holds at the end of every run.
-/

namespace Frontend.Lexer

variable {named? : String → Option Char} {s t : Lexer} {c : Char} {rest : List Char}

theorem ahead_skip {text : List Char} (h : s.ahead = text ++ rest) : (s.skip text).ahead = rest :=
  Cursor.pass_ahead h

theorem ahead_emit {kind : TokenKind} {text : List Char} (h : s.ahead = text ++ rest) :
    (s.emit kind text).ahead = rest :=
  Cursor.pass_ahead h

theorem tokens_close (s : Lexer) (kind : BracketKind) : (s.close kind).tokens = s.tokens := by
  rw [close]
  split
  · split <;> rfl
  · rfl

/-- What the lexer does at one place of a source text. -/
inductive Move (named? : String → Option Char) (s : Lexer) : Lexer → Prop
  /-- A line feed behind a backslash: both vanish. -/
  | join {rest : List Char} {t : Token} {tokens : List Token} (hahead : s.ahead = '\n' :: rest)
      (htokens : s.tokens = t :: tokens) (hlast : t.kind = .symbol .backslash) :
      Move named? s { s.skip ['\n'] with tokens := tokens }
  /-- A line feed in brackets. -/
  | feed {rest : List Char} (hahead : s.ahead = '\n' :: rest)
      (hlast : s.lastIs (.symbol .backslash) = false) (hin : s.inBrackets = true) :
      Move named? s (s.skip ['\n'])
  | lineBreak {rest : List Char} (hahead : s.ahead = '\n' :: rest)
      (hlast : s.lastIs (.symbol .backslash) = false) (hin : s.inBrackets = false) :
      Move named? s (s.emit .lineBreak ['\n'])
  | indentation {blanks rest : List Char} (hahead : s.ahead = blanks ++ rest)
      (hstart : s.atLineStart = true) (hne : blanks ≠ []) (hall : ∀ c ∈ blanks, isIndent c = true)
      (hrest : ∀ c ∈ rest.head?, isIndent c = false) :
      Move named? s (s.emit (.indentation (String.ofList blanks)) blanks)
  | blank {c : Char} {rest : List Char} (hahead : s.ahead = c :: rest) (hc : Text.isBlank c = true)
      (hline : c ≠ '\n') (hstart : ¬ (isIndent c = true ∧ s.atLineStart = true)) :
      Move named? s (s.skip [c])
  | lineComment {body rest : List Char} (hahead : s.ahead = '/' :: '/' :: body ++ rest)
      (hbody : '\n' ∉ body) (hrest : ∀ c ∈ rest.head?, c = '\n') :
      Move named? s (s.skip ('/' :: '/' :: body))
  | blockComment {body rest : List Char} (hahead : s.ahead = '/' :: '*' :: body ++ rest)
      (hbody : EndsComment body) :
      Move named? s (s.skip ('/' :: '*' :: body))
  | number {text rest : List Char} (hahead : s.ahead = text ++ rest)
      (hread : Number.read s.ahead = .ok text) :
      Move named? s (s.emit (.number (String.ofList text)) text)
  | character {body : CharacterBody} {rest : List Char}
      (hahead : s.ahead = '\'' :: body.text ++ '\'' :: rest)
      (hread : CharacterBody.read? named? s.ahead.tail = some body) (hline : '\n' ∉ body.text) :
      Move named? s (s.emit (.character (String.ofList body.content)) ('\'' :: body.text ++ ['\'']))
  | word {k : WordClass} {c : Char} {ahead rest : List Char} (hahead : s.ahead = c :: ahead)
      (hrest : ahead = wordTail k ahead ++ rest) (hc : WordClass.of? c = some k) :
      Move named? s (s.emit (wordKind k (String.ofList (c :: wordTail k ahead)))
        (c :: wordTail k ahead))
  /-- A dot directly behind a word. -/
  | dotAccess {t : Token} {rest : List Char} (hahead : s.ahead = '.' :: rest)
      (hrest : startsWithLetter rest = true) (hlast : s.tokens.head? = some t)
      (hstop : t.span.stop = s.cursor.position) (hword : ∃ k w, t.kind = wordKind k w) :
      Move named? s (s.emit (.symbol .dotAccess) ['.'])
  | openBracket {c : Char} {rest : List Char} {symbol : Symbol} {kind : BracketKind}
      (hahead : s.ahead = c :: rest) (hc : Symbol.ofChar? c = some symbol)
      (hopens : symbol.opens? = some kind) :
      Move named? s ((s.push kind (s.spanOf [c])).emit (.symbol symbol) [c])
  | closeBracket {c : Char} {rest : List Char} {symbol : Symbol} {kind : BracketKind}
      (hahead : s.ahead = c :: rest) (hc : Symbol.ofChar? c = some symbol)
      (hcloses : symbol.closes? = some kind)
      (hinner : ∀ b ∈ s.brackets.head?, b.kind = .interpolation → symbol ≠ .closeCurly) :
      Move named? s ((s.close kind).emit (.symbol symbol) [c])
  | separator {c : Char} {rest : List Char} {symbol : Symbol} (hahead : s.ahead = c :: rest)
      (hc : Symbol.ofChar? c = some symbol) (hopens : symbol.opens? = none)
      (hcloses : symbol.closes? = none) :
      Move named? s (s.emit (.symbol symbol) [c])
  /-- A text literal without interpolations. -/
  | text {segment : Segment} {ahead rest : List Char} (hahead : s.ahead = '"' :: ahead)
      (hsegment : segment.Lies ahead rest) (hending : segment.ending = .quote) :
      Move named? s (s.emit (.text (String.ofList segment.content)) (['"'] ++ segment.text))
  /-- A text literal up to its first interpolation. -/
  | firstSegment {segment : Segment} {ahead rest : List Char} (hahead : s.ahead = '"' :: ahead)
      (hsegment : segment.Lies ahead rest) (hending : segment.ending = .interpolation) :
      Move named? s (((s.emit (.text (String.ofList segment.content)) (['"'] ++ segment.text)).emit
        (.symbol .interpolationOpen) ['$', '\x7b']).push .interpolation (s.spanOf ['"']))
  /-- A text literal from the end of its last interpolation. -/
  | lastSegment {segment : Segment} {ahead rest : List Char} {quote : Span}
      {brackets : List OpenBracket} (hahead : s.ahead = '\x7d' :: ahead)
      (hbrackets : s.brackets = ⟨.interpolation, quote⟩ :: brackets)
      (hsegment : segment.Lies ahead rest) (hending : segment.ending = .quote) :
      Move named? s (((s.close .interpolation).emit (.symbol .interpolationClose) ['\x7d']).emit
        (.text (String.ofList segment.content)) ([] ++ segment.text))
  /-- A text literal from the end of an interpolation to the next one. -/
  | innerSegment {segment : Segment} {ahead rest : List Char} {quote : Span}
      {brackets : List OpenBracket} (hahead : s.ahead = '\x7d' :: ahead)
      (hbrackets : s.brackets = ⟨.interpolation, quote⟩ :: brackets)
      (hsegment : segment.Lies ahead rest) (hending : segment.ending = .interpolation) :
      Move named? s (((((s.close .interpolation).emit (.symbol .interpolationClose) ['\x7d']).emit
        (.text (String.ofList segment.content)) ([] ++ segment.text)).emit
        (.symbol .interpolationOpen) ['$', '\x7b']).push .interpolation quote)

/-! ### Steps -/

theorem exists_tokens_of_lastIs {kind : TokenKind} (h : s.lastIs kind = true) :
    ∃ t tokens, s.tokens = t :: tokens ∧ t.kind = kind := by
  rw [lastIs] at h
  cases ht : s.tokens with
  | nil => simp [ht] at h
  | cons t tokens => exact ⟨t, tokens, rfl, by simpa [ht] using h⟩

theorem move_lineBreak (ha : s.ahead = '\n' :: rest) : Move named? s s.lineBreak := by
  rw [lineBreak]
  split
  · next hlast =>
    obtain ⟨t, tokens, htokens, hkind⟩ := exists_tokens_of_lastIs hlast
    rw [htokens, List.tail_cons]
    exact .join ha htokens hkind
  · next hlast =>
    rw [Bool.not_eq_true] at hlast
    split
    · next hin => exact .feed ha hlast hin
    · next hin => exact .lineBreak ha hlast (Bool.not_eq_true _ ▸ hin)

theorem move_indentation (ha : s.ahead = c :: rest) (hc : isIndent c = true)
    (hstart : s.atLineStart = true) : Move named? s s.indentation := by
  have hsplit : s.ahead = s.ahead.takeWhile isIndent ++ s.ahead.dropWhile isIndent :=
    List.takeWhile_append_dropWhile.symm
  refine .indentation hsplit hstart ?_ (List.all_eq_true.mp List.all_takeWhile) ?_
  · simp [ha, hc]
  · intro d hd
    have hnot := List.head?_dropWhile_not isIndent s.ahead
    rw [hd] at hnot
    simpa using hnot

theorem move_number (h : s.number = .ok t) : Move named? s t := by
  rw [number] at h
  split at h
  · next text hread =>
    cases h
    obtain ⟨rest, hrest⟩ := Number.prefix_of_read hread
    exact .number hrest.symm hread
  · cases h
  · cases h

theorem move_text (ha : s.ahead = '"' :: rest) (h : s.text named? = .ok t) :
    Move named? s t := by
  obtain ⟨more, hlies⟩ := Segment.exists_lies named? rest
  rw [text, segment] at h
  simp only [ha, List.length_singleton, List.drop_one, List.tail_cons] at h
  split at h
  · next hending =>
    cases h
    exact .text ha hlies hending
  · next hending =>
    cases h
    exact .firstSegment ha hlies hending
  · cases h

theorem move_resume {quote : Span} {brackets : List OpenBracket} (ha : s.ahead = '\x7d' :: rest)
    (hb : s.brackets = ⟨.interpolation, quote⟩ :: brackets)
    (h : s.resume named? quote = .ok t) : Move named? s t := by
  obtain ⟨more, hlies⟩ := Segment.exists_lies named? rest
  have hahead : ((s.close .interpolation).emit (.symbol .interpolationClose) ['\x7d']).ahead =
      rest := ahead_emit ((ahead_close s _).trans ha)
  rw [resume, segment] at h
  simp only [hahead, List.length_nil, List.drop_zero] at h
  split at h
  · next hending =>
    cases h
    exact .lastSegment ha hb hlies hending
  · next hending =>
    cases h
    exact .innerSegment ha hb hlies hending
  · cases h

theorem move_character (ha : s.ahead = '\'' :: rest) (h : s.character named? = .ok t) :
    Move named? s t := by
  rw [character] at h
  simp only [ha, List.tail_cons] at h
  split at h
  · cases h
  · next body hread =>
    obtain ⟨⟨more, rfl⟩, hline⟩ := CharacterBody.lies hread
    split at h
    · next hquote =>
      cases h
      rw [List.drop_left] at hquote
      cases more with
      | nil => cases hquote
      | cons d more =>
        obtain rfl : d = '\'' := by simpa using hquote
        exact .character ha (by rwa [ha]) hline
    · cases h

theorem move_blockComment (ha : s.ahead = '/' :: '*' :: rest) (h : s.blockComment = .ok t) :
    Move named? s t := by
  rw [blockComment] at h
  simp only [ha, List.drop_succ_cons, List.drop_zero] at h
  split at h
  · next body hbody =>
    cases h
    obtain ⟨⟨more, rfl⟩, hends⟩ := commentBody?_sound hbody
    exact .blockComment ha hends
  · cases h

theorem move_lineComment (ha : s.ahead = '/' :: '/' :: rest) : Move named? s s.lineComment := by
  have hsplit : rest = rest.takeWhile (· != '\n') ++ rest.dropWhile (· != '\n') :=
    List.takeWhile_append_dropWhile.symm
  have hbody : s.ahead.takeWhile (· != '\n') = '/' :: '/' :: rest.takeWhile (· != '\n') := by
    rw [ha]
    rfl
  rw [lineComment]
  rw [hbody]
  refine .lineComment (by rw [ha, List.cons_append, List.cons_append, ← hsplit]) (fun hmem => ?_)
    fun d hd => ?_
  · simpa using List.all_eq_true.mp List.all_takeWhile _ hmem
  · have hnot := List.head?_dropWhile_not (· != '\n') rest
    rw [hd] at hnot
    simpa using hnot

theorem move_reserved {symbol : Symbol} (ha : s.ahead = c :: rest)
    (hc : Symbol.ofChar? c = some symbol)
    (hinner : ∀ b ∈ s.brackets.head?, b.kind = .interpolation → symbol ≠ .closeCurly) :
    Move named? s (s.reserved symbol c) := by
  rw [reserved]
  cases hopens : symbol.opens? with
  | some kind =>
    have hcloses : symbol.closes? = none := by
      cases symbol <;> first | rfl | cases hopens
    simp only [hcloses]
    exact .openBracket ha hc hopens
  | none =>
    cases hcloses : symbol.closes? with
    | some kind => exact .closeBracket ha hc hcloses hinner
    | none => exact .separator ha hc hopens hcloses

theorem move_afterWord {last : Token} (hlast : s.tokens.head? = some last)
    (hstop : last.span.stop = s.cursor.position) (hword : ∃ k w, last.kind = wordKind k w)
    (h : s.afterWord = .ok t) : t = s ∨ s.ahead.head? = some '.' ∧ Move named? s t := by
  rw [afterWord] at h
  split at h
  · next rest ha =>
    split at h
    · next hletter =>
      cases h
      exact .inr ⟨by rw [ha]; rfl, .dotAccess ha hletter hlast hstop hword⟩
    · split at h
      · exact .inr ⟨by rw [ha]; rfl, move_number h⟩
      · cases h
        exact .inl rfl
  · cases h
    exact .inl rfl

/-- A single move, or two: a word and what directly follows it. -/
def Moves (named? : String → Option Char) (s t : Lexer) : Prop :=
  Move named? s t ∨ ∃ u, Move named? s u ∧ u.ahead.head? = some '.' ∧ Move named? u t

theorem moves_word (ha : s.ahead = c :: rest) (h : s.word c rest = .ok t) :
    Moves named? s t := by
  rw [word] at h
  split at h
  · cases h
  · next k hk =>
    obtain ⟨more, hmore⟩ := wordTail_isPrefix k rest
    have hword : Move named? s (s.emit (wordKind k (String.ofList (c :: wordTail k rest)))
        (c :: wordTail k rest)) := .word ha hmore.symm hk
    have hafter : t = _ ∨ _ ∧ Move named? _ t := move_afterWord rfl rfl ⟨k, _, rfl⟩ h
    rcases hafter with rfl | hafter
    · exact .inl hword
    · exact .inr ⟨_, hword, hafter⟩

theorem step_quote : s.step named? '"' rest = s.segment named? ['"'] (s.spanOf ['"']) := by
  rw [step, if_neg (by decide), if_neg (by simp [isIndent]), if_neg (by decide), if_pos rfl, text]

/-- Each step is made of moves. -/
theorem moves_step (ha : s.ahead = c :: rest) (h : s.step named? c rest = .ok t) :
    Moves named? s t := by
  rw [step] at h
  split at h
  · next hc =>
    cases h
    exact .inl (move_lineBreak (hc ▸ ha))
  next hline =>
  split at h
  · next hindent =>
    cases h
    exact .inl (move_indentation ha hindent.1 hindent.2)
  next hindent =>
  split at h
  · next hblank =>
    cases h
    exact .inl (.blank ha hblank hline hindent)
  split at h
  · next hc => exact .inl (move_text (hc ▸ ha) h)
  split at h
  · next hc => exact .inl (move_character (hc ▸ ha) h)
  split at h
  · exact .inl (move_number h)
  split at h
  · next hcomment =>
    cases h
    obtain ⟨rfl, hhead⟩ := hcomment
    obtain ⟨more, rfl⟩ := List.head?_eq_some_iff.mp hhead
    exact .inl (move_lineComment ha)
  split at h
  · next hcomment =>
    obtain ⟨rfl, hhead⟩ := hcomment
    obtain ⟨more, rfl⟩ := List.head?_eq_some_iff.mp hhead
    exact .inl (move_blockComment ha h)
  split at h
  · next quote brackets hb hc =>
    obtain rfl := Symbol.eq_of_ofChar?_closeCurly hc
    exact .inl (move_resume ha hb h)
  · next symbol hc hinner =>
    cases h
    refine .inl (move_reserved ha hc fun b hb hkind hcurly => ?_)
    obtain ⟨brackets, hbrackets⟩ := List.head?_eq_some_iff.mp hb
    obtain ⟨kind, quote⟩ := b
    subst hkind hcurly
    exact hinner quote brackets hbrackets rfl
  · exact moves_word ha h

/-! ### Runs -/

/-- Some steps lead from one state to another. -/
def Steps (named? : String → Option Char) : Lexer → Lexer → Prop :=
  Relation.ReflTransGen fun s t => ∃ c rest, s.ahead = c :: rest ∧ s.step named? c rest = .ok t

theorem run_of_nil (ha : s.ahead = []) : s.run named? = s.finish := by
  rw [run]
  split
  · rfl
  · next hcons => simp [hcons] at ha

theorem run_of_cons (ha : s.ahead = c :: rest) :
    s.run named? = s.step named? c rest >>= run named? := by
  rw [run]
  split
  · next hnil => simp [hnil] at ha
  · next d more hcons =>
    obtain ⟨rfl, rfl⟩ := List.cons.inj (hcons.symm.trans ha)
    split <;> next h => rw [h]; rfl

theorem run_of_step (ha : s.ahead = c :: rest) (h : s.step named? c rest = .ok t) :
    s.run named? = t.run named? := by
  rw [run_of_cons ha, h]
  rfl

theorem Steps.run_eq (h : Steps named? s t) : s.run named? = t.run named? := by
  induction h with
  | refl => rfl
  | tail _ hstep ih =>
    obtain ⟨c, rest, ha, hstep⟩ := hstep
    exact ih.trans (run_of_step ha hstep)

/-- What every move preserves holds wherever steps lead. -/
theorem Steps.preserves {P : Lexer → Prop} (hmove : ∀ s t, P s → Move named? s t → P t) (hs : P s)
    (h : Steps named? s t) : P t := by
  induction h with
  | refl => exact hs
  | tail _ hstep ih =>
    obtain ⟨c, rest, ha, hstep⟩ := hstep
    rcases moves_step ha hstep with h | ⟨u, h, -, h'⟩
    · exact hmove _ _ ih h
    · exact hmove _ _ (hmove _ _ ih h) h'

/-- A run makes steps up to the end of the text, or up to a step that fails. -/
theorem exists_steps (named? : String → Option Char) (s : Lexer) :
    ∃ t, Steps named? s t ∧ (t.ahead = [] ∧ s.run named? = t.finish ∨
      ∃ c rest e, t.ahead = c :: rest ∧ t.step named? c rest = .error e ∧
        s.run named? = .error e) := by
  fun_induction run named? s with
  | case1 s ha => exact ⟨s, .refl, .inl ⟨ha, rfl⟩⟩
  | case2 s c rest ha e he => exact ⟨s, .refl, .inr ⟨c, rest, e, ha, he, rfl⟩⟩
  | case3 s c rest ha t ht ih =>
    obtain ⟨u, hu, hrun⟩ := ih
    exact ⟨u, .head ⟨c, rest, ha, ht⟩ hu, hrun⟩

/-- A run that succeeds makes steps up to the end of the text. -/
theorem exists_steps_of_run {tokens : List Token} (h : s.run named? = .ok tokens) :
    ∃ t, Steps named? s t ∧ t.ahead = [] ∧ t.finish = .ok tokens := by
  obtain ⟨t, hsteps, ⟨ha, hrun⟩ | ⟨c, rest, e, ha, he, hrun⟩⟩ := exists_steps named? s
  · exact ⟨t, hsteps, ha, hrun ▸ h⟩
  · rw [hrun] at h
    cases h

/-- What every move preserves holds at the end of every run. -/
theorem run_preserves {P : Lexer → Prop} (hmove : ∀ s t, P s → Move named? s t → P t) (hs : P s)
    {tokens : List Token} (h : s.run named? = .ok tokens) :
    ∃ t, P t ∧ t.ahead = [] ∧ t.finish = .ok tokens := by
  obtain ⟨t, hsteps, ha, hfinish⟩ := exists_steps_of_run h
  exact ⟨t, hsteps.preserves hmove hs, ha, hfinish⟩

end Frontend.Lexer
