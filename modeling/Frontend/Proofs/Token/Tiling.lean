import Frontend.Proofs.Source.Order
import Frontend.Proofs.Token.Moves
import Frontend.Proofs.Token.Spelling

/-!
# The tokens of a text tile it

Every character of a source text belongs to a token or to the trivia between two tokens. `Cut`
says so of the text that has been read and of its tokens, which each move of the lexer preserves,
and `Tiling` lists what it means for the tokens of a whole text.
-/

namespace Frontend

open Position (origin)

/-! ### Texts that are cut into tokens -/

/-- The text `before` is cut into tokens, the latest of them first, with trivia before each token
and with the text `rest` ahead. The latest token is complete unless it is the segment of a text
literal that an interpolation has to follow. -/
inductive Cut : Bool → List Char → List Char → List Token → Prop
  | nil (rest : List Char) : Cut true [] rest []
  | token {complete complete' : Bool} {before gap text rest : List Char} {kind : TokenKind}
      {tokens : List Token} (h : Cut complete before (gap ++ (text ++ rest)) tokens)
      (hnext : complete = (kind != .symbol .interpolationOpen)) (hgap : Trivia gap (text ++ rest))
      (hspelled : kind.SpelledBy text)
      (hfits : kind.Fits (tokens.head?.map (·.kind)) complete' text) :
      Cut complete' (before ++ (gap ++ text)) rest
        (⟨kind, .ofText (origin.after (before ++ gap)) text⟩ :: tokens)

/-- The span is that of a text in the source, and the text `rest` follows. -/
def Span.Reads (source : List Char) (span : Span) (text rest : List Char) : Prop :=
  ∃ before, source = before ++ (text ++ rest) ∧ span = .ofText (Position.origin.after before) text

/-- Where a stretch of a source ends, the next one starts. -/
theorem Span.Reads.rest_eq {source text rest text' rest' : List Char} {span : Span} {p : Position}
    (h : span.Reads source text rest) (h' : Span.Reads source ⟨span.stop, p⟩ text' rest') :
    rest = text' ++ rest' := by
  obtain ⟨before, hsource, rfl⟩ := h
  obtain ⟨before', hsource', hspan⟩ := h'
  have hplace : Position.origin.after (before ++ text) = Position.origin.after before' := by
    rw [Position.after_append]
    exact (Span.mk.inj hspan).1
  have hread : before ++ text <+: source := ⟨rest, by rw [hsource, List.append_assoc]⟩
  have hread' : before' <+: source := ⟨text' ++ rest', hsource'.symm⟩
  have heq : before ++ text = before' := by
    rcases List.prefix_or_prefix_of_prefix hread hread' with hle | hle
    · exact Position.eq_of_isPrefix hle hplace
    · exact (Position.eq_of_isPrefix hle hplace.symm).symm
  have hboth : (before ++ text) ++ rest = (before ++ text) ++ (text' ++ rest') := by
    rw [List.append_assoc, ← hsource, heq, ← hsource']
  exact List.append_cancel_left hboth

namespace Cut

variable {complete : Bool} {before rest : List Char} {t u : Token} {later tokens : List Token}

/-- The latest token and the trivia before it. -/
theorem exists_latest (h : Cut complete before rest (t :: tokens)) :
    ∃ before₀ gap text, before = before₀ ++ (gap ++ text) ∧
      Cut (t.kind != .symbol .interpolationOpen) before₀ (gap ++ (text ++ rest)) tokens ∧
      Trivia gap (text ++ rest) ∧ t.kind.SpelledBy text ∧
      t.kind.Fits (tokens.head?.map (·.kind)) complete text ∧
      t.span = .ofText (origin.after (before₀ ++ gap)) text := by
  cases h with
  | token h hnext hgap hspelled hfits =>
    subst hnext
    exact ⟨_, _, _, rfl, h, hgap, hspelled, hfits, rfl⟩

/-- The latest token ends where the text ends that has been cut. -/
theorem stop_eq (h : Cut complete before rest (t :: tokens)) :
    t.span.stop = origin.after before := by
  obtain ⟨before₀, gap, text, rfl, _, _, _, _, hspan⟩ := h.exists_latest
  rw [hspan, ← List.append_assoc, Position.after_append origin (before₀ ++ gap)]
  rfl

/-- Without its latest tokens the text is still cut, up to an earlier place. -/
theorem of_append (h : Cut complete before rest (later ++ tokens)) :
    ∃ complete' before' rest', before ++ rest = before' ++ rest' ∧
      Cut complete' before' rest' tokens ∧
      complete' = (later.getLast?.map (·.kind != .symbol .interpolationOpen)).getD complete := by
  induction later generalizing complete before rest with
  | nil => exact ⟨complete, before, rest, rfl, h, rfl⟩
  | cons u later ih =>
    obtain ⟨before₀, gap, text, rfl, h₀, _⟩ := h.exists_latest
    obtain ⟨complete', before', rest', hsource, h', hcomplete⟩ := ih h₀
    refine ⟨complete', before', rest', by simpa using hsource, h', ?_⟩
    rw [hcomplete, List.getLast?_cons]
    cases later.getLast? <;> rfl

theorem start_le_stop (h : Cut complete before rest tokens) :
    ∀ t ∈ tokens, t.span.start ≤ t.span.stop := by
  intro t ht
  obtain ⟨later, earlier, rfl⟩ := List.append_of_mem ht
  obtain ⟨_, _, _, _, h', _⟩ := h.of_append
  obtain ⟨before₀, gap, text, _, _, _, _, _, hspan⟩ := h'.exists_latest
  rw [hspan]
  exact Position.le_after _ text

/-- Between two neighbours there is nothing but trivia. -/
theorem gap (h : Cut complete before rest (u :: t :: tokens)) :
    ∃ gap rest', Span.Reads (before ++ rest) ⟨t.span.stop, u.span.start⟩ gap rest' ∧
      Trivia gap rest' := by
  obtain ⟨before₀, gap, text, rfl, h₀, hgap, _, _, hspan⟩ := h.exists_latest
  refine ⟨gap, text ++ rest, ⟨before₀, by simp, ?_⟩, hgap⟩
  rw [h₀.stop_eq, hspan, Span.ofText, Span.ofText, Position.after_append]

theorem neighbours (h : Cut complete before rest tokens) :
    tokens.IsChain fun u t => t.span.stop ≤ u.span.start := by
  induction tokens generalizing complete before rest with
  | nil => exact .nil
  | cons u tokens ih =>
    obtain ⟨before₀, gap, text, _, h₀, _⟩ := h.exists_latest
    refine List.isChain_cons.mpr ⟨?_, ih h₀⟩
    intro t ht
    obtain ⟨earlier, rfl⟩ := List.head?_eq_some_iff.mp ht
    obtain ⟨gap, rest', ⟨before', _, hspan⟩, _⟩ := h.gap
    obtain ⟨hstop, hstart⟩ := Span.mk.inj hspan
    rw [hstop, hstart]
    exact Position.le_after _ gap

end Cut

/-! ### Tilings -/

/-- How the tokens of a source text lie in it. -/
structure Tiling (source : List Char) (tokens : List Token) : Prop where
  /-- The end of input is the last token, at the end of the source, and there is no other one. -/
  endOfInput : ∃ init, tokens = init ++ [⟨.endOfInput, .empty (origin.after source)⟩] ∧
    ∀ t ∈ init, t.kind ≠ .endOfInput
  /-- No span starts behind its end or before the end of the span before it. -/
  inOrder : Token.InOrder tokens
  /-- Spans start and end at places behind initial parts of the source. -/
  endpoints : ∀ t ∈ tokens, ∀ p ∈ [t.span.start, t.span.stop],
    ∃ read, read <+: source ∧ p = Position.counted read
  /-- The span of each token is that of a slice of the source which spells the token. Only segments
  of text literals lack a quote: the opening one behind an interpolation, the closing one before
  an interpolation. -/
  slices : ∀ before t after, tokens = before ++ t :: after →
    ∃ text rest, t.span.Reads source text rest ∧ t.kind.SpelledBy text ∧
      t.kind.Fits (before.getLast?.map (·.kind))
        (after.head?.map (·.kind) != some (.symbol .interpolationOpen)) text
  /-- There is trivia before the first token. -/
  firstGap : ∀ t ∈ tokens.head?, ∃ gap rest,
    Span.Reads source ⟨origin, t.span.start⟩ gap rest ∧ Trivia gap rest
  /-- There is trivia between two neighbours. -/
  gaps : ∀ before t u after, tokens = before ++ t :: u :: after → ∃ gap rest,
    Span.Reads source ⟨t.span.stop, u.span.start⟩ gap rest ∧ Trivia gap rest

namespace Cut

variable {source : List Char} {tokens : List Token} (h : Cut true source [] tokens.reverse)
include h

theorem inOrder : Token.InOrder tokens where
  spans t ht := h.start_le_stop t (List.mem_reverse.mpr ht)
  neighbours := List.isChain_reverse.mp h.neighbours

theorem slice {before after : List Token} {t : Token} (htokens : tokens = before ++ t :: after) :
    ∃ text rest, t.span.Reads source text rest ∧ t.kind.SpelledBy text ∧
      t.kind.Fits (before.getLast?.map (·.kind))
        (after.head?.map (·.kind) != some (.symbol .interpolationOpen)) text := by
  have hsplit : tokens.reverse = after.reverse ++ t :: before.reverse := by simp [htokens]
  rw [hsplit] at h
  obtain ⟨complete, before', rest, hsource, h', hcomplete⟩ := h.of_append
  obtain ⟨before₀, gap, text, rfl, _, _, hspelled, hfits, hspan⟩ := h'.exists_latest
  have hnext : complete = (after.head?.map (·.kind) != some (.symbol .interpolationOpen)) := by
    rw [hcomplete, List.getLast?_reverse]
    cases after.head? with
    | none => rfl
    | some u => simp [bne]
  rw [List.head?_reverse, hnext] at hfits
  exact ⟨text, rest, ⟨before₀ ++ gap, by simpa using hsource, hspan⟩, hspelled, hfits⟩

theorem endpoints {t : Token} (ht : t ∈ tokens) {p : Position}
    (hp : p ∈ [t.span.start, t.span.stop]) :
    ∃ read, read <+: source ∧ p = Position.counted read := by
  obtain ⟨before, after, htokens⟩ := List.append_of_mem ht
  obtain ⟨text, rest, ⟨read, hsource, hspan⟩, _⟩ := h.slice htokens
  rcases List.mem_pair.mp hp with rfl | rfl
  · exact ⟨read, ⟨_, hsource.symm⟩, by rw [hspan, ← Position.origin_after]; rfl⟩
  · refine ⟨read ++ text, ⟨rest, by simp [hsource]⟩, ?_⟩
    rw [hspan, ← Position.origin_after, Position.after_append]
    rfl

theorem firstGap {t : Token} (ht : t ∈ tokens.head?) : ∃ gap rest,
    Span.Reads source ⟨origin, t.span.start⟩ gap rest ∧ Trivia gap rest := by
  obtain ⟨after, rfl⟩ := List.head?_eq_some_iff.mp ht
  rw [List.reverse_cons] at h
  obtain ⟨_, _, rest, hsource, h', _⟩ := h.of_append
  obtain ⟨_, gap, text, rfl, h₀, hgap, _, _, hspan⟩ := h'.exists_latest
  generalize (t.kind != .symbol .interpolationOpen) = complete at h₀
  cases h₀ with
  | nil _ =>
    refine ⟨gap, text ++ rest, ⟨[], by simpa using hsource, ?_⟩, hgap⟩
    rw [hspan]
    rfl

theorem gaps {before after : List Token} {t u : Token}
    (htokens : tokens = before ++ t :: u :: after) :
    ∃ gap rest, Span.Reads source ⟨t.span.stop, u.span.start⟩ gap rest ∧ Trivia gap rest := by
  have hsplit : tokens.reverse = after.reverse ++ u :: t :: before.reverse := by simp [htokens]
  rw [hsplit] at h
  obtain ⟨_, _, _, hsource, h', _⟩ := h.of_append
  obtain ⟨gap, rest, hreads, hgap⟩ := h'.gap
  rw [← hsource, List.append_nil] at hreads
  exact ⟨gap, rest, hreads, hgap⟩

/-- Right before an interpolation there is a segment of its literal. -/
theorem isText_before {before after : List Token} {t : Token}
    (htokens : tokens = before ++ t :: after) (ht : t.kind = .symbol .interpolationOpen) :
    ∃ u ∈ before.getLast?, u.kind.isText := by
  have hsplit : tokens.reverse = after.reverse ++ t :: before.reverse := by simp [htokens]
  rw [hsplit] at h
  obtain ⟨_, _, _, _, h', _⟩ := h.of_append
  obtain ⟨before₀, gap, text, _, h₀, _⟩ := h'.exists_latest
  have hkind : (t.kind != .symbol .interpolationOpen) = false := by simp [ht]
  rw [hkind] at h₀
  rw [← List.head?_reverse]
  cases hbefore : before.reverse with
  | nil =>
    rw [hbefore] at h₀
    cases h₀
  | cons u earlier =>
    rw [hbefore] at h₀
    obtain ⟨_, _, _, _, _, _, _, hfits, _⟩ := h₀.exists_latest
    exact ⟨u, rfl, TokenKind.isText_of_fits_false hfits⟩

/-- Right behind an interpolation there is a segment of its literal. -/
theorem isText_after {before after : List Token} {t : Token}
    (htokens : tokens = before ++ t :: after) (ht : t.kind = .symbol .interpolationClose)
    (hafter : after ≠ []) : ∃ u ∈ after.head?, u.kind.isText := by
  obtain ⟨u, after, rfl⟩ := List.exists_cons_of_ne_nil hafter
  have hsplit : tokens = (before ++ [t]) ++ u :: after := by simp [htokens]
  obtain ⟨text, rest, _, _, hfits⟩ := h.slice hsplit
  rw [List.getLast?_concat, Option.map_some, ht] at hfits
  exact ⟨u, rfl, TokenKind.isText_of_fits_interpolationClose hfits⟩

end Cut

/-! ### The invariant of the lexer -/

namespace Lexer

variable {named? : String → Option Char} {source text rest : List Char} {complete complete' : Bool}
  {s t : Lexer} {kind : TokenKind}

/-- The source is cut into the tokens read so far, up to the text ahead and trivia before it. -/
def Cuts (source : List Char) (complete : Bool) (s : Lexer) : Prop :=
  ∃ before gap, source = before ++ (gap ++ s.ahead) ∧
    Cut complete before (gap ++ s.ahead) s.tokens ∧ Trivia gap s.ahead ∧
    s.cursor.position = origin.after (before ++ gap) ∧ ∀ t ∈ s.tokens, t.kind ≠ .endOfInput

/-- The kind of the latest token. -/
def latest? (s : Lexer) : Option TokenKind := s.tokens.head?.map (·.kind)

theorem Cuts.emit (h : s.Cuts source complete) (hahead : s.ahead = text ++ rest)
    (hnext : complete = (kind != .symbol .interpolationOpen)) (hspelled : kind.SpelledBy text)
    (hfits : kind.Fits s.latest? complete' text) (hend : kind ≠ .endOfInput) :
    (s.emit kind text).Cuts source complete' := by
  obtain ⟨before, gap, hsource, hcut, hgap, hposition, hkinds⟩ := h
  have hrest : (s.emit kind text).ahead = rest := ahead_emit hahead
  rw [hahead] at hsource hcut hgap
  refine ⟨before ++ (gap ++ text), [], ?_, ?_, .nil _, ?_, ?_⟩
  · simp [hsource, hrest]
  · rw [hrest, Lexer.emit, spanOf, hposition]
    exact .token hcut hnext hgap hspelled hfits
  · rw [Lexer.emit, Cursor.pass_position, hposition, ← Position.after_append]
    simp
  · intro t ht
    rcases List.mem_cons.mp ht with rfl | ht
    · exact hend
    · exact hkinds t ht

theorem Cuts.skip (h : s.Cuts source complete) (hahead : s.ahead = text ++ rest)
    (htext : Trivia text rest) : (s.skip text).Cuts source complete := by
  obtain ⟨before, gap, hsource, hcut, hgap, hposition, hkinds⟩ := h
  have hrest : (s.skip text).ahead = rest := ahead_skip hahead
  rw [hahead] at hsource hcut hgap
  refine ⟨before, gap ++ text, ?_, ?_, ?_, ?_, hkinds⟩
  · simp [hsource, hrest]
  · rw [hrest, List.append_assoc]
    exact hcut
  · rw [hrest]
    exact hgap.append htext
  · rw [Lexer.skip, Cursor.pass_position, hposition, ← Position.after_append]
    simp

/-- A backslash and the line feed that it joins become trivia. -/
theorem Cuts.join {last : Token} {tokens : List Token} (h : s.Cuts source complete)
    (hahead : s.ahead = '\n' :: rest) (htokens : s.tokens = last :: tokens)
    (hlast : last.kind = .symbol .backslash) :
    Cuts source true { s.skip ['\n'] with tokens := tokens } ∧
      tokens.head?.map (·.kind) ≠ some (.symbol .interpolationClose) := by
  obtain ⟨before, gap, hsource, hcut, hgap, hposition, hkinds⟩ := h
  rw [htokens] at hcut hkinds
  obtain ⟨before₀, gap₀, text, rfl, hcut₀, hgap₀, hspelled, hfits, _⟩ := hcut.exists_latest
  rw [hlast] at hcut₀ hspelled hfits
  replace hcut₀ : Cut true _ _ _ := hcut₀
  obtain rfl : text = ['\\'] := hspelled
  rw [hahead] at hsource hcut₀ hgap₀ hgap
  have hrest : (s.skip ['\n']).ahead = rest := ahead_skip hahead
  have hjoin : Trivia (['\\'] ++ (gap ++ ['\n'])) rest := .join hgap (.nil rest)
  refine ⟨⟨before₀, gap₀ ++ (['\\'] ++ (gap ++ ['\n'])), ?_, ?_, ?_, ?_, ?_⟩, hfits.1⟩
  · simp [ahead, hsource, hrest]
  · rw [show Lexer.ahead _ = rest from hrest]
    simpa using hcut₀
  · rw [show Lexer.ahead _ = rest from hrest]
    exact Trivia.append (by simpa using hgap₀) hjoin
  · rw [show Lexer.cursor _ = (s.skip ['\n']).cursor from rfl, Lexer.skip, Cursor.pass_position,
      hposition, ← Position.after_append]
    simp
  · exact fun t ht => hkinds t (List.mem_cons_of_mem _ ht)

/-- What holds before and after each step: the source is cut, and there is no interpolation left
to resume. -/
def Resting (source : List Char) (s : Lexer) : Prop :=
  s.Cuts source true ∧ s.latest? ≠ some (.symbol .interpolationClose)

theorem Resting.emit (h : s.Resting source) (hahead : s.ahead = text ++ rest)
    (hplain : kind.isPlain) (hspelled : kind.SpelledBy text) :
    (s.emit kind text).Resting source := by
  obtain ⟨hcuts, hlatest⟩ := h
  refine ⟨hcuts.emit hahead ?_ hspelled ?_ ?_, ?_⟩
  · cases kind with
    | symbol symbol => cases symbol <;> first | rfl | cases hplain
    | _ => rfl
  · cases kind with
    | text _ | character _ => cases hplain
    | _ => exact ⟨hlatest, rfl⟩
  · rintro rfl
    cases hplain
  · intro hkind
    obtain rfl : kind = .symbol .interpolationClose := Option.some.inj hkind
    cases hplain

theorem Resting.skip (h : s.Resting source) (hahead : s.ahead = text ++ rest)
    (htext : Trivia text rest) : (s.skip text).Resting source :=
  ⟨h.1.skip hahead htext, h.2⟩

theorem Resting.push {bracket : BracketKind} {span : Span} (h : s.Resting source) :
    (s.push bracket span).Resting source := h

theorem Resting.close (h : s.Resting source) (bracket : BracketKind) :
    (s.close bracket).Resting source := by
  rw [Lexer.close]
  split
  · split <;> exact h
  · exact h

/-- A segment of a text literal behind its opening quote or behind an interpolation. -/
theorem Cuts.segment {segment : Segment} {lead ahead : List Char} {content : String}
    (h : s.Cuts source true) (hahead : s.ahead = lead ++ ahead)
    (hlies : segment.Lies ahead rest)
    (hlead : lead = if s.latest? = some (.symbol .interpolationClose) then [] else ['"']) :
    (segment.ending = .quote → (s.emit (.text content) (lead ++ segment.text)).Resting source) ∧
      (segment.ending = .interpolation →
        ((s.emit (.text content) (lead ++ segment.text)).emit (.symbol .interpolationOpen)
          ['$', '\x7b']).Resting source) := by
  have hsplit : s.ahead = (lead ++ segment.text) ++ rest := by
    rw [hahead, hlies.ahead_eq, List.append_assoc]
  have hline : '\n' ∉ lead ++ segment.text := by
    rw [hlead]
    split <;> simp [hlies.line]
  have hspelled : (TokenKind.text content).SpelledBy (lead ++ segment.text) := hline
  constructor
  · intro hending
    obtain ⟨body, hbody⟩ := hlies.quote hending
    have hfits : (TokenKind.text content).Fits s.latest? true (lead ++ segment.text) :=
      ⟨body, by simp [hbody, hlead]⟩
    exact ⟨h.emit hsplit rfl hspelled hfits (by simp), by simp [latest?, Lexer.emit]⟩
  · intro hending
    obtain ⟨more, rfl⟩ := hlies.interpolation hending
    have hfits : (TokenKind.text content).Fits s.latest? false (lead ++ segment.text) :=
      ⟨segment.text, by simp [hlead]⟩
    have htext := h.emit hsplit rfl hspelled hfits (by simp)
    have hopen : (s.emit (.text content) (lead ++ segment.text)).ahead = ['$', '\x7b'] ++ more :=
      ahead_emit hsplit
    exact ⟨htext.emit hopen rfl rfl ⟨by simp [latest?, Lexer.emit], rfl⟩ (by simp),
      by simp [latest?, Lexer.emit]⟩

/-- The bracket that closes an interpolation, which a segment has to follow. -/
theorem Resting.interpolationClose (h : s.Resting source) (hahead : s.ahead = '\x7d' :: rest) :
    ((s.close .interpolation).emit (.symbol .interpolationClose) ['\x7d']).Cuts source true :=
  (h.close .interpolation).1.emit ((ahead_close s _).trans hahead) rfl rfl
    ⟨(h.close .interpolation).2, rfl⟩ (by simp)

theorem Resting.move (h : s.Resting source) (hmove : Move named? s t) : t.Resting source := by
  cases hmove with
  | join hahead htokens hlast => exact h.1.join hahead htokens hlast
  | feed hahead _ _ => exact h.skip hahead (.blank (by decide) (.nil _))
  | lineBreak hahead _ _ => exact h.emit hahead rfl rfl
  | indentation hahead _ _ _ _ => exact h.emit hahead rfl String.toList_ofList.symm
  | blank hahead hc _ _ => exact h.skip hahead (.blank hc (.nil _))
  | @lineComment body rest hahead hbody hrest =>
    have htrivia : Trivia ('/' :: '/' :: body ++ []) rest := .lineComment hbody hrest (.nil rest)
    rw [List.append_nil] at htrivia
    exact h.skip hahead htrivia
  | @blockComment body rest hahead hbody =>
    have htrivia : Trivia ('/' :: '*' :: body ++ []) rest := .blockComment hbody (.nil rest)
    rw [List.append_nil] at htrivia
    exact h.skip hahead htrivia
  | number hahead _ => exact h.emit hahead rfl String.toList_ofList.symm
  | @character body rest hahead _ hline =>
    have hsplit : s.ahead = ('\'' :: body.text ++ ['\'']) ++ rest := by simp [hahead]
    have hspelled : (TokenKind.character (String.ofList body.content)).SpelledBy
        ('\'' :: body.text ++ ['\'']) := by simp [TokenKind.SpelledBy, hline]
    exact ⟨h.1.emit hsplit rfl hspelled ⟨h.2, rfl, body.text, rfl⟩ (by simp),
      by simp [latest?, Lexer.emit]⟩
  | word hahead hrest _ =>
    exact h.emit (hahead.trans (congrArg _ hrest)) (TokenKind.isPlain_wordKind _ _)
      (TokenKind.spelledBy_wordKind _ _)
  | dotAccess hahead _ _ _ _ => exact h.emit hahead rfl rfl
  | openBracket hahead hc _ =>
    exact h.push.emit hahead (TokenKind.isPlain_of_ofChar? hc) (Symbol.spelling_of_ofChar? hc).symm
  | closeBracket hahead hc _ _ =>
    exact (h.close _).emit ((ahead_close s _).trans hahead) (TokenKind.isPlain_of_ofChar? hc)
      (Symbol.spelling_of_ofChar? hc).symm
  | separator hahead hc _ _ =>
    exact h.emit hahead (TokenKind.isPlain_of_ofChar? hc) (Symbol.spelling_of_ofChar? hc).symm
  | text hahead hsegment hending =>
    exact (h.1.segment hahead hsegment (if_neg h.2).symm).1 hending
  | firstSegment hahead hsegment hending =>
    exact ((h.1.segment hahead hsegment (if_neg h.2).symm).2 hending).push
  | lastSegment hahead _ hsegment hending =>
    have hclose := h.interpolationClose hahead
    exact (hclose.segment (ahead_emit ((ahead_close s _).trans hahead)) hsegment rfl).1 hending
  | innerSegment hahead _ hsegment hending =>
    have hclose := h.interpolationClose hahead
    exact ((hclose.segment (ahead_emit ((ahead_close s _).trans hahead)) hsegment rfl).2
      hending).push

theorem resting_ofText (source : List Char) : (ofText source).Resting source :=
  ⟨⟨[], [], rfl, .nil _, .nil _, rfl, by simp [ofText]⟩, by simp [latest?, ofText]⟩

/-- The lexer is at the place of the source that the text ahead starts at. -/
def At (source : List Char) (s : Lexer) : Prop :=
  ∃ read, source = read ++ s.ahead ∧ s.cursor.position = origin.after read

theorem At.emit (h : s.At source) (hahead : s.ahead = text ++ rest) :
    (s.emit kind text).At source := by
  obtain ⟨read, hsource, hposition⟩ := h
  refine ⟨read ++ text, ?_, ?_⟩
  · rw [ahead_emit hahead, hsource, hahead, List.append_assoc]
  · rw [Lexer.emit, Cursor.pass_position, hposition, Position.after_append]

theorem At.reads_spanOf (h : s.At source) (hahead : s.ahead = text ++ rest) :
    (s.spanOf text).Reads source text rest := by
  obtain ⟨read, hsource, hposition⟩ := h
  exact ⟨read, hahead ▸ hsource, by rw [spanOf, hposition]⟩

theorem Resting.at (h : s.Resting source) : s.At source := by
  obtain ⟨⟨before, gap, hsource, -, -, hposition, -⟩, -⟩ := h
  exact ⟨before ++ gap, by rw [hsource, List.append_assoc], hposition⟩

theorem Steps.resting (h : Steps named? (.ofText source) s) : s.Resting source :=
  h.preserves (fun _ _ hs hmove => hs.move hmove) (resting_ofText source)

end Lexer

/-! ### Whole texts -/

/-- A text that the lexer accepts is cut into its tokens, the last of which, and only that, is the
end of input. -/
theorem cut_of_lexWith {named? : String → Option Char} {source : String} {tokens : List Token}
    (h : lexWith named? source = .ok tokens) :
    Cut true source.toList [] tokens.reverse ∧
      ∃ init, tokens = init ++ [⟨.endOfInput, .empty (origin.after source.toList)⟩] ∧
        ∀ t ∈ init, t.kind ≠ .endOfInput := by
  obtain ⟨t, ⟨hcuts, hlatest⟩, hahead, hfinish⟩ :=
    Lexer.run_preserves (fun _ _ hs hmove => hs.move hmove) (Lexer.resting_ofText _) h
  obtain ⟨before, gap, hsource, hcut, hgap, hposition, hkinds⟩ := hcuts
  rw [hahead] at hsource hcut hgap
  rw [Lexer.finish] at hfinish
  split at hfinish
  · cases hfinish
  · cases hfinish
    have hend : Cut true (before ++ (gap ++ [])) []
        (⟨.endOfInput, .ofText (origin.after (before ++ gap)) []⟩ :: t.tokens) :=
      .token hcut rfl hgap rfl ⟨hlatest, rfl⟩
    rw [← hsource, ← hposition] at hend
    have hstop : t.cursor.position = origin.after source.toList := by
      rw [hposition, hsource, List.append_nil]
    refine ⟨?_, t.tokens.reverse, by rw [hstop], fun u hu => hkinds u (List.mem_reverse.mp hu)⟩
    rw [List.reverse_append, List.reverse_reverse]
    exact hend

/-- The tokens of every text that the lexer accepts tile it. -/
theorem tiling_of_lexWith {named? : String → Option Char} {source : String} {tokens : List Token}
    (h : lexWith named? source = .ok tokens) : Tiling source.toList tokens := by
  obtain ⟨hcut, hend⟩ := cut_of_lexWith h
  exact
    { endOfInput := hend
      inOrder := hcut.inOrder
      endpoints := fun _ ht _ hp => hcut.endpoints ht hp
      slices := fun _ _ _ htokens => hcut.slice htokens
      firstGap := fun _ ht => hcut.firstGap ht
      gaps := fun _ _ _ _ htokens => hcut.gaps htokens }

/-- Two joined lines, and no line break among their tokens. -/
theorem tiling_of_joined_lines :
    let tokens : List Token :=
      [⟨.identifier "x", ⟨0, 0, 0⟩, ⟨1, 0, 1⟩⟩, ⟨.operator "+", ⟨4, 1, 0⟩, ⟨5, 1, 1⟩⟩,
        ⟨.character "y", ⟨6, 1, 2⟩, ⟨9, 1, 5⟩⟩, ⟨.endOfInput, ⟨9, 1, 5⟩, ⟨9, 1, 5⟩⟩]
    lex "x \\\n+ 'y'" = .ok tokens ∧ Tiling "x \\\n+ 'y'".toList tokens := by
  intro tokens
  have h : lex "x \\\n+ 'y'" = .ok tokens := by decide +kernel
  exact ⟨h, tiling_of_lexWith h⟩

end Frontend
