import Frontend.Proofs.Token.Indentation
import Frontend.Proofs.Token.Word

/-!
# Line feeds

A line feed outside of comments is a line break token if no bracket of the language itself is open
and there is no backslash right before it. A backslash right before it is removed, wherever the line
feed stands. Lines are indented only where no bracket of the language itself is open.

The lexer comes to each line feed that is not in a comment between two steps, with the tokens that
remain at that time. Of these, only backslashes are removed later on (`Passes`).
-/

namespace Frontend

open Position (origin)
open TokenKind (replay)

/-- All tokens end in the text that has been cut. -/
theorem Cut.stop_le {complete : Bool} {before rest : List Char} {tokens : List Token}
    (h : Cut complete before rest tokens) : ∀ t ∈ tokens, t.span.stop ≤ origin.after before := by
  induction h with
  | nil => simp
  | @token _ _ before gap text rest kind tokens _ _ _ _ _ ih =>
    refine List.forall_mem_cons.mpr ⟨?_, fun t ht => Position.le_trans (ih t ht) ?_⟩
    · rw [← List.append_assoc, Position.after_append origin (before ++ gap)]
      exact Position.le_refl _
    · rw [Position.after_append]
      exact Position.le_after _ _

/-- The tokens before another one end before it. -/
theorem Cut.stop_le_start {complete : Bool} {before rest : List Char} {later earlier : List Token}
    {t : Token} (h : Cut complete before rest (later ++ t :: earlier)) :
    ∀ u ∈ earlier, u.span.stop ≤ t.span.start := by
  obtain ⟨_, _, _, _, h', _⟩ := h.of_append
  obtain ⟨before₀, gap, text, _, h₀, _, _, _, hspan⟩ := h'.exists_latest
  intro u hu
  rw [hspan, Span.ofText, Position.after_append]
  exact Position.le_trans (h₀.stop_le u hu) (Position.le_after _ gap)

theorem Cut.not_stop_le_start {complete : Bool} {before rest : List Char} {tokens : List Token}
    {t : Token} (h : Cut complete before rest tokens) (ht : t ∈ tokens)
    (hkind : t.kind = .symbol .backslash) : ¬ t.span.stop ≤ t.span.start := by
  obtain ⟨later, earlier, rfl⟩ := List.append_of_mem ht
  obtain ⟨_, _, _, _, h', _⟩ := h.of_append
  obtain ⟨before₀, gap, text, _, _, _, hspelled, _, hspan⟩ := h'.exists_latest
  rw [hkind] at hspelled
  obtain rfl : text = ['\\'] := hspelled
  rw [hspan]
  exact fun hle => Nat.not_lt.mpr (Position.offset_le_of_le hle)
    (Position.offset_lt_after (List.cons_ne_nil _ _) _)

/-- What becomes of a line feed at the place `p`. When it is read, the tokens `before ++ removed`
remain of those before it, and the latter are removed later on, by it or by another line feed. -/
structure LineFeed (tokens : List Token) (p : Position) (before removed : List Token) : Prop where
  kept : ∃ after, tokens = before ++ after ∧ ∀ t ∈ after, p ≤ t.span.start
  stop_le : ∀ t ∈ before ++ removed, t.span.stop ≤ p
  backslashes : ∀ t ∈ removed, t.kind = .symbol .backslash ∧ t ∉ tokens
  /-- A backslash right before the line feed is removed. -/
  joined : ∀ t ∈ (before ++ removed).getLast?, t.kind = .symbol .backslash → t ∈ removed
  lineBreak_iff : ⟨.lineBreak, .ofText p ['\n']⟩ ∈ tokens ↔
    (∀ b ∈ ((before.map (·.kind)).foldl replay []).head?, b = .interpolation) ∧
      ∀ t ∈ (before ++ removed).getLast?, t.kind ≠ .symbol .backslash

namespace Lexer

variable {named? : String → Option Char} {source text more rest : List Char} {s t u : Lexer}
  {kind : TokenKind}

/-! ### What is passed -/

/-- The text is passed from one state to another. The tokens of the first state are kept, except
that latest ones may have been removed, which are backslashes, and others are added, which lie
behind the first place. -/
structure Passes (s t : Lexer) (text : List Char) : Prop where
  ahead : s.ahead = text ++ t.ahead
  position : t.cursor.position = s.cursor.position.after text
  tokens : ∃ kept removed added, s.tokens = removed ++ kept ∧ t.tokens = added ++ kept ∧
    (∀ x ∈ removed, x.kind = .symbol .backslash) ∧ ∀ x ∈ added, s.cursor.position ≤ x.span.start

namespace Passes

theorem refl (s : Lexer) : s.Passes s [] :=
  ⟨rfl, rfl, s.tokens, [], [], rfl, rfl, by simp, by simp⟩

theorem trans (h : s.Passes t text) (h' : t.Passes u more) : s.Passes u (text ++ more) where
  ahead := by rw [h.ahead, h'.ahead, List.append_assoc]
  position := by rw [h'.position, h.position, Position.after_append]
  tokens := by
    obtain ⟨kept, removed, added, hs, ht, hremoved, hadded⟩ := h.tokens
    obtain ⟨kept', removed', added', ht', hu, hremoved', hadded'⟩ := h'.tokens
    have hle : s.cursor.position ≤ t.cursor.position := h.position ▸ Position.le_after _ text
    -- Either tokens are removed that the first state has, or only such that have been added.
    rcases List.append_eq_append_iff.mp (ht'.symm.trans ht) with
      ⟨both, rfl, rfl⟩ | ⟨both, rfl, rfl⟩
    · refine ⟨kept, removed, added' ++ both, hs, by simp [hu], hremoved, fun x hx => ?_⟩
      rcases List.mem_append.mp hx with hx | hx
      · exact Position.le_trans hle (hadded' x hx)
      · exact hadded x (List.mem_append_right _ hx)
    · refine ⟨kept', removed ++ both, added', by simp [hs], hu, fun x hx => ?_, fun x hx => ?_⟩
      · rcases List.mem_append.mp hx with hx | hx
        · exact hremoved x hx
        · exact hremoved' x (List.mem_append_right _ hx)
      · exact Position.le_trans hle (hadded' x hx)

theorem skip (h : s.ahead = text ++ rest) : s.Passes (s.skip text) text :=
  ⟨by rw [ahead_skip h, h], rfl, s.tokens, [], [], rfl, rfl, by simp, by simp⟩

theorem emit (h : s.ahead = text ++ rest) : s.Passes (s.emit kind text) text := by
  refine ⟨by rw [ahead_emit h, h], rfl, s.tokens, [], [⟨kind, s.spanOf text⟩], rfl, rfl, by simp,
    ?_⟩
  rintro x hx
  rw [List.mem_singleton.mp hx]
  exact Position.le_refl _

theorem push (h : s.Passes t text) (bracket : BracketKind) (span : Span) :
    s.Passes (t.push bracket span) text :=
  ⟨h.ahead, h.position, h.tokens⟩

theorem of_close {bracket : BracketKind} (h : (s.close bracket).Passes t text) :
    s.Passes t text := by
  obtain ⟨hahead, hposition, htokens⟩ := h
  have hcursor : (s.close bracket).cursor = s.cursor := by
    rw [close]
    split
    · split <;> rfl
    · rfl
  rw [ahead_close] at hahead
  rw [hcursor] at hposition htokens
  rw [tokens_close] at htokens
  exact ⟨hahead, hposition, htokens⟩

end Passes

/-- A text in which there are line feeds only if it is one, or a block comment. -/
def BreaksLine (text : List Char) : Prop :=
  '\n' ∈ text → text = ['\n'] ∨ ∃ body, text = '/' :: '*' :: body ∧ EndsComment body

theorem breaksLine_of_forall {p : Char → Prop} (hp : ¬ p '\n') (h : ∀ c ∈ text, p c) :
    BreaksLine text :=
  fun hmem => absurd (h _ hmem) hp

theorem breaksLine_lineFeed : BreaksLine ['\n'] := fun _ => .inl rfl

theorem breaksLine_number {ahead : List Char} (h : Number.read ahead = .ok text) :
    BreaksLine text := by
  rcases Number.read_eq_ok h with hdigits | ⟨whole, fraction, rfl, -, hwhole, hfraction⟩
  · exact breaksLine_of_forall (by decide) hdigits
  · refine breaksLine_of_forall (p := fun c => c = '.' ∨ c.isDigit) (by decide) fun c hc => ?_
    rcases List.mem_append.mp hc with hc | hc
    · exact .inr (hwhole c hc)
    · exact (List.mem_cons.mp hc).imp id (hfraction c)

theorem breaksLine_word {k : WordClass} {c : Char} {ahead : List Char}
    (hrest : ahead = wordTail k ahead ++ rest) (hc : WordClass.of? c = some k) :
    BreaksLine (c :: wordTail k ahead) := by
  have hfeed : WordClass.of? '\n' = none := by decide +kernel
  refine breaksLine_of_forall (p := fun d => WordClass.of? d = some k) (by simp [hfeed]) ?_
  exact List.forall_mem_cons.mpr ⟨hc, fun d hd => ((wordTail_maximal hrest).1 d hd).class_eq⟩

theorem breaksLine_reserved {c : Char} {symbol : Symbol} (hc : Symbol.ofChar? c = some symbol) :
    BreaksLine [c] := by
  refine breaksLine_of_forall (p := fun d => (Symbol.ofChar? d).isSome) (by decide) ?_
  simp [hc]

/-- Each move passes a text, in which there is no line feed unless the lexer is at one or reads a
block comment. -/
theorem Move.exists_passes (h : Move named? s t) : ∃ text, s.Passes t text ∧ BreaksLine text := by
  cases h with
  | @join rest last tokens hahead htokens hlast =>
    refine ⟨['\n'], ⟨?_, rfl, tokens, [last], [], htokens, rfl, by simp [hlast], by simp⟩,
      breaksLine_lineFeed⟩
    have hrest : (s.skip ['\n']).ahead = rest := ahead_skip hahead
    exact hahead.trans (congrArg ('\n' :: ·) hrest.symm)
  | feed hahead => exact ⟨_, .skip hahead, breaksLine_lineFeed⟩
  | lineBreak hahead => exact ⟨_, .emit hahead, breaksLine_lineFeed⟩
  | indentation hahead _ _ hall =>
    exact ⟨_, .emit hahead, breaksLine_of_forall (by decide) hall⟩
  | blank hahead _ hline =>
    exact ⟨_, .skip hahead, breaksLine_of_forall (p := (· ≠ '\n')) (by simp) (by simpa)⟩
  | lineComment hahead hbody =>
    exact ⟨_, .skip hahead, fun hmem => absurd hmem (by simpa using hbody)⟩
  | blockComment hahead hbody => exact ⟨_, .skip hahead, fun _ => .inr ⟨_, rfl, hbody⟩⟩
  | number hahead hread => exact ⟨_, .emit hahead, breaksLine_number hread⟩
  | character hahead _ hline =>
    refine ⟨_, .emit (by simpa using hahead), fun hmem => absurd hmem (by simpa using hline)⟩
  | word hahead hrest hc =>
    exact ⟨_, .emit (by rw [hahead, List.cons_append, ← hrest]), breaksLine_word hrest hc⟩
  | dotAccess hahead => exact ⟨_, .emit hahead, fun hmem => absurd hmem (by decide)⟩
  | @openBracket c _ symbol kind hahead hc =>
    have hemit : s.Passes (s.emit (.symbol symbol) [c]) [c] := .emit hahead
    exact ⟨[c], hemit.push kind (s.spanOf [c]), breaksLine_reserved hc⟩
  | closeBracket hahead hc =>
    exact ⟨_, .of_close (.emit ((ahead_close s _).trans hahead)), breaksLine_reserved hc⟩
  | separator hahead hc => exact ⟨_, .emit hahead, breaksLine_reserved hc⟩
  | @text segment ahead rest hahead hsegment =>
    have hline := hsegment.line
    have htext : s.ahead = (['"'] ++ segment.text) ++ rest := by
      rw [hahead, hsegment.ahead_eq, List.append_assoc]
      rfl
    exact ⟨_, .emit htext, fun hmem => absurd hmem (by simpa using hline)⟩
  | @firstSegment segment ahead rest hahead hsegment hending =>
    obtain ⟨more, rfl⟩ := hsegment.interpolation hending
    have hline := hsegment.line
    have htext : s.ahead = (['"'] ++ segment.text) ++ '$' :: '\x7b' :: more := by
      rw [hahead, hsegment.ahead_eq, List.append_assoc]
      rfl
    refine ⟨_, .push ((Passes.emit htext).trans (.emit (ahead_emit htext))) _ _,
      fun hmem => absurd hmem (by simpa using hline)⟩
  | @lastSegment segment ahead rest quote brackets hahead _ hsegment =>
    have hline := hsegment.line
    have hclose : (s.close .interpolation).ahead = ['\x7d'] ++ ahead :=
      (ahead_close s _).trans hahead
    have htext : ((s.close .interpolation).emit (.symbol .interpolationClose) ['\x7d']).ahead =
        segment.text ++ _ := (ahead_emit hclose).trans hsegment.ahead_eq
    refine ⟨_, .of_close ((Passes.emit hclose).trans (.emit htext)),
      fun hmem => absurd hmem (by simpa using hline)⟩
  | @innerSegment segment ahead rest quote brackets hahead _ hsegment hending =>
    obtain ⟨more, rfl⟩ := hsegment.interpolation hending
    have hline := hsegment.line
    have hclose : (s.close .interpolation).ahead = ['\x7d'] ++ ahead :=
      (ahead_close s _).trans hahead
    have htext : ((s.close .interpolation).emit (.symbol .interpolationClose) ['\x7d']).ahead =
        segment.text ++ _ := (ahead_emit hclose).trans hsegment.ahead_eq
    refine ⟨_, .of_close (.push (((Passes.emit hclose).trans (.emit htext)).trans
      (.emit (ahead_emit htext))) _ _), fun hmem => absurd hmem (by simpa using hline)⟩

/-- Steps pass a text. -/
theorem Steps.exists_passes (h : Steps named? s t) : ∃ text, s.Passes t text := by
  refine h.preserves (P := fun u => ∃ text, s.Passes u text) ?_ ⟨[], .refl s⟩
  rintro u v ⟨text, hpasses⟩ hmove
  obtain ⟨more, hmore, -⟩ := hmove.exists_passes
  exact ⟨text ++ more, hpasses.trans hmore⟩

/-! ### Line feeds in comments -/

/-- The text `ahead` begins with a block comment, in which there is a line feed before the text
`rest`. -/
def StartsComment (ahead rest : List Char) : Prop :=
  ∃ front back tail, ahead = '/' :: '*' :: (front ++ '\n' :: back) ++ tail ∧
    EndsComment (front ++ '\n' :: back) ∧ rest = back ++ tail

/-- The line feed before the text `rest` is in a block comment that the lexer comes to. -/
def InComment (named? : String → Option Char) (source rest : List Char) : Prop :=
  ∃ s, Steps named? (.ofText source) s ∧ StartsComment s.ahead rest

/-- There is a line feed in a text that a move passes only if the lexer is at it or at a comment. -/
theorem Passes.lineFeed {front : List Char} (h : s.Passes t text) (hline : BreaksLine text)
    (hahead : s.ahead = front ++ '\n' :: rest) (hrest : t.ahead <:+ rest) :
    front = [] ∨ StartsComment s.ahead rest := by
  obtain ⟨back, rfl⟩ := hrest
  have htext : text = front ++ '\n' :: back := by
    have hsplit : text ++ t.ahead = (front ++ '\n' :: back) ++ t.ahead := by
      rw [← h.ahead, hahead, List.append_assoc]
      rfl
    exact List.append_cancel_right hsplit
  rcases hline (by simp [htext]) with rfl | ⟨body, hcomment, hbody⟩
  · cases front with
    | nil => exact .inl rfl
    | cons c front => simp at htext
  · -- The line feed is behind the opening of the comment.
    match front, hcomment.symm.trans htext with
    | [], hfront => simp at hfront
    | [c], hfront => simp at hfront
    | _ :: _ :: front, hfront =>
      obtain ⟨-, hfront⟩ := List.cons.inj hfront
      obtain ⟨-, rfl⟩ := List.cons.inj hfront
      exact .inr ⟨front, back, t.ahead, by rw [h.ahead, hcomment]; rfl, hbody, rfl⟩

/-- Either the line feed before the text `rest` has been read, or it is still ahead. -/
theorem isSuffix_cases (hs : ('\n' :: rest) <:+ s.ahead) (ht : t.ahead <:+ s.ahead) :
    t.ahead <:+ rest ∨ ∃ front, t.ahead = front ++ '\n' :: rest := by
  rcases List.suffix_or_suffix_of_suffix ht hs with h | ⟨front, h⟩
  · rcases List.suffix_cons_iff.mp h with h | h
    · exact .inr ⟨[], h⟩
    · exact .inl h
  · exact .inr ⟨front, h.symm⟩

theorem Moves.lineFeed {front : List Char} (h : Moves named? s t)
    (hahead : s.ahead = front ++ '\n' :: rest) (hrest : t.ahead <:+ rest) :
    front = [] ∨ StartsComment s.ahead rest := by
  rcases h with h | ⟨u, h, hdot, h'⟩
  · obtain ⟨text, hpasses, hline⟩ := h.exists_passes
    exact hpasses.lineFeed hline hahead hrest
  · obtain ⟨text, hpasses, hline⟩ := h.exists_passes
    obtain ⟨more, hpasses', hline'⟩ := h'.exists_passes
    rcases isSuffix_cases ⟨front, hahead.symm⟩ ⟨text, hpasses.ahead.symm⟩ with hread | ⟨front', hu⟩
    · exact hpasses.lineFeed hline hahead hread
    · -- The second move starts at a dot.
      rcases hpasses'.lineFeed hline' hu hrest with rfl | ⟨_, _, _, hcomment, -⟩
      · simp [hu] at hdot
      · simp [hcomment] at hdot

/-- Steps that read a line feed come to it, or to the comment that it is in. -/
theorem Steps.lineFeed (h : Steps named? s t) (hs : ('\n' :: rest) <:+ s.ahead)
    (ht : t.ahead <:+ rest) :
    ∃ u, Steps named? s u ∧ (u.ahead = '\n' :: rest ∨ StartsComment u.ahead rest) := by
  induction h with
  | refl =>
    have hlength := (hs.trans ht).length_le
    exact absurd hlength (Nat.not_succ_le_self _)
  | @tail u v hsteps hstep ih =>
    obtain ⟨text, hpasses⟩ := Steps.exists_passes hsteps
    rcases isSuffix_cases hs ⟨text, hpasses.ahead.symm⟩ with hread | ⟨front, hu⟩
    · exact ih hread
    · obtain ⟨c, more, ha, hstep⟩ := hstep
      rcases (moves_step ha hstep).lineFeed hu ht with rfl | hcomment
      · exact ⟨u, hsteps, .inl hu⟩
      · exact ⟨u, hsteps, .inr hcomment⟩

/-! ### The tokens that remain -/

theorem finish_eq_ok {tokens : List Token} (h : s.finish = .ok tokens) :
    tokens = s.tokens.reverse ++ [⟨.endOfInput, .empty s.cursor.position⟩] := by
  rw [finish] at h
  split at h
  · cases h
  · exact (Except.ok.inj h).symm

theorem Resting.stop_le (h : s.Resting source) :
    ∀ x ∈ s.tokens, x.span.stop ≤ s.cursor.position := by
  obtain ⟨⟨before, gap, -, hcut, -, hposition, -⟩, -⟩ := h
  intro x hx
  rw [hposition, Position.after_append]
  exact Position.le_trans (hcut.stop_le x hx) (Position.le_after _ gap)

/-- The tokens that remain at one place are those of the whole text up to there, except for
backslashes, which are removed later on. -/
theorem Passes.exists_kept {tokens : List Token} (h : s.Passes t text)
    (hfinish : t.finish = .ok tokens) :
    ∃ kept removed after, s.tokens = removed ++ kept ∧ tokens = kept.reverse ++ after ∧
      (∀ x ∈ removed, x.kind = .symbol .backslash) ∧
      ∀ x ∈ after, s.cursor.position ≤ x.span.start := by
  obtain ⟨kept, removed, added, hs, ht, hremoved, hadded⟩ := h.tokens
  refine ⟨kept, removed, added.reverse ++ [⟨.endOfInput, .empty t.cursor.position⟩], hs, ?_,
    hremoved, fun x hx => ?_⟩
  · rw [finish_eq_ok hfinish, ht, List.reverse_append, List.append_assoc]
  · rcases List.mem_append.mp hx with hx | hx
    · exact hadded x (List.mem_reverse.mp hx)
    · rw [List.mem_singleton.mp hx]
      exact h.position ▸ Position.le_after _ text

/-- No line break is at a place that the tokens lie before and behind. -/
theorem lineBreak_not_mem {before after : List Token} {p : Position}
    (hbefore : ∀ t ∈ before, t.span.stop ≤ p)
    (hafter : ∀ t ∈ after, p.after ['\n'] ≤ t.span.start) :
    ⟨.lineBreak, .ofText p ['\n']⟩ ∉ before ++ after := by
  have hlt := p.offset_lt_after (List.cons_ne_nil '\n' [])
  rintro hmem
  rcases List.mem_append.mp hmem with hmem | hmem
  · exact Nat.not_lt.mpr (Position.offset_le_of_le (hbefore _ hmem)) hlt
  · exact Nat.not_lt.mpr (Position.offset_le_of_le (hafter _ hmem)) hlt

/-- Removed tokens are backslashes, so that the open brackets are found without them. -/
theorem Bracketed.inBrackets_eq_false_iff {kept removed : List Token} (h : s.Bracketed)
    (htokens : s.tokens = removed ++ kept) (hremoved : ∀ t ∈ removed, t.kind = .symbol .backslash) :
    s.inBrackets = false ↔
      ∀ b ∈ ((kept.reverse.map (·.kind)).foldl replay []).head?, b = .interpolation := by
  have hskip (ts : List Token) (hts : ∀ t ∈ ts, t.kind = .symbol .backslash)
      (brackets : List BracketKind) : (ts.map (·.kind)).foldl replay brackets = brackets := by
    induction ts with
    | nil => rfl
    | cons t ts ih =>
      obtain ⟨ht, hts⟩ := List.forall_mem_cons.mp hts
      rw [List.map_cons, List.foldl_cons, ht]
      exact ih hts
  have hkinds : s.kinds = kept.reverse.map (·.kind) ++ removed.reverse.map (·.kind) := by
    simp [kinds, htokens]
  rw [Lexer.inBrackets_eq_false_iff, h.stack_eq, hkinds, List.foldl_append,
    hskip _ fun t ht => hremoved t (List.mem_reverse.mp ht)]

theorem lastIs_eq_false_iff {kind : TokenKind} :
    s.lastIs kind = false ↔ ∀ t ∈ s.tokens.head?, t.kind ≠ kind := by
  rw [lastIs]
  cases s.tokens <;> simp

/-- Where the tokens are that remain of those before a line feed tells what becomes of it. -/
theorem Resting.lineFeed {tokens kept removed after : List Token} (hresting : s.Resting source)
    (hbracketed : s.Bracketed) (htokens : s.tokens = removed ++ kept)
    (hsplit : tokens = kept.reverse ++ after)
    (hremoved : ∀ t ∈ removed, t.kind = .symbol .backslash)
    (hafter : ∀ t ∈ after, s.cursor.position ≤ t.span.start)
    (hjoined : s.lastIs (.symbol .backslash) = true → removed ≠ [])
    (hbreak : ⟨.lineBreak, .ofText s.cursor.position ['\n']⟩ ∈ tokens ↔
      s.inBrackets = false ∧ s.lastIs (.symbol .backslash) = false) :
    LineFeed tokens s.cursor.position kept.reverse removed.reverse := by
  have hreverse : kept.reverse ++ removed.reverse = s.tokens.reverse := by
    rw [htokens, List.reverse_append]
  have hstop := hresting.stop_le
  obtain ⟨⟨before, gap, -, hcut, -⟩, -⟩ := hresting
  refine ⟨⟨after, hsplit, hafter⟩, fun t ht => hstop t ?_, fun t ht => ?_, fun t ht hkind => ?_, ?_⟩
  · simpa [hreverse] using ht
  · rw [List.mem_reverse] at ht
    have hmem : t ∈ s.tokens := htokens ▸ List.mem_append_left _ ht
    refine ⟨hremoved t ht, fun hlater => hcut.not_stop_le_start hmem (hremoved t ht) ?_⟩
    rw [hsplit] at hlater
    rcases List.mem_append.mp hlater with hlater | hlater
    · obtain ⟨later, earlier, rfl⟩ := List.append_of_mem ht
      rw [htokens, List.append_assoc] at hcut
      exact hcut.stop_le_start t (List.mem_append_right _ (List.mem_reverse.mp hlater))
    · exact Position.le_trans (hstop t hmem) (hafter t hlater)
  · rw [hreverse, List.getLast?_reverse] at ht
    cases removed with
    | nil => exact absurd rfl (hjoined (by simpa [lastIs, Option.mem_def.mp ht] using hkind))
    | cons u removed =>
      obtain rfl : u = t := by simpa [htokens] using ht
      simp
  · rw [hreverse, List.getLast?_reverse, hbreak, lastIs_eq_false_iff,
      hbracketed.inBrackets_eq_false_iff htokens hremoved]

/-- What the lexer makes of a line feed that it comes to. -/
theorem Steps.exists_lineFeed {source : String} {tokens : List Token}
    (hs : Steps named? (.ofText source.toList) s) (ha : s.ahead = '\n' :: rest)
    (h : lexWith named? source = .ok tokens) :
    ∃ before removed, s.tokens.reverse = before ++ removed ∧
      LineFeed tokens s.cursor.position before removed := by
  have hresting := hs.resting
  have hbracketed : s.Bracketed :=
    hs.preserves (fun _ _ hs hmove => hs.move hmove) (bracketed_ofText _)
  have hstep : s.step named? '\n' rest = .ok s.lineBreak := by rw [step, if_pos rfl]
  have hrun : s.lineBreak.run named? = .ok tokens := by
    rw [← run_of_step ha hstep, ← hs.run_eq]
    exact h
  obtain ⟨t, hsteps, -, hfinish⟩ := exists_steps_of_run hrun
  obtain ⟨text, hpasses⟩ := Steps.exists_passes hsteps
  obtain ⟨kept, removed, after, htokens, hsplit, hremoved, hafter⟩ := hpasses.exists_kept hfinish
  have hposition : s.lineBreak.cursor.position = s.cursor.position.after ['\n'] := by
    rw [lineBreak]
    split
    · rfl
    · split <;> rfl
  rw [hposition] at hafter
  have hafter' (u : Token) (hu : u ∈ after) : s.cursor.position ≤ u.span.start :=
    Position.le_trans (Position.le_after _ _) (hafter u hu)
  have hnot (hkept : ∀ u ∈ kept, u ∈ s.tokens) :
      ⟨.lineBreak, .ofText s.cursor.position ['\n']⟩ ∉ tokens :=
    hsplit ▸ lineBreak_not_mem
      (fun u hu => hresting.stop_le u (hkept u (List.mem_reverse.mp hu))) hafter
  rw [lineBreak] at htokens
  split at htokens
  · next hlast =>
    obtain ⟨last, earlier, hs, hkind⟩ := exists_tokens_of_lastIs hlast
    have hs' : s.tokens = (last :: removed) ++ kept := by
      rw [hs, List.cons_append, ← htokens, hs, List.tail_cons]
    refine ⟨kept.reverse, (last :: removed).reverse, by rw [hs', List.reverse_append],
      hresting.lineFeed hbracketed hs' hsplit (List.forall_mem_cons.mpr ⟨hkind, hremoved⟩) hafter'
        (fun _ => List.cons_ne_nil _ _) (iff_of_false (hnot ?_) (by simp [hlast]))⟩
    exact fun u hu => hs' ▸ List.mem_append_right _ hu
  next hlast =>
  rw [Bool.not_eq_true] at hlast
  split at htokens
  · next hin =>
    refine ⟨kept.reverse, removed.reverse, by rw [← List.reverse_append, ← htokens]; rfl,
      hresting.lineFeed hbracketed htokens hsplit hremoved hafter' (by simp [hlast])
        (iff_of_false (hnot ?_) (by simp [hin]))⟩
    exact fun u hu => htokens ▸ List.mem_append_right _ hu
  · next hin =>
    -- The line break is no backslash, so that it remains, and all tokens before it do.
    cases removed with
    | cons u removed =>
      obtain ⟨rfl, -⟩ := List.cons.inj htokens
      cases hremoved _ List.mem_cons_self
    | nil =>
      obtain rfl : _ :: s.tokens = kept := htokens
      have hnone : ∀ u ∈ ([] : List Token), u.kind = .symbol .backslash := by simp
      refine ⟨s.tokens.reverse, [], by simp, hresting.lineFeed hbracketed rfl
        (hsplit.trans (by rw [List.reverse_cons, List.append_assoc])) hnone ?_
        (by simp [hlast]) (iff_of_true ?_ ⟨Bool.not_eq_true _ ▸ hin, hlast⟩)⟩
      · exact List.forall_mem_cons.mpr ⟨Position.le_refl _, hafter'⟩
      · simp [hsplit, spanOf]

end Lexer

/-! ### Whole texts -/

theorem laidOut_of_lexWith {named? : String → Option Char} {source : String} {tokens : List Token}
    (h : lexWith named? source = .ok tokens) : LaidOut source.toList tokens.reverse := by
  have hstart : (Lexer.ofText source.toList).Lines source.toList :=
    ⟨Lexer.resting_ofText _, Lexer.bracketed_ofText _, fun _ _ => .inl rfl, trivial⟩
  obtain ⟨s, hlines, -, hfinish⟩ :=
    Lexer.run_preserves (fun _ _ hs hmove => hs.move hmove) hstart h
  rw [Lexer.finish_eq_ok hfinish, List.reverse_append, List.reverse_reverse]
  exact .cons rfl hlines.laidOut

theorem LaidOut.lineBreak {source : List Char} {later earlier : List Token} {t : Token}
    (h : LaidOut source (later ++ t :: earlier)) (ht : t.kind = .lineBreak) :
    ∀ b ∈ ((earlier.map (·.kind)).reverse.foldl replay []).head?, b = .interpolation := by
  induction later with
  | nil => exact h.1 ht
  | cons u later ih => exact ih h.2.2

/-- No bracket of the language itself is open before an indentation, because there is none open
before the line break that the indentation is behind. -/
theorem LaidOut.indentation {source : List Char} {later earlier : List Token} {t : Token}
    (h : LaidOut source (later ++ t :: earlier)) (ht : t.kind.isIndentation) :
    ∀ b ∈ ((earlier.map (·.kind)).reverse.foldl replay []).head?, b = .interpolation := by
  have hbefore := (h.indented ht).lineBreak
  cases earlier with
  | nil => simp
  | cons u earlier =>
    have hu : u.kind = .lineBreak := hbefore u rfl
    rw [List.map_cons, List.reverse_cons, List.foldl_append, hu]
    rw [← List.singleton_append, ← List.append_assoc] at h
    exact h.lineBreak hu

/-- Every line feed of a text that the lexer accepts is a line break just where no bracket of the
language itself is open and the last token that remains before it is no backslash, unless it is in
a comment. No bracket of the language itself is open before an indentation. -/
theorem lineFeed_of_lexWith {named? : String → Option Char} {source : String} {tokens : List Token}
    (h : lexWith named? source = .ok tokens) :
    (∀ read rest, source.toList = read ++ '\n' :: rest →
      ¬ Lexer.InComment named? source.toList rest →
      ∃ s before removed, Lexer.Steps named? (.ofText source.toList) s ∧ s.ahead = '\n' :: rest ∧
        s.tokens.reverse = before ++ removed ∧
        LineFeed tokens (origin.after read) before removed) ∧
    ∀ before t after, tokens = before ++ t :: after → t.kind.isIndentation →
      ∀ b ∈ ((before.map (·.kind)).foldl replay []).head?, b = .interpolation := by
  constructor
  · intro read rest hsource hcomment
    obtain ⟨t, hsteps, ha, -⟩ := Lexer.exists_steps_of_run h
    obtain ⟨s, hs, hahead | hin⟩ :=
      Lexer.Steps.lineFeed hsteps ⟨read, hsource.symm⟩ (ha ▸ List.nil_suffix)
    · obtain ⟨before, removed, htokens, hfeed⟩ := hs.exists_lineFeed hahead h
      obtain ⟨read', hsource', hposition⟩ := hs.resting.at
      rw [hahead, hsource] at hsource'
      obtain rfl := List.append_cancel_right hsource'
      exact ⟨s, before, removed, hs, hahead, htokens, hposition ▸ hfeed⟩
    · exact absurd ⟨s, hs, hin⟩ hcomment
  · intro before t after hsplit ht
    have hlaidOut := laidOut_of_lexWith h
    rw [hsplit, List.reverse_append, List.reverse_cons, List.append_assoc,
      List.singleton_append] at hlaidOut
    have hbrackets := hlaidOut.indentation ht
    rwa [List.map_reverse, List.reverse_reverse] at hbrackets

/-- Two line feeds in brackets, the first one behind a backslash, and one behind them. There are no
comments. -/
theorem lineFeed_of_lexWith_brackets :
    let source := "(\\\n\n)\n x"
    let tokens : List Token :=
      [⟨.symbol .openRound, ⟨0, 0, 0⟩, ⟨1, 0, 1⟩⟩, ⟨.symbol .closeRound, ⟨4, 2, 0⟩, ⟨5, 2, 1⟩⟩,
        ⟨.lineBreak, ⟨5, 2, 1⟩, ⟨6, 3, 0⟩⟩, ⟨.indentation " ", ⟨6, 3, 0⟩, ⟨7, 3, 1⟩⟩,
        ⟨.identifier "x", ⟨7, 3, 1⟩, ⟨8, 3, 2⟩⟩, ⟨.endOfInput, ⟨8, 3, 2⟩, ⟨8, 3, 2⟩⟩]
    lex source = .ok tokens ∧ ∀ read rest, source.toList = read ++ '\n' :: rest →
      ∃ before removed, LineFeed tokens (origin.after read) before removed := by
  intro source tokens
  have h : lex source = .ok tokens := by decide +kernel
  refine ⟨h, fun read rest hsource => ?_⟩
  have hcomment : ¬ Lexer.InComment CharacterName.find? source.toList rest := by
    rintro ⟨s, hs, _, _, _, hahead, -⟩
    obtain ⟨read', hsource', -⟩ := hs.resting.at
    have hmem : '/' ∈ source.toList := by simp [hsource', hahead]
    exact absurd hmem (by decide)
  obtain ⟨s, before, removed, -, -, -, hfeed⟩ :=
    (lineFeed_of_lexWith h).1 read rest hsource hcomment
  exact ⟨before, removed, hfeed⟩

end Frontend
