import Frontend.Proofs.Token.Interpolation
import Frontend.Proofs.Token.Unescaping
import Frontend.Proofs.Tree.Display

/-!
# The tokens of a display

The lexer reads the display of a rereadable expression as the tokens of the expression and the
brackets and commas around them. `Lexes` says so of a text that stands before another one. What
follows a part of a display ends a word or a number: a space, a comma or a closing bracket
(`Stops`).
-/

namespace Frontend

/-- A word is the text that its token carries. -/
theorem TokenKind.payload?_wordKind (k : WordClass) (word : String) :
    (Lexer.wordKind k word).payload? = some word := by
  rcases wordKind_cases k word with ⟨s, -, hs, hk⟩ | hk | hk
  · rw [hk, payload?, Symbol.name_of_ofWord? hs]
  · rw [hk, payload?]
  · rw [hk, payload?]

namespace Lexer

variable {named? : String → Option Char} {s t u : Lexer} {c : Char} {rest text more : List Char}
  {kind : TokenKind} {ks ks' : List TokenKind}

/-! ### Steps in a line -/

/-- There is a token, and no line starts behind it. -/
def InLine (s : Lexer) : Prop := ∃ k ∈ s.latest?, k ≠ .lineBreak

theorem inLine_emit (hne : kind ≠ .lineBreak) : (s.emit kind text).InLine :=
  Exists.intro kind ⟨rfl, hne⟩

/-- Behind a token of a line there is no start of a line. -/
theorem InLine.atLineStart_eq (h : s.InLine) : s.atLineStart = false := by
  obtain ⟨k, hk, hne⟩ := h
  obtain ⟨u, hu, rfl⟩ := Option.map_eq_some_iff.mp hk
  obtain ⟨tokens, htokens⟩ := List.head?_eq_some_iff.mp hu
  simp [atLineStart, lastIs, htokens, hne]

/-- Steps that read tokens of the given kinds up to the text `rest`, in the middle of a line. -/
structure Reaches (named? : String → Option Char) (s : Lexer) (ks : List TokenKind)
    (rest : List Char) (t : Lexer) : Prop where
  steps : Steps named? s t
  ahead : t.ahead = rest
  kinds : t.kinds = s.kinds ++ ks
  inLine : t.InLine

theorem Reaches.trans (h : Reaches named? s ks more t) (h' : Reaches named? t ks' rest u) :
    Reaches named? s (ks ++ ks') rest u where
  steps := h.steps.trans h'.steps
  ahead := h'.ahead
  kinds := by rw [h'.kinds, h.kinds, List.append_assoc]
  inLine := h'.inLine

/-- A step that reads one token. -/
theorem reaches_of_emit (ha : s.ahead = c :: more)
    (hstep : s.step named? c more = .ok (t.emit kind text)) (ht : t.kinds = s.kinds)
    (hahead : t.ahead = text ++ rest) (hne : kind ≠ .lineBreak) :
    Reaches named? s [kind] rest (t.emit kind text) where
  steps := .single ⟨c, more, ha, hstep⟩
  ahead := ahead_emit hahead
  kinds := by rw [kinds_emit, ht]
  inLine := inLine_emit hne

/-- Wherever the text stands before the text `rest`, the lexer reads tokens of the given kinds from
it and leaves the open brackets as they are. -/
def Lexes (named? : String → Option Char) (text : List Char) (ks : List TokenKind)
    (rest : List Char) : Prop :=
  ∀ s : Lexer, s.ahead = text ++ rest →
    ∃ t, Reaches named? s ks rest t ∧ t.brackets = s.brackets

theorem Lexes.append {text' : List Char} (h : Lexes named? text ks (text' ++ rest))
    (h' : Lexes named? text' ks' rest) : Lexes named? (text ++ text') (ks ++ ks') rest := by
  intro s hs
  obtain ⟨t, ht, hbrackets⟩ := h s (by rw [hs, List.append_assoc])
  obtain ⟨u, hu, hbrackets'⟩ := h' t ht.ahead
  exact ⟨u, ht.trans hu, hbrackets'.trans hbrackets⟩

/-- A space behind a token. -/
theorem Lexes.space (h : Lexes named? text ks (' ' :: rest)) :
    Lexes named? (text ++ [' ']) ks rest := by
  intro s hs
  obtain ⟨t, ht, hbrackets⟩ := h s (by rw [hs, List.append_assoc]; rfl)
  have hstep : t.step named? ' ' rest = .ok (t.skip [' ']) := by
    rw [step, if_neg (by decide), if_neg (by simp [ht.inLine.atLineStart_eq]), if_pos (by decide)]
  exact ⟨t.skip [' '], ⟨ht.steps.tail ⟨' ', rest, ht.ahead, hstep⟩, ahead_skip ht.ahead, ht.kinds,
    ht.inLine⟩, hbrackets⟩

/-! ### Words -/

/-- What follows a part of a display ends a word or a number. -/
def Stops (rest : List Char) : Prop := ∀ c ∈ rest.head?, c ∈ [' ', ',', ')', '\x7d']

theorem stops_cons (hc : c ∈ [' ', ',', ')', '\x7d']) (rest : List Char) : Stops (c :: rest) := by
  rintro _ ⟨⟩
  exact hc

namespace Stops

variable (h : Stops rest)
include h

theorem forall_head? {P : Char → Prop} (hP : P ' ' ∧ P ',' ∧ P ')' ∧ P '\x7d') :
    ∀ c ∈ rest.head?, P c := by
  have hall : ∀ c ∈ [' ', ',', ')', '\x7d'], P c := by simpa using hP
  exact fun c hc => hall c (h c hc)

theorem startsWithLetter_eq : startsWithLetter rest = false := by
  cases rest with
  | nil => rfl
  | cons c rest => exact h.forall_head? (P := (Text.isAlphabetic · = false)) (by decide) c rfl

theorem startsWithDigit_eq : startsWithDigit rest = false := by
  cases rest with
  | nil => rfl
  | cons c rest => exact h.forall_head? (P := (Char.isDigit · = false)) (by decide) c rfl

theorem wordTail_eq (k : WordClass) : wordTail k rest = [] := by
  cases rest with
  | nil => rfl
  | cons c rest =>
    have hc := h.forall_head? (P := fun c => (Text.isBlank c || isReserved c) = true) (by decide)
      c rfl
    rw [wordTail, if_pos hc]

theorem head?_ne {d : Char} (hd : d ∉ [' ', ',', ')', '\x7d']) : rest.head? ≠ some d :=
  fun hhead => hd (h d hhead)

end Stops

/-- A word stands before text that neither continues it nor makes its start a number or a
comment. -/
theorem IsWord.startsWord_append {k : WordClass} {tail : List Char} (h : IsWord k c tail)
    (hdigit : startsWithDigit rest = false) (hline : rest.head? ≠ some '/')
    (hblock : rest.head? ≠ some '*') : StartsWord c (tail ++ rest) := by
  cases tail with
  | nil => exact { h.toStartsWord with
      notFraction := by simp [hdigit]
      notLineComment := fun hc => hline hc.2
      notBlockComment := fun hc => hblock hc.2 }
  | cons d tail => exact { h.toStartsWord with
      notFraction := h.notFraction
      notLineComment := h.notLineComment
      notBlockComment := h.notBlockComment }

/-- What is read of a word where it stands: the word, and what directly follows it. -/
theorem IsWord.step_eq {k : WordClass} {tail : List Char} (h : IsWord k c tail)
    (named? : String → Option Char) (s : Lexer)
    (hstart : StartsWord c (tail ++ rest)) (hrest : wordTail k (tail ++ rest) = tail) :
    s.step named? c (tail ++ rest) =
      (s.emit (wordKind k (String.ofList (c :: tail))) (c :: tail)).afterWord := by
  rw [hstart.step_eq, word, h.class_eq]
  simp only [hrest]

theorem wordKind_ne_lineBreak (k : WordClass) (w : String) : wordKind k w ≠ .lineBreak := by
  rcases TokenKind.wordKind_cases k w with ⟨s, -, -, hk⟩ | hk | hk <;> simp [hk]

theorem afterWord_of_head? (h : s.ahead.head? ≠ some '.') : s.afterWord = .ok s := by
  rw [afterWord]
  split
  · next hahead => simp [hahead] at h
  · rfl

theorem afterWord_of_letter (ha : s.ahead = '.' :: rest) (hletter : startsWithLetter rest) :
    s.afterWord = .ok (s.emit (.symbol .dotAccess) ['.']) := by
  rw [afterWord, ha]
  exact if_pos hletter

theorem IsWord.lexes {k : WordClass} {tail : List Char} (h : IsWord k c tail)
    (hrest : Stops rest) :
    Lexes named? (c :: tail) [wordKind k (String.ofList (c :: tail))] rest := by
  intro s hs
  have hstart : StartsWord c (tail ++ rest) := h.startsWord_append hrest.startsWithDigit_eq
    (hrest.head?_ne (by decide)) (hrest.head?_ne (by decide))
  have htail : wordTail k (tail ++ rest) = tail := wordTail_append h.tail_eq (hrest.wordTail_eq k)
    hrest.startsWithLetter_eq hrest.startsWithDigit_eq
  have hstep := h.step_eq named? s hstart htail
  rw [afterWord_of_head? (by rw [ahead_emit hs]; exact hrest.head?_ne (by decide))] at hstep
  exact ⟨_, reaches_of_emit hs hstep rfl hs (wordKind_ne_lineBreak k _), rfl⟩

/-- A word and the dot of a member access behind it. -/
theorem IsWord.lexes_dot {k : WordClass} {tail : List Char} (h : IsWord k c tail)
    (hrest : startsWithLetter rest) :
    Lexes named? (c :: tail ++ ['.'])
      [wordKind k (String.ofList (c :: tail)), .symbol .dotAccess] rest := by
  intro s hs
  replace hs : s.ahead = (c :: tail) ++ '.' :: rest := by simpa using hs
  have hstart : StartsWord c (tail ++ '.' :: rest) :=
    h.startsWord_append rfl (by simp) (by simp)
  have hdot : wordTail k ('.' :: rest) = [] := by
    rw [wordTail, if_neg (by decide), if_pos ⟨rfl, .inl hrest⟩]
  have htail : wordTail k (tail ++ '.' :: rest) = tail :=
    wordTail_append h.tail_eq hdot (show Text.isAlphabetic '.' = false by decide) rfl
  have hahead : (s.emit (wordKind k (String.ofList (c :: tail))) (c :: tail)).ahead = '.' :: rest :=
    ahead_emit hs
  have hstep := h.step_eq named? s hstart htail
  rw [afterWord_of_letter hahead hrest] at hstep
  refine ⟨_, ⟨.single ⟨c, _, hs, hstep⟩, ?_, ?_, ?_⟩, rfl⟩
  · exact ahead_emit (show Lexer.ahead _ = ['.'] ++ rest from hahead)
  · simp
  · exact inLine_emit (by simp)

/-! ### Literals -/

theorem lexes_number {digits : List Char} (hc : c.isDigit ∨ c = '.' ∧ startsWithDigit digits)
    (h : Number.read (c :: digits) = .ok (c :: digits)) (hrest : Stops rest) :
    Lexes named? (c :: digits) [.number (String.ofList (c :: digits))] rest := by
  intro s hs
  have hread : Number.read s.ahead = .ok (c :: digits) := by
    rw [hs]
    exact Number.read_again h (hrest.forall_head? (by decide))
  have hc' : c.isDigit ∨ c = '.' ∧ startsWithDigit (digits ++ rest) := by
    refine hc.imp id fun ⟨hdot, hdigit⟩ => ⟨hdot, ?_⟩
    have hne : digits ≠ [] := by
      rintro rfl
      cases hdigit
    rw [startsWithDigit_append rest hne, hdigit]
  have hstep : s.step named? c (digits ++ rest) =
      .ok (s.emit (.number (String.ofList (c :: digits))) (c :: digits)) := by
    rw [step_number hc', number, hread]
  exact ⟨_, reaches_of_emit hs hstep rfl hs (by simp), rfl⟩

theorem lexes_character {ahead : List Char} {body : CharacterBody}
    (hbody : CharacterBody.read? named? ahead = some body)
    (hplain : CharacterBody.isPlain body.content) :
    Lexes named? ('\'' :: body.content ++ ['\'']) [.character (String.ofList body.content)]
      rest := by
  intro s hs
  have hahead : s.ahead = '\'' :: (body.content ++ '\'' :: rest) := by simpa using hs
  have hread := CharacterBody.read?_again rest hbody hplain
  have hstep : s.step named? '\'' (body.content ++ '\'' :: rest) =
      .ok (s.emit (.character (String.ofList body.content)) ('\'' :: body.content ++ ['\''])) := by
    rw [step, if_neg (by decide), if_neg (by simp [isIndent]), if_neg (by decide),
      if_neg (by decide), if_pos rfl, character]
    simp only [hahead, List.tail_cons, hread, List.drop_left, List.head?_cons, if_pos]
  exact ⟨_, reaches_of_emit hahead hstep rfl hs (by simp), rfl⟩

open Expression (segmentText partText partKinds)

/-- The content of a segment that can be printed, and how it is written. -/
theorem exists_content {x : Token} (hx : x.kind.isText) (hprintable : x.kind.Printable) :
    ∃ content : List Char, x.kind = .text (String.ofList content) ∧ Text.IsPlain content ∧
      segmentText x = content.flatMap Text.escapeLiteralChar := by
  obtain ⟨content, hkind⟩ := TokenKind.isText_iff.mp hx
  rw [hkind] at hprintable
  refine ⟨content.toList, by rw [hkind, String.ofList_toList], hprintable, ?_⟩
  rw [segmentText, hkind]
  exact Text.toList_escapeLiteral content

/-- A segment that is written up to the closing quote. -/
theorem exists_segment_of_quote (named? : String → Option Char) {x : Token} {lead : List Char}
    (quote : Span)
    (hx : x.kind.isText) (hprintable : x.kind.Printable)
    (hs : s.ahead = lead ++ (segmentText x ++ '"' :: rest)) :
    ∃ t, s.segment named? lead quote = .ok t ∧ t.ahead = rest ∧ t.kinds = s.kinds ++ [x.kind] ∧
      t.brackets = s.brackets ∧ t.InLine := by
  obtain ⟨content, hkind, hplain, htext⟩ := exists_content hx hprintable
  have hend : Segment.read named? ('"' :: rest) = ⟨['"'], [], .quote⟩ := by
    rw [Segment.read, if_neg (by decide), if_pos rfl]
  have hread : Segment.read named? (content.flatMap Text.escapeLiteralChar ++ '"' :: rest) = _ :=
    Segment.read_escaped hplain (by rintro _ ⟨⟩; decide)
  rw [hend, ← htext, List.append_nil] at hread
  refine ⟨s.emit x.kind (lead ++ (segmentText x ++ ['"'])), ?_, ahead_emit (by simpa using hs),
    kinds_emit, rfl, inLine_emit (by simp [hkind])⟩
  rw [segment, hs, List.drop_left, hread, hkind]

/-- A segment that is written up to an interpolation. -/
theorem exists_segment_of_interpolation (named? : String → Option Char) {x : Token}
    {lead : List Char} (quote : Span)
    (hx : x.kind.isText) (hprintable : x.kind.Printable)
    (hs : s.ahead = lead ++ (segmentText x ++ '$' :: '\x7b' :: rest)) :
    ∃ t, s.segment named? lead quote = .ok t ∧ t.ahead = rest ∧
      t.kinds = s.kinds ++ [x.kind, .symbol .interpolationOpen] ∧
      t.brackets = ⟨.interpolation, quote⟩ :: s.brackets := by
  obtain ⟨content, hkind, hplain, htext⟩ := exists_content hx hprintable
  have hend : Segment.read named? ('$' :: '\x7b' :: rest) = ⟨[], [], .interpolation⟩ := by
    rw [Segment.read, if_neg (by decide), if_neg (by decide), if_neg (by decide),
      if_pos ⟨rfl, rfl⟩]
  have hread : Segment.read named?
      (content.flatMap Text.escapeLiteralChar ++ '$' :: '\x7b' :: rest) = _ :=
    Segment.read_escaped hplain (by rintro _ ⟨⟩; decide)
  rw [hend, ← htext, List.append_nil, List.append_nil] at hread
  have hsegment : (s.emit x.kind (lead ++ segmentText x)).ahead = ['$', '\x7b'] ++ rest :=
    ahead_emit (by simpa using hs)
  have hopen : ((s.emit x.kind (lead ++ segmentText x)).emit (.symbol .interpolationOpen)
      ['$', '\x7b']).ahead = rest := ahead_emit hsegment
  refine ⟨((s.emit x.kind (lead ++ segmentText x)).emit (.symbol .interpolationOpen)
    ['$', '\x7b']).push .interpolation quote, ?_, hopen, ?_, rfl⟩
  · rw [segment, hs, List.drop_left, hread, hkind]
  · simp [kinds, push, emit]

/-- A character that is a symbol by itself starts nothing else. -/
theorem step_symbol {symbol : Symbol} (hc : Symbol.ofChar? c = some symbol) :
    s.step named? c rest =
      if s.brackets.head?.any (·.kind == .interpolation) && symbol == .closeCurly then
        s.resume named? (s.brackets.head?.elim .origin (·.span))
      else .ok (s.reserved symbol c) := by
  have hother : c ≠ '\n' ∧ isIndent c = false ∧ Text.isBlank c = false ∧ c ≠ '"' ∧ c ≠ '\'' ∧
      c.isDigit = false ∧ c ≠ '.' ∧ c ≠ '/' := by
    rw [Symbol.ofChar?] at hc
    repeat' split at hc
    all_goals first
      | next h =>
        subst h
        decide
      | cases hc
  obtain ⟨hfeed, hindent, hblank, hquote, hapostrophe, hdigit, hdot, hslash⟩ := hother
  rw [step, if_neg hfeed, if_neg (by simp [hindent]), if_neg (by simp [hblank]), if_neg hquote,
    if_neg hapostrophe, if_neg (by simp [hdigit, hdot]), if_neg (fun h => hslash h.1),
    if_neg (fun h => hslash h.1), hc]
  rcases s.brackets with _ | ⟨⟨kind, quote⟩, brackets⟩
  · rfl
  · cases kind <;> cases symbol <;> rfl

/-- The bracket that closes an interpolation. -/
theorem step_resume {quote : Span} {brackets : List OpenBracket}
    (hb : s.brackets = ⟨.interpolation, quote⟩ :: brackets) :
    s.step named? '\x7d' rest = ((s.close .interpolation).emit (.symbol .interpolationClose)
      ['\x7d']).segment named? [] quote := by
  rw [step_symbol (show Symbol.ofChar? '\x7d' = some .closeCurly by decide), hb]
  rfl

theorem brackets_close {quote : Span} {brackets : List OpenBracket} {kind : BracketKind}
    (hb : s.brackets = ⟨kind, quote⟩ :: brackets) : (s.close kind).brackets = brackets := by
  simp [close, hb]

/-- A text literal from a step that begins one of its segments. The expressions in it are read as
they are anywhere else. -/
theorem exists_steps_of_segment {parts : List (Expression × Token)} {x : Token} {lead : List Char}
    {quote : Span} {before : Lexer}
    (hvalues : ∀ p ∈ parts, ∀ rest, Lexes named? p.1.display.toList p.1.kinds ('\x7d' :: rest))
    (htexts : ∀ p ∈ parts, p.2.kind.isText) (hprintables : ∀ p ∈ parts, p.2.kind.Printable)
    (hx : x.kind.isText) (hxprintable : x.kind.Printable) (ha : before.ahead = c :: more)
    (hstep : before.step named? c more = s.segment named? lead quote)
    (hs : s.ahead = lead ++ (segmentText x ++ (parts.flatMap partText ++ '"' :: rest))) :
    ∃ t, Steps named? before t ∧ t.ahead = rest ∧
      t.kinds = s.kinds ++ x.kind :: parts.flatMap partKinds ∧ t.brackets = s.brackets ∧
      t.InLine := by
  induction parts generalizing before s c more lead x with
  | nil =>
    obtain ⟨t, ht, hahead, hkinds, hbrackets, hline⟩ := exists_segment_of_quote named? quote hx
      hxprintable hs
    exact ⟨t, .single ⟨c, more, ha, hstep.trans ht⟩, hahead, hkinds, hbrackets, hline⟩
  | cons p parts ih =>
    obtain ⟨hvalue, hvalues⟩ := List.forall_mem_cons.mp hvalues
    obtain ⟨hp, htexts⟩ := List.forall_mem_cons.mp htexts
    obtain ⟨hpprintable, hprintables⟩ := List.forall_mem_cons.mp hprintables
    -- The segment is read up to the interpolation, and the expression in it up to its bracket.
    have hs' : s.ahead = lead ++ (segmentText x ++ '$' :: '\x7b' :: (p.1.display.toList ++
        '\x7d' :: (segmentText p.2 ++ (parts.flatMap partText ++ '"' :: rest)))) := by
      simp [hs, partText]
    obtain ⟨s₁, hs₁, hahead₁, hkinds₁, hbrackets₁⟩ :=
      exists_segment_of_interpolation named? quote hx hxprintable hs'
    obtain ⟨s₂, hs₂, hbrackets₂⟩ := hvalue _ s₁ hahead₁
    rw [hbrackets₁] at hbrackets₂
    -- Its bracket is read with the segment behind it, and so on.
    have hclose : (s₂.close .interpolation).ahead =
        ['\x7d'] ++ (segmentText p.2 ++ (parts.flatMap partText ++ '"' :: rest)) := by
      rw [ahead_close, hs₂.ahead, List.singleton_append]
    have hahead₂ : ((s₂.close .interpolation).emit (.symbol .interpolationClose) ['\x7d']).ahead =
        [] ++ (segmentText p.2 ++ (parts.flatMap partText ++ '"' :: rest)) := by
      rw [ahead_emit hclose, List.nil_append]
    obtain ⟨t, ht, hahead, hkinds, hbrackets, hline⟩ := ih hvalues htexts hprintables hp
      hpprintable hs₂.ahead (step_resume hbrackets₂) hahead₂
    refine ⟨t, .head ⟨c, more, ha, hstep.trans hs₁⟩ (hs₂.steps.trans ht), hahead, ?_,
      hbrackets.trans (brackets_close hbrackets₂), hline⟩
    rw [hkinds, kinds_emit, kinds_close, hs₂.kinds, hkinds₁, List.flatMap_cons]
    simp [partKinds]

/-- A text literal with or without expressions in it. -/
theorem lexes_text {parts : List (Expression × Token)} {x : Token}
    (hvalues : ∀ p ∈ parts, ∀ rest, Lexes named? p.1.display.toList p.1.kinds ('\x7d' :: rest))
    (htexts : ∀ p ∈ parts, p.2.kind.isText) (hprintables : ∀ p ∈ parts, p.2.kind.Printable)
    (hx : x.kind.isText) (hxprintable : x.kind.Printable) :
    Lexes named? ('"' :: (segmentText x ++ parts.flatMap partText) ++ ['"'])
      (x.kind :: parts.flatMap partKinds) rest := by
  intro s hs
  have hs' : s.ahead = ['"'] ++ (segmentText x ++ (parts.flatMap partText ++ '"' :: rest)) := by
    simpa using hs
  obtain ⟨t, hsteps, hahead, hkinds, hbrackets, hline⟩ := exists_steps_of_segment hvalues htexts
    hprintables hx hxprintable hs' step_quote hs'
  exact ⟨t, ⟨hsteps, hahead, hkinds, hline⟩, hbrackets⟩

/-! ### Brackets and commas -/

theorem step_reserved {symbol : Symbol} (hc : Symbol.ofChar? c = some symbol)
    (hinner : ∀ b ∈ s.brackets.head?, b.kind = .interpolation → symbol ≠ .closeCurly) :
    s.step named? c rest = .ok (s.reserved symbol c) := by
  rw [step_symbol hc]
  cases hb : s.brackets.head? with
  | none => rfl
  | some b =>
    refine if_neg ?_
    simpa using hinner b hb

theorem reserved_of_opens? {symbol : Symbol} {bracket : BracketKind}
    (h : symbol.opens? = some bracket) :
    s.reserved symbol c = (s.push bracket (s.spanOf [c])).emit (.symbol symbol) [c] := by
  have hcloses : symbol.closes? = none := by cases symbol <;> first | rfl | cases h
  simp only [reserved, h, hcloses]

theorem reserved_of_closes? {symbol : Symbol} {bracket : BracketKind}
    (h : symbol.closes? = some bracket) :
    s.reserved symbol c = (s.close bracket).emit (.symbol symbol) [c] := by
  have hopens : symbol.opens? = none := by cases symbol <;> first | rfl | cases h
  simp only [reserved, h, hopens]

/-- A text in brackets of the language itself. -/
theorem lexes_enclosed {opening closing : Char} {so sc : Symbol} {bracket : BracketKind}
    (ho : Symbol.ofChar? opening = some so) (hopens : so.opens? = some bracket)
    (hc : Symbol.ofChar? closing = some sc) (hcloses : sc.closes? = some bracket)
    (hinner : ∀ s : Lexer, s.ahead = text ++ closing :: rest → s.InLine →
      ∃ t, Reaches named? s ks (closing :: rest) t ∧ t.brackets = s.brackets) :
    Lexes named? (opening :: text ++ [closing]) (.symbol so :: ks ++ [.symbol sc]) rest := by
  intro s hs
  replace hs : s.ahead = opening :: (text ++ closing :: rest) := by simpa using hs
  -- The opening bracket.
  have hopening : s.step named? opening (text ++ closing :: rest) = .ok _ :=
    step_reserved ho fun b _ _ hcurly => by
      subst hcurly
      cases hopens
  rw [reserved_of_opens? hopens] at hopening
  have h₁ : Reaches named? s [.symbol so] (text ++ closing :: rest) _ :=
    reaches_of_emit hs hopening rfl hs (by simp)
  -- The text in the brackets.
  obtain ⟨t, h₂, hbrackets⟩ := hinner _ h₁.ahead h₁.inLine
  replace hbrackets : t.brackets = ⟨bracket, s.spanOf [opening]⟩ :: s.brackets := hbrackets
  -- The closing bracket.
  have hclosing : t.step named? closing rest = .ok _ := step_reserved hc fun b hb hkind => by
    rw [hbrackets] at hb
    cases hb
    exact absurd (hcloses.trans (congrArg some hkind)) (Symbol.closes?_ne_interpolation sc)
  rw [reserved_of_closes? hcloses] at hclosing
  have h₃ : Reaches named? t [.symbol sc] rest _ :=
    reaches_of_emit h₂.ahead hclosing kinds_close ((ahead_close t _).trans h₂.ahead) (by simp)
  exact ⟨_, (h₁.trans h₂).trans h₃, brackets_close hbrackets⟩

theorem lexes_comma : Lexes named? [','] [.symbol .comma] rest := by
  intro s hs
  have hsymbol : Symbol.ofChar? ',' = some .comma := by decide
  have hstep : s.step named? ',' rest = .ok (s.emit (.symbol .comma) [',']) :=
    step_reserved hsymbol (by simp)
  exact ⟨_, reaches_of_emit hs hstep rfl hs (by simp), rfl⟩

theorem Lexes.round (h : Lexes named? text ks (')' :: rest)) :
    Lexes named? ('(' :: text ++ [')']) (.symbol .openRound :: ks ++ [.symbol .closeRound]) rest :=
  lexes_enclosed (by decide) rfl (by decide) rfl fun s hs _ => h s hs

/-! ### Expressions -/

open Expression (Rereadable)

/-- A legible name or operator is a word. -/
theorem exists_isWord (hk : kind.isIdentifier ∨ kind.isOperator) (hlegible : kind.Legible named?) :
    ∃ k c tail, IsWord k c tail ∧ kind = wordKind k (String.ofList (c :: tail)) ∧
      (kind.payload?.getD "").toList = c :: tail := by
  have hword : ∃ k c tail, IsWord k c tail ∧ wordKind k (String.ofList (c :: tail)) = kind := by
    rcases hk with hk | hk
    · obtain ⟨name, rfl⟩ := TokenKind.isIdentifier_iff.mp hk
      exact hlegible
    · obtain ⟨name, rfl⟩ := TokenKind.isOperator_iff.mp hk
      exact hlegible
  obtain ⟨k, c, tail, h, rfl⟩ := hword
  refine ⟨k, c, tail, h, rfl, ?_⟩
  rw [TokenKind.payload?_wordKind, Option.getD_some, String.toList_ofList]

theorem lexes_word (hk : kind.isIdentifier ∨ kind.isOperator) (hlegible : kind.Legible named?)
    (hrest : Stops rest) : Lexes named? (kind.payload?.getD "").toList [kind] rest := by
  obtain ⟨k, c, tail, hword, hkind, hpayload⟩ := exists_isWord hk hlegible
  rw [hpayload, hkind]
  exact hword.lexes hrest

theorem lexes_word_dot (hk : kind.isIdentifier) (hlegible : kind.Legible named?)
    (hrest : startsWithLetter rest) :
    Lexes named? ((kind.payload?.getD "").toList ++ ['.']) [kind, .symbol .dotAccess] rest := by
  obtain ⟨k, c, tail, hword, hkind, hpayload⟩ := exists_isWord (.inl hk) hlegible
  rw [hpayload, hkind]
  exact hword.lexes_dot hrest

theorem lexes_leaf (hk : kind.isLeaf) (hlegible : kind.Legible named?)
    (hprintable : kind.Printable) (hrest : Stops rest) :
    Lexes named? (Expression.displayFactor kind).toList [kind] rest := by
  cases kind with
  | identifier name => exact lexes_word (.inl rfl) hlegible hrest
  | number digits =>
    obtain ⟨c, tail, hdigits, hc, hread⟩ := hlegible
    have hlexes : Lexes named? (c :: tail) _ rest := lexes_number hc hread hrest
    rw [← hdigits, String.ofList_toList] at hlexes
    exact hlexes
  | character content =>
    obtain ⟨ahead, body, hbody, rfl⟩ := hlegible
    have hplain : CharacterBody.isPlain body.content := by
      simpa [TokenKind.Printable] using hprintable
    simpa [Expression.displayFactor] using lexes_character hbody hplain
  | text content =>
    have hlexes : Lexes named?
        ('"' :: (segmentText ⟨.text content, .origin⟩ ++ [].flatMap partText) ++ ['"'])
        (.text content :: [].flatMap partKinds) rest :=
      lexes_text (by simp) (by simp) (by simp) rfl hprintable
    simpa [Expression.displayFactor, segmentText, TokenKind.payload?] using hlexes
  | _ => cases hk

theorem Stops.elements (h : Stops rest) (es : List Expression) :
    Stops ((es.flatMap fun e => ',' :: ' ' :: e.display.toList) ++ rest) := by
  cases es with
  | nil => exact h
  | cons e es => exact stops_cons (by decide) _

/-- Elements behind a text, each behind a comma. -/
theorem Lexes.elements {es : List Expression}
    (hes : ∀ e ∈ es, ∀ rest, Stops rest → Lexes named? e.display.toList e.kinds rest)
    (h : Lexes named? text ks ((es.flatMap fun e => ',' :: ' ' :: e.display.toList) ++ rest))
    (hrest : Stops rest) :
    Lexes named? (text ++ es.flatMap fun e => ',' :: ' ' :: e.display.toList)
      (ks ++ es.flatMap fun e => .symbol .comma :: e.kinds) rest := by
  induction es generalizing text ks with
  | nil => simpa using h
  | cons e es ih =>
    obtain ⟨he, hes⟩ := List.forall_mem_cons.mp hes
    have hnext := hrest.elements es
    have hcomma (rest : List Char) : Lexes named? ([','] ++ [' ']) [.symbol .comma] rest :=
      lexes_comma.space
    have hlexes := ih hes (Lexes.append (by simpa using h) ((hcomma _).append (he _ hnext)))
    simpa using hlexes

/-- The elements between two brackets, if there are any. -/
theorem exists_reaches_elements {es : List Expression}
    (hes : ∀ e ∈ es, ∀ rest, Stops rest → Lexes named? e.display.toList e.kinds rest)
    (hrest : Stops rest)
    (hs : s.ahead = (String.intercalate ", " (Expression.displayAll es)).toList ++ rest)
    (hline : s.InLine) :
    ∃ t, Reaches named? s
      ([TokenKind.symbol .comma].intercalate (Expression.kindsOfAll es)) rest t ∧
        t.brackets = s.brackets := by
  cases es with
  | nil => exact ⟨s, ⟨.refl, hs, by simp [Expression.kindsOfAll], hline⟩, rfl⟩
  | cons e es =>
    obtain ⟨he, hes⟩ := List.forall_mem_cons.mp hes
    have hnext := hrest.elements es
    rw [Expression.toList_intercalate_displayAll_cons] at hs
    rw [Expression.intercalate_kindsOfAll_cons]
    exact Lexes.elements hes (he _ hnext) hrest s hs

end Lexer

open Lexer (Lexes Stops)

/-- The lexer reads the display of a rereadable expression, and nothing else, as its tokens. -/
theorem Expression.Rereadable.lexes {named? : String → Option Char} {e : Expression}
    (h : e.Rereadable named?) {rest : List Char} (hrest : Stops rest) :
    Lexes named? e.display.toList e.kinds rest := by
  have hspace : ∀ text, Stops (' ' :: text) := Lexer.stops_cons (by decide)
  have hround : ∀ text, Stops (')' :: text) := Lexer.stops_cons (by decide)
  have hcurly : ∀ text, Stops ('\x7d' :: text) := Lexer.stops_cons (by decide)
  induction h generalizing rest with
  | factor ht hlegible hprintable =>
    rw [display]
    exact Lexer.lexes_leaf ht hlegible hprintable hrest
  | @application callee argument _ _ _ _ ihcallee ihargument =>
    have hcallee (rest : List Char) : Lexes named? (callee.display.toList ++ [' ']) callee.kinds
        rest := (ihcallee (hspace rest)).space
    rw [display, kinds]
    split
    · have hargument := (ihargument (hround rest)).round
      simpa using (hcallee _).append hargument
    · simpa using (hcallee _).append (ihargument hrest)
  | @operation o left right _ ho hlegible _ _ ihleft ihright =>
    have hdot : o.kind.isSymbol .dotAccess = false := by
      obtain ⟨name, hname⟩ := TokenKind.isOperator_iff.mp ho
      rw [hname]
      rfl
    have hleft (rest : List Char) : Lexes named? (left.display.toList ++ [' ']) left.kinds rest :=
      (ihleft (hspace rest)).space
    have hoperator (rest : List Char) :
        Lexes named? ((o.kind.payload?.getD "").toList ++ [' ']) [o.kind] rest :=
      (Lexer.lexes_word (.inr ho) hlegible (hspace rest)).space
    have hlexes := ((hleft _).append ((hoperator _).append (ihright (hround rest)))).round
    simpa [display, kinds, hdot] using hlexes
  | @member o x y _ _ _ ho hx hxlegible hy hylegible hletter =>
    obtain ⟨xname, hxname⟩ := TokenKind.isIdentifier_iff.mp hx
    obtain ⟨yname, hyname⟩ := TokenKind.isIdentifier_iff.mp hy
    have hynext : Lexer.startsWithLetter (yname.toList ++ ')' :: rest) := by
      rw [hyname] at hletter
      rw [Lexer.startsWithLetter_append]
      · exact hletter
      · intro hnil
        rw [TokenKind.startsWithLetter, hnil] at hletter
        cases hletter
    have hvalue := Lexer.lexes_word_dot hx hxlegible hynext
    have hmember := Lexer.lexes_word (.inl hy) hylegible (hround rest)
    rw [hxname] at hvalue
    rw [hyname] at hmember
    have hlexes := (hvalue.append hmember).round
    simpa [display, kinds, displayFactor, TokenKind.isSymbol, TokenKind.payload?, ho, hxname,
      hyname] using hlexes
  | tuple _ _ ih =>
    have hlexes : Lexes named? _ _ rest :=
      Lexer.lexes_enclosed (show Symbol.ofChar? '(' = some .openRound by decide) rfl
        (show Symbol.ofChar? ')' = some .closeRound by decide) rfl fun s hs hline =>
          Lexer.exists_reaches_elements (fun e he rest hrest => ih e he hrest) (hround _) hs hline
    simpa [display, kinds] using hlexes
  | list _ ih =>
    have hlexes : Lexes named? _ _ rest :=
      Lexer.lexes_enclosed (show Symbol.ofChar? '\x7b' = some .openCurly by decide) rfl
        (show Symbol.ofChar? '\x7d' = some .closeCurly by decide) rfl fun s hs hline =>
          Lexer.exists_reaches_elements (fun e he rest hrest => ih e he hrest) (hcurly _) hs hline
    simpa [display, kinds] using hlexes
  | interpolation hfirst hprintable _ _ htexts hprintables ih =>
    have hlexes : Lexes named? _ _ rest :=
      Lexer.lexes_text (fun p hp rest => ih p hp (hcurly rest)) htexts hprintables hfirst hprintable
    rw [display, kinds, kindsOfSegments_parts htexts hfirst]
    simpa [toList_join_displaySegments htexts hfirst] using hlexes

/-- The display of a rereadable expression is a source text, and its tokens are those of the
expression and the end of input. -/
theorem Expression.Rereadable.exists_lexWith {named? : String → Option Char} {e : Expression}
    (h : e.Rereadable named?) : ∃ own stop, lexWith named? e.display = .ok (own ++ [stop]) ∧
      own.map (·.kind) = e.kinds ∧ stop.kind = .endOfInput := by
  have hahead : (Lexer.ofText e.display.toList).ahead = e.display.toList ++ [] := by
    rw [List.append_nil]
    rfl
  obtain ⟨t, ht, hbrackets⟩ := h.lexes (by simp [Stops]) _ hahead
  have hrun : t.run named? = t.finish := by
    rw [Lexer.run]
    split
    · rfl
    · next hcons => simp [ht.ahead] at hcons
  have hfinish : t.finish =
      .ok (t.tokens.reverse ++ [⟨.endOfInput, .empty t.cursor.position⟩]) := by
    rw [Lexer.finish, hbrackets]
    rfl
  refine ⟨t.tokens.reverse, ⟨.endOfInput, .empty t.cursor.position⟩, ?_, ?_, rfl⟩
  · rw [lexWith, ht.steps.run_eq, hrun, hfinish]
  · rw [List.map_reverse]
    exact ht.kinds

end Frontend
