import Frontend.Proofs.Grammar.Optional

/-!
# Which readers call which

The readers call each other, and a loop calls itself for its next turn. Where an end of input is
ahead, no call goes back: it is made at a later place than the one that its caller is at, with no
end of input in between, or at the same place, but then it goes down a rank. The ranks go down from
the brackets to what may stand between them, from there to the bands and from each band to the
tighter one, and on to applications, factors and primary expressions.

No chain of calls therefore goes on for ever, and the number of tokens ahead bounds its length.
-/

namespace Frontend.Parser

open TokenStream (Passes)

/-! ### Readers and their calls -/

/-- What reads a part of an expression or of a module at some place. -/
inductive Reader where
  | wholeExpression | expression | elements
  | binary (band : Nat)
  | operations (band : Nat)
  | application | arguments | factor | members | primary | round | curly | text | segments
  | module | header | imports | importLine | bindings | names | items | item | line
  | separators | blankLines | lineBreaks
deriving DecidableEq, Repr

/-- The parser reads a value between two places. -/
def Reaches {α : Type} (p : Parser α) (s t : TokenStream) : Prop := ∃ a, p s = .ok a t

/-- With some number of calls, the reader finds an expression between two places. -/
def Reaches? (p : Nat → Parser (Option Expression)) (s t : TokenStream) : Prop :=
  ∃ n e, p n s = .ok (some e) t

/-- A reader calls another one, each of them at its place. What the caller has read before, be it by
calls of other readers, lies between the two places. -/
inductive Calls (fixities : FixityTable) : Reader × TokenStream → Reader × TokenStream → Prop
  | wholeExpression {s : TokenStream} : Calls fixities (.wholeExpression, s) (.expression, s)
  | wholeLineBreaks {s t : TokenStream} (h : Reaches? (expressionWithin fixities) s t) :
      Calls fixities (.wholeExpression, s) (.lineBreaks, t)
  | expressionBinary {s : TokenStream} : Calls fixities (.expression, s) (.binary 0, s)
  | expressionElements {s t : TokenStream} (h : Reaches? (binaryWithin fixities · 0) s t)
      (hk : (t.skipContinuation (·.isSymbol .comma)).current.kind.isSymbol .comma) :
      Calls fixities (.expression, s) (.elements, t.skipContinuation (·.isSymbol .comma))
  | elementsBinary {s : TokenStream} (hk : s.current.kind = .symbol .comma) :
      Calls fixities (.elements, s) (.binary 0, s.advance)
  | elementsNext {s t : TokenStream} (hk : s.current.kind = .symbol .comma)
      (h : Reaches? (binaryWithin fixities · 0) s.advance t) :
      Calls fixities (.elements, s) (.elements, t.skipContinuation (·.isSymbol .comma))
  | binaryTighter {band : Nat} {s : TokenStream} (hband : band ≤ Fixity.maxPrecedence) :
      Calls fixities (.binary band, s) (.binary (band + 1), s)
  | binaryApplication {band : Nat} {s : TokenStream} (hband : Fixity.maxPrecedence < band) :
      Calls fixities (.binary band, s) (.application, s)
  | binaryOperations {band : Nat} {s t : TokenStream} (hband : band ≤ Fixity.maxPrecedence)
      (h : Reaches? (binaryWithin fixities · (band + 1)) s t) :
      Calls fixities (.binary band, s) (.operations band, t)
  | operationsRight {band : Nat} {name : String} {s t : TokenStream}
      (ht : s.skipContinuation (·.isOperator) = t) (hk : t.current.kind = .operator name)
      (hband : (fixities.get name).precedence.val = band) :
      Calls fixities (.operations band, s) (.binary (fixities.get name).rightBand, t.advance)
  | operationsNext {band : Nat} {name : String} {s t u : TokenStream}
      (ht : s.skipContinuation (·.isOperator) = t) (hk : t.current.kind = .operator name)
      (hband : (fixities.get name).precedence.val = band)
      (h : Reaches? (binaryWithin fixities · (fixities.get name).rightBand) t.advance u) :
      Calls fixities (.operations band, s) (.operations band, u)
  | applicationFactor {s : TokenStream} : Calls fixities (.application, s) (.factor, s)
  | applicationArguments {s t : TokenStream} (h : Reaches? (factorWithin fixities) s t) :
      Calls fixities (.application, s) (.arguments, t)
  | argumentsFactor {s : TokenStream} : Calls fixities (.arguments, s) (.factor, s)
  | argumentsNext {s t : TokenStream} (h : Reaches? (factorWithin fixities) s t) :
      Calls fixities (.arguments, s) (.arguments, t)
  | factorPrimary {s : TokenStream} :
      Calls fixities (.factor, s) (.primary, s.skipContinuation (·.startsFactor))
  | factorMembers {s t : TokenStream}
      (h : Reaches? (primaryWithin fixities) (s.skipContinuation (·.startsFactor)) t) :
      Calls fixities (.factor, s) (.members, t)
  | membersNext {s : TokenStream} (hk : s.current.kind = .symbol .dotAccess)
      (hname : s.advance.current.kind.isIdentifier) :
      Calls fixities (.members, s) (.members, s.advance.advance)
  | primaryText {s : TokenStream} {content : String} (hk : s.current.kind = .text content) :
      Calls fixities (.primary, s) (.text, s.advance)
  | primaryRound {s : TokenStream} (hk : s.current.kind = .symbol .openRound) :
      Calls fixities (.primary, s) (.round, s.advance)
  | primaryCurly {s : TokenStream} (hk : s.current.kind = .symbol .openCurly) :
      Calls fixities (.primary, s) (.curly, s.advance)
  | roundExpression {s : TokenStream} (hk : s.current.kind ≠ .symbol .closeRound) :
      Calls fixities (.round, s) (.expression, s)
  | curlyBinary {s : TokenStream} : Calls fixities (.curly, s) (.binary 0, s)
  | curlyElements {s t : TokenStream} (h : Reaches? (binaryWithin fixities · 0) s t) :
      Calls fixities (.curly, s) (.elements, t)
  | textSegments {s : TokenStream} (hk : s.current.kind.isSymbol .interpolationOpen) :
      Calls fixities (.text, s) (.segments, s)
  | segmentsExpression {s : TokenStream} (hk : s.current.kind = .symbol .interpolationOpen) :
      Calls fixities (.segments, s) (.expression, s.advance)
  | segmentsNext {s t : TokenStream} (hk : s.current.kind = .symbol .interpolationOpen)
      (h : Reaches? (expressionWithin fixities) s.advance t)
      (hclose : t.current.kind.isSymbol .interpolationClose)
      (htext : t.advance.current.kind.isText) :
      Calls fixities (.segments, s) (.segments, t.advance.advance)
  | moduleBlankLines {s : TokenStream} : Calls fixities (.module, s) (.blankLines, s)
  | moduleHeader {s t : TokenStream} (h : Reaches (repeated blankLinesWithin) s t) :
      Calls fixities (.module, s) (.header, t)
  | moduleImports {s t u : TokenStream} (h : Reaches (repeated blankLinesWithin) s t)
      (hheader : Reaches header t u) : Calls fixities (.module, s) (.imports, u)
  | moduleItems {s t u v : TokenStream} (h : Reaches (repeated blankLinesWithin) s t)
      (hheader : Reaches header t u) (himports : Reaches (repeated importsWithin) u v) :
      Calls fixities (.module, s) (.items, v)
  | headerBindings {s t : TokenStream} (hk : s.current.kind.isSymbol .moduleWord)
      (h : Reaches (identifier .invalidModuleName) s.advance t) :
      Calls fixities (.header, s) (.bindings, t)
  | importsSeparators {s : TokenStream} : Calls fixities (.imports, s) (.separators, s)
  | importsLine {s t : TokenStream} (h : Reaches separators s t)
      (hk : t.current.kind = .symbol .importWord) :
      Calls fixities (.imports, s) (.importLine, t.advance)
  | importsNext {s t u : TokenStream} (h : Reaches separators s t)
      (hk : t.current.kind = .symbol .importWord) (hline : Reaches importRest t.advance u) :
      Calls fixities (.imports, s) (.imports, u)
  | importBindings {s t u : TokenStream} (h : Reaches (identifier .invalidImport) s t)
      (hlocal : Reaches localName? t u) : Calls fixities (.importLine, s) (.bindings, u)
  | bindingsNames {s : TokenStream} (hk : s.current.kind = .symbol .openRound)
      (hclose : s.advance.current.kind ≠ .symbol .closeRound) :
      Calls fixities (.bindings, s) (.names, s.advance)
  | namesNext {s t : TokenStream} {fault : SyntaxFault} (h : Reaches (identifier fault) s t)
      (hk : t.current.kind.isSymbol .comma) : Calls fixities (.names, s) (.names, t.advance)
  | itemsSeparators {s : TokenStream} : Calls fixities (.items, s) (.separators, s)
  | itemsItem {s t : TokenStream} (h : Reaches separators s t) (hk : t.current.kind ≠ .endOfInput) :
      Calls fixities (.items, s) (.item, t)
  | itemsNext {s t u : TokenStream} (h : Reaches separators s t)
      (hk : t.current.kind ≠ .endOfInput) (hitem : Reaches (item fixities) t u) :
      Calls fixities (.items, s) (.items, u)
  | itemLine {s : TokenStream}
      (hk : s.current.kind.isSymbol .dataWord ∨ s.current.kind.isIdentifier) :
      Calls fixities (.item, s) (.line, s)
  | itemExpression {s t : TokenStream} (h : Reaches (identifier .declarationExpected) s t)
      (hk : t.current.kind.isSymbol .equals) : Calls fixities (.item, s) (.expression, t.advance)
  | lineNext {s : TokenStream}
      (hend : ¬ (s.current.kind = .endOfInput ∨ s.current.kind = .symbol .semicolon))
      (hbreak : s.current.kind ≠ .lineBreak) : Calls fixities (.line, s) (.line, s.advance)
  | lineContinued {s : TokenStream} (hk : s.continues fun _ => true) :
      Calls fixities (.line, s) (.line, s.skipContinuation fun _ => true)
  | separatorsBlankLines {s : TokenStream} : Calls fixities (.separators, s) (.blankLines, s)
  | separatorsNext {s t : TokenStream} (h : Reaches (repeated blankLinesWithin) s t)
      (hk : t.current.kind = .symbol .semicolon) :
      Calls fixities (.separators, s) (.separators, t.advance)
  | blankLinesNext {s : TokenStream} (hk : s.current.kind = .lineBreak ∨
      s.current.kind.isIndentation ∧ (s.peek 1).kind.isBlank) :
      Calls fixities (.blankLines, s) (.blankLines, s.advance)
  | lineBreaksNext {s : TokenStream} (hk : s.current.kind = .lineBreak) :
      Calls fixities (.lineBreaks, s) (.lineBreaks, s.advance)

/-! ### No call goes back -/

/-- The rank of a reader. The tighter a band is, the lower is its rank, and no rank reaches the
sixteen calls that there are for each token. -/
def Reader.rank : Reader → Nat
  | .wholeExpression | .round                     => 15
  | .expression | .curly                          => 14
  | .binary band                                  => Fixity.maxPrecedence + 1 - band + 3
  | .module                                       => 3
  | .application | .arguments | .imports | .items => 2
  | .factor | .text | .separators | .item         => 1
  -- All other readers make their calls at later places only.
  | .elements | .operations _ | .members | .primary | .segments | .header | .importLine | .bindings
  | .names | .line | .blankLines | .lineBreaks    => 0

theorem Reader.rank_le (r : Reader) : r.rank ≤ 15 := by
  cases r <;> simp only [rank, Fixity.maxPrecedence] <;> omega

/-- A call at a later place, or one at the same place that goes down a rank. -/
def Descends (caller callee : Reader × TokenStream) : Prop :=
  caller.2.Passes callee.2 ∨ callee.2 = caller.2 ∧ callee.1.rank < caller.1.rank

variable {fixities : FixityTable} {r r' : Reader} {s t : TokenStream} {read : List Token}
  {band : Nat}

theorem Descends.here (h : r'.rank < r.rank) : Descends (r, s) (r', s) := .inr ⟨rfl, h⟩

/-- With a lower rank it makes no difference whether anything is read before the call. -/
theorem Descends.of_reads (hr : s.Reads read t) (h : r'.rank < r.rank) :
    Descends (r, s) (r', t) := by
  cases read with
  | nil => exact hr.eq_of_nil ▸ .here h
  | cons x read => exact .inl ⟨x, read, hr⟩

/-! ### What is read before a call -/

theorem Reaches.reads {α : Type} {p : Parser α} (h : Reaches p s t) (hp : p.Advances s) :
    ∃ read, s.Reads read t := by
  obtain ⟨a, ha⟩ := h
  exact hp.of_ok ha

theorem Reaches?.passes {p : Nat → Parser (Option Expression)} (h : Reaches? p s t)
    (hp : ∀ n, (p n).Finds s) : s.Passes t := by
  obtain ⟨n, e, he⟩ := h
  exact ((hp n).of_ok he).2

theorem expression_passes (hs : s.Ends) (h : Reaches? (expressionWithin fixities) s t) :
    s.Passes t :=
  h.passes fun n => expressionWithin_finds n hs.ahead_ne_nil

theorem binary_passes (hs : s.Ends) (h : Reaches? (binaryWithin fixities · band) s t) :
    s.Passes t :=
  h.passes fun n => binaryWithin_finds n band hs.ahead_ne_nil

theorem factor_passes (hs : s.Ends) (h : Reaches? (factorWithin fixities) s t) : s.Passes t :=
  h.passes fun n => factorWithin_finds n hs.ahead_ne_nil

theorem primary_passes (hs : s.Ends)
    (h : Reaches? (primaryWithin fixities) (s.skipContinuation (·.startsFactor)) t) :
    s.Passes t := by
  obtain ⟨n, e, he⟩ := h
  obtain ⟨hstarts, read, hr⟩ := (primaryWithin_answers n _).of_ok he
  exact (TokenStream.passes_of_startsFactor hs.ahead_ne_nil hstarts).trans hr

theorem identifier_passes {fault : SyntaxFault} (hs : s.Ends) (h : Reaches (identifier fault) s t) :
    s.Passes t := by
  obtain ⟨i, hi⟩ := h
  obtain ⟨x, hx, -⟩ := (identifier_reads hs).of_ok hi
  exact ⟨x, [], hx⟩

/-- An item has at least one token. -/
theorem item_passes (hs : s.Ends) (h : Reaches (item fixities) s t) : s.Passes t := by
  obtain ⟨i, hi⟩ := h
  have hechoes : (item fixities).Echoes (item fixities) (fun _ => 1) 0 0 s := item_echoes
  obtain ⟨read, hr, hleast, -⟩ := hechoes.of_ok hi
  obtain ⟨x, read, rfl⟩ := List.exists_cons_of_length_pos (hleast (hr.ends hs).sighted)
  exact ⟨x, read, hr⟩

theorem blankLines_read (hs : s.Ends) (h : Reaches (repeated blankLinesWithin) s t) :
    ∃ read, s.Reads read t :=
  h.reads (.repeated fun n => blankLinesWithin_advances n hs)

theorem separators_read (hs : s.Ends) (h : Reaches separators s t) : ∃ read, s.Reads read t :=
  h.reads (separators_advances hs)

theorem header_read (hs : s.Ends) (h : Reaches header s t) : ∃ read, s.Reads read t :=
  h.reads (header_advances hs)

/-- As long as an end of input is ahead, every call descends. -/
theorem Calls.descends (h : Calls fixities (r, s) (r', t)) (hs : s.Ends) :
    Descends (r, s) (r', t) := by
  cases h with
  | wholeExpression => exact .here (by decide)
  | wholeLineBreaks h => exact .inl (expression_passes hs h)
  | expressionBinary => exact .here (by decide)
  | @expressionElements _ t h =>
    obtain ⟨_, hl⟩ := t.exists_reads_skipContinuation (·.isSymbol .comma)
    exact .inl ((binary_passes hs h).trans hl)
  | elementsBinary hk => exact .inl (hs.passes_advance (by simp [hk]))
  | @elementsNext _ t hk h =>
    have hcomma := hs.passes_advance (by simp [hk])
    obtain ⟨_, hr⟩ := (binary_passes (hcomma.ends hs) h).reads
    obtain ⟨_, hl⟩ := t.exists_reads_skipContinuation (·.isSymbol .comma)
    exact .inl (hcomma.trans (hr.trans hl))
  | binaryTighter hband =>
    refine .here ?_
    simp only [Reader.rank]
    omega
  | binaryApplication =>
    refine .here ?_
    simp only [Reader.rank]
    omega
  | binaryOperations _ h => exact .inl (binary_passes hs h)
  | operationsRight ht hk =>
    obtain ⟨_, hl⟩ := s.exists_reads_skipContinuation (·.isOperator)
    rw [ht] at hl
    exact .inl (((hl.ends hs).passes_advance (by simp [hk])).before hl)
  | operationsNext ht hk _ h =>
    obtain ⟨_, hl⟩ := s.exists_reads_skipContinuation (·.isOperator)
    rw [ht] at hl
    have hoperator := (hl.ends hs).passes_advance (by simp [hk])
    obtain ⟨_, hr⟩ := (binary_passes (hoperator.ends (hl.ends hs)) h).reads
    exact .inl ((hoperator.trans hr).before hl)
  | applicationFactor => exact .here (by decide)
  | applicationArguments h => exact .inl (factor_passes hs h)
  | argumentsFactor => exact .here (by decide)
  | argumentsNext h => exact .inl (factor_passes hs h)
  | factorPrimary =>
    obtain ⟨_, hl⟩ := s.exists_reads_skipContinuation (·.startsFactor)
    exact .of_reads hl (by decide)
  | factorMembers h => exact .inl (primary_passes hs h)
  | membersNext hk =>
    obtain ⟨_, hr⟩ := s.advance.exists_reads_advance
    exact .inl ((hs.passes_advance (by simp [hk])).trans hr)
  | primaryText hk => exact .inl (hs.passes_advance (by simp [hk]))
  | primaryRound hk => exact .inl (hs.passes_advance (by simp [hk]))
  | primaryCurly hk => exact .inl (hs.passes_advance (by simp [hk]))
  | roundExpression => exact .here (by decide)
  | curlyBinary => exact .here (by decide)
  | curlyElements h => exact .inl (binary_passes hs h)
  | textSegments => exact .here (by decide)
  | segmentsExpression hk => exact .inl (hs.passes_advance (by simp [hk]))
  | @segmentsNext _ t hk h =>
    have hopen := hs.passes_advance (by simp [hk])
    obtain ⟨_, hr⟩ := (expression_passes (hopen.ends hs) h).reads
    obtain ⟨_, hclose⟩ := t.exists_reads_advance
    obtain ⟨_, htext⟩ := t.advance.exists_reads_advance
    exact .inl (hopen.trans (hr.trans (hclose.trans htext)))
  | moduleBlankLines => exact .here (by decide)
  | moduleHeader h =>
    obtain ⟨_, hr⟩ := blankLines_read hs h
    exact .of_reads hr (by decide)
  | moduleImports h hheader =>
    obtain ⟨_, hr⟩ := blankLines_read hs h
    obtain ⟨_, hr'⟩ := header_read (hr.ends hs) hheader
    exact .of_reads (hr.trans hr') (by decide)
  | moduleItems h hheader himports =>
    obtain ⟨_, hr⟩ := blankLines_read hs h
    obtain ⟨_, hr'⟩ := header_read (hr.ends hs) hheader
    have hu := (hr.trans hr').ends hs
    obtain ⟨_, hr''⟩ := himports.reads (.repeated fun n => importsWithin_advances n hu)
    exact .of_reads (hr.trans (hr'.trans hr'')) (by decide)
  | headerBindings hk h =>
    have hword := hs.passes_advance (by simp [TokenKind.isSymbol_iff.mp hk])
    obtain ⟨_, hr⟩ := (identifier_passes (hword.ends hs) h).reads
    exact .inl (hword.trans hr)
  | importsSeparators => exact .here (by decide)
  | importsLine h hk =>
    obtain ⟨_, hr⟩ := separators_read hs h
    exact .inl (((hr.ends hs).passes_advance (by simp [hk])).before hr)
  | importsNext h hk hline =>
    obtain ⟨_, hr⟩ := separators_read hs h
    have hword := (hr.ends hs).passes_advance (by simp [hk])
    obtain ⟨_, hr'⟩ := hline.reads (importRest_advances (hword.ends (hr.ends hs)))
    exact .inl ((hword.trans hr').before hr)
  | importBindings h hlocal =>
    have hname := identifier_passes hs h
    obtain ⟨_, hr⟩ := hlocal.reads (localName?_advances (hname.ends hs))
    exact .inl (hname.trans hr)
  | bindingsNames hk => exact .inl (hs.passes_advance (by simp [hk]))
  | @namesNext _ t _ h =>
    obtain ⟨_, hr⟩ := t.exists_reads_advance
    exact .inl ((identifier_passes hs h).trans hr)
  | itemsSeparators => exact .here (by decide)
  | itemsItem h =>
    obtain ⟨_, hr⟩ := separators_read hs h
    exact .of_reads hr (by decide)
  | itemsNext h _ hitem =>
    obtain ⟨_, hr⟩ := separators_read hs h
    exact .inl ((item_passes (hr.ends hs) hitem).before hr)
  | itemLine => exact .here (by decide)
  | @itemExpression _ t h =>
    obtain ⟨_, hr⟩ := t.exists_reads_advance
    exact .inl ((identifier_passes hs h).trans hr)
  | lineNext hend => exact .inl (hs.passes_advance fun hk => hend (.inl hk))
  | lineContinued hk => exact .inl (TokenStream.passes_skipContinuation hs.ahead_ne_nil hk)
  | separatorsBlankLines => exact .here (by decide)
  | separatorsNext h hk =>
    obtain ⟨_, hr⟩ := blankLines_read hs h
    exact .inl (((hr.ends hs).passes_advance (by simp [hk])).before hr)
  | blankLinesNext hk =>
    refine .inl (hs.passes_advance fun hend => ?_)
    simp [hend, TokenKind.isIndentation] at hk
  | lineBreaksNext hk => exact .inl (hs.passes_advance (by simp [hk]))

/-! ### Chains of calls -/

/-- A number of calls, one inside of the other, that is not exceeded from a reader at a place. -/
def Reader.depth (r : Reader) (s : TokenStream) : Nat := 16 * s.ahead.length + r.rank

theorem Descends.depth_lt (h : Descends (r, s) (r', t)) : r'.depth t < r.depth s := by
  have hrank := r'.rank_le
  rw [Reader.depth, Reader.depth]
  rcases h with hpasses | ⟨rfl, hlt⟩
  · have hlength : t.ahead.length < s.ahead.length := hpasses.length_lt
    omega
  · exact Nat.add_lt_add_left hlt _

theorem Descends.reads (h : Descends (r, s) (r', t)) : ∃ read, s.Reads read t := by
  rcases h with hpasses | ⟨rfl, -⟩
  · exact hpasses.reads
  · exact ⟨[], .refl _⟩

/-- What holds at a call if it holds at all calls that are made there holds at all calls. -/
theorem Calls.induction (fixities : FixityTable) {P : Reader → TokenStream → Prop}
    (step : ∀ r s, s.Ends → (∀ r' t, Calls fixities (r, s) (r', t) → P r' t) → P r s)
    (r : Reader) (s : TokenStream) (hs : s.Ends) : P r s := by
  induction hd : r.depth s using Nat.strong_induction_on generalizing r s with
  | _ d ih =>
    subst hd
    refine step r s hs fun r' t h => ?_
    have hdescends := h.descends hs
    obtain ⟨_, hr⟩ := hdescends.reads
    exact ih _ hdescends.depth_lt r' t (hr.ends hs) rfl

/-- No chain of calls goes on for ever. -/
theorem Calls.acc (hs : s.Ends) :
    Acc (fun callee caller => Calls fixities caller callee) (r, s) := by
  let P r s := Acc (fun callee caller => Calls fixities caller callee) (r, s)
  refine Calls.induction fixities (P := P) (fun r s _ ih => ?_) r s hs
  exact .intro _ fun ⟨r', t⟩ h => ih r' t h

/-- Every call that is made from a place on is made at that place or at a later one, with no end of
input in between. -/
theorem reads_of_calls {c c' : Reader × TokenStream}
    (h : Relation.ReflTransGen (Calls fixities) c c') (hs : c.2.Ends) :
    ∃ read, c.2.Reads read c'.2 := by
  induction h with
  | refl => exact ⟨[], .refl c.2⟩
  | tail _ hcall ih =>
    obtain ⟨_, hr⟩ := ih
    obtain ⟨_, hr'⟩ := (hcall.descends (hr.ends hs)).reads
    exact ⟨_, hr.trans hr'⟩

end Frontend.Parser
