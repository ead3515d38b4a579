import Frontend.Proofs.Grammar.Sharing
import Frontend.Proofs.Token.Pieces

/-!
# Expressions between brackets

An expression is a sequence of binary expressions with commas between them, and it is a tuple if
there is more than one. Between round brackets the same sequence is read as the same expression, and
between curly brackets as the list of its elements. Each element is what the tokens between two
commas are read as by themselves: no phrase looks behind the stop that follows it.
-/

namespace Frontend

/-! ### Phrases are whole -/

theorem TokenKind.whole_of_isIdentifier {t : Token} (ht : t.kind.isIdentifier)
    (brackets : List BracketKind) : Whole brackets [t] := by
  obtain ⟨name, ht⟩ := isIdentifier_iff.mp ht
  exact .token ht rfl rfl nofun

theorem TokenKind.whole_of_isText {t : Token} (ht : t.kind.isText)
    (brackets : List BracketKind) : Whole brackets [t] := by
  obtain ⟨content, ht⟩ := isText_iff.mp ht
  exact .token ht rfl rfl nofun

/-- A phrase that has no commas but between its own brackets is whole, and between brackets every
phrase is. -/
theorem Derives.whole {phrase : Phrase} {b : Bool} {own : List Token} (h : Derives phrase b own)
    {brackets : List BracketKind} (hphrase : phrase.level < 4 ∨ brackets ≠ []) :
    Whole brackets own := by
  induction h generalizing brackets with
  | noElements | noOperations | noArguments | noMembers | noSegments => exact .nil
  | expression _ _ ih ih' =>
    have hbrackets := hphrase.resolve_left (Nat.lt_irrefl 4)
    exact (ih (.inr hbrackets)).append (ih' (.inr hbrackets))
  | elements hcomma _ _ ih ih' =>
    have hbrackets := hphrase.resolve_left (Nat.lt_irrefl 4)
    have hwhole : Whole brackets [_] := .token hcomma rfl rfl fun _ => hbrackets
    exact hwhole.append ((ih (.inr hbrackets)).append (ih' (.inr hbrackets)))
  | binary _ _ ih ih' => exact (ih (.inl (by decide))).append (ih' (.inl (by decide)))
  | operations ho _ _ ih ih' =>
    obtain ⟨name, ho⟩ := TokenKind.isOperator_iff.mp ho
    have hwhole : Whole brackets [_] := .token ho rfl rfl nofun
    exact hwhole.append ((ih (.inl (by decide))).append (ih' (.inl (by decide))))
  | factorAlone _ ih => exact ih (.inl (by decide))
  | application _ _ _ ih ih' ih'' =>
    exact (ih (.inl (by decide))).append ((ih' (.inl (by decide))).append (ih'' (.inl (by decide))))
  | arguments _ _ ih ih' => exact (ih (.inl (by decide))).append (ih' (.inl (by decide)))
  | factor _ _ ih ih' => exact (ih (.inl (by decide))).append (ih' (.inl (by decide)))
  | members hdot hname _ ih =>
    have hwhole : Whole brackets [_] := .token hdot rfl rfl nofun
    exact hwhole.append ((TokenKind.whole_of_isIdentifier hname _).append (ih (.inl (by decide))))
  | identifier ht => exact TokenKind.whole_of_isIdentifier ht _
  | number ht | character ht =>
    obtain ⟨_, ht⟩ := ht
    exact .token ht rfl rfl nofun
  | text ht _ ih => exact (TokenKind.whole_of_isText ht _).append (ih (.inl (by decide)))
  | emptyTuple ho hc | emptyList ho hc => exact Whole.nil.enclose ho hc rfl rfl
  | brackets ho _ hc ih => exact (ih (.inr (List.cons_ne_nil _ _))).enclose ho hc rfl rfl
  | list ho _ _ hc ih ih' =>
    have hinner := (ih (.inr (List.cons_ne_nil .curly brackets))).append
      (ih' (.inr (List.cons_ne_nil .curly brackets)))
    simpa using hinner.enclose ho hc rfl rfl
  | segments ho _ hc htext _ ih ih' =>
    have hvalue := (ih (.inr (List.cons_ne_nil .interpolation brackets))).enclose ho hc rfl rfl
    have hrest := (TokenKind.whole_of_isText htext brackets).append (ih' (.inl (by decide)))
    simpa using hvalue.append hrest

/-- The expression of a sequence of elements: the only one, or a tuple. -/
def Expression.sequence (first : Expression) : List Expression → Expression
  | []             => first
  | second :: rest => .tuple (first :: second :: rest) (extent first (second :: rest))

namespace Parser

open Expression (sequence)
open TokenStream (before before_append before_cons LayoutFree ne_lineBreak_of_level
  ne_symbol_of_level)

variable {fixities : FixityTable}

/-! ### Elements -/

/-- The tokens are read as the binary expression, before any token at which one stops. -/
structure IsElement (fixities : FixityTable) (own : List Token) (e : Expression) : Prop where
  derives : Derives .binary e.isCallable own
  accepts : ∀ t : TokenStream, 3 < t.current.kind.level →
    Accepts (binaryWithin fixities · 0) (before own t) (Gives fun x u => x = e ∧ u = t)

theorem IsElement.whole {own : List Token} {e : Expression} (h : IsElement fixities own e) :
    Whole [] own :=
  h.derives.whole (.inl (by decide))

/-- The tokens are elements with a comma before each. -/
inductive Listed (fixities : FixityTable) : List Token → List (List Token) → List Expression → Prop
  | nil : Listed fixities [] [] []
  | cons {comma : Token} {own more : List Token} {pieces : List (List Token)} {e : Expression}
      {es : List Expression} (hcomma : comma.kind = .symbol .comma)
      (h : IsElement fixities own e) (hrest : Listed fixities more pieces es) :
      Listed fixities (comma :: (own ++ more)) (own :: pieces) (e :: es)

namespace Listed

variable {own : List Token} {pieces : List (List Token)} {es : List Expression} {t : TokenStream}

theorem pieces_eq (h : Listed fixities own pieces es) : Token.pieces [] own = [] :: pieces := by
  induction h with
  | nil => rfl
  | cons hcomma helement _ ih =>
    rw [Token.pieces_comma hcomma, helement.whole.pieces, ih, List.modifyHead_cons,
      List.append_nil]

theorem forall₂ (h : Listed fixities own pieces es) :
    List.Forall₂ (IsElement fixities) pieces es := by
  induction h with
  | nil => exact .nil
  | cons _ helement _ ih => exact .cons helement ih

/-- No binary expression goes on with a comma. -/
theorem level_lt_current (h : Listed fixities own pieces es) (ht : 4 < t.current.kind.level) :
    3 < (before own t).current.kind.level := by
  cases h with
  | nil => exact Nat.lt_of_succ_lt ht
  | cons hcomma _ _ => exact Accepted.lt_level hcomma (by decide) _ t

theorem accepts (h : Listed fixities own pieces es) (ht : 4 < t.current.kind.level) :
    Accepts (elementsWithin fixities) (before own t) fun xs u => xs = es ∧ u = t := by
  induction h with
  | nil => exact accepts_elements_end (ne_symbol_of_level ht (by decide)) ⟨rfl, rfl⟩
  | cons hcomma helement hrest ih =>
    have hlevel := hrest.level_lt_current ht
    rw [before_cons, before_append]
    refine accepts_elements hcomma ((helement.accepts _ hlevel).imp ?_)
    rintro _ _ ⟨rfl, rfl⟩
    refine ⟨ne_lineBreak_of_level hlevel, ih.mono ?_⟩
    rintro _ _ ⟨rfl, rfl⟩
    exact ⟨rfl, rfl⟩

end Listed

/-! ### Sequences -/

/-- The tokens are a sequence of elements, cut into pieces at its commas. -/
inductive IsSequence (fixities : FixityTable) :
    List Token → List (List Token) → Expression → List Expression → Prop
  | intro {own more : List Token} {pieces : List (List Token)} {first : Expression}
      {rest : List Expression} (hfirst : IsElement fixities own first)
      (hrest : Listed fixities more pieces rest) :
      IsSequence fixities (own ++ more) (own :: pieces) first rest

namespace IsSequence

variable {own : List Token} {pieces : List (List Token)} {first : Expression}
  {rest : List Expression} {t : TokenStream}

theorem pieces_eq (h : IsSequence fixities own pieces first rest) :
    Token.pieces [] own = pieces := by
  obtain ⟨hfirst, hrest⟩ := h
  rw [hfirst.whole.pieces, hrest.pieces_eq, List.modifyHead_cons, List.append_nil]

theorem forall₂ (h : IsSequence fixities own pieces first rest) :
    List.Forall₂ (IsElement fixities) pieces (first :: rest) := by
  obtain ⟨hfirst, hrest⟩ := h
  exact .cons hfirst hrest.forall₂

theorem level_current (h : IsSequence fixities own pieces first rest) (t : TokenStream) :
    (before own t).current.kind.level = 2 := by
  obtain ⟨hfirst, hrest⟩ := h
  rw [before_append]
  exact hfirst.derives.level_current rfl _

theorem accepts_expression (h : IsSequence fixities own pieces first rest)
    (ht : 4 < t.current.kind.level) :
    Accepts (expressionWithin fixities) (before own t)
      (Gives fun e u => e = sequence first rest ∧ u = t) := by
  obtain ⟨hfirst, hrest⟩ := h
  have haccepts := hfirst.accepts _ (hrest.level_lt_current ht)
  rw [before_append]
  cases hrest with
  | nil => exact accepts_expression_alone ht haccepts
  | cons hcomma helement hmore =>
    refine accepts_expression_tuple (haccepts.imp ?_)
    rintro _ _ ⟨rfl, rfl⟩
    refine ⟨hcomma, ((Listed.cons hcomma helement hmore).accepts ht).mono ?_⟩
    rintro _ _ ⟨rfl, rfl⟩
    exact ⟨rfl, rfl⟩

/-- Between round brackets, a sequence is read as the expression that it is, under their span. -/
theorem accepts_round {o c : Token} (h : IsSequence fixities own pieces first rest)
    (ho : o.kind = .symbol .openRound) (hc : c.kind = .symbol .closeRound) (t : TokenStream) :
    Accepts (primaryWithin fixities) (before (o :: (own ++ [c])) t) (Gives fun e u =>
      e = (sequence first rest).withSpan ⟨o.span.start, c.span.stop⟩ ∧ u = t) := by
  have hlevel := h.level_current (before [c] t)
  rw [before_cons, before_append]
  refine accepts_primary_round ho (Parser.accepts_round (fun hk => ?_) ?_)
  · exact absurd (hlevel.symm.trans (congrArg TokenKind.level hk)) (by decide)
  refine (h.accepts_expression (Accepted.lt_level hc (by decide) [] t)).imp ?_
  rintro _ _ ⟨rfl, rfl⟩
  exact ⟨c, t.ahead, t.last, rfl, hc, rfl, rfl⟩

/-- Between curly brackets, a sequence is read as the list of its elements, under their span. -/
theorem accepts_curly {o c : Token} (h : IsSequence fixities own pieces first rest)
    (ho : o.kind = .symbol .openCurly) (hc : c.kind = .symbol .closeCurly) (t : TokenStream) :
    Accepts (primaryWithin fixities) (before (o :: (own ++ [c])) t) (Gives fun e u =>
      e = .list (first :: rest) ⟨o.span.start, c.span.stop⟩ ∧ u = t) := by
  obtain ⟨hfirst, hrest⟩ := h
  have hlevel : 4 < (before [c] t).current.kind.level := Accepted.lt_level hc (by decide) [] t
  rw [before_cons, before_append, before_append]
  refine accepts_primary_curly ho (Parser.accepts_curly ?_)
  refine (hfirst.accepts _ (hrest.level_lt_current hlevel)).imp ?_
  rintro _ _ ⟨rfl, rfl⟩
  refine (hrest.accepts hlevel).mono ?_
  rintro _ _ ⟨rfl, rfl⟩
  exact ⟨c, t.ahead, t.last, rfl, hc, rfl, rfl⟩

end IsSequence

/-! ### Readers -/

/-- What is read before one stop is read before all of them. -/
theorem binaryWithin_isElement (n : Nat) {s : TokenStream} (hs : s.LayoutFree) :
    (binaryWithin fixities n 0).Ensures (fun e? t => ∀ e ∈ e?, ∃ own, s.Reads own t ∧
      (3 < t.current.kind.level → IsElement fixities own e)) Fails s := by
  rw [Ensures]
  cases hok : binaryWithin fixities n 0 s with
  | error _ _ => trivial
  | ok e? t =>
    rintro e rfl
    obtain ⟨own, hown, hderives⟩ := ((derivingWithin fixities n).binary s 0 hs).of_ok hok
    have hwhole : Whole [] own := hderives.whole (.inl (by decide))
    refine ⟨own, hown, fun ht => ⟨hderives, fun u hu => accepts_binary_of_shares hok ?_⟩⟩
    refine ⟨ht, hu, own, hown.eq_before, rfl, hwhole.settle, fun x hx => ?_⟩
    exact ⟨hown.noEnd x hx, hs.noBreak x (hown.ahead ▸ List.mem_append_left _ hx)⟩

theorem elementsWithin_listed (n : Nat) {s : TokenStream} (hs : s.LayoutFree) :
    (elementsWithin fixities n).Ensures (fun es t => ∃ own, s.Reads own t ∧
      (4 < t.current.kind.level → ∃ pieces, Listed fixities own pieces es)) Fails s := by
  induction n generalizing s with
  | zero => trivial
  | succ n ih =>
    rw [elementsWithin]
    simp only [ensures_bind, ensures_consume]
    refine ⟨fun hcomma => ?_, fun _ => ⟨[], .refl s, fun _ => ⟨[], .nil⟩⟩⟩
    have hc := hs.ends.reads_advance (by simp [hcomma])
    have htfree := hc.layoutFree hs
    rw [if_pos trivial, ensures_bind]
    refine (binaryWithin_isElement n htfree).mono ?_ fun _ _ => id
    intro element? u hu
    simp only [ensures_bind, ensures_expect]
    refine ⟨?_, fun _ => trivial⟩
    rintro element rfl
    obtain ⟨own, hown, helement⟩ := hu element rfl
    have hufree := hown.layoutFree htfree
    simp only [ensures_skipContinuation, hufree.skipContinuation]
    refine (ih hufree).mono ?_ fun _ _ => id
    rintro es v ⟨more, hmore, hlisted⟩
    refine ⟨s.current :: (own ++ more), hc.trans (hown.trans hmore), fun hv => ?_⟩
    obtain ⟨pieces, hrest⟩ := hlisted hv
    -- What stops the element is the next comma, or what stops the list.
    have hlevel := hrest.level_lt_current hv
    rw [← hmore.eq_before] at hlevel
    exact ⟨own :: pieces, .cons hcomma (helement hlevel) hrest⟩

theorem expressionWithin_isSequence (n : Nat) {s : TokenStream} (hs : s.LayoutFree) :
    (expressionWithin fixities n).Ensures (fun e? t => ∀ e ∈ e?, ∃ own, s.Reads own t ∧
      (4 < t.current.kind.level → ∃ pieces first rest,
        IsSequence fixities own pieces first rest ∧ e = sequence first rest)) Fails s := by
  cases n with
  | zero => trivial
  | succ n =>
    rw [expressionWithin, ensures_bind]
    refine (binaryWithin_isElement n hs).mono ?_ fun _ _ => id
    rintro (_ | first) t ht
    · rintro _ ⟨⟩
    obtain ⟨own, hown, hfirst⟩ := ht first rfl
    have htfree := hown.layoutFree hs
    simp only [ensures_bind, ensures_skipContinuation, htfree.skipContinuation, ensures_current,
      ensures_ite]
    constructor
    · intro hcomma
      refine (elementsWithin_listed n htfree).mono ?_ fun _ _ => id
      rintro rest u ⟨more, hmore, hlisted⟩
      rw [cover, ensures_merge]
      refine ⟨fun _ => ?_, fun _ => trivial⟩
      rintro _ ⟨⟩
      refine ⟨own ++ more, hown.trans hmore, fun hu => ?_⟩
      obtain ⟨pieces, hrest⟩ := hlisted hu
      have hlevel := hrest.level_lt_current hu
      rw [← hmore.eq_before] at hlevel
      refine ⟨own :: pieces, first, rest, .intro (hfirst hlevel) hrest, ?_⟩
      cases hrest with
      | nil =>
        obtain rfl := hmore.eq_of_nil
        exact absurd (TokenKind.isSymbol_iff.mp hcomma) (ne_symbol_of_level hu (by decide))
      | cons _ _ _ => rfl
    · intro _
      rintro _ ⟨⟩
      refine ⟨own, hown, fun ht => ⟨[own], first, [], ?_, rfl⟩⟩
      have hsequence := IsSequence.intro (hfirst (Nat.lt_of_succ_lt ht)) .nil
      rwa [List.append_nil] at hsequence

/-! ### Whole streams -/

variable {tokens own : List Token} {stop : Token} {e : Expression}

theorem wholeExpression_isSequence (fixities : FixityTable) {s : TokenStream}
    (hs : s.LayoutFree) : (wholeExpression fixities).Ensures
      (fun e t => t.Ends ∧ t.current.kind = .endOfInput ∧ ∃ own, s.Reads own t ∧
        (4 < t.current.kind.level → ∃ pieces first rest,
          IsSequence fixities own pieces first rest ∧ e = sequence first rest)) Fails s := by
  refine ensures_wholeExpression ((expressionWithin_isSequence _ hs).mono ?_ fun _ _ => id)
  intro e? t ht e he
  obtain ⟨own, hown, hsequence⟩ := ht e he
  exact ⟨hown.layoutFree hs, own, hown, hsequence⟩

/-- The tokens of an expression are a sequence. -/
theorem exists_isSequence (htokens : ∀ t ∈ tokens, t.kind ≠ .endOfInput ∧ t.kind ≠ .lineBreak)
    (hstop : stop.kind = .endOfInput) (h : parseExpression (tokens ++ [stop]) fixities = .ok e) :
    ∃ pieces first rest,
      IsSequence fixities tokens pieces first rest ∧ e = sequence first rest := by
  have hs := TokenStream.layoutFree_concat hstop fun t ht => (htokens t ht).2
  obtain ⟨t, hends, hk, own, hown, hsequence⟩ :=
    (wholeExpression_isSequence fixities hs).exists_of_run' h
  rw [TokenStream.ofList_concat] at hown
  obtain ⟨rfl, -⟩ := hown.eq_of_concat hends hk hstop fun t ht => (htokens t ht).1
  exact hsequence (by rw [hk]; decide)

/-- A binary expression up to the end of input is a whole expression. -/
theorem parseExpression_of_binary (hstop : stop.kind = .endOfInput)
    (horder : Token.InOrder (own ++ [stop]))
    (h : Accepts (binaryWithin fixities · 0) (before own ⟨[stop], stop⟩)
      (Gives fun x u => x = e ∧ u = ⟨[stop], stop⟩)) :
    parseExpression (own ++ [stop]) fixities = .ok e := by
  have hlevel : 4 < (⟨[stop], stop⟩ : TokenStream).current.kind.level := by
    rw [TokenStream.current_cons, hstop]
    decide
  obtain ⟨_, hok, rfl⟩ := exists_parseExpression hstop horder (accepts_expression_alone hlevel h)
  exact hok

theorem IsElement.parseExpression_eq (h : IsElement fixities own e)
    (hstop : stop.kind = .endOfInput) (horder : Token.InOrder (own ++ [stop])) :
    parseExpression (own ++ [stop]) fixities = .ok e :=
  parseExpression_of_binary hstop horder (h.accepts _ (by simp [hstop]; decide))

/-- A primary expression up to the end of input is a whole expression. -/
theorem parseExpression_of_primary (hstop : stop.kind = .endOfInput)
    (horder : Token.InOrder (own ++ [stop]))
    (hown : (before own ⟨[stop], stop⟩).current.kind ≠ .lineBreak)
    (h : Accepts (primaryWithin fixities) (before own ⟨[stop], stop⟩)
      (Gives fun x u => x = e ∧ u = ⟨[stop], stop⟩)) :
    parseExpression (own ++ [stop]) fixities = .ok e := by
  have hlevel : 3 < (⟨[stop], stop⟩ : TokenStream).current.kind.level := by
    rw [TokenStream.current_cons, hstop]
    decide
  refine parseExpression_of_binary hstop horder (accepts_binary_alone hlevel ?_)
  exact accepts_application_alone (by omega) (accepts_factor_alone hown (by omega) h)

end Parser

/-! ### The theorem -/

open Frontend.Parser (exists_isSequence parseExpression_of_primary)

/-- What tokens are read as is read between round brackets as well, under the span of the brackets.
Between curly brackets it is read as the list of what the pieces between the outer commas are read
as, which is a single element if there is no such comma. -/
theorem parseExpression_bracketed {tokens : List Token} {stop : Token} {fixities : FixityTable}
    {e : Expression} (htokens : ∀ t ∈ tokens, t.kind ≠ .endOfInput ∧ t.kind ≠ .lineBreak)
    (hstop : stop.kind = .endOfInput) (horder : Token.InOrder (tokens ++ [stop]))
    (hparse : parseExpression (tokens ++ [stop]) fixities = .ok e) :
    (∀ o c stop' : Token, o.kind = .symbol .openRound → c.kind = .symbol .closeRound →
      stop'.kind = .endOfInput → Token.InOrder (o :: (tokens ++ [c]) ++ [stop']) →
        parseExpression (o :: (tokens ++ [c]) ++ [stop']) fixities =
          .ok (e.withSpan ⟨o.span.start, c.span.stop⟩)) ∧
    ∃ es : List Expression,
      List.Forall₂ (fun piece x => parseExpression (piece ++ [stop]) fixities = .ok x)
        (Token.pieces [] tokens) es ∧
      (¬ Token.HasOuterComma [] tokens → es = [e]) ∧
      ∀ o c stop' : Token, o.kind = .symbol .openCurly → c.kind = .symbol .closeCurly →
        stop'.kind = .endOfInput → Token.InOrder (o :: (tokens ++ [c]) ++ [stop']) →
          parseExpression (o :: (tokens ++ [c]) ++ [stop']) fixities =
            .ok (.list es ⟨o.span.start, c.span.stop⟩) := by
  obtain ⟨pieces, first, rest, hsequence, rfl⟩ := exists_isSequence htokens hstop hparse
  have hpieces := hsequence.pieces_eq
  have helements := hsequence.forall₂
  refine ⟨fun o c stop' ho hc hstop' horder' => ?_, first :: rest, ?_, fun houter => ?_,
    fun o c stop' ho hc hstop' horder' => ?_⟩
  · refine parseExpression_of_primary hstop' horder' ?_ (hsequence.accepts_round ho hc _)
    simp [TokenStream.before, ho]
  · have hsublist : ∀ piece ∈ pieces, Token.InOrder (piece ++ [stop]) := fun piece hpiece =>
      horder.of_sublist ((Token.sublist_of_mem_pieces (hpieces ▸ hpiece)).append_right [stop])
    rw [hpieces]
    refine ((List.forall₂_and_left _ _).mpr ⟨hsublist, helements⟩).imp ?_
    rintro piece x ⟨hpiece, hx⟩
    exact hx.parseExpression_eq hstop hpiece
  · rw [Token.pieces_eq_singleton houter] at hpieces
    subst hpieces
    obtain rfl : rest = [] := by simpa using helements.length_eq.symm
    rfl
  · refine parseExpression_of_primary hstop' horder' ?_ (hsequence.accepts_curly ho hc _)
    simp [TokenStream.before, ho]

/-- A name and a pair, with a comma between them and one inside of the pair: two elements. -/
theorem parseExpression_bracketed_pair :
    let kinds : List TokenKind :=
      [.identifier "a", .symbol .comma, .symbol .openRound, .identifier "b", .symbol .comma,
        .identifier "c", .symbol .closeRound]
    let tokens := Token.row 1 kinds
    let stop : Token := ⟨.endOfInput, ⟨8, 0, 8⟩, ⟨9, 0, 9⟩⟩
    let between (o c : Symbol) : List Token :=
      Token.row 0 (.symbol o :: (kinds ++ [.symbol c, .endOfInput]))
    ∃ e es, parseExpression (tokens ++ [stop]) .standard = .ok e ∧
      parseExpression (between .openRound .closeRound) .standard =
        .ok (e.withSpan ⟨⟨0, 0, 0⟩, ⟨9, 0, 9⟩⟩) ∧
      Token.pieces [] tokens = [tokens.take 1, tokens.drop 2] ∧
      List.Forall₂ (fun piece x => parseExpression (piece ++ [stop]) .standard = .ok x)
        (Token.pieces [] tokens) es ∧
      parseExpression (between .openCurly .closeCurly) .standard =
        .ok (.list es ⟨⟨0, 0, 0⟩, ⟨9, 0, 9⟩⟩) := by
  intro kinds tokens stop between
  have hok : (parseExpression (tokens ++ [stop]) .standard).isOk := by decide +kernel
  obtain ⟨e, he⟩ := Except.exists_ok_of_isOk hok
  obtain ⟨hround, es, hes, -, hcurly⟩ := parseExpression_bracketed (by decide) rfl
    (Token.row_inOrder 1 (kinds ++ [TokenKind.endOfInput])) he
  have horder (o c : Symbol) : Token.InOrder (between o c) := Token.row_inOrder 0 _
  exact ⟨e, es, he, hround _ _ _ rfl rfl rfl (horder .openRound .closeRound), by decide, hes,
    hcurly _ _ _ rfl rfl rfl (horder .openCurly .closeCurly)⟩

end Frontend
