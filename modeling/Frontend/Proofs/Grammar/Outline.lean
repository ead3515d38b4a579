import Frontend.Proofs.Grammar.Names
import Frontend.Proofs.Grammar.Placement
import Frontend.Proofs.Token.Word
import Frontend.Proofs.Tree.ModuleOutline

/-!
# The outlines of what is read

No name and no number that the lexer finds has a line feed in it, and there are no other names in
expressions and modules than those of tokens. So expressions and modules that are read from texts
are told apart by their outlines, in all but the spans of the tokens that are factors.
-/

namespace Frontend

/-! ### Tokens -/

namespace TokenKind

variable {named? : String → Option Char} {k : TokenKind}

/-- There is no line feed in a word. -/
theorem lineFeed_not_mem_word {k : WordClass} {c : Char} {tail : List Char}
    (h : Lexer.IsWord k c tail) : '\n' ∉ c :: tail := by
  have htail : tail = Lexer.wordTail k tail ++ [] := by rw [h.tail_eq, List.append_nil]
  have hchars := (Lexer.wordTail_maximal htail).1
  rw [h.tail_eq] at hchars
  have hblank : ∀ d ∈ c :: tail, Text.isBlank d = false :=
    List.forall_mem_cons.mpr ⟨h.notBlank, fun d hd => (hchars d hd).notBlank⟩
  intro hmem
  exact absurd (hblank '\n' hmem) (by decide)

theorem lineFeed_not_mem_number {text : List Char} (h : Number.read text = .ok text) :
    '\n' ∉ text := by
  have hdigits {digits : List Char} (hdigits : ∀ c ∈ digits, c.isDigit) : '\n' ∉ digits :=
    fun hmem => absurd (hdigits '\n' hmem) (by decide)
  obtain htext | ⟨whole, fraction, htext, -, hwhole, hfraction⟩ := Number.read_eq_ok h
  · exact hdigits htext
  · simp [htext, hdigits hwhole, hdigits hfraction]

/-- What is written for a legible token has no line feed in it. -/
theorem Legible.onOneLine (h : k.Legible named?) : k.OnOneLine := by
  have hblank {text : List Char} (htext : '\n' ∉ text) : '\n' ∉ ' ' :: text :=
    List.not_mem_cons_of_ne_of_not_mem (by decide) htext
  cases k with
  | symbol s => cases s <;> simp only [OnOneLine, detail, Symbol.name] <;> decide
  | identifier name =>
    obtain ⟨k, c, tail, hword, hk⟩ := h
    obtain ⟨rfl, -⟩ := ((standsFor_wordKind k _).identifier name).mp hk
    refine hblank ?_
    rw [String.toList_ofList]
    exact lineFeed_not_mem_word hword
  | operator name =>
    obtain ⟨k, c, tail, hword, hk⟩ := h
    obtain ⟨rfl, -⟩ := ((standsFor_wordKind k _).operator name).mp hk
    refine hblank ?_
    rw [String.toList_ofList]
    exact lineFeed_not_mem_word hword
  | number digits =>
    obtain ⟨c, rest, hdigits, -, hread⟩ := h
    refine hblank ?_
    rw [hdigits]
    exact lineFeed_not_mem_number hread
  | text content => exact hblank (Text.lineFeed_not_mem_quoted content)
  | character content => exact hblank (Text.lineFeed_not_mem_quoted content)
  | indentation blanks => exact hblank (Text.lineFeed_not_mem_quoted blanks)
  | lineBreak => exact List.not_mem_nil
  | endOfInput => exact List.not_mem_nil

end TokenKind

/-! ### Trees -/

section

variable {tokens : List Token} (htokens : ∀ t ∈ tokens, t.kind.OnOneLine)
include htokens

theorem Expression.everywhere_onOneLine {e : Expression} (h : e.Everywhere (PlacedIn tokens)) :
    e.Everywhere OnOneLine := by
  apply h.imp
  intro e he t ht
  obtain ⟨own, hown, hoccupies, -⟩ := he.stretch
  exact htokens t (hown.subset (hoccupies.nodeTokens_subset ht))

theorem Identifier.onOneLine {x : Token} (hx : x ∈ tokens) {i : Identifier}
    (h : ofToken? x = some i) : i.OnOneLine := by
  have hkind := htokens x hx
  rw [ofToken?] at h
  split at h
  · next name hname =>
    cases h
    rw [hname] at hkind
    exact List.not_mem_of_not_mem_cons hkind
  · cases h

theorem onOneLine_of_parseModule (hs : (TokenStream.ofList tokens).Orderly)
    {fixities : FixityTable} {m : Module} (h : parseModule tokens fixities = .ok m) :
    m.OnOneLine := by
  have hplaced := placedIn_of_parseModule hs h
  obtain ⟨t, hmodule⟩ := (Parser.module_reads fixities hs.ends).exists_of_run' h
  obtain ⟨hname, hexports, himports⟩ := hmodule.ahead
  have hahead {i : Identifier} (hi : ModuleGrammar.Ahead (.ofList tokens) i) : i.OnOneLine := by
    obtain ⟨x, hx, hname⟩ := hi
    exact Identifier.onOneLine htokens hx hname
  exact
    { name := hahead hname
      exports := fun is his i hi => hahead (hexports is his i hi)
      imports := fun i hi =>
        ⟨hahead (himports i hi).source, hahead (himports i hi).localName,
          fun b hb => hahead ((himports i hi).bindings b hb)⟩
      declarations := fun d hd => by
        obtain ⟨x, hx, hbinder⟩ := hplaced.binders d hd
        exact ⟨Identifier.onOneLine htokens hx hbinder,
          Expression.everywhere_onOneLine htokens (hplaced.bodies d hd)⟩ }

end

/-! ### The theorem -/

/-- The tokens of a text are in order, and what is written for them has no line feed in it. -/
theorem onOneLine_of_lexWith {named? : String → Option Char} {source : String}
    {tokens : List Token} (h : lexWith named? source = .ok tokens) :
    (TokenStream.ofList tokens).Orderly ∧ ∀ t ∈ tokens, t.kind.OnOneLine := by
  obtain ⟨hcut, init, hinit, -⟩ := cut_of_lexWith h
  exact ⟨⟨⟨_, hinit ▸ List.mem_append_right init List.mem_cons_self, rfl⟩, hcut.inOrder⟩,
    fun t ht => ((legible_of_lexWith h).1 t ht).onOneLine⟩

theorem Except.exists_ok_of_map_eq {ε α β : Type} {x : Except ε α} {f : α → β} {b : β}
    (h : x.map f = .ok b) : ∃ a, x = .ok a ∧ f a = b := by
  cases x with
  | error e => cases h
  | ok a => exact ⟨a, rfl, Except.ok.inj h⟩

/-- Expressions that are read from texts have the same outline just if they are the same but for the
spans of the tokens that are factors, and so do modules. -/
theorem outline_eq_iff_of_lexWith {named named' : String → Option Char} {source source' : String}
    {tokens tokens' : List Token} (h : lexWith named source = .ok tokens)
    (h' : lexWith named' source' = .ok tokens') (fixities fixities' : FixityTable)
    {c : ColorChoice} (hc : c.colorizes = false) :
    (∀ e e', parseExpression tokens fixities = .ok e →
      parseExpression tokens' fixities' = .ok e' →
        ((Outline.ofExpression 0 e).toText c = (Outline.ofExpression 0 e').toText c ↔
          e.withoutTokenSpans = e'.withoutTokenSpans)) ∧
      ∀ m m', parseModule tokens fixities = .ok m → parseModule tokens' fixities' = .ok m' →
        ((Outline.ofModule 0 m).toText c = (Outline.ofModule 0 m').toText c ↔
          m.withoutTokenSpans = m'.withoutTokenSpans) := by
  obtain ⟨hs, htokens⟩ := onOneLine_of_lexWith h
  obtain ⟨hs', htokens'⟩ := onOneLine_of_lexWith h'
  simp only [Painting.toText_eq_plain hc]
  constructor
  · intro e e' he he'
    have hline := Expression.everywhere_onOneLine htokens (everywhere_of_parseExpression hs he)
    have hline' := Expression.everywhere_onOneLine htokens' (everywhere_of_parseExpression hs' he')
    constructor
    · exact (Outline.toldApart hline hline' 0).of_plain_eq
    · intro heq
      rw [← Outline.ofExpression_withoutTokenSpans, heq, Outline.ofExpression_withoutTokenSpans]
  · intro m m' hm hm'
    have hline := onOneLine_of_parseModule htokens hs hm
    have hline' := onOneLine_of_parseModule htokens' hs' hm'
    constructor
    · exact (Outline.tellsApart_ofModule hline hline').of_plain_eq
    · intro heq
      rw [← Outline.ofModule_withoutTokenSpans, heq, Outline.ofModule_withoutTokenSpans]

/-- The name in `(x )` and that in `( x)` are read at different places. The expressions have the
same outline, and they are the same but for these places, and so are modules whose declarations have
such bodies. -/
theorem outline_eq_brackets :
    let tokens : List Token :=
      [⟨.symbol .openRound, ⟨0, 0, 0⟩, ⟨1, 0, 1⟩⟩, ⟨.identifier "x", ⟨1, 0, 1⟩, ⟨2, 0, 2⟩⟩,
        ⟨.symbol .closeRound, ⟨3, 0, 3⟩, ⟨4, 0, 4⟩⟩, ⟨.endOfInput, ⟨4, 0, 4⟩, ⟨4, 0, 4⟩⟩]
    let tokens' : List Token :=
      [⟨.symbol .openRound, ⟨0, 0, 0⟩, ⟨1, 0, 1⟩⟩, ⟨.identifier "x", ⟨2, 0, 2⟩, ⟨3, 0, 3⟩⟩,
        ⟨.symbol .closeRound, ⟨3, 0, 3⟩, ⟨4, 0, 4⟩⟩, ⟨.endOfInput, ⟨4, 0, 4⟩, ⟨4, 0, 4⟩⟩]
    let declaring (name : Token) : List Token :=
      [⟨.symbol .moduleWord, ⟨0, 0, 0⟩, ⟨6, 0, 6⟩⟩, ⟨.identifier "M", ⟨7, 0, 7⟩, ⟨8, 0, 8⟩⟩,
        ⟨.lineBreak, ⟨8, 0, 8⟩, ⟨9, 1, 0⟩⟩, ⟨.identifier "x", ⟨9, 1, 0⟩, ⟨10, 1, 1⟩⟩,
        ⟨.symbol .equals, ⟨11, 1, 2⟩, ⟨12, 1, 3⟩⟩, ⟨.symbol .openRound, ⟨13, 1, 4⟩, ⟨14, 1, 5⟩⟩,
        name, ⟨.symbol .closeRound, ⟨16, 1, 7⟩, ⟨17, 1, 8⟩⟩,
        ⟨.endOfInput, ⟨17, 1, 8⟩, ⟨17, 1, 8⟩⟩]
    let y : Token := ⟨.identifier "y", ⟨14, 1, 5⟩, ⟨15, 1, 6⟩⟩
    let y' : Token := ⟨.identifier "y", ⟨15, 1, 6⟩, ⟨16, 1, 7⟩⟩
    let outline := "Module\n    name: 7@0:7..8@0:8 M\n    exports: none\n    imports: empty\n" ++
      "    declarations: \n        0: Declaration\n            binder: 9@1:0..10@1:1 x\n" ++
      "            body: 13@1:4..17@1:8 Identifier y\n    deferred: empty"
    (∃ e e', lex "(x )" = .ok tokens ∧ lex "( x)" = .ok tokens' ∧
      parseExpression tokens .standard = .ok e ∧ parseExpression tokens' .standard = .ok e' ∧
      (Outline.ofExpression 0 e).toText .never = "0@0:0..4@0:4 Identifier x" ∧
      (Outline.ofExpression 0 e').toText .never = "0@0:0..4@0:4 Identifier x" ∧
      e.withoutTokenSpans = e'.withoutTokenSpans) ∧
    ∃ m m', lex "module M\nx = (y )" = .ok (declaring y) ∧
      lex "module M\nx = ( y)" = .ok (declaring y') ∧
      parseModule (declaring y) .standard = .ok m ∧
      parseModule (declaring y') .standard = .ok m' ∧
      (Outline.ofModule 0 m).toText .never = outline ∧
      (Outline.ofModule 0 m').toText .never = outline ∧
      m.withoutTokenSpans = m'.withoutTokenSpans := by
  intro tokens tokens' declaring y y' outline
  constructor
  · have hlex : lex "(x )" = .ok tokens := by decide +kernel
    have hlex' : lex "( x)" = .ok tokens' := by decide +kernel
    have hshown : ∀ ts ∈ [tokens, tokens'], (parseExpression ts .standard).map
        (fun e => (Outline.ofExpression 0 e).toText .never) = .ok "0@0:0..4@0:4 Identifier x" := by
      decide +kernel
    obtain ⟨e, he, htext⟩ := Except.exists_ok_of_map_eq (hshown tokens (by simp))
    obtain ⟨e', he', htext'⟩ := Except.exists_ok_of_map_eq (hshown tokens' (by simp))
    obtain ⟨hiff, -⟩ := outline_eq_iff_of_lexWith hlex hlex' .standard .standard (c := .never) rfl
    have hsame := (hiff e e' he he').mp (htext.trans htext'.symm)
    exact ⟨e, e', hlex, hlex', he, he', htext, htext', hsame⟩
  · have hlex : lex "module M\nx = (y )" = .ok (declaring y) := by decide +kernel
    have hlex' : lex "module M\nx = ( y)" = .ok (declaring y') := by decide +kernel
    have hshown : ∀ name ∈ [y, y'], (parseModule (declaring name) .standard).map
        (fun m => (Outline.ofModule 0 m).toText .never) = .ok outline := by
      decide +kernel
    obtain ⟨m, hm, htext⟩ := Except.exists_ok_of_map_eq (hshown y (by simp))
    obtain ⟨m', hm', htext'⟩ := Except.exists_ok_of_map_eq (hshown y' (by simp))
    obtain ⟨-, hiff⟩ := outline_eq_iff_of_lexWith hlex hlex' .standard .standard (c := .never) rfl
    have hsame := (hiff m m' hm hm').mp (htext.trans htext'.symm)
    exact ⟨m, m', hlex, hlex', hm, hm', htext, htext', hsame⟩

end Frontend
