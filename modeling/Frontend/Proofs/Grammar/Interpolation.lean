import Frontend.Proofs.Grammar.ModuleReading
import Frontend.Proofs.Token.Interpolation

/-!
# Reading interpolations

The tokens of a text hold a segment of a text literal behind each bracket that closes an
interpolation. A parser that reads them may find an interpolation unterminated at another token, but
never behind such a bracket.
-/

namespace Frontend

/-- A parser that finds an interpolation unterminated is behind a token that closes none. -/
theorem Interpolated.of_failsAt {tokens : List Token} {x : SyntaxError} {t : TokenStream}
    (h : Interpolated tokens) (hend : ∃ u ∈ tokens, u.kind = .endOfInput)
    (hfails : Parser.FailsAt (.ofList tokens) (.error x) t)
    (hx : x.fault = .unterminatedInterpolation) :
    ∃ before u after, tokens = before ++ u :: x.token :: after ∧
      u.kind ≠ .symbol .interpolationClose := by
  obtain ⟨read, hr, hread⟩ := hfails
  obtain ⟨htoken, hlast, -⟩ := hread x rfl
  obtain ⟨u, hu, htext⟩ := hlast hx
  obtain ⟨before, rfl⟩ := List.getLast?_eq_some_iff.mp hu
  obtain ⟨after, hafter⟩ := (hr.ends hend).ahead_eq
  have htokens : tokens = before ++ u :: x.token :: after := by
    rw [htoken, ← hafter]
    exact hr.ahead.trans (List.append_assoc _ _ _)
  refine ⟨before, u, after, htokens, ?_⟩
  intro hclose
  obtain ⟨v, hv, hvtext⟩ := h.textAfter _ _ _ htokens hclose
  obtain rfl : x.token = v := Option.some.inj hv
  rw [htoken, htext hclose] at hvtext
  cases hvtext

/-- A parser that fails on a whole stream fails somewhere in it. -/
theorem Parser.exists_failsAt {α : Type} {p : Parser α} {tokens : List Token}
    {Q : α → TokenStream → Prop} {x : ParseFailure}
    (hp : p.Ensures Q (FailsAt (.ofList tokens)) (.ofList tokens)) (h : p.run' tokens = .error x) :
    ∃ t, FailsAt (.ofList tokens) x t :=
  hp.exists_of_run'_error h

/-- In the tokens of a text, interpolations are balanced, they stand between segments of a text
literal, and the brackets inside of them are nested. No parser finds them without the segment behind
an interpolation. -/
theorem interpolations_of_lexWith {named? : String → Option Char} {source : String}
    {tokens : List Token} (h : lexWith named? source = .ok tokens) :
    Interpolated tokens ∧ ∀ fixities x,
      (parseExpression tokens fixities = .error (.error x) ∨
        parseModule tokens fixities = .error (.error x)) →
      x.fault = .unterminatedInterpolation →
      ∃ before u after, tokens = before ++ u :: x.token :: after ∧
        u.kind ≠ .symbol .interpolationClose := by
  have htokens := Interpolated.of_lexWith h
  obtain ⟨-, init, hinit, -⟩ := cut_of_lexWith h
  have hend : ∃ u ∈ tokens, u.kind = .endOfInput := by
    rw [hinit]
    exact ⟨_, List.mem_concat_self, rfl⟩
  refine ⟨htokens, ?_⟩
  intro fixities x hfail hx
  obtain ⟨t, ht⟩ : ∃ t, Parser.FailsAt (.ofList tokens) (.error x) t := by
    rcases hfail with hfail | hfail
    · exact Parser.exists_failsAt (Parser.wholeExpression_reads fixities hend) hfail
    · exact Parser.exists_failsAt (Parser.module_advances fixities hend) hfail
  exact htokens.of_failsAt hend ht hx

/-- An interpolation with round brackets. The parser stops at the equals sign in it. -/
theorem interpolations_of_brackets :
    let tokens : List Token :=
      [⟨.text "a", ⟨0, 0, 0⟩, ⟨2, 0, 2⟩⟩, ⟨.symbol .interpolationOpen, ⟨2, 0, 2⟩, ⟨4, 0, 4⟩⟩,
        ⟨.symbol .openRound, ⟨4, 0, 4⟩, ⟨5, 0, 5⟩⟩, ⟨.identifier "x", ⟨5, 0, 5⟩, ⟨6, 0, 6⟩⟩,
        ⟨.symbol .closeRound, ⟨6, 0, 6⟩, ⟨7, 0, 7⟩⟩, ⟨.symbol .equals, ⟨8, 0, 8⟩, ⟨9, 0, 9⟩⟩,
        ⟨.symbol .interpolationClose, ⟨9, 0, 9⟩, ⟨10, 0, 10⟩⟩,
        ⟨.text "", ⟨10, 0, 10⟩, ⟨11, 0, 11⟩⟩, ⟨.endOfInput, ⟨11, 0, 11⟩, ⟨11, 0, 11⟩⟩]
    let x : SyntaxError := ⟨.unterminatedInterpolation, ⟨.symbol .equals, ⟨8, 0, 8⟩, ⟨9, 0, 9⟩⟩⟩
    lex "\"a$\x7b(x) =\x7d\"" = .ok tokens ∧
      parseExpression tokens .standard = .error (.error x) ∧ Interpolated tokens ∧
      ∃ before u after, tokens = before ++ u :: x.token :: after ∧
        u.kind ≠ .symbol .interpolationClose := by
  intro tokens x
  have hlex : lex "\"a$\x7b(x) =\x7d\"" = .ok tokens := by decide +kernel
  have hfault : (match parseExpression tokens .standard with
      | .ok _    => .endless
      | .error e => e) = ParseFailure.error x := by decide +kernel
  have hparse : parseExpression tokens .standard = .error (.error x) := by
    cases h : parseExpression tokens .standard with
    | ok e => simp [h] at hfault
    | error e => simpa [h] using hfault
  obtain ⟨htokens, hreads⟩ := interpolations_of_lexWith hlex
  exact ⟨hlex, hparse, htokens, hreads .standard x (.inl hparse) rfl⟩

end Frontend
