import Frontend.Check
import Frontend.Proofs.Diagnostic.Order
import Frontend.Proofs.Diagnostic.OrderedList
import Frontend.Proofs.Grammar.Interpolation
import Frontend.Proofs.Grammar.Placement
import Frontend.Proofs.Token.Fault

/-!
# What a check finds

A check of a file finds a lexical error, a syntax error at one of the tokens, or a module
(`SourceFile.Checks`): tokens that come from a text are never out of order, and reading them always
ends. The diagnostic of an error has a code and points to the place of the error.
-/

namespace Frontend

open OrderedList (mem_insert_iff mem_of_mem_insert)

/-! ### Diagnostics of faults -/

/-- The diagnostic is an error with a code, about a part of the text. -/
structure Diagnostic.IsErrorAt (d : Diagnostic) (span : Span) : Prop where
  severity_eq : d.severity = .error
  isSome_code : d.code.isSome
  exists_primary : ∃ h ∈ d.highlights, h.role = .primary ∧ h.span = span

theorem LexicalError.exists_highlights_eq (e : LexicalError) :
    ∃ label, e.diagnostic.highlights = [⟨e.span, .primary, some label⟩] := by
  obtain ⟨value, span⟩ := e
  cases value <;> exact ⟨_, rfl⟩

theorem LexicalError.isErrorAt (e : LexicalError) : e.diagnostic.IsErrorAt e.span where
  severity_eq := by
    obtain ⟨value, span⟩ := e
    cases value <;> rfl
  isSome_code := by
    obtain ⟨value, span⟩ := e
    cases value <;> rfl
  exists_primary := by
    obtain ⟨label, hlabel⟩ := e.exists_highlights_eq
    exact ⟨_, hlabel ▸ List.mem_cons_self, rfl, rfl⟩

/-- A syntax error highlights the token that it is at and, if a bracket is not closed, that one. -/
theorem SyntaxError.mem_highlights_iff (e : SyntaxError) (h : Highlight) :
    h ∈ e.diagnostic.highlights ↔
      h = ⟨e.token.span, .primary, some ("found " ++ e.token.kind.display)⟩ ∨
        ∃ closing opening, e.fault = .unclosedBracket closing opening ∧
          h = ⟨opening, .secondary, some "the bracket is opened here"⟩ := by
  obtain ⟨fault, token⟩ := e
  cases fault
  case unclosedBracket closing opening =>
    have hinsert (g g' : Highlight) : h ∈ OrderedList.insert g [g'] ↔ h = g ∨ h ∈ [g'] :=
      mem_insert_iff fun _ _ => Std.LawfulEqOrd.eq_of_compare
    refine (hinsert ⟨opening, .secondary, _⟩ ⟨token.span, .primary, _⟩).trans ?_
    rw [List.mem_singleton, or_comm]
    refine or_congr_right ⟨fun hh => ⟨closing, opening, rfl, hh⟩, ?_⟩
    rintro ⟨_, _, ⟨⟩, hh⟩
    exact hh
  all_goals
    refine List.mem_singleton.trans ⟨.inl, ?_⟩
    rintro (hh | ⟨_, _, ⟨⟩, -⟩)
    exact hh

theorem SyntaxError.isErrorAt (e : SyntaxError) : e.diagnostic.IsErrorAt e.token.span where
  severity_eq := by
    obtain ⟨fault, token⟩ := e
    cases fault <;> rfl
  isSome_code := by
    obtain ⟨fault, token⟩ := e
    cases fault <;> rfl
  exists_primary := ⟨_, (e.mem_highlights_iff _).mpr (.inl rfl), rfl, rfl⟩

/-! ### Faults of tokens -/

section

variable {named? : String → Option Char} {source : String} {tokens : List Token}

/-- The tokens of a text are in order, and the end of input is among them. -/
theorem orderly_of_lexWith (h : lexWith named? source = .ok tokens) :
    (TokenStream.ofList tokens).Orderly := by
  obtain ⟨hcut, init, hinit, -⟩ := cut_of_lexWith h
  exact ⟨⟨_, hinit ▸ List.mem_append_right init List.mem_cons_self, rfl⟩, hcut.inOrder⟩

/-- The tokens that a syntax error names are among the given ones. -/
structure SyntaxError.IsOf (e : SyntaxError) (tokens : List Token) : Prop where
  token_mem : e.token ∈ tokens
  exists_opening : ∀ closing opening, e.fault = .unclosedBracket closing opening →
    ∃ u ∈ tokens, u.span = opening

theorem SyntaxError.IsOf.of_failsAt {e : SyntaxError} {t : TokenStream}
    (hs : (TokenStream.ofList tokens).Ends)
    (h : Parser.FailsAt (.ofList tokens) (.error e) t) : e.IsOf tokens := by
  obtain ⟨read, hr, hfault⟩ := h
  obtain ⟨htoken, -, hopening⟩ := hfault e rfl
  obtain ⟨rest, hrest⟩ := (hr.ends hs).ahead_eq
  have htokens : tokens = read ++ (t.current :: rest) := hrest ▸ hr.ahead
  constructor
  · rw [htoken, htokens]
    exact List.mem_append_right read List.mem_cons_self
  · intro closing opening hf
    obtain ⟨u, hu, hspan⟩ := hopening closing opening hf
    exact ⟨u, htokens ▸ List.mem_append_left _ hu, hspan⟩

/-- Tokens in order are read as a module, or there is a syntax error at one of them. -/
theorem exists_syntaxError_of_parseModule {fixities : FixityTable} {x : ParseFailure}
    (hs : (TokenStream.ofList tokens).Orderly) (h : parseModule tokens fixities = .error x) :
    ∃ e : SyntaxError, x = .error e ∧ e.IsOf tokens := by
  have hfinishes := (Parser.module_finishes fixities hs).and
    (Parser.module_advances fixities hs.ends)
  obtain ⟨t, hfault, hfails⟩ := hfinishes.exists_of_run'_error h
  cases x with
  | error e => exact ⟨e, rfl, .of_failsAt hs.ends hfails⟩
  | disorder _ => exact hfault.elim
  | endless => exact hfault.elim

end

/-! ### Checks -/

namespace SourceFile

/-- What a check of a file can find. -/
inductive Checks (file : SourceFile) (fixities : FixityTable) : Except Diagnostic Checked → Prop
  | lexical {e : LexicalError} (hlex : lex file.content = .error e) :
      Checks file fixities (.error e.diagnostic)
  | syntactic {tokens : List Token} {e : SyntaxError} (hlex : lex file.content = .ok tokens)
      (hparse : parseModule tokens fixities = .error (.error e)) (he : e.IsOf tokens) :
      Checks file fixities (.error e.diagnostic)
  | accepted {tokens : List Token} {m : Module} (hlex : lex file.content = .ok tokens)
      (hparse : parseModule tokens fixities = .ok m) : Checks file fixities (.ok ⟨tokens, m⟩)

variable (file : SourceFile) (fixities : FixityTable)

theorem check_checks : Checks file fixities (file.check fixities) := by
  cases hlex : lex file.content with
  | error e =>
    have hcheck : file.check fixities = .error e.diagnostic := by
      simp [check, SourceFile.tokens, hlex, Except.mapError, bind, Except.bind]
    rw [hcheck]
    exact .lexical hlex
  | ok tokens =>
    cases hparse : parseModule tokens fixities with
    | error x =>
      obtain ⟨e, rfl, he⟩ := exists_syntaxError_of_parseModule (orderly_of_lexWith hlex) hparse
      have hcheck : file.check fixities = .error e.diagnostic := by
        simp [check, SourceFile.tokens, Module.ofTokens, hlex, hparse, Except.mapError, bind,
          Except.bind, ParseFailure.diagnostic]
      rw [hcheck]
      exact .syntactic hlex hparse he
    | ok m =>
      have hcheck : file.check fixities = .ok ⟨tokens, m⟩ := by
        simp [check, SourceFile.tokens, Module.ofTokens, hlex, hparse, Except.mapError, bind,
          Except.bind, pure, Except.pure]
      rw [hcheck]
      exact .accepted hlex hparse

end SourceFile

end Frontend
