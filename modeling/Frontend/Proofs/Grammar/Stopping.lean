import Frontend.Proofs.Grammar.Halting

/-!
# Reading stops at the first end of input

On tokens with an end of input, all calls of the readers are made before the first one or at it, and
they come to an end. The readers do not see what stands behind it either: they give the same result
for the tokens up to it.
-/

namespace Frontend.Parser

open Relation (ReflTransGen)

variable {α : Type} {p : Parser α} {fixities : FixityTable} {tokens : List Token}

/-- No end of input is among the tokens that have been read where the stream is. -/
def NotBehindEnd (tokens : List Token) (s : TokenStream) : Prop :=
  ∃ read, (TokenStream.ofList tokens).Reads read s

/-- The parser stops with a value, or with a fault at a token, and not behind an end of input. -/
structure StopsIn (p : Parser α) (tokens : List Token) : Prop where
  value : ∀ a t, p (.ofList tokens) = .ok a t → NotBehindEnd tokens t
  failure : ∀ e t, p (.ofList tokens) = .error e t → e.IsFault ∧ NotBehindEnd tokens t

/-- The calls of a reader of the tokens, with the calls that are made there and so on. -/
structure CallsStopIn (fixities : FixityTable) (r : Reader) (tokens : List Token) : Prop where
  /-- No chain of calls goes on for ever. -/
  acc : Acc (fun callee caller => Calls fixities caller callee) (r, .ofList tokens)
  notBehindEnd : ∀ c, ReflTransGen (Calls fixities) (r, .ofList tokens) c → NotBehindEnd tokens c.2
  /-- Each call is made at a later place, or it goes down a rank. -/
  descends : ∀ c c', ReflTransGen (Calls fixities) (r, .ofList tokens) c → Calls fixities c c' →
    Descends c c'
  halts : ∀ c, ReflTransGen (Calls fixities) (r, .ofList tokens) c →
    ∀ n, c.1.depth c.2 < n → c.1.HaltsWithin fixities n c.2

/-- The calls of every reader stop where the tokens have an end of input. -/
theorem callsStopIn (fixities : FixityTable) (r : Reader)
    (hends : ∃ t ∈ tokens, t.kind = .endOfInput) : CallsStopIn fixities r tokens where
  acc := Calls.acc hends
  notBehindEnd c hc := reads_of_calls hc hends
  descends c c' hc hcall := by
    obtain ⟨_, hr⟩ := reads_of_calls hc hends
    exact hcall.descends (hr.ends hends)
  halts c hc n hn := by
    obtain ⟨_, hr⟩ := reads_of_calls hc hends
    exact haltsWithin_of_depth_lt fixities c.1 c.2 (hr.ends hends) hn

/-! ### What stands behind the end of input -/

/-- Where one run ends, a run on the tokens up to the first end of input ends in the same way. -/
theorem Retraces.exists_upToEnd {outcome : TokenStream → EStateM.Result ParseFailure TokenStream α}
    {t : TokenStream} (hends : ∃ t ∈ tokens, t.kind = .endOfInput)
    (h : p.Retraces outcome 0 0 (16 * tokens.length) (.ofList tokens) t) :
    ∃ t', p (.ofList (Token.upToEnd tokens)) = outcome t' := by
  obtain ⟨read, hr, -, hp⟩ := h
  have hahead : tokens = read ++ t.ahead := hr.ahead
  have hcut : Token.upToEnd tokens = read ++ Token.upToEnd t.ahead := by
    rw [hahead, Token.upToEnd_append hr.noEnd]
  let s' := TokenStream.ofList (Token.upToEnd tokens)
  let t' : TokenStream := ⟨Token.upToEnd t.ahead, s'.last⟩
  have hr' : s'.Reads read t' := ⟨hcut, rfl, hr.noEnd⟩
  have ht' : t.Resembles t' := by
    refine ⟨(hr.ends hends).sighted, ?_⟩
    rw [TokenStream.view, TokenStream.view, Token.upToEnd_upToEnd]
  refine ⟨t', hp ?_ s' t' hr' ht'⟩
  have hlength := congrArg List.length hahead
  rw [List.length_append] at hlength
  omega

theorem StopsIn.of_finishes (hf : p.Finishes (.ofList tokens))
    (h : p.Echoes p (fun _ => 0) 0 (16 * tokens.length) (.ofList tokens)) : p.StopsIn tokens where
  value a t ht := by
    obtain ⟨read, hr, -⟩ := h.of_ok ht
    exact ⟨read, hr⟩
  failure e t ht := by
    have hfault : e.IsFault := hf.of_error ht
    obtain ⟨read, hr, -⟩ := h.of_error ht hfault.ne_endless
    exact ⟨hfault, read, hr⟩

/-- A reader that echoes itself and that finishes gives the same result for the tokens up to the
first end of input. -/
theorem run'_upToEnd (hends : ∃ t ∈ tokens, t.kind = .endOfInput)
    (hf : p.Finishes (.ofList tokens))
    (h : p.Echoes p (fun _ => 0) 0 (16 * tokens.length) (.ofList tokens)) :
    p.run' (Token.upToEnd tokens) = p.run' tokens := by
  rw [run', run']
  cases hp : p (.ofList tokens) with
  | ok a t =>
    obtain ⟨t', ht'⟩ := (h.of_ok hp).exists_upToEnd hends
    rw [ht']
  | error e t =>
    have hfault : e.IsFault := hf.of_error hp
    obtain ⟨t', ht'⟩ := (h.of_error hp hfault.ne_endless).exists_upToEnd hends
    rw [ht']

/-- On tokens in order that have an end of input somewhere, the readers of modules and of
expressions stop, with a value or with a fault at a token, and not behind the first end of input.
All of the calls that they make on the way are at places that are not behind it. Each call is made
at a later place than the one that it is made from, or it goes down a rank, as from a band to the
tighter one. What stands behind the first end of input makes no difference. -/
theorem stops_of_endOfInput (fixities : FixityTable) {tokens : List Token}
    (hends : ∃ t ∈ tokens, t.kind = .endOfInput) (horder : Token.InOrder tokens) :
    (module fixities).StopsIn tokens ∧ CallsStopIn fixities .module tokens ∧
      parseModule (Token.upToEnd tokens) fixities = parseModule tokens fixities ∧
    (wholeExpression fixities).StopsIn tokens ∧ CallsStopIn fixities .wholeExpression tokens ∧
      parseExpression (Token.upToEnd tokens) fixities = parseExpression tokens fixities := by
  have hs : (TokenStream.ofList tokens).Orderly := ⟨hends, horder⟩
  have hmodule := module_finishes fixities hs
  have hexpression := wholeExpression_finishes fixities hs
  exact ⟨.of_finishes hmodule module_echoes, callsStopIn fixities .module hends,
    run'_upToEnd hends hmodule module_echoes,
    .of_finishes hexpression wholeExpression_echoes, callsStopIn fixities .wholeExpression hends,
    run'_upToEnd hends hexpression wholeExpression_echoes⟩

/-- A module and an expression with brackets behind the end of input. -/
theorem stops_of_endOfInput_openRound :
    let header := Token.row 0
      [.symbol .moduleWord, .identifier "M", .endOfInput, .symbol .openRound, .endOfInput]
    let application := Token.row 0
      [.identifier "f", .number "1", .endOfInput, .symbol .openRound, .lineBreak]
    (∃ t ∈ header, t.kind = .endOfInput) ∧ Token.InOrder header ∧
    (module .standard).StopsIn header ∧ CallsStopIn .standard .module header ∧
    Token.upToEnd header = header.take 3 ∧
    parseModule (Token.upToEnd header) .standard = parseModule header .standard ∧
    (∃ t ∈ application, t.kind = .endOfInput) ∧ Token.InOrder application ∧
    (wholeExpression .standard).StopsIn application ∧
    CallsStopIn .standard .wholeExpression application ∧
    Token.upToEnd application = application.take 3 ∧
    parseExpression (Token.upToEnd application) .standard =
      parseExpression application .standard := by
  intro header application
  have hheader : ∃ t ∈ header, t.kind = .endOfInput := by decide
  have happlication : ∃ t ∈ application, t.kind = .endOfInput := by decide
  have horder : Token.InOrder header := Token.row_inOrder 0 _
  have horder' : Token.InOrder application := Token.row_inOrder 0 _
  have hmodule := stops_of_endOfInput .standard hheader horder
  have hexpression := stops_of_endOfInput .standard happlication horder'
  exact ⟨hheader, horder, hmodule.1, hmodule.2.1, rfl, hmodule.2.2.1, happlication, horder',
    hexpression.2.2.2.1, hexpression.2.2.2.2.1, rfl, hexpression.2.2.2.2.2⟩

/-- Without an end of input, the line break is seen again for ever. -/
example : parseModule (Token.row 0 [.symbol .moduleWord, .identifier "M", .lineBreak]) .standard =
    .error .endless := by
  rfl

end Frontend.Parser
