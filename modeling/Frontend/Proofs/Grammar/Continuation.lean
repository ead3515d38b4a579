import Frontend.Proofs.Grammar.Acceptance
import Frontend.Proofs.Grammar.Agreement
import Frontend.Proofs.Grammar.Derivation
import Frontend.Proofs.Token.Brackets

/-!
# Lines that go on

A line break and an indentation may stand before an operator, before a comma that is not between
curly brackets, and before a token that a factor starts with. `Continued` relates tokens to the same
tokens with some such breaks among them. The readers of expressions agree on the two: wherever the
first run looks at a token behind a break, the second one steps past the break, or it is left
standing for a reader further out.
-/

namespace Frontend

open TokenKind (replay)

variable {brackets : List BracketKind} {before? : Option TokenKind}

/-! ### Breaking lines -/

/-- A line may be broken before a token of the kind. The open brackets and the token before it are
given: a comma between curly brackets stays on its line, and so does the name of a member and the
segment behind an interpolation. -/
def TokenKind.MayStartLine (brackets : List BracketKind) (before? : Option TokenKind)
    (k : TokenKind) : Prop :=
  k.isOperator ∨ k = .symbol .comma ∧ brackets.head? ≠ some .curly ∨
    k.startsFactor ∧ before? ≠ some (.symbol .dotAccess) ∧
      before? ≠ some (.symbol .interpolationClose)

/-- The second list is the first one with a line break and an indentation before some of the tokens
that may start a line. -/
inductive Continued :
    List BracketKind → Option TokenKind → List Token → List Token → Prop
  | nil {brackets : List BracketKind} {before? : Option TokenKind} :
      Continued brackets before? [] []
  | token {brackets : List BracketKind} {before? : Option TokenKind} {t : Token}
      {ts us : List Token} (h : Continued (replay brackets t.kind) (some t.kind) ts us) :
      Continued brackets before? (t :: ts) (t :: us)
  | line {brackets : List BracketKind} {before? : Option TokenKind} {b i t : Token}
      {ts us : List Token} (hb : b.kind = .lineBreak) (hi : i.kind.isIndentation)
      (ht : t.kind.MayStartLine brackets before?)
      (h : Continued (replay brackets t.kind) (some t.kind) ts us) :
      Continued brackets before? (t :: ts) (b :: i :: t :: us)

theorem Continued.length_le {ts us : List Token} (h : Continued brackets before? ts us) :
    ts.length ≤ us.length := by
  induction h with
  | nil => exact Nat.le_refl _
  | token _ ih => exact Nat.succ_le_succ ih
  | line _ _ _ _ ih => exact Nat.succ_le_succ (Nat.le_trans ih (Nat.le_add_right _ 2))

namespace TokenKind

variable {k : TokenKind}

theorem MayStartLine.not_isBlank (h : k.MayStartLine brackets before?) : k.isBlank = false := by
  rcases h with h | ⟨rfl, -⟩ | ⟨h, -⟩
  · obtain ⟨name, rfl⟩ := isOperator_iff.mp h
    rfl
  · rfl
  · cases k <;> first | rfl | cases h

/-- Of the symbols, only commas and opening brackets may start a line. -/
theorem not_mayStartLine_symbol {s : Symbol} (hs : (symbol s).startsFactor = false)
    (hcomma : s ≠ .comma) : ¬ (symbol s).MayStartLine brackets before? := by
  rintro (h | ⟨h, -⟩ | ⟨h, -⟩)
  · cases h
  · exact hcomma (symbol.inj h)
  · rw [hs] at h
    cases h

theorem not_mayStartLine_comma (h : brackets.head? = some .curly) :
    ¬ (symbol .comma).MayStartLine brackets before? := by
  rintro (h' | ⟨-, h'⟩ | ⟨h', -⟩)
  · cases h'
  · exact h' h
  · cases h'

end TokenKind

/-! ### Streams with broken lines -/

theorem TokenStream.current_of_ahead {s : TokenStream} {t : Token} {rest : List Token}
    (h : s.ahead = t :: rest) : s.current = t := by
  simp [current, peek, h]

/-- What is ahead of the second stream is what is ahead of the first one, in broken lines. -/
structure Follows (brackets : List BracketKind) (before? : Option TokenKind) (s t : TokenStream) :
    Prop where
  free : s.LayoutFree
  ahead : Continued brackets before? s.ahead t.ahead

namespace Follows

variable {s t : TokenStream}

/-- The two streams are at the same token, or the second one is at a break before it. -/
theorem cases (h : Follows brackets before? s t) :
    (∃ ts us, s.ahead = s.current :: ts ∧ t.ahead = s.current :: us ∧
      Continued (replay brackets s.current.kind) (some s.current.kind) ts us) ∨
    ∃ b i us, t.ahead = b :: i :: s.current :: us ∧ b.kind = .lineBreak ∧ i.kind.isIndentation ∧
      s.current.kind.MayStartLine brackets before? ∧
      Continued brackets before? s.ahead (s.current :: us) := by
  obtain ⟨ts, hts⟩ := h.free.ends.ahead_eq
  have hahead := h.ahead
  rw [hts] at hahead ⊢
  generalize ht : t.ahead = us at hahead
  cases hahead with
  | token h => exact .inl ⟨_, _, rfl, rfl, h⟩
  | line hb hi hstart h => exact .inr ⟨_, _, _, rfl, hb, hi, hstart, .token h⟩

/-- The second stream is at the same token, or at a break before a token that may start a line. -/
theorem current_cases (h : Follows brackets before? s t) :
    t.current = s.current ∨
      t.current.kind = .lineBreak ∧ s.current.kind.MayStartLine brackets before? := by
  rcases h.cases with ⟨_, us, -, ht, -⟩ | ⟨b, i, us, ht, hb, -, hstart, -⟩
  · exact .inl (TokenStream.current_of_ahead ht)
  · exact .inr ⟨TokenStream.current_of_ahead ht ▸ hb, hstart⟩

theorem current_eq (h : Follows brackets before? s t)
    (hstart : ¬ s.current.kind.MayStartLine brackets before?) : t.current = s.current :=
  h.current_cases.resolve_right fun hbreak => hstart hbreak.2

/-- A test that no line break passes has the same result in both streams, if there is no break
before a token that passes it. -/
theorem test_eq (c : TokenKind → Bool) (h : Follows brackets before? s t)
    (hbreak : c .lineBreak = false) (hc : c s.current.kind → t.current = s.current) :
    c t.current.kind = c s.current.kind := by
  rcases h.current_cases with heq | ⟨hkind, -⟩
  · rw [heq]
  · cases hcs : c s.current.kind with
    | false => rw [hkind, hbreak]
    | true => rw [hc hcs, hcs]

/-- Both streams step past the same token. -/
theorem advance (h : Follows brackets before? s t) (heq : t.current = s.current)
    (hk : s.current.kind ≠ .endOfInput) :
    Follows (replay brackets s.current.kind) (some s.current.kind) s.advance t.advance := by
  refine ⟨(h.free.ends.reads_advance hk).layoutFree h.free, ?_⟩
  rcases h.cases with ⟨ts, us, hs, ht, hcontinued⟩ | ⟨b, i, us, ht, hb, -⟩
  · simpa [TokenStream.advance, hs, ht, hk] using hcontinued
  · obtain ⟨ts, hts⟩ := h.free.ends.ahead_eq
    refine absurd ?_ (h.free.noBreak s.current (hts ▸ List.mem_cons_self))
    rw [← heq, TokenStream.current_of_ahead ht, hb]

/-- In the second stream, a break before a token that satisfies the predicate is skipped. -/
theorem skipContinuation (h : Follows brackets before? s t) (c : TokenKind → Bool) :
    Follows brackets before? s (t.skipContinuation c) ∧
      (c s.current.kind → (t.skipContinuation c).current = s.current) := by
  rcases h.cases with ⟨ts, us, -, ht, -⟩ | ⟨b, i, us, ht, hb, hi, hstart, hcontinued⟩
  · have heq : t.current = s.current := TokenStream.current_of_ahead ht
    obtain ⟨rest, hrest⟩ := h.free.ends.ahead_eq
    have hne := h.free.noBreak s.current (hrest ▸ List.mem_cons_self)
    rw [TokenStream.skipContinuation_of_ne c (heq ▸ hne)]
    exact ⟨h, fun _ => heq⟩
  · have hpeek₁ : t.peek 1 = i := by simp [TokenStream.peek, ht]
    have hpeek₂ : t.peek 2 = s.current := by simp [TokenStream.peek, ht]
    have hcontinues : t.continues c = c s.current.kind := by
      simp [TokenStream.continues, TokenStream.current_of_ahead ht, hpeek₁, hpeek₂, hb, hi,
        hstart.not_isBlank]
    rw [TokenStream.skipContinuation, hcontinues]
    cases hc : c s.current.kind with
    | false => exact ⟨h, by simp⟩
    | true =>
      have hik : i.kind ≠ .endOfInput := by
        obtain ⟨blanks, hi⟩ := TokenKind.isIndentation_iff.mp hi
        simp [hi]
      have hadvance : t.advance.advance.ahead = s.current :: us := by
        simp [TokenStream.advance, ht, hb, hik]
      exact ⟨⟨h.free, hadvance ▸ hcontinued⟩, fun _ => TokenStream.current_of_ahead hadvance⟩

end Follows

namespace Parser

/-! ### Readers on broken lines -/

/-- Both runs give the same value, and what is ahead is still the same in broken lines. -/
def Together {α : Type} (brackets : List BracketKind) (a b : α) (s t : TokenStream) : Prop :=
  a = b ∧ ∃ before?, Follows brackets before? s t

section Steps

variable {α : Type} {s t : TokenStream} {symbol : Symbol}
  {Q : α → α → TokenStream → TokenStream → Prop}

theorem agrees_skip {f g : Unit → Parser α} {c : TokenKind → Bool}
    (h : Follows brackets before? s t)
    (hf : ∀ t', Follows brackets before? s t' → (c s.current.kind → t'.current = s.current) →
      (f ()).Agrees (g ()) Q s t') :
    (skipContinuation c >>= f).Agrees (skipContinuation c >>= g) Q s t := by
  obtain ⟨h', heq⟩ := h.skipContinuation c
  refine agrees_skipContinuation ?_
  rw [h.free.skipContinuation]
  exact hf _ h' heq

/-- A symbol with no break before it. -/
theorem agrees_symbol {f g : Bool → Parser α} (h : Follows brackets before? s t)
    (heq : s.current.kind = .symbol symbol → t.current = s.current)
    (htrue : s.current.kind = .symbol symbol → ∀ s' t',
      Follows (replay brackets (.symbol symbol)) (some (.symbol symbol)) s' t' →
      (f true).Agrees (g true) Q s' t')
    (hfalse : s.current.kind ≠ .symbol symbol → (f false).Agrees (g false) Q s t) :
    (consume symbol >>= f).Agrees (consume symbol >>= g) Q s t := by
  have htest : t.current.kind.isSymbol symbol = s.current.kind.isSymbol symbol :=
    h.test_eq (·.isSymbol symbol) rfl fun hs => heq (TokenKind.isSymbol_iff.mp hs)
  refine agrees_consume htest (fun hs => ?_) hfalse
  have hadvance := h.advance (heq hs) (by simp [hs])
  rw [hs] at hadvance
  exact htrue hs _ _ hadvance

/-- A token of a kind that no line starts with here. -/
theorem agrees_token {f g : Token → Parser α} {c : TokenKind → Bool} {fault : SyntaxFault}
    (h : Follows brackets before? s t) (hbreak : c .lineBreak = false)
    (hend : c .endOfInput = false) (hstart : ∀ k, c k → ¬ k.MayStartLine brackets before?)
    (hf : c s.current.kind → ∀ s' t',
      Follows (replay brackets s.current.kind) (some s.current.kind) s' t' →
        (f s.current).Agrees (g s.current) Q s' t') :
    (take c fault >>= f).Agrees (take c fault >>= g) Q s t := by
  have heq : c s.current.kind → t.current = s.current := fun hc => h.current_eq (hstart _ hc)
  refine agrees_take (h.test_eq c hbreak heq) fun hc => ?_
  have hadvance := h.advance (heq hc) fun hk => by simp [hk, hend] at hc
  rw [heq hc]
  exact hf hc _ _ hadvance

end Steps

/-- The readers agree on tokens and on the same tokens in broken lines, within a number of calls and
within more calls for the broken lines. -/
structure Following (fixities : FixityTable) (d n : Nat) : Prop where
  expression : ∀ {brackets before? s t}, Follows brackets before? s t →
    (expressionWithin fixities n).Agrees (expressionWithin fixities (d + n)) (Together brackets) s t
  elements : ∀ {brackets before? s t}, Follows brackets before? s t →
    (s.current.kind = .symbol .comma → t.current = s.current) →
    (elementsWithin fixities n).Agrees (elementsWithin fixities (d + n)) (Together brackets) s t
  binary : ∀ {brackets before? s t} band, Follows brackets before? s t →
    (binaryWithin fixities n band).Agrees (binaryWithin fixities (d + n) band)
      (Together brackets) s t
  operations : ∀ {brackets before? s t} band a? left, Follows brackets before? s t →
    (operationsWithin fixities n band a? left).Agrees
      (operationsWithin fixities (d + n) band a? left) (Together brackets) s t
  application : ∀ {brackets before? s t}, Follows brackets before? s t →
    (applicationWithin fixities n).Agrees (applicationWithin fixities (d + n))
      (Together brackets) s t
  arguments : ∀ {brackets before? s t} callee, Follows brackets before? s t →
    (argumentsWithin fixities n callee).Agrees (argumentsWithin fixities (d + n) callee)
      (Together brackets) s t
  factor : ∀ {brackets before? s t}, Follows brackets before? s t →
    (factorWithin fixities n).Agrees (factorWithin fixities (d + n)) (Together brackets) s t
  members : ∀ {brackets before? s t} value, Follows brackets before? s t →
    (membersWithin fixities n value).Agrees (membersWithin fixities (d + n) value)
      (Together brackets) s t
  primary : ∀ {brackets before? s t}, Follows brackets before? s t →
    (s.current.kind.startsFactor → t.current = s.current) →
    (primaryWithin fixities n).Agrees (primaryWithin fixities (d + n)) (Together brackets) s t
  round : ∀ {brackets before? s t} opening, Follows (.round :: brackets) before? s t →
    (roundWithin fixities n opening).Agrees (roundWithin fixities (d + n) opening)
      (Together brackets) s t
  curly : ∀ {brackets before? s t} opening, Follows (.curly :: brackets) before? s t →
    (curlyWithin fixities n opening).Agrees (curlyWithin fixities (d + n) opening)
      (Together brackets) s t
  text : ∀ {brackets before? s t} first, Follows brackets before? s t →
    (textWithin fixities n first).Agrees (textWithin fixities (d + n) first) (Together brackets) s t
  segments : ∀ {brackets before? s t}, Follows brackets before? s t →
    (segmentsWithin fixities n).Agrees (segmentsWithin fixities (d + n)) (Together brackets) s t

namespace Following

variable {fixities : FixityTable} {d n : Nat}

theorem zero (fixities : FixityTable) (d : Nat) : Following fixities d 0 where
  expression _ := trivial
  elements _ _ := trivial
  binary _ _ := trivial
  operations _ _ _ _ := trivial
  application _ := trivial
  arguments _ _ := trivial
  factor _ := trivial
  members _ _ := trivial
  primary _ _ := trivial
  round _ _ := trivial
  curly _ _ := trivial
  text _ _ := trivial
  segments _ := trivial

variable (h : Following fixities d n) {s t : TokenStream}
include h

theorem expression_succ (hst : Follows brackets before? s t) :
    (expressionWithin fixities (n + 1)).Agrees (expressionWithin fixities (d + n + 1))
      (Together brackets) s t := by
  rw [expressionWithin, expressionWithin]
  refine (h.binary 0 hst).bind ?_
  rintro first? _ s t ⟨rfl, before?, hst⟩
  cases first? with
  | none => exact agrees_pure ⟨rfl, _, hst⟩
  | some first =>
    refine agrees_skip hst fun t hst heq => agrees_current ?_
    have htest := hst.test_eq (·.isSymbol .comma) rfl heq
    refine agrees_ite (by rw [htest]) (fun _ => ?_) fun _ => agrees_pure ⟨rfl, _, hst⟩
    refine (h.elements hst (heq ∘ TokenKind.isSymbol_iff.mpr)).bind ?_
    rintro rest _ s t ⟨rfl, before?, hst⟩
    exact agrees_merge fun w => agrees_pure ⟨rfl, _, hst⟩

theorem elements_succ (hst : Follows brackets before? s t)
    (heq : s.current.kind = .symbol .comma → t.current = s.current) :
    (elementsWithin fixities (n + 1)).Agrees (elementsWithin fixities (d + n + 1))
      (Together brackets) s t := by
  rw [elementsWithin, elementsWithin]
  refine agrees_symbol hst heq (fun _ s t hst => ?_) fun _ => agrees_pure ⟨rfl, _, hst⟩
  rw [if_pos rfl, if_pos rfl]
  refine (h.binary 0 hst).bind ?_
  rintro element? _ s t ⟨rfl, before?, hst⟩
  refine agrees_expect fun element _ => agrees_skip hst fun t hst heq => ?_
  refine (h.elements hst (heq ∘ TokenKind.isSymbol_iff.mpr)).bind ?_
  rintro rest _ s t ⟨rfl, before?, hst⟩
  exact agrees_pure ⟨rfl, _, hst⟩

theorem binary_succ (band : Nat) (hst : Follows brackets before? s t) :
    (binaryWithin fixities (n + 1) band).Agrees (binaryWithin fixities (d + n + 1) band)
      (Together brackets) s t := by
  rw [binaryWithin, binaryWithin]
  refine agrees_ite .rfl (fun _ => h.application hst) fun _ => ?_
  refine (h.binary (band + 1) hst).bind ?_
  rintro left? _ s t ⟨rfl, before?, hst⟩
  cases left? with
  | none => exact agrees_pure ⟨rfl, _, hst⟩
  | some left =>
    refine (h.operations band none left hst).bind ?_
    rintro e _ s t ⟨rfl, before?, hst⟩
    exact agrees_pure ⟨rfl, _, hst⟩

theorem operations_succ (band : Nat) (a? : Option Associativity) (left : Expression)
    (hst : Follows brackets before? s t) :
    (operationsWithin fixities (n + 1) band a? left).Agrees
      (operationsWithin fixities (d + n + 1) band a? left) (Together brackets) s t := by
  rw [operationsWithin, operationsWithin]
  refine agrees_skip hst fun t hst heq => agrees_current ?_
  have htest := hst.test_eq (·.isOperator) rfl heq
  split
  · next name hname =>
    have hs : s.current.kind.isOperator := by simp [hname, TokenKind.isOperator]
    simp only [heq hs, hname]
    refine agrees_ite .rfl (fun _ => ?_) fun _ => agrees_pure ⟨rfl, _, hst⟩
    refine agrees_require rfl fun _ => agrees_advance ?_
    have hadvance := hst.advance (heq hs) (by simp [hname])
    rw [hname] at hadvance
    refine (h.binary _ hadvance).bind ?_
    rintro right? _ s t ⟨rfl, before?, hst⟩
    refine agrees_expect fun right _ => agrees_merge fun w => ?_
    exact h.operations band _ _ hst
  · next hs =>
    split
    · next name hname =>
      rw [hname] at htest
      obtain ⟨name', hname'⟩ := TokenKind.isOperator_iff.mp htest.symm
      exact absurd hname' (hs name')
    · exact agrees_pure ⟨rfl, _, hst⟩

theorem application_succ (hst : Follows brackets before? s t) :
    (applicationWithin fixities (n + 1)).Agrees (applicationWithin fixities (d + n + 1))
      (Together brackets) s t := by
  rw [applicationWithin, applicationWithin]
  refine (h.factor hst).bind ?_
  rintro callee? _ s t ⟨rfl, before?, hst⟩
  cases callee? with
  | none => exact agrees_pure ⟨rfl, _, hst⟩
  | some callee =>
    refine (h.arguments callee hst).bind ?_
    rintro e _ s t ⟨rfl, before?, hst⟩
    exact agrees_pure ⟨rfl, _, hst⟩

theorem arguments_succ (callee : Expression) (hst : Follows brackets before? s t) :
    (argumentsWithin fixities (n + 1) callee).Agrees
      (argumentsWithin fixities (d + n + 1) callee) (Together brackets) s t := by
  rw [argumentsWithin, argumentsWithin]
  refine agrees_ite .rfl (fun _ => ?_) fun _ => agrees_pure ⟨rfl, _, hst⟩
  refine (h.factor hst).bind ?_
  rintro argument? _ s t ⟨rfl, before?, hst⟩
  cases argument? with
  | none => exact agrees_pure ⟨rfl, _, hst⟩
  | some argument => exact agrees_merge fun w => h.arguments _ hst

theorem factor_succ (hst : Follows brackets before? s t) :
    (factorWithin fixities (n + 1)).Agrees (factorWithin fixities (d + n + 1))
      (Together brackets) s t := by
  rw [factorWithin, factorWithin]
  refine agrees_skip hst fun t hst heq => (h.primary hst heq).bind ?_
  rintro primary? _ s t ⟨rfl, before?, hst⟩
  cases primary? with
  | none => exact agrees_pure ⟨rfl, _, hst⟩
  | some primary =>
    refine (h.members primary hst).bind ?_
    rintro e _ s t ⟨rfl, before?, hst⟩
    exact agrees_pure ⟨rfl, _, hst⟩

theorem members_succ (value : Expression) (hst : Follows brackets before? s t) :
    (membersWithin fixities (n + 1) value).Agrees (membersWithin fixities (d + n + 1) value)
      (Together brackets) s t := by
  rw [membersWithin, membersWithin]
  have heq (hs : s.current.kind = .symbol .dotAccess) : t.current = s.current :=
    hst.current_eq (hs ▸ TokenKind.not_mayStartLine_symbol rfl (by decide))
  refine agrees_current (agrees_symbol hst heq (fun hs s' t' hst => ?_) fun _ => ?_)
  · rw [if_pos rfl, if_pos rfl, heq hs]
    -- The name of the member stands directly behind the dot.
    refine agrees_token hst rfl rfl (fun k hk hstart => ?_) fun hk s'' t'' hst => ?_
    · obtain ⟨name, rfl⟩ := TokenKind.isIdentifier_iff.mp hk
      rcases hstart with hstart | ⟨hstart, -⟩ | ⟨-, hstart, -⟩
      · cases hstart
      · cases hstart
      · exact hstart rfl
    · obtain ⟨name, hname⟩ := TokenKind.isIdentifier_iff.mp hk
      rw [hname] at hst
      exact agrees_merge fun w => h.members _ hst
  · exact agrees_pure ⟨rfl, _, hst⟩

theorem primary_succ (hst : Follows brackets before? s t)
    (heq : s.current.kind.startsFactor → t.current = s.current) :
    (primaryWithin fixities (n + 1)).Agrees (primaryWithin fixities (d + n + 1))
      (Together brackets) s t := by
  have htest := hst.test_eq (·.startsFactor) rfl heq
  cases hs : s.current.kind.startsFactor with
  | false =>
    rw [Agrees, primaryWithin_none hs, primaryWithin_none (htest.trans hs)]
    exact ⟨rfl, _, hst⟩
  | true =>
    have hadvance := hst.advance (heq hs) fun hk => by simp [hk, TokenKind.startsFactor] at hs
    rw [primaryWithin, primaryWithin]
    refine agrees_current ?_
    rw [heq hs]
    split
    · next hk =>
      rw [hk] at hadvance
      exact agrees_advance (agrees_pure ⟨rfl, _, hadvance⟩)
    · next hk =>
      rw [hk] at hadvance
      exact agrees_advance (agrees_pure ⟨rfl, _, hadvance⟩)
    · next hk =>
      rw [hk] at hadvance
      exact agrees_advance (agrees_pure ⟨rfl, _, hadvance⟩)
    · next hk =>
      rw [hk] at hadvance
      refine agrees_advance ((h.text _ hadvance).bind ?_)
      rintro e _ s t ⟨rfl, before?, hst⟩
      exact agrees_pure ⟨rfl, _, hst⟩
    · next hk =>
      rw [hk] at hadvance
      refine agrees_advance ((h.round _ hadvance).bind ?_)
      rintro e _ s t ⟨rfl, before?, hst⟩
      exact agrees_pure ⟨rfl, _, hst⟩
    · next hk =>
      rw [hk] at hadvance
      refine agrees_advance ((h.curly _ hadvance).bind ?_)
      rintro e _ s t ⟨rfl, before?, hst⟩
      exact agrees_pure ⟨rfl, _, hst⟩
    · exact agrees_pure ⟨rfl, _, hst⟩

theorem round_succ (opening : Span) (hst : Follows (.round :: brackets) before? s t) :
    (roundWithin fixities (n + 1) opening).Agrees (roundWithin fixities (d + n + 1) opening)
      (Together brackets) s t := by
  rw [roundWithin, roundWithin]
  have heq (hs : s.current.kind = .symbol .closeRound) : t.current = s.current :=
    hst.current_eq (hs ▸ TokenKind.not_mayStartLine_symbol rfl (by decide))
  refine agrees_current (agrees_symbol hst heq (fun hs s' t' hst => ?_) fun _ => ?_)
  · rw [if_pos rfl, if_pos rfl, heq hs]
    exact agrees_merge fun w => agrees_pure ⟨rfl, _, hst⟩
  · rw [if_neg Bool.false_ne_true, if_neg Bool.false_ne_true]
    refine (h.expression hst).bind ?_
    rintro inner? _ s t ⟨rfl, before?, hst⟩
    refine agrees_expect fun inner _ => ?_
    refine agrees_token hst rfl rfl (fun k hk => ?_) fun hk s t hst => ?_
    · rw [TokenKind.isSymbol_iff.mp hk]
      exact TokenKind.not_mayStartLine_symbol rfl (by decide)
    · rw [TokenKind.isSymbol_iff.mp hk] at hst
      exact agrees_merge fun w => agrees_pure ⟨rfl, _, hst⟩

theorem curly_succ (opening : Span) (hst : Follows (.curly :: brackets) before? s t) :
    (curlyWithin fixities (n + 1) opening).Agrees (curlyWithin fixities (d + n + 1) opening)
      (Together brackets) s t := by
  rw [curlyWithin, curlyWithin]
  refine (h.binary 0 hst).bind ?_
  rintro first? _ s t ⟨rfl, before?, hst⟩
  have hclose : ∀ k : TokenKind, k.isSymbol .closeCurly →
      ∀ before?, ¬ k.MayStartLine (.curly :: brackets) before? := by
    intro k hk before?
    rw [TokenKind.isSymbol_iff.mp hk]
    exact TokenKind.not_mayStartLine_symbol rfl (by decide)
  cases first? with
  | none =>
    refine agrees_token hst rfl rfl (fun k hk => hclose k hk _) fun hk s t hst => ?_
    rw [TokenKind.isSymbol_iff.mp hk] at hst
    exact agrees_merge fun w => agrees_pure ⟨rfl, _, hst⟩
  | some first =>
    -- Between curly brackets, there is no break before the first comma.
    have heq (hs : s.current.kind = .symbol .comma) : t.current = s.current :=
      hst.current_eq (hs ▸ TokenKind.not_mayStartLine_comma rfl)
    refine (h.elements hst heq).bind ?_
    rintro rest _ s t ⟨rfl, before?, hst⟩
    refine agrees_token hst rfl rfl (fun k hk => hclose k hk _) fun hk s t hst => ?_
    rw [TokenKind.isSymbol_iff.mp hk] at hst
    exact agrees_merge fun w => agrees_pure ⟨rfl, _, hst⟩

theorem text_succ (first : Expression) (hst : Follows brackets before? s t) :
    (textWithin fixities (n + 1) first).Agrees (textWithin fixities (d + n + 1) first)
      (Together brackets) s t := by
  rw [textWithin, textWithin]
  have htest := hst.test_eq (·.isSymbol .interpolationOpen) rfl fun hs =>
    hst.current_eq (TokenKind.isSymbol_iff.mp hs ▸
      TokenKind.not_mayStartLine_symbol rfl (by decide))
  refine agrees_current (agrees_ite (by rw [htest]) (fun _ => ?_) fun _ => ?_)
  · refine (h.segments hst).bind ?_
    rintro rest _ s t ⟨rfl, before?, hst⟩
    exact agrees_merge fun w => agrees_pure ⟨rfl, _, hst⟩
  · exact agrees_pure ⟨rfl, _, hst⟩

theorem segments_succ (hst : Follows brackets before? s t) :
    (segmentsWithin fixities (n + 1)).Agrees (segmentsWithin fixities (d + n + 1))
      (Together brackets) s t := by
  rw [segmentsWithin, segmentsWithin]
  have heq (hs : s.current.kind = .symbol .interpolationOpen) : t.current = s.current :=
    hst.current_eq (hs ▸ TokenKind.not_mayStartLine_symbol rfl (by decide))
  refine agrees_symbol hst heq (fun _ s t hst => ?_) fun _ => agrees_pure ⟨rfl, _, hst⟩
  rw [if_pos rfl, if_pos rfl]
  refine (h.expression hst).bind ?_
  rintro value? _ s t ⟨rfl, before?, hst⟩
  refine agrees_expect fun value _ => ?_
  refine agrees_token hst rfl rfl (fun k hk => ?_) fun hk s t hst => ?_
  · rw [TokenKind.isSymbol_iff.mp hk]
    exact TokenKind.not_mayStartLine_symbol rfl (by decide)
  rw [TokenKind.isSymbol_iff.mp hk] at hst
  -- The next segment stands directly behind the bracket of the interpolation.
  refine agrees_token hst rfl rfl (fun k hk hstart => ?_) fun hk s t hst => ?_
  · obtain ⟨content, rfl⟩ := TokenKind.isText_iff.mp hk
    rcases hstart with hstart | ⟨hstart, -⟩ | ⟨-, -, hstart⟩
    · cases hstart
    · cases hstart
    · exact hstart rfl
  obtain ⟨content, hcontent⟩ := TokenKind.isText_iff.mp hk
  rw [hcontent] at hst
  refine (h.segments hst).bind ?_
  rintro rest _ s t ⟨rfl, before?, hst⟩
  exact agrees_pure ⟨rfl, _, hst⟩

end Following

/-- The readers of expressions agree on the same tokens in broken lines. -/
theorem following (fixities : FixityTable) (d : Nat) : ∀ n, Following fixities d n
  | 0     => .zero fixities d
  | n + 1 =>
    have h := following fixities d n
    { expression := h.expression_succ
      elements := h.elements_succ
      binary := h.binary_succ
      operations := h.operations_succ
      application := h.application_succ
      arguments := h.arguments_succ
      factor := h.factor_succ
      members := h.members_succ
      primary := h.primary_succ
      round := h.round_succ
      curly := h.curly_succ
      text := h.text_succ
      segments := h.segments_succ }

/-! ### Whole streams -/

theorem lineBreaksWithin_of_ne {s : TokenStream} (h : s.current.kind ≠ .lineBreak) (n : Nat) :
    lineBreaksWithin (n + 1) s = .ok () s := by
  have hbreak : (s.current.kind = .lineBreak) = False := eq_false h
  simp only [lineBreaksWithin, Bind.bind, EStateM.bind, current, hbreak, if_false, Pure.pure,
    EStateM.pure]

theorem lineBreaksWithin_of_eq {s : TokenStream} (h : s.current.kind = .lineBreak) (n : Nat) :
    lineBreaksWithin (n + 1) s = lineBreaksWithin n s.advance := by
  simp only [lineBreaksWithin, Bind.bind, EStateM.bind, current, h, if_true, advance]

/-- Behind an expression, both runs are at the end of input or both fail: a break does not help. -/
theorem agrees_end {s t : TokenStream} (hst : Follows brackets before? s t) (e : Expression) :
    (do repeated lineBreaksWithin
        require ((← current).kind == .endOfInput) .terminatorExpected
        return e : Parser Expression).Agrees
      (do repeated lineBreaksWithin
          require ((← current).kind == .endOfInput) .terminatorExpected
          return e) (fun a b _ _ => a = b) s t := by
  have hsne : s.current.kind ≠ .lineBreak := by
    obtain ⟨rest, hrest⟩ := hst.free.ends.ahead_eq
    exact hst.free.noBreak s.current (hrest ▸ List.mem_cons_self)
  have hs : repeated lineBreaksWithin s = .ok () s := lineBreaksWithin_of_ne hsne _
  rcases hst.cases with ⟨_, us, -, ht, -⟩ | ⟨b, i, us, ht, hb, hi, hstart, -⟩
  · have heq : t.current = s.current := TokenStream.current_of_ahead ht
    have ht' : repeated lineBreaksWithin t = .ok () t := lineBreaksWithin_of_ne (heq ▸ hsne) _
    have hbreaks : (repeated lineBreaksWithin).Agrees (repeated lineBreaksWithin)
        (fun _ _ s' t' => s' = s ∧ t' = t) s t := by
      rw [Agrees, hs, ht']
      exact ⟨rfl, rfl⟩
    refine hbreaks.bind ?_
    rintro _ _ _ _ ⟨rfl, rfl⟩
    exact agrees_current (agrees_require (by rw [heq]) fun _ => agrees_pure rfl)
  · have hadvance : t.advance = ⟨i :: s.current :: us, t.last⟩ := by
      simp [TokenStream.advance, ht, hb]
    have hik : t.advance.current.kind ≠ .lineBreak ∧ t.advance.current.kind ≠ .endOfInput := by
      obtain ⟨blanks, hi⟩ := TokenKind.isIndentation_iff.mp hi
      simp [hadvance, hi]
    have ht' : repeated lineBreaksWithin t = .ok () t.advance :=
      (lineBreaksWithin_of_eq (TokenStream.current_of_ahead ht ▸ hb) _).trans
        (lineBreaksWithin_of_ne hik.1 _)
    have hend : s.current.kind ≠ .endOfInput := fun hk => by
      simpa [hk, TokenKind.isBlank] using hstart.not_isBlank
    have hbreaks : (repeated lineBreaksWithin).Agrees (repeated lineBreaksWithin)
        (fun _ _ s' t' => s' = s ∧ t' = t.advance) s t := by
      rw [Agrees, hs, ht']
      exact ⟨rfl, rfl⟩
    refine hbreaks.bind ?_
    rintro _ _ _ _ ⟨rfl, rfl⟩
    refine agrees_current (agrees_require ?_ fun hk => ?_)
    · simp [hend, hik.2]
    · exact absurd (by simpa using hk) hend

theorem wholeExpression_agrees (fixities : FixityTable) {s t : TokenStream}
    (hst : Follows brackets before? s t) :
    (wholeExpression fixities).Agrees (wholeExpression fixities) (fun a b _ _ => a = b) s t := by
  have hfuel : t.fuel = t.fuel - s.fuel + s.fuel := by
    have := hst.ahead.length_le
    unfold TokenStream.fuel
    omega
  have hexpression :
      (expression fixities).Agrees (expression fixities) (Together brackets) s t := by
    have h := (following fixities (t.fuel - s.fuel) s.fuel).expression hst
    rw [← hfuel] at h
    exact agrees_repeated h
  rw [wholeExpression]
  refine hexpression.bind ?_
  rintro e? _ s t ⟨rfl, before?, hst⟩
  exact agrees_expect fun e _ => agrees_end hst e

end Parser

/-! ### The theorem -/

/-- Tokens spell an expression if and only if they spell the same expression in broken lines. -/
theorem parseExpression_eq_ok_iff_of_continued {tokens broken : List Token} {stop : Token}
    {fixities : FixityTable} {e : Expression} (hstop : stop.kind = .endOfInput)
    (htokens : ∀ t ∈ tokens, t.kind ≠ .endOfInput ∧ t.kind ≠ .lineBreak)
    (horder : Token.InOrder (tokens ++ [stop]))
    (hbroken : Continued [] none (tokens ++ [stop]) broken) :
    parseExpression broken fixities = .ok e ↔
      parseExpression (tokens ++ [stop]) fixities = .ok e := by
  have hfree := TokenStream.layoutFree_concat hstop fun t ht => (htokens t ht).2
  have hfollows : Follows [] none (.ofList (tokens ++ [stop])) (.ofList broken) := ⟨hfree, hbroken⟩
  have hagrees := Parser.wholeExpression_agrees fixities hfollows
  have hfinishes := Parser.wholeExpression_finishes fixities ⟨hfree.ends, horder⟩
  simp only [parseExpression, Parser.run']
  cases hp : Parser.wholeExpression fixities (.ofList (tokens ++ [stop])) with
  | ok e' s =>
    obtain ⟨_, t, ht, rfl⟩ := hagrees.of_ok hp
    rw [ht]
  | error x s =>
    have hfault : x ≠ .endless := by
      rintro rfl
      exact hfinishes.of_error hp
    obtain ⟨y, t, ht⟩ := hagrees.of_error hp hfault
    simp [ht]

/-- A call of a member with a tuple and a sum, in one line and in four: the lines start with a
bracket, a comma and an operator. -/
theorem parseExpression_eq_ok_iff_of_continued_sum :
    let tokens := Token.row 0
      [.identifier "x", .symbol .dotAccess, .identifier "f", .symbol .openRound, .identifier "a",
        .symbol .comma, .identifier "b", .symbol .closeRound, .operator "+", .number "1"]
    let stop : Token := ⟨.endOfInput, ⟨10, 0, 10⟩, ⟨11, 0, 11⟩⟩
    let layout : List Token := [⟨.lineBreak, .origin⟩, ⟨.indentation "  ", .origin⟩]
    let broken := tokens.take 3 ++ layout ++ (tokens.drop 3).take 2 ++ layout ++
      (tokens.drop 5).take 3 ++ layout ++ tokens.drop 8 ++ [stop]
    Continued [] none (tokens ++ [stop]) broken ∧
      ∃ e, parseExpression (tokens ++ [stop]) .standard = .ok e ∧
        parseExpression broken .standard = .ok e := by
  intro tokens stop layout broken
  have hbroken : Continued [] none (tokens ++ [stop]) broken :=
    .token <| .token <| .token <| .line rfl rfl (.inr (.inr ⟨rfl, nofun, nofun⟩)) <| .token <|
      .line rfl rfl (.inr (.inl ⟨rfl, nofun⟩)) <| .token <| .token <| .line rfl rfl (.inl rfl) <|
      .token <| .token .nil
  have hok : (parseExpression (tokens ++ [stop]) .standard).isOk := by decide +kernel
  obtain ⟨e, he⟩ := Except.exists_ok_of_isOk hok
  refine ⟨hbroken, e, he, ?_⟩
  refine (parseExpression_eq_ok_iff_of_continued rfl (by decide) ?_ hbroken).mpr he
  exact Token.row_inOrder 0 (tokens.map (·.kind) ++ [TokenKind.endOfInput])

end Frontend
