import Frontend.Proofs.Grammar.Agreement
import Frontend.Proofs.Grammar.Language
import Frontend.Proofs.Token.Matching

/-!
# The same tokens before different stops

What a binary expression is read as does not depend on the token that stands behind it.
`Shares u v brackets s t` relates two streams that start with the same tokens, up to a place of each
at which binary expressions stop. As long as a bracket is open, the readers are not yet at these
places, and there no reader of a binary expression or of a part of one goes on. So the readers agree
on the two streams (`sharing`), and tokens that are read as a binary expression before one stop are
read as the same one before any other.
-/

namespace Frontend

namespace TokenStream

/-! ### Shared tokens -/

/-- Up to the places `u` and `v`, the streams `s` and `t` have the same tokens ahead. These close
the given brackets, and there is no layout among them. No binary expression goes on at the two
places. -/
structure Shares (u v : TokenStream) (brackets : List BracketKind) (s t : TokenStream) : Prop where
  stop : 3 < u.current.kind.level
  stop' : 3 < v.current.kind.level
  exists_own : ∃ own : List Token, s = before own u ∧ t = before own v ∧
    settle own brackets = some [] ∧ ∀ x ∈ own, x.kind ≠ .endOfInput ∧ x.kind ≠ .lineBreak

namespace Shares

variable {u v s t : TokenStream} {brackets : List BracketKind}

theorem symm (h : Shares u v brackets s t) : Shares v u brackets t s := by
  obtain ⟨own, hs, ht, hown⟩ := h.exists_own
  exact ⟨h.stop', h.stop, own, ht, hs, hown⟩

/-- With the same stop, the streams are the same. -/
theorem eq (h : Shares u u brackets s t) : s = t := by
  obtain ⟨own, rfl, rfl, -⟩ := h.exists_own
  rfl

/-- Both streams are at their stop if the first one is. -/
theorem eq_stop (h : Shares u v brackets u t) : t = v := by
  obtain ⟨own, hu, rfl, -⟩ := h.exists_own
  have hlength := congrArg (·.ahead.length) hu
  obtain rfl : own = [] := by simpa [before] using hlength
  rfl

/-- Both streams are at their stop, and no bracket is open, or they are at the same token. -/
theorem cases (h : Shares u v brackets s t) :
    (brackets = [] ∧ s = u ∧ t = v) ∨
      t.current = s.current ∧ s.current.kind ≠ .lineBreak ∧
        ∀ brackets', s.current.settle brackets = some brackets' →
          Shares u v brackets' s.advance t.advance := by
  obtain ⟨own, rfl, rfl, hsettle, hkinds⟩ := h.exists_own
  cases own with
  | nil => exact .inl ⟨Option.some.inj hsettle, rfl, rfl⟩
  | cons x own =>
    obtain ⟨hx, hkinds⟩ := List.forall_mem_cons.mp hkinds
    refine .inr ⟨rfl, hx.2, fun brackets' hx' => ⟨h.stop, h.stop', own, ?_, ?_, ?_, hkinds⟩⟩
    · exact advance_cons hx.1
    · exact advance_cons hx.1
    · exact (congrArg (·.bind (settle own)) hx').symm.trans hsettle

theorem skipContinuation (h : Shares u v brackets s t) (c : TokenKind → Bool) :
    s.skipContinuation c = s ∧ t.skipContinuation c = t := by
  rcases h.cases with ⟨-, rfl, rfl⟩ | ⟨heq, hbreak, -⟩
  · exact ⟨skipContinuation_of_ne c (ne_lineBreak_of_level h.stop),
      skipContinuation_of_ne c (ne_lineBreak_of_level h.stop')⟩
  · exact ⟨skipContinuation_of_ne c hbreak, skipContinuation_of_ne c (heq ▸ hbreak)⟩

/-- A test that fails at the stops has the same result in both streams, unless a bracket is open:
then any test has. If it holds, both streams step past the same token. -/
theorem test {c : TokenKind → Bool} (h : Shares u v brackets s t)
    (hc : brackets = [] → ∀ k : TokenKind, 3 < k.level → c k = false) :
    c t.current.kind = c s.current.kind ∧ (c s.current.kind → t.current = s.current ∧
      ∀ brackets', s.current.settle brackets = some brackets' →
        Shares u v brackets' s.advance t.advance) := by
  rcases h.cases with ⟨hnil, rfl, rfl⟩ | ⟨heq, -, hstep⟩
  · have hs := hc hnil _ h.stop
    exact ⟨(hc hnil _ h.stop').trans hs.symm, fun hk => by simp [hs] at hk⟩
  · exact ⟨congrArg (fun x => c x.kind) heq, fun _ => ⟨heq, hstep⟩⟩

end Shares

end TokenStream

open TokenStream (Shares)

namespace Parser

/-! ### Readers on shared tokens -/

/-- Both runs give the same value, and what is ahead is still shared. -/
def Alongside {α : Type} (u v : TokenStream) (brackets : List BracketKind) (a b : α)
    (s t : TokenStream) : Prop :=
  a = b ∧ Shares u v brackets s t

section Steps

variable {α : Type} {u v s t : TokenStream} {brackets brackets' : List BracketKind}
  {Q : α → α → TokenStream → TokenStream → Prop}

theorem agrees_shared_skip {f g : Unit → Parser α} {c : TokenKind → Bool}
    (h : Shares u v brackets s t) (hf : (f ()).Agrees (g ()) Q s t) :
    (skipContinuation c >>= f).Agrees (skipContinuation c >>= g) Q s t := by
  refine agrees_skipContinuation ?_
  rw [(h.skipContinuation c).1, (h.skipContinuation c).2]
  exact hf

/-- A symbol that is not at the stops, or that is looked for between brackets. -/
theorem agrees_shared_consume {f g : Bool → Parser α} {symbol : Symbol}
    (h : Shares u v brackets s t) (hstop : brackets = [] → (TokenKind.symbol symbol).level ≤ 3)
    (hsettle : ∀ x : Token, x.kind = .symbol symbol → x.settle brackets = some brackets')
    (htrue : t.current = s.current → Shares u v brackets' s.advance t.advance →
      (f true).Agrees (g true) Q s.advance t.advance)
    (hfalse : (f false).Agrees (g false) Q s t) :
    (consume symbol >>= f).Agrees (consume symbol >>= g) Q s t := by
  obtain ⟨htest, hstep⟩ := h.test fun hnil _ hk =>
    TokenKind.isSymbol_eq_false_of_level hk (hstop hnil)
  refine agrees_consume htest (fun hs => ?_) fun _ => hfalse
  obtain ⟨heq, hadvance⟩ := hstep (TokenKind.isSymbol_iff.mpr hs)
  exact htrue heq (hadvance _ (hsettle _ hs))

/-- A token that is not at the stops, or that is looked for between brackets. -/
theorem agrees_shared_take {f g : Token → Parser α} {c : TokenKind → Bool} {fault : SyntaxFault}
    (brackets' : List BracketKind) (h : Shares u v brackets s t)
    (hstop : brackets = [] → ∀ k : TokenKind, 3 < k.level → c k = false)
    (hsettle : ∀ x : Token, c x.kind → x.settle brackets = some brackets')
    (hf : Shares u v brackets' s.advance t.advance →
      (f s.current).Agrees (g s.current) Q s.advance t.advance) :
    (take c fault >>= f).Agrees (take c fault >>= g) Q s t := by
  obtain ⟨htest, hstep⟩ := h.test hstop
  refine agrees_take htest fun hs => ?_
  obtain ⟨heq, hadvance⟩ := hstep hs
  rw [heq]
  exact hf (hadvance _ (hsettle _ hs))

end Steps

/-- The readers agree on shared tokens, within a number of calls and within more calls on the other
side. A stop may be a comma, so the readers of what may go on with one are compared only where a
bracket is open. -/
structure Sharing (fixities : FixityTable) (d n : Nat) : Prop where
  expression : ∀ {u v b brackets s t}, Shares u v (b :: brackets) s t →
    (expressionWithin fixities n).Agrees (expressionWithin fixities (d + n))
      (Alongside u v (b :: brackets)) s t
  elements : ∀ {u v b brackets s t}, Shares u v (b :: brackets) s t →
    (elementsWithin fixities n).Agrees (elementsWithin fixities (d + n))
      (Alongside u v (b :: brackets)) s t
  binary : ∀ {u v brackets s t} band, Shares u v brackets s t →
    (binaryWithin fixities n band).Agrees (binaryWithin fixities (d + n) band)
      (Alongside u v brackets) s t
  operations : ∀ {u v brackets s t} band a? left, Shares u v brackets s t →
    (operationsWithin fixities n band a? left).Agrees
      (operationsWithin fixities (d + n) band a? left) (Alongside u v brackets) s t
  application : ∀ {u v brackets s t}, Shares u v brackets s t →
    (applicationWithin fixities n).Agrees (applicationWithin fixities (d + n))
      (Alongside u v brackets) s t
  arguments : ∀ {u v brackets s t} callee, Shares u v brackets s t →
    (argumentsWithin fixities n callee).Agrees (argumentsWithin fixities (d + n) callee)
      (Alongside u v brackets) s t
  factor : ∀ {u v brackets s t}, Shares u v brackets s t →
    (factorWithin fixities n).Agrees (factorWithin fixities (d + n)) (Alongside u v brackets) s t
  members : ∀ {u v brackets s t} value, Shares u v brackets s t →
    (membersWithin fixities n value).Agrees (membersWithin fixities (d + n) value)
      (Alongside u v brackets) s t
  primary : ∀ {u v brackets s t}, Shares u v brackets s t →
    (primaryWithin fixities n).Agrees (primaryWithin fixities (d + n)) (Alongside u v brackets) s t
  round : ∀ {u v brackets s t} opening, Shares u v (.round :: brackets) s t →
    (roundWithin fixities n opening).Agrees (roundWithin fixities (d + n) opening)
      (Alongside u v brackets) s t
  curly : ∀ {u v brackets s t} opening, Shares u v (.curly :: brackets) s t →
    (curlyWithin fixities n opening).Agrees (curlyWithin fixities (d + n) opening)
      (Alongside u v brackets) s t
  text : ∀ {u v brackets s t} first, Shares u v brackets s t →
    (textWithin fixities n first).Agrees (textWithin fixities (d + n) first)
      (Alongside u v brackets) s t
  segments : ∀ {u v brackets s t}, Shares u v brackets s t →
    (segmentsWithin fixities n).Agrees (segmentsWithin fixities (d + n))
      (Alongside u v brackets) s t

namespace Sharing

variable {fixities : FixityTable} {d n : Nat}

theorem zero (fixities : FixityTable) (d : Nat) : Sharing fixities d 0 where
  expression _ := trivial
  elements _ := trivial
  binary _ _ := trivial
  operations _ _ _ _ := trivial
  application _ := trivial
  arguments _ _ := trivial
  factor _ := trivial
  members _ _ := trivial
  primary _ := trivial
  round _ _ := trivial
  curly _ _ := trivial
  text _ _ := trivial
  segments _ := trivial

variable (h : Sharing fixities d n) {u v s t : TokenStream} {b : BracketKind}
  {brackets : List BracketKind}
include h

theorem expression_succ (hst : Shares u v (b :: brackets) s t) :
    (expressionWithin fixities (n + 1)).Agrees (expressionWithin fixities (d + n + 1))
      (Alongside u v (b :: brackets)) s t := by
  rw [expressionWithin, expressionWithin]
  refine (h.binary 0 hst).bind ?_
  rintro first? _ s t ⟨rfl, hst⟩
  cases first? with
  | none => exact agrees_pure ⟨rfl, hst⟩
  | some first =>
    refine agrees_shared_skip hst (agrees_current ?_)
    have htest := (hst.test (c := (·.isSymbol .comma)) (absurd · (List.cons_ne_nil _ _))).1
    refine agrees_ite (by rw [htest]) (fun _ => ?_) fun _ => agrees_pure ⟨rfl, hst⟩
    refine (h.elements hst).bind ?_
    rintro rest _ s t ⟨rfl, hst⟩
    exact agrees_merge fun w => agrees_pure ⟨rfl, hst⟩

theorem elements_succ (hst : Shares u v (b :: brackets) s t) :
    (elementsWithin fixities (n + 1)).Agrees (elementsWithin fixities (d + n + 1))
      (Alongside u v (b :: brackets)) s t := by
  rw [elementsWithin, elementsWithin]
  refine agrees_shared_consume hst (absurd · (List.cons_ne_nil _ _))
    (fun _ hx => Token.settle_of_kind hx rfl rfl) (fun _ hst => ?_) (agrees_pure ⟨rfl, hst⟩)
  rw [if_pos rfl, if_pos rfl]
  refine (h.binary 0 hst).bind ?_
  rintro element? _ s t ⟨rfl, hst⟩
  refine agrees_expect fun element _ => agrees_shared_skip hst ?_
  refine (h.elements hst).bind ?_
  rintro rest _ s t ⟨rfl, hst⟩
  exact agrees_pure ⟨rfl, hst⟩

theorem binary_succ (band : Nat) (hst : Shares u v brackets s t) :
    (binaryWithin fixities (n + 1) band).Agrees (binaryWithin fixities (d + n + 1) band)
      (Alongside u v brackets) s t := by
  rw [binaryWithin, binaryWithin]
  refine agrees_ite .rfl (fun _ => h.application hst) fun _ => ?_
  refine (h.binary (band + 1) hst).bind ?_
  rintro left? _ s t ⟨rfl, hst⟩
  cases left? with
  | none => exact agrees_pure ⟨rfl, hst⟩
  | some left =>
    refine (h.operations band none left hst).bind ?_
    rintro e _ s t ⟨rfl, hst⟩
    exact agrees_pure ⟨rfl, hst⟩

theorem operations_succ (band : Nat) (a? : Option Associativity) (left : Expression)
    (hst : Shares u v brackets s t) :
    (operationsWithin fixities (n + 1) band a? left).Agrees
      (operationsWithin fixities (d + n + 1) band a? left) (Alongside u v brackets) s t := by
  obtain ⟨htest, hstep⟩ := hst.test (c := (·.isOperator)) fun _ k hk =>
    TokenKind.isOperator_eq_false_of_level (Nat.ne_of_gt hk)
  rw [operationsWithin, operationsWithin]
  refine agrees_shared_skip hst (agrees_current ?_)
  split
  · next name hname =>
    obtain ⟨heq, hadvance⟩ := hstep (by simp [hname, TokenKind.isOperator])
    replace hadvance := hadvance brackets (Token.settle_of_kind hname rfl rfl)
    simp only [heq, hname]
    refine agrees_ite .rfl (fun _ => ?_) fun _ => agrees_pure ⟨rfl, hst⟩
    refine agrees_require rfl fun _ => agrees_advance ((h.binary _ hadvance).bind ?_)
    rintro right? _ s t ⟨rfl, hst⟩
    refine agrees_expect fun right _ => agrees_merge fun w => ?_
    exact h.operations band _ _ hst
  · next hs =>
    split
    · next name hname =>
      rw [hname] at htest
      obtain ⟨name', hname'⟩ := TokenKind.isOperator_iff.mp htest.symm
      exact absurd hname' (hs name')
    · exact agrees_pure ⟨rfl, hst⟩

theorem application_succ (hst : Shares u v brackets s t) :
    (applicationWithin fixities (n + 1)).Agrees (applicationWithin fixities (d + n + 1))
      (Alongside u v brackets) s t := by
  rw [applicationWithin, applicationWithin]
  refine (h.factor hst).bind ?_
  rintro callee? _ s t ⟨rfl, hst⟩
  cases callee? with
  | none => exact agrees_pure ⟨rfl, hst⟩
  | some callee =>
    refine (h.arguments callee hst).bind ?_
    rintro e _ s t ⟨rfl, hst⟩
    exact agrees_pure ⟨rfl, hst⟩

theorem arguments_succ (callee : Expression) (hst : Shares u v brackets s t) :
    (argumentsWithin fixities (n + 1) callee).Agrees
      (argumentsWithin fixities (d + n + 1) callee) (Alongside u v brackets) s t := by
  rw [argumentsWithin, argumentsWithin]
  refine agrees_ite .rfl (fun _ => ?_) fun _ => agrees_pure ⟨rfl, hst⟩
  refine (h.factor hst).bind ?_
  rintro argument? _ s t ⟨rfl, hst⟩
  cases argument? with
  | none => exact agrees_pure ⟨rfl, hst⟩
  | some argument => exact agrees_merge fun w => h.arguments _ hst

theorem factor_succ (hst : Shares u v brackets s t) :
    (factorWithin fixities (n + 1)).Agrees (factorWithin fixities (d + n + 1))
      (Alongside u v brackets) s t := by
  rw [factorWithin, factorWithin]
  refine agrees_shared_skip hst ((h.primary hst).bind ?_)
  rintro primary? _ s t ⟨rfl, hst⟩
  cases primary? with
  | none => exact agrees_pure ⟨rfl, hst⟩
  | some primary =>
    refine (h.members primary hst).bind ?_
    rintro e _ s t ⟨rfl, hst⟩
    exact agrees_pure ⟨rfl, hst⟩

theorem members_succ (value : Expression) (hst : Shares u v brackets s t) :
    (membersWithin fixities (n + 1) value).Agrees (membersWithin fixities (d + n + 1) value)
      (Alongside u v brackets) s t := by
  rw [membersWithin, membersWithin]
  refine agrees_current (agrees_shared_consume hst (fun _ => by decide)
    (fun _ hx => Token.settle_of_kind hx rfl rfl) (fun heq hst => ?_) (agrees_pure ⟨rfl, hst⟩))
  rw [if_pos rfl, if_pos rfl, heq]
  refine agrees_shared_take brackets hst (fun _ k hk => ?_) (fun x hx => ?_) fun hst => ?_
  · exact TokenKind.isIdentifier_eq_false_of_level (by omega)
  · obtain ⟨name, hname⟩ := TokenKind.isIdentifier_iff.mp hx
    exact Token.settle_of_kind hname rfl rfl
  · exact agrees_merge fun w => h.members _ hst

theorem primary_succ (hst : Shares u v brackets s t) :
    (primaryWithin fixities (n + 1)).Agrees (primaryWithin fixities (d + n + 1))
      (Alongside u v brackets) s t := by
  obtain ⟨htest, hstep⟩ := hst.test (c := (·.startsFactor)) fun _ k hk =>
    TokenKind.startsFactor_eq_false_of_level (by omega)
  cases hs : s.current.kind.startsFactor with
  | false =>
    rw [Agrees, primaryWithin_none hs, primaryWithin_none (htest.trans hs)]
    exact ⟨rfl, hst⟩
  | true =>
    obtain ⟨heq, hadvance⟩ := hstep hs
    rw [primaryWithin, primaryWithin]
    refine agrees_current ?_
    rw [heq]
    split
    · next hk =>
      have hst := hadvance _ (Token.settle_of_kind hk rfl rfl)
      exact agrees_advance (agrees_pure ⟨rfl, hst⟩)
    · next hk =>
      have hst := hadvance _ (Token.settle_of_kind hk rfl rfl)
      exact agrees_advance (agrees_pure ⟨rfl, hst⟩)
    · next hk =>
      have hst := hadvance _ (Token.settle_of_kind hk rfl rfl)
      exact agrees_advance (agrees_pure ⟨rfl, hst⟩)
    · next hk =>
      have hst := hadvance _ (Token.settle_of_kind hk rfl rfl)
      refine agrees_advance ((h.text _ hst).bind ?_)
      rintro e _ s t ⟨rfl, hst⟩
      exact agrees_pure ⟨rfl, hst⟩
    · next hk =>
      have hst := hadvance _ (Token.settle_of_opening hk rfl)
      refine agrees_advance ((h.round _ hst).bind ?_)
      rintro e _ s t ⟨rfl, hst⟩
      exact agrees_pure ⟨rfl, hst⟩
    · next hk =>
      have hst := hadvance _ (Token.settle_of_opening hk rfl)
      refine agrees_advance ((h.curly _ hst).bind ?_)
      rintro e _ s t ⟨rfl, hst⟩
      exact agrees_pure ⟨rfl, hst⟩
    · exact agrees_pure ⟨rfl, hst⟩

theorem round_succ (opening : Span) (hst : Shares u v (.round :: brackets) s t) :
    (roundWithin fixities (n + 1) opening).Agrees (roundWithin fixities (d + n + 1) opening)
      (Alongside u v brackets) s t := by
  rw [roundWithin, roundWithin]
  refine agrees_current (agrees_shared_consume hst (absurd · (List.cons_ne_nil _ _))
    (fun _ hx => Token.settle_of_closing hx rfl) (fun heq hst => ?_) ?_)
  · rw [if_pos rfl, if_pos rfl, heq]
    exact agrees_merge fun w => agrees_pure ⟨rfl, hst⟩
  · rw [if_neg Bool.false_ne_true, if_neg Bool.false_ne_true]
    refine (h.expression hst).bind ?_
    rintro inner? _ s t ⟨rfl, hst⟩
    refine agrees_expect fun inner _ => ?_
    refine agrees_shared_take brackets hst (absurd · (List.cons_ne_nil _ _)) (fun x hx => ?_)
      fun hst => ?_
    · exact Token.settle_of_closing (TokenKind.isSymbol_iff.mp hx) rfl
    · exact agrees_merge fun w => agrees_pure ⟨rfl, hst⟩

theorem curly_succ (opening : Span) (hst : Shares u v (.curly :: brackets) s t) :
    (curlyWithin fixities (n + 1) opening).Agrees (curlyWithin fixities (d + n + 1) opening)
      (Alongside u v brackets) s t := by
  rw [curlyWithin, curlyWithin]
  have hclose (x : Token) (hx : x.kind.isSymbol .closeCurly) :
      x.settle (.curly :: brackets) = some brackets :=
    Token.settle_of_closing (TokenKind.isSymbol_iff.mp hx) rfl
  refine (h.binary 0 hst).bind ?_
  rintro first? _ s t ⟨rfl, hst⟩
  cases first? with
  | none =>
    refine agrees_shared_take brackets hst (absurd · (List.cons_ne_nil _ _)) hclose fun hst => ?_
    exact agrees_merge fun w => agrees_pure ⟨rfl, hst⟩
  | some first =>
    refine (h.elements hst).bind ?_
    rintro rest _ s t ⟨rfl, hst⟩
    refine agrees_shared_take brackets hst (absurd · (List.cons_ne_nil _ _)) hclose fun hst => ?_
    exact agrees_merge fun w => agrees_pure ⟨rfl, hst⟩

theorem text_succ (first : Expression) (hst : Shares u v brackets s t) :
    (textWithin fixities (n + 1) first).Agrees (textWithin fixities (d + n + 1) first)
      (Alongside u v brackets) s t := by
  rw [textWithin, textWithin]
  have htest := (hst.test (c := (·.isSymbol .interpolationOpen)) fun _ _ hk =>
    TokenKind.isSymbol_eq_false_of_level hk (by decide)).1
  refine agrees_current (agrees_ite (by rw [htest]) (fun _ => ?_) fun _ => ?_)
  · refine (h.segments hst).bind ?_
    rintro rest _ s t ⟨rfl, hst⟩
    exact agrees_merge fun w => agrees_pure ⟨rfl, hst⟩
  · exact agrees_pure ⟨rfl, hst⟩

theorem segments_succ (hst : Shares u v brackets s t) :
    (segmentsWithin fixities (n + 1)).Agrees (segmentsWithin fixities (d + n + 1))
      (Alongside u v brackets) s t := by
  rw [segmentsWithin, segmentsWithin]
  refine agrees_shared_consume hst (fun _ => by decide)
    (fun _ hx => Token.settle_of_opening hx rfl) (fun _ hst => ?_) (agrees_pure ⟨rfl, hst⟩)
  rw [if_pos rfl, if_pos rfl]
  refine (h.expression hst).bind ?_
  rintro value? _ s t ⟨rfl, hst⟩
  refine agrees_expect fun value _ => ?_
  refine agrees_shared_take brackets hst (absurd · (List.cons_ne_nil _ _)) (fun x hx => ?_)
    fun hst => ?_
  · exact Token.settle_of_closing (TokenKind.isSymbol_iff.mp hx) rfl
  refine agrees_shared_take brackets hst (fun _ k hk => ?_) (fun x hx => ?_) fun hst => ?_
  · exact TokenKind.isText_eq_false_of_level (by omega)
  · obtain ⟨content, hcontent⟩ := TokenKind.isText_iff.mp hx
    exact Token.settle_of_kind hcontent rfl rfl
  · refine (h.segments hst).bind ?_
    rintro rest _ s t ⟨rfl, hst⟩
    exact agrees_pure ⟨rfl, hst⟩

end Sharing

/-- The readers of expressions agree on shared tokens. -/
theorem sharing (fixities : FixityTable) (d : Nat) : ∀ n, Sharing fixities d n
  | 0     => .zero fixities d
  | n + 1 =>
    have h := sharing fixities d n
    { expression := h.expression_succ
      elements := h.elements_succ
      binary := h.binary_succ
      operations := h.operations_succ
      application := h.application_succ
      arguments := h.arguments_succ
      factor := h.factor_succ
      members := h.members_succ
      primary := h.primary_succ
      round := h.round_succ
      curly := h.curly_succ
      text := h.text_succ
      segments := h.segments_succ }

/-! ### Other stops -/

/-- What is given here is accepted there, if the runs there agree with those here, and the runs here
with one another. -/
theorem Accepts.of_agrees {α : Type} {p : Nat → Parser α}
    {R : α → α → TokenStream → TokenStream → Prop} {m : Nat} {a : α} {s s' t : TokenStream}
    (hp : p m s = .ok a s')
    (hhere : ∀ d, (p m).Agrees (p (d + m)) (fun b c u v => b = c ∧ u = v) s s)
    (hthere : ∀ d n, (p n).Agrees (p (d + n)) R t s) :
    Accepts p t fun b t' => R b a t' s' := by
  intro n
  obtain ⟨_, _, hok, rfl, rfl⟩ := (hhere n).of_ok hp
  have hagrees := hthere m n
  rw [Nat.add_comm m n, Agrees, hok] at hagrees
  rw [Ensures]
  cases hq : p n t with
  | ok b t' => simpa only [hq] using hagrees
  | error e t' => cases e <;> simp_all [ParseFailure.IsFault]

/-- Tokens that are read as a binary expression before one stop are read as the same before any. -/
theorem accepts_binary_of_shares {fixities : FixityTable} {n : Nat} {s t u v : TokenStream}
    {e : Expression} (hok : binaryWithin fixities n 0 s = .ok (some e) u)
    (hst : Shares u v [] s t) :
    Accepts (binaryWithin fixities · 0) t (Gives fun e' w => e' = e ∧ w = v) := by
  have hself : Shares u u [] s s := by
    obtain ⟨own, rfl, -, hown⟩ := hst.exists_own
    exact ⟨hst.stop, hst.stop, own, rfl, rfl, hown⟩
  have haccepts := Accepts.of_agrees (p := (binaryWithin fixities · 0)) hok
    (fun d => ((sharing fixities d n).binary 0 hself).mono fun _ _ _ _ h => ⟨h.1, h.2.eq⟩)
    (fun d m => (sharing fixities d m).binary 0 hst.symm)
  refine haccepts.mono ?_
  rintro _ w ⟨rfl, hw⟩
  exact ⟨e, rfl, rfl, hw.symm.eq_stop⟩

end Parser

end Frontend
