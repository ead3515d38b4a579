import Frontend.Grammar.Expression
import Frontend.Proofs.Grammar.Reading
import Frontend.Proofs.Tree.Spelling

/-!
# Stretches of a stream

`IsRead s e t` says that the expression `e` was read from a stretch of tokens that covers it and
that ends at `t`, from the place where an expression starts behind `s`. Stretches are put together
as expressions are: `AreRead` holds of the parts of a sequence, and `IsOperand` of the operand of
an operator.
-/

namespace Frontend

namespace TokenStream

variable {s t u v : TokenStream} {read mid own content content' content'' : List Token}
  {span span' : Span}

/-! ### Continuations -/

theorem IsContinuation.spells {layout : List Token} (h : IsContinuation layout) :
    Spells layout [] := by
  obtain ⟨b, i, rfl, hb, hi⟩ := h
  obtain ⟨blanks, hi⟩ := TokenKind.isIndentation_iff.mp hi
  refine .punctuation fun w hw => ?_
  simp only [List.mem_cons, List.not_mem_nil, or_false] at hw
  rcases hw with rfl | rfl
  · simp [hb, TokenKind.isPunctuation]
  · simp [hi, TokenKind.isPunctuation]

/-- What is skipped as a continuation is punctuation. -/
theorem Ends.exists_reads_skipContinuation (h : s.Ends) (p : TokenKind → Bool) :
    ∃ layout, s.Reads layout (s.skipContinuation p) ∧ Spells layout [] := by
  rcases h.skipContinuation_cases p with he | ⟨layout, hl, hr, _⟩
  · exact ⟨[], he.symm ▸ .refl s, .nil⟩
  · exact ⟨layout, hr, hl.spells⟩

/-- A continuation is skipped only before a token that satisfies the predicate. -/
theorem Ends.skipContinuation_eq_self (h : s.Ends) {p : TokenKind → Bool}
    (hp : p (s.skipContinuation p).current.kind = false) : s.skipContinuation p = s := by
  rcases h.skipContinuation_cases p with he | ⟨_, _, _, hk, _⟩
  · exact he
  · rw [hp] at hk
    cases hk

/-- Once a continuation has been skipped, there is none to skip. -/
theorem Ends.skipContinuation_idem (h : s.Ends) (p : TokenKind → Bool) :
    (s.skipContinuation p).skipContinuation p = s.skipContinuation p := by
  rcases h.skipContinuation_cases p with he | ⟨_, _, _, _, hb⟩
  · rw [he, he]
  · refine skipContinuation_of_ne p fun hk => ?_
    rw [hk] at hb
    cases hb

/-! ### Content -/

/-- From the place where an expression starts, if need be on a line that continues the current one,
a stretch of tokens with the given content and span leads to the second place. -/
def ReadsAs (s : TokenStream) (content : List Token) (span : Span) (t : TokenStream) : Prop :=
  ∃ own, (s.skipContinuation (·.startsFactor)).Reads own t ∧ Covers own content span

theorem ReadsAs.exists_spells (h : s.ReadsAs content span t) (hs : s.Ends) :
    ∃ read, s.Reads read t ∧ Spells read content := by
  obtain ⟨own, hr, hc⟩ := h
  obtain ⟨layout, hl, hlayout⟩ := hs.exists_reads_skipContinuation (·.startsFactor)
  exact ⟨_, hl.trans hr, by simpa using hlayout.append hc.toSpells⟩

theorem ReadsAs.reads (h : s.ReadsAs content span t) (hs : s.Ends) : ∃ read, s.Reads read t := by
  obtain ⟨read, hr, _⟩ := h.exists_spells hs
  exact ⟨read, hr⟩

theorem ReadsAs.ends (h : s.ReadsAs content span t) (hs : s.Ends) : t.Ends := by
  obtain ⟨read, hr⟩ := h.reads hs
  exact hr.ends hs

theorem ReadsAs.append (h : s.ReadsAs content span t) (hs : s.Ends) (hr : t.Reads mid u)
    (hm : Spells mid content') (h' : u.ReadsAs content'' span' v) :
    s.ReadsAs (content ++ (content' ++ content'')) ⟨span.start, span'.stop⟩ v := by
  have hu := hr.ends (h.ends hs)
  obtain ⟨layout, hl, hlayout⟩ := hu.exists_reads_skipContinuation (·.startsFactor)
  obtain ⟨own, hown, hc⟩ := h
  obtain ⟨own', hown', hc'⟩ := h'
  have hm' : Spells (mid ++ layout) content' := by simpa using hm.append hlayout
  exact ⟨_, hown.trans ((hr.trans hl).trans hown'), hc.append hm' hc'⟩

/-- A stretch that starts with the current token, which is no layout. -/
theorem Reads.readsAs {o : Token} (h : s.Reads (o :: own) t) (hs : s.Ends)
    (ho : o.kind ≠ .lineBreak) (hc : Covers (o :: own) content span) :
    s.ReadsAs content span t := by
  obtain ⟨rest, hrest⟩ := hs.ahead_eq
  obtain ⟨rfl, -⟩ := List.cons.inj (hrest.symm.trans h.ahead)
  exact ⟨_, by rwa [skipContinuation_of_ne _ ho], hc⟩

/-- What stands between brackets, under the span of the brackets. -/
theorem Reads.enclosed {o c : Token} (hs : s.Ends) (ho : s.Reads [o] t)
    (hok : o.kind.isBracket) (hr : t.Reads mid u) (hm : Spells mid content)
    (hc : u.Reads [c] v) (hck : c.kind.isBracket) :
    s.ReadsAs content ⟨o.span.start, c.span.stop⟩ v := by
  have h := (Covers.bracket hok).append hm (.bracket hck)
  refine (ho.trans (hr.trans hc)).readsAs hs ?_ (by simpa using h)
  intro hk
  simp [hk, TokenKind.isBracket] at hok

/-! ### Operators ahead -/

/-- An operator that comes next, if need be on a line that continues the current one, binds looser
than the operators of the band. -/
def Below (fixities : FixityTable) (band : Nat) (s : TokenStream) : Prop :=
  ∀ name, (s.skipContinuation (·.isOperator)).current.kind = .operator name →
    (fixities.get name).precedence.val < band

theorem Below.mono {fixities : FixityTable} {band band' : Nat} (h : s.Below fixities band)
    (hb : band ≤ band') : s.Below fixities band' :=
  fun name hn => Nat.lt_of_lt_of_le (h name hn) hb

end TokenStream

theorem Fixity.rightBand_le (f : Fixity) : f.rightBand ≤ f.precedence.val + 1 := by
  rw [rightBand]
  split <;> omega

namespace Parser

open TokenStream (ReadsAs)

/-! ### Expressions -/

/-- The expression is what was read between two places of a stream. -/
def IsRead (s : TokenStream) (e : Expression) (t : TokenStream) : Prop :=
  s.ReadsAs e.tokens e.span t

/-- The expressions are what was read between two places of a stream. -/
def AreRead (s : TokenStream) (first : Expression) (rest : List Expression) (t : TokenStream) :
    Prop :=
  s.ReadsAs (Expression.tokensOfAll (first :: rest)) (Expression.extent first rest) t

/-- The operand of a band is what was read. The continuation before a looser operator may have
been skipped already. -/
def IsOperand (fixities : FixityTable) (band : Nat) (s : TokenStream) (e : Expression)
    (t : TokenStream) : Prop :=
  ∃ m, IsRead s e m ∧ (t = m ∨ t = m.skipContinuation (·.isOperator)) ∧ t.Below fixities band

variable {fixities : FixityTable} {band : Nat} {s t u v w : TokenStream} {mid : List Token}
  {o : Token} {e first second left right : Expression} {rest : List Expression}

/-- A token that is an expression by itself. -/
theorem IsRead.factor (hs : s.Ends) (h : s.Reads [o] t) (hk : o.kind.isContent) :
    IsRead s (.factor o o.span) t := by
  refine h.readsAs hs ?_ (.content_token hk)
  intro ho
  simp [ho, TokenKind.isContent] at hk

theorem IsRead.application {argument : Expression} (h : IsRead s e t) (hs : s.Ends)
    (h' : IsRead t argument u) :
    IsRead s (.application e argument ⟨e.span.start, argument.span.stop⟩) u :=
  ReadsAs.append h hs (.refl t) .nil h'

theorem IsRead.operation (h : IsRead s left t) (hs : s.Ends) (hl : t.Reads mid u)
    (hm : Spells mid []) (ho : u.Reads [o] v) (hk : o.kind.isContent) (h' : IsRead v right w) :
    IsRead s (.operation o left right ⟨left.span.start, right.span.stop⟩) w :=
  ReadsAs.append h hs (hl.trans ho) (hm.append (.singleton hk)) h'

/-- An access to a member, with the dot and the name of the member. -/
theorem IsRead.member {m : Token} (h : IsRead s e t) (hs : s.Ends) (ho : t.Reads [o] u)
    (hdot : o.kind = .symbol .dotAccess) (hm : u.Reads [m] v) (hk : m.kind.isContent) :
    IsRead s (.operation o e (.factor m m.span) ⟨e.span.start, m.span.stop⟩) v := by
  have hu := ho.ends (h.ends hs)
  have hok : o.kind.isContent := by simp [hdot, TokenKind.isContent]
  exact h.operation hs (.refl t) .nil ho hok (.factor hu hm hk)

theorem IsRead.singleton (h : IsRead s first t) : AreRead s first [] t := by
  obtain ⟨own, hr, hc⟩ := h
  refine ⟨own, hr, ?_⟩
  simpa [Expression.tokensOfAll, Expression.extent] using hc

theorem AreRead.cons (h : IsRead s first t) (hs : s.Ends) (hr : t.Reads mid u)
    (hm : Spells mid []) (h' : AreRead u second rest v) :
    AreRead s first (second :: rest) v := by
  have happend := ReadsAs.append h hs hr hm h'
  rw [AreRead]
  rw [Expression.extent_cons]
  exact happend

/-- Behind an operand there is nothing but layout before the operator that comes next. -/
theorem IsOperand.exists_layout (h : IsOperand fixities band s e t) (hs : s.Ends) :
    ∃ m layout, IsRead s e m ∧ m.Reads layout (t.skipContinuation (·.isOperator)) ∧
      Spells layout [] := by
  obtain ⟨m, hm, ht, _⟩ := h
  obtain ⟨layout, hl, hlayout⟩ := (hm.ends hs).exists_reads_skipContinuation (·.isOperator)
  refine ⟨m, layout, hm, ?_, hlayout⟩
  rcases ht with rfl | rfl
  · exact hl
  · rwa [(hm.ends hs).skipContinuation_idem]

theorem IsOperand.reads (h : IsOperand fixities band s e t) (hs : s.Ends) :
    ∃ read, s.Reads read t := by
  obtain ⟨m, hm, ht, _⟩ := h
  obtain ⟨read, hr⟩ := hm.reads hs
  rcases ht with rfl | rfl
  · exact ⟨read, hr⟩
  · obtain ⟨layout, hl, _⟩ := (hr.ends hs).exists_reads_skipContinuation (·.isOperator)
    exact ⟨_, hr.trans hl⟩

/-- An operation of a band is an operand of the band, to which more operators may apply. -/
theorem IsOperand.operation {name : String} (h : IsOperand fixities (band + 1) s left t)
    (hs : s.Ends) (hu : t.skipContinuation (·.isOperator) = u)
    (hname : u.current.kind = .operator name)
    (hband : (fixities.get name).precedence.val = band)
    (hright : IsOperand fixities (fixities.get name).rightBand u.advance right v) :
    IsOperand fixities (band + 1) s
      (.operation u.current left right ⟨left.span.start, right.span.stop⟩) v := by
  subst hu
  obtain ⟨m, layout, hm, hl, hlayout⟩ := h.exists_layout hs
  obtain ⟨m', hm', hv, hb⟩ := hright
  have ho := (hl.ends (hm.ends hs)).reads_advance (by simp [hname])
  have hk : (t.skipContinuation (·.isOperator)).current.kind.isContent := by
    simp [hname, TokenKind.isContent]
  exact ⟨m', hm.operation hs hl hlayout ho hk hm', hv, hb.mono (hband ▸ Fixity.rightBand_le _)⟩

/-- Where no operator of a band comes next, an operand of the tighter operators is one of the
band. -/
theorem IsOperand.loosen (h : IsOperand fixities (band + 1) s e t) (hs : s.Ends)
    (hk : ∀ name, (t.skipContinuation (·.isOperator)).current.kind = .operator name →
      (fixities.get name).precedence.val ≠ band) :
    IsOperand fixities band s e (t.skipContinuation (·.isOperator)) := by
  obtain ⟨m, hm, ht, hb⟩ := h
  have hidem := (hm.ends hs).skipContinuation_idem (·.isOperator)
  have hskip : t.skipContinuation (·.isOperator) = m.skipContinuation (·.isOperator) := by
    rcases ht with rfl | rfl
    · rfl
    · exact hidem
  refine ⟨m, hm, .inr hskip, ?_⟩
  intro name hname
  rw [hskip, hidem] at hname
  have hne := hk name (hskip ▸ hname)
  have hlt := hb name (by rwa [hskip])
  omega

/-- With no operator of the loosest band ahead, nothing has been skipped behind the operand. -/
theorem IsOperand.isRead (hs : s.Ends) (h : IsOperand fixities 0 s e t) : IsRead s e t := by
  obtain ⟨m, hm, rfl | rfl, hb⟩ := h
  · exact hm
  · have hme := hm.ends hs
    cases hk : (m.skipContinuation (·.isOperator)).current.kind.isOperator with
    | false => rwa [hme.skipContinuation_eq_self hk]
    | true =>
      obtain ⟨name, hname⟩ := TokenKind.isOperator_iff.mp hk
      rw [← hme.skipContinuation_idem] at hname
      exact absurd (hb name hname) (Nat.not_lt_zero _)

end Parser

end Frontend
