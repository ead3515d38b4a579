import Frontend.Proofs.Grammar.Construction
import Frontend.Proofs.Grammar.Reading
import Frontend.Proofs.Tree.Occupation

/-!
# What is read of an expression

As long as the end of input is ahead, an expression that is built occupies a stretch of the tokens
that are read for it, and all others of them are layout before and behind the stretch.
-/

namespace Frontend

namespace TokenStream

variable {s t : TokenStream} {read : List Token}

/-- What is skipped as a continuation is layout. -/
theorem Ends.exists_layout (h : s.Ends) (p : TokenKind → Bool) :
    ∃ layout, s.Reads layout (s.skipContinuation p) ∧ Layout layout := by
  rcases h.skipContinuation_cases p with heq | ⟨_, ⟨b, i, rfl, hb, hi⟩, hr, -⟩
  · exact ⟨[], heq.symm ▸ .refl s, .nil⟩
  · refine ⟨_, hr, fun t ht => ?_⟩
    rcases List.mem_cons.mp ht with rfl | ht
    · exact .inl hb
    · exact .inr (List.mem_singleton.mp ht ▸ hi)

theorem Ends.reads_leaf (h : s.Ends) (hk : s.current.kind.isLeaf) :
    s.Reads [s.current] s.advance :=
  h.reads_advance fun hend => by simp [hend, TokenKind.isLeaf] at hk

theorem Ends.reads_text (h : s.Ends) (hk : s.current.kind.isText) :
    s.Reads [s.current] s.advance :=
  h.reads_leaf (TokenKind.isLeaf_of_isText hk)

theorem Ends.reads_operator (h : s.Ends)
    (hk : s.current.kind.isOperator ∨ s.current.kind = .symbol .dotAccess) :
    s.Reads [s.current] s.advance :=
  h.reads_advance fun hend => by simp [hend, TokenKind.isOperator] at hk

end TokenStream

namespace Parser

open TokenStream (Ends)

/-- Between two places there is an expression on a stretch of tokens, with layout around it. -/
def Lies (s : TokenStream) (e : Expression) (t : TokenStream) : Prop :=
  ∃ before own after, s.Reads (before ++ (own ++ after)) t ∧ Layout before ∧ e.Occupies own ∧
    Layout after

theorem Lies.ends {s t : TokenStream} {e : Expression} (h : Lies s e t) (hs : s.Ends) : t.Ends := by
  obtain ⟨_, _, _, hr, -⟩ := h
  exact hr.ends hs

/-- Between two places there are the elements that follow a first one, each behind a comma. The
first one and the layout behind it are not known here, so they are any. -/
def Continue (s : TokenStream) (es : List Expression) (t : TokenStream) : Prop :=
  ∃ parts read, es = parts.map Prod.fst ∧ (∀ p ∈ parts, p.1.Occupies p.2) ∧ s.Reads read t ∧
    ∀ p before, Layout before →
      ∃ own after, p.2 ++ (before ++ read) = own ++ after ∧ Joined (p :: parts) own ∧ Layout after

/-- Between two places there are the segments of an interpolation behind the first one. -/
def Interleave (s : TokenStream) (es : List Expression) (t : TokenStream) : Prop :=
  ∃ parts own, es = parts.map Prod.fst ∧ (∀ p ∈ parts, p.1.Occupies p.2) ∧ s.Reads own t ∧
    Interleaved parts own

section Steps

variable {s t u : TokenStream} {e first callee argument left right value : Expression}
  {rest es : List Expression}

theorem Lies.application (hcallee : Lies s callee t) (hargument : Lies t argument u) :
    Lies s (.application callee argument ⟨callee.span.start, argument.span.stop⟩) u := by
  obtain ⟨before, own, after, hr, hbefore, he, hafter⟩ := hcallee
  obtain ⟨before', own', after', hr', hbefore', he', hafter'⟩ := hargument
  exact ⟨before, _, after', by simpa using hr.trans hr', hbefore,
    .application he (hafter.append hbefore') he', hafter'⟩

theorem Lies.tuple (hfirst : Lies s first t) (hrest : Continue t rest u) :
    Lies s (.tuple (first :: rest) (Expression.extent first rest)) u := by
  obtain ⟨before, own, after, hr, hbefore, he, hafter⟩ := hfirst
  obtain ⟨parts, read, rfl, hparts, hr', hjoined⟩ := hrest
  obtain ⟨own', after', heq, hown, hafter'⟩ := hjoined (first, own) after hafter
  have htuple := Expression.Occupies.tuple (List.forall_mem_cons.mpr ⟨he, hparts⟩) hown
  refine ⟨before, own', after', ?_, hbefore, htuple, hafter'⟩
  rw [← heq]
  simpa using hr.trans hr'

variable (hs : s.Ends)
include hs

theorem Lies.before (h : Lies (s.skipContinuation (·.startsFactor)) e t) : Lies s e t := by
  obtain ⟨layout, hl, hlayout⟩ := hs.exists_layout (·.startsFactor)
  obtain ⟨before, own, after, hr, hbefore, he, hafter⟩ := h
  exact ⟨layout ++ before, own, after, by simpa using hl.trans hr, hlayout.append hbefore, he,
    hafter⟩

theorem Lies.after (h : Lies s e t) (p : TokenKind → Bool) : Lies s e (t.skipContinuation p) := by
  obtain ⟨layout, hl, hlayout⟩ := (h.ends hs).exists_layout p
  obtain ⟨before, own, after, hr, hbefore, he, hafter⟩ := h
  exact ⟨before, own, after ++ layout, by simpa using hr.trans hl, hbefore, he,
    hafter.append hlayout⟩

theorem Lies.leaf (hk : s.current.kind.isLeaf) :
    Lies s (.factor s.current s.current.span) s.advance := by
  exact ⟨[], _, [], hs.reads_leaf hk, .nil, .leaf hk, .nil⟩

theorem Lies.operation (hleft : Lies s left t)
    (ho : t.current.kind.isOperator ∨ t.current.kind = .symbol .dotAccess)
    (hright : Lies t.advance right u) :
    Lies s (.operation t.current left right ⟨left.span.start, right.span.stop⟩) u := by
  have hx := (hleft.ends hs).reads_operator ho
  obtain ⟨before, own, after, hr, hbefore, he, hafter⟩ := hleft
  obtain ⟨before', own', after', hr', hbefore', he', hafter'⟩ := hright
  exact ⟨before, _, after', by simpa using (hr.trans hx).trans hr', hbefore,
    .operation he hafter ho hbefore' he', hafter'⟩

theorem Lies.interpolation (hfirst : s.current.kind.isText) (hrest : Interleave s.advance rest t) :
    Lies s (.interpolation (.factor s.current s.current.span :: rest)
      (Expression.extent (.factor s.current s.current.span) rest)) t := by
  have hx := hs.reads_text hfirst
  obtain ⟨parts, own, rfl, hparts, hr, hown⟩ := hrest
  exact ⟨[], _, [], by simpa using hx.trans hr, .nil, .interpolation hfirst hparts hown, .nil⟩

theorem Lies.unit (hopen : s.current.kind = .symbol .openRound)
    (hclose : s.advance.current.kind = .symbol .closeRound) :
    Lies s (.tuple [] ⟨s.current.span.start, s.advance.current.span.stop⟩) s.advance.advance := by
  have ho := hs.reads_advance (by simp [hopen])
  have hc := (ho.ends hs).reads_advance (by simp [hclose])
  exact ⟨[], _, [], ho.trans hc, .nil, .unit hopen hclose, .nil⟩

theorem Lies.round (hopen : s.current.kind = .symbol .openRound) (hinner : Lies s.advance e t)
    (hclose : t.current.kind = .symbol .closeRound) :
    Lies s (e.withSpan ⟨s.current.span.start, t.current.span.stop⟩) t.advance := by
  have ho := hs.reads_advance (by simp [hopen])
  have hc := (hinner.ends (ho.ends hs)).reads_advance (by simp [hclose])
  obtain ⟨before, own, after, hr, hbefore, he, hafter⟩ := hinner
  exact ⟨[], _, [], by simpa using ho.trans (hr.trans hc), .nil,
    .round hopen hbefore he hafter hclose, .nil⟩

theorem Lies.emptyList (hopen : s.current.kind = .symbol .openCurly)
    (ht : t = s.advance ∨ t = s.advance.skipContinuation (·.startsFactor))
    (hclose : t.current.kind = .symbol .closeCurly) :
    Lies s (.list [] ⟨s.current.span.start, t.current.span.stop⟩) t.advance := by
  have ho := hs.reads_advance (by simp [hopen])
  obtain ⟨between, hr, hbetween⟩ : ∃ layout, s.advance.Reads layout t ∧ Layout layout := by
    rcases ht with rfl | rfl
    · exact ⟨[], .refl _, .nil⟩
    · exact (ho.ends hs).exists_layout _
  have hc := (hr.ends (ho.ends hs)).reads_advance (by simp [hclose])
  exact ⟨[], _, [], by simpa using ho.trans (hr.trans hc), .nil,
    .emptyList hopen hbetween hclose, .nil⟩

theorem Lies.list (hopen : s.current.kind = .symbol .openCurly) (hfirst : Lies s.advance first t)
    (hrest : Continue t rest u) (hclose : u.current.kind = .symbol .closeCurly) :
    Lies s (.list (first :: rest) ⟨s.current.span.start, u.current.span.stop⟩) u.advance := by
  have ho := hs.reads_advance (by simp [hopen])
  have ht := hfirst.ends (ho.ends hs)
  obtain ⟨before, own, after, hr, hbefore, he, hafter⟩ := hfirst
  obtain ⟨parts, read, rfl, hparts, hr', hjoined⟩ := hrest
  obtain ⟨own', after', heq, hown, hafter'⟩ := hjoined (first, own) after hafter
  have hc := (hr'.ends ht).reads_advance (by simp [hclose])
  have hlist := Expression.Occupies.list hopen hbefore (List.forall_mem_cons.mpr ⟨he, hparts⟩) hown
    hafter' hclose
  refine ⟨[], _, [], ?_, .nil, hlist, .nil⟩
  rw [← heq]
  simpa using ho.trans ((hr.trans hr').trans hc)

theorem Continue.cons (hcomma : s.current.kind = .symbol .comma) (hfirst : Lies s.advance e t)
    (hrest : Continue t es u) : Continue s (e :: es) u := by
  have hx := hs.reads_advance (by simp [hcomma])
  obtain ⟨before', own', after', hr, hbefore', he, hafter'⟩ := hfirst
  obtain ⟨parts, read, rfl, hparts, hr', hjoined⟩ := hrest
  obtain ⟨own, after, heq, hown, hafter⟩ := hjoined (e, own') after' hafter'
  refine ⟨(e, own') :: parts, _, rfl, List.forall_mem_cons.mpr ⟨he, hparts⟩,
    hx.trans (hr.trans hr'), fun p before hbefore => ?_⟩
  refine ⟨_, after, ?_, .cons hbefore hcomma hbefore' hown, hafter⟩
  simp only [List.append_assoc, List.cons_append, List.nil_append, ← heq]

theorem Interleave.cons (hopen : s.current.kind = .symbol .interpolationOpen)
    (hvalue : Lies s.advance value t) (hclose : t.current.kind = .symbol .interpolationClose)
    (htext : t.advance.current.kind.isText) (hrest : Interleave t.advance.advance es u) :
    Interleave s (value :: .factor t.advance.current t.advance.current.span :: es) u := by
  have ho := hs.reads_advance (by simp [hopen])
  have ht := hvalue.ends (ho.ends hs)
  have hc := ht.reads_advance (by simp [hclose])
  have hx := (hc.ends ht).reads_text htext
  obtain ⟨before, own, after, hr, hbefore, he, hafter⟩ := hvalue
  obtain ⟨parts, own', rfl, hparts, hr', hown⟩ := hrest
  have hleaf := Expression.Occupies.leaf (TokenKind.isLeaf_of_isText htext)
  refine ⟨(value, own) :: (.factor _ _, [t.advance.current]) :: parts, _, rfl,
    List.forall_mem_cons.mpr ⟨he, List.forall_mem_cons.mpr ⟨hleaf, hparts⟩⟩, ?_,
    .cons hopen hbefore hafter hclose htext hown⟩
  simpa using ho.trans (hr.trans (hc.trans (hx.trans hr')))

end Steps

mutual

/-- An expression that is built lies between the two places. -/
theorem Built.lies {s t : TokenStream} {e : Expression} : Built s e t → s.Ends → Lies s e t
  | .before h, hs => by
    obtain ⟨layout, hl, -⟩ := hs.exists_layout (·.startsFactor)
    exact .before hs (h.lies (hl.ends hs))
  | .after p h, hs => (h.lies hs).after hs p
  | .leaf hk, hs => .leaf hs hk
  | .application _ hcallee hargument, hs =>
    have hl := hcallee.lies hs
    hl.application (hargument.lies (hl.ends hs))
  | .operation hleft ho hright, hs =>
    have hl := hleft.lies hs
    have hx := (hl.ends hs).reads_operator (.inl ho)
    hl.operation hs (.inl ho) (hright.lies (hx.ends (hl.ends hs)))
  | .member hvalue hdot hname, hs =>
    have hl := hvalue.lies hs
    have hx := (hl.ends hs).reads_operator (.inr hdot)
    hl.operation hs (.inr hdot)
      (.leaf (hx.ends (hl.ends hs)) (TokenKind.isLeaf_of_isIdentifier hname))
  | .tuple hfirst hrest _, hs =>
    have hl := hfirst.lies hs
    hl.tuple (hrest.continues (hl.ends hs))
  | .interpolation hfirst hrest _, hs =>
    have hx := hs.reads_text hfirst
    .interpolation hs hfirst (hrest.interleaves (hx.ends hs))
  | .unit hopen hclose, hs => .unit hs hopen hclose
  | .round hopen hinner hclose, hs => by
    have ho := hs.reads_advance (by simp [hopen])
    exact .round hs hopen (hinner.lies (ho.ends hs)) hclose
  | .emptyList hopen ht hclose, hs => .emptyList hs hopen ht hclose
  | .list hopen hfirst hrest hclose, hs => by
    have ho := hs.reads_advance (by simp [hopen])
    have hl := hfirst.lies (ho.ends hs)
    exact .list hs hopen hl (hrest.continues (hl.ends (ho.ends hs))) hclose

theorem BuiltElements.continues {s t : TokenStream} {es : List Expression} :
    BuiltElements s es t → s.Ends → Continue s es t
  | .nil, _ => ⟨[], [], rfl, nofun, .refl _, fun p before hbefore =>
    ⟨p.2, before, by simp, .last, hbefore⟩⟩
  | .cons hcomma hfirst hrest, hs => by
    have hx := hs.reads_advance (by simp [hcomma])
    have hl := hfirst.lies (hx.ends hs)
    exact .cons hs hcomma hl (hrest.continues (hl.ends (hx.ends hs)))

theorem BuiltSegments.interleaves {s t : TokenStream} {es : List Expression} :
    BuiltSegments s es t → s.Ends → Interleave s es t
  | .nil, _ => ⟨[], [], rfl, nofun, .refl _, .nil⟩
  | .cons hopen hvalue hclose htext hrest, hs => by
    have ho := hs.reads_advance (by simp [hopen])
    have hl := hvalue.lies (ho.ends hs)
    have ht := hl.ends (ho.ends hs)
    have hc := ht.reads_advance (by simp [hclose])
    have hx := (hc.ends ht).reads_text htext
    exact .cons hs hopen hl hclose htext (hrest.interleaves (hx.ends (hc.ends ht)))

end

end Parser

end Frontend
