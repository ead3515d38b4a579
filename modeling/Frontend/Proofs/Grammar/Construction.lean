import Frontend.Grammar.Module
import Frontend.Proofs.Grammar.Outcome
import Frontend.Proofs.Tree.Nodes
import Frontend.Proofs.Tree.Spelling

/-!
# How expressions are built

`Built s e t` says that the expression `e` is put together from what is read between the streams
`s` and `t`, with one constructor for each way in which the parser makes a node. It holds of every
answer of the readers of expressions (`Building`), of any stream, with or without an end of input.
So what is true of all expressions that are read is proved by induction on how they are built.
-/

namespace Frontend.Parser

/-! ### Ways to build -/

mutual

/-- The expression is built from what is read between two places of a stream. -/
inductive Built : TokenStream → Expression → TokenStream → Prop
  /-- Layout before the expression. -/
  | before {s t : TokenStream} {e : Expression}
      (h : Built (s.skipContinuation (·.startsFactor)) e t) : Built s e t
  /-- Layout behind the expression. -/
  | after {s t : TokenStream} {e : Expression} (p : TokenKind → Bool) (h : Built s e t) :
      Built s e (t.skipContinuation p)
  | leaf {s : TokenStream} (hk : s.current.kind.isLeaf) :
      Built s (.factor s.current s.current.span) s.advance
  | application {s t u : TokenStream} {callee argument : Expression}
      (hcallable : callee.isCallable) (hcallee : Built s callee t)
      (hargument : Built t argument u) :
      Built s (.application callee argument ⟨callee.span.start, argument.span.stop⟩) u
  | operation {s t u : TokenStream} {left right : Expression} (hleft : Built s left t)
      (ho : t.current.kind.isOperator) (hright : Built t.advance right u) :
      Built s (.operation t.current left right ⟨left.span.start, right.span.stop⟩) u
  | member {s t : TokenStream} {value : Expression} (hvalue : Built s value t)
      (hdot : t.current.kind = .symbol .dotAccess) (hname : t.advance.current.kind.isIdentifier) :
      Built s (.operation t.current value (.factor t.advance.current t.advance.current.span)
        ⟨value.span.start, t.advance.current.span.stop⟩) t.advance.advance
  | tuple {s t u : TokenStream} {first : Expression} {rest : List Expression}
      (hfirst : Built s first t) (hrest : BuiltElements t rest u) (hne : rest ≠ []) :
      Built s (.tuple (first :: rest) (Expression.extent first rest)) u
  | interpolation {s t : TokenStream} {rest : List Expression} (hfirst : s.current.kind.isText)
      (hrest : BuiltSegments s.advance rest t) (hne : rest ≠ []) :
      Built s (.interpolation (.factor s.current s.current.span :: rest)
        (Expression.extent (.factor s.current s.current.span) rest)) t
  | unit {s : TokenStream} (hopen : s.current.kind = .symbol .openRound)
      (hclose : s.advance.current.kind = .symbol .closeRound) :
      Built s (.tuple [] ⟨s.current.span.start, s.advance.current.span.stop⟩) s.advance.advance
  | round {s t : TokenStream} {e : Expression} (hopen : s.current.kind = .symbol .openRound)
      (hinner : Built s.advance e t) (hclose : t.current.kind = .symbol .closeRound) :
      Built s (e.withSpan ⟨s.current.span.start, t.current.span.stop⟩) t.advance
  | emptyList {s t : TokenStream} (hopen : s.current.kind = .symbol .openCurly)
      (ht : t = s.advance ∨ t = s.advance.skipContinuation (·.startsFactor))
      (hclose : t.current.kind = .symbol .closeCurly) :
      Built s (.list [] ⟨s.current.span.start, t.current.span.stop⟩) t.advance
  | list {s t u : TokenStream} {first : Expression} {rest : List Expression}
      (hopen : s.current.kind = .symbol .openCurly) (hfirst : Built s.advance first t)
      (hrest : BuiltElements t rest u) (hclose : u.current.kind = .symbol .closeCurly) :
      Built s (.list (first :: rest) ⟨s.current.span.start, u.current.span.stop⟩) u.advance

/-- The expressions are built from what is read, each behind a comma. -/
inductive BuiltElements : TokenStream → List Expression → TokenStream → Prop
  | nil {s : TokenStream} : BuiltElements s [] s
  | cons {s t u : TokenStream} {e : Expression} {rest : List Expression}
      (hcomma : s.current.kind = .symbol .comma) (hfirst : Built s.advance e t)
      (hrest : BuiltElements t rest u) : BuiltElements s (e :: rest) u

/-- The segments are built from what is read: expressions inside of a text literal, each with the
text behind it. -/
inductive BuiltSegments : TokenStream → List Expression → TokenStream → Prop
  | nil {s : TokenStream} : BuiltSegments s [] s
  | cons {s t u : TokenStream} {value : Expression} {rest : List Expression}
      (hopen : s.current.kind = .symbol .interpolationOpen) (hvalue : Built s.advance value t)
      (hclose : t.current.kind = .symbol .interpolationClose)
      (htext : t.advance.current.kind.isText) (hrest : BuiltSegments t.advance.advance rest u) :
      BuiltSegments s (value :: .factor t.advance.current t.advance.current.span :: rest) u

end

/-- The expression is built from what is read, if there is one, and otherwise at most layout is
skipped. -/
def MaybeBuilt (s : TokenStream) (e? : Option Expression) (t : TokenStream) : Prop :=
  (∀ e ∈ e?, Built s e t) ∧ (e? = none → t = s ∨ t = s.skipContinuation (·.startsFactor))

theorem MaybeBuilt.some {s t : TokenStream} {e : Expression} (h : Built s e t) :
    MaybeBuilt s (some e) t :=
  ⟨by rintro _ ⟨⟩; exact h, nofun⟩

/-! ### The readers -/

/-- The readers build what they answer, within a number of calls. -/
structure Building (fixities : FixityTable) (n : Nat) : Prop where
  expression : ∀ s, (expressionWithin fixities n).Ensures (MaybeBuilt s) Fails s
  elements : ∀ s, (elementsWithin fixities n).Ensures
    (fun es t => BuiltElements s es t ∧ (s.current.kind = .symbol .comma → es ≠ [])) Fails s
  binary : ∀ s band, (binaryWithin fixities n band).Ensures (MaybeBuilt s) Fails s
  operations : ∀ s t band before? left, Built s left t →
    (operationsWithin fixities n band before? left).Ensures (Built s) Fails t
  application : ∀ s, (applicationWithin fixities n).Ensures (MaybeBuilt s) Fails s
  arguments : ∀ s t callee, Built s callee t →
    (argumentsWithin fixities n callee).Ensures (Built s) Fails t
  factor : ∀ s, (factorWithin fixities n).Ensures (MaybeBuilt s) Fails s
  members : ∀ s t value, Built s value t →
    (membersWithin fixities n value).Ensures (Built s) Fails t
  primary : ∀ s, (primaryWithin fixities n).Ensures
    (fun e? t => (∀ e ∈ e?, Built s e t) ∧ (e? = none → t = s)) Fails s
  round : ∀ s, s.current.kind = .symbol .openRound →
    (roundWithin fixities n s.current.span).Ensures (Built s) Fails s.advance
  curly : ∀ s, s.current.kind = .symbol .openCurly →
    (curlyWithin fixities n s.current.span).Ensures (Built s) Fails s.advance
  text : ∀ s, s.current.kind.isText →
    (textWithin fixities n (.factor s.current s.current.span)).Ensures (Built s) Fails s.advance
  segments : ∀ s, (segmentsWithin fixities n).Ensures (fun es t => BuiltSegments s es t ∧
    (s.current.kind = .symbol .interpolationOpen → es ≠ [])) Fails s

namespace Building

variable {fixities : FixityTable} {n : Nat}

theorem zero (fixities : FixityTable) : Building fixities 0 where
  expression _ := trivial
  elements _ := trivial
  binary _ _ := trivial
  operations _ _ _ _ _ _ := trivial
  application _ := trivial
  arguments _ _ _ _ := trivial
  factor _ := trivial
  members _ _ _ _ := trivial
  primary _ := trivial
  round _ _ := trivial
  curly _ _ := trivial
  text _ _ := trivial
  segments _ := trivial

variable (h : Building fixities n)
include h

theorem expression_succ (s : TokenStream) :
    (expressionWithin fixities (n + 1)).Ensures (MaybeBuilt s) Fails s := by
  rw [expressionWithin, ensures_bind]
  refine (h.binary s 0).mono ?_ fun _ _ => id
  rintro (_ | first) t ⟨hfirst, hnone⟩
  · exact ⟨nofun, hnone⟩
  have hskip := (hfirst first rfl).after (·.isSymbol .comma)
  simp only [ensures_bind, ensures_skipContinuation, ensures_current, ensures_ite,
    TokenKind.isSymbol_iff]
  refine ⟨fun hcomma => ?_, fun _ => .some hskip⟩
  refine (h.elements _).mono ?_ fun _ _ => id
  rintro rest u ⟨hrest, hne⟩
  rw [cover, ensures_merge]
  exact ⟨fun _ => .some (.tuple hskip hrest (hne hcomma)), fun _ => trivial⟩

theorem elements_succ (s : TokenStream) :
    (elementsWithin fixities (n + 1)).Ensures
      (fun es t => BuiltElements s es t ∧ (s.current.kind = .symbol .comma → es ≠ [])) Fails s := by
  rw [elementsWithin]
  simp only [ensures_bind, ensures_consume]
  refine ⟨fun hcomma => ?_, fun hne => ⟨.nil, fun hcomma => absurd hcomma hne⟩⟩
  rw [if_pos trivial, ensures_bind]
  refine (h.binary s.advance 0).mono ?_ fun _ _ => id
  rintro e? t ⟨hfirst, -⟩
  simp only [ensures_bind, ensures_expect, ensures_skipContinuation]
  refine ⟨fun e he => ?_, fun _ => trivial⟩
  refine (h.elements _).mono ?_ fun _ _ => id
  rintro rest u ⟨hrest, -⟩
  exact ⟨.cons hcomma ((hfirst e he).after _) hrest, fun _ => List.cons_ne_nil _ _⟩

theorem binary_succ (s : TokenStream) (band : Nat) :
    (binaryWithin fixities (n + 1) band).Ensures (MaybeBuilt s) Fails s := by
  rw [binaryWithin, ensures_ite]
  refine ⟨fun _ => h.application s, fun _ => ?_⟩
  rw [ensures_bind]
  refine (h.binary s (band + 1)).mono ?_ fun _ _ => id
  rintro (_ | left) t ⟨hleft, hnone⟩
  · exact ⟨nofun, hnone⟩
  rw [ensures_bind]
  exact (h.operations s t band none left (hleft left rfl)).mono (fun _ _ => .some) fun _ _ => id

theorem operations_succ (s t : TokenStream) (band : Nat) (before? : Option Associativity)
    (left : Expression) (hleft : Built s left t) :
    (operationsWithin fixities (n + 1) band before? left).Ensures (Built s) Fails t := by
  have hskip := hleft.after (·.isOperator)
  rw [operationsWithin]
  simp only [ensures_bind, ensures_skipContinuation, ensures_current]
  split
  · next name hname =>
    rw [ensures_ite]
    refine ⟨fun _ => ?_, fun _ => hskip⟩
    simp only [ensures_bind, ensures_require, ensures_advance]
    refine ⟨fun _ => ?_, fun _ => trivial⟩
    refine (h.binary _ _).mono ?_ fun _ _ => id
    rintro e? u ⟨hright, -⟩
    simp only [ensures_expect, ensures_merge]
    refine ⟨fun right hr => ⟨fun _ => ?_, fun _ => trivial⟩, fun _ => trivial⟩
    exact h.operations s u band _ _
      (.operation hskip (TokenKind.isOperator_iff.mpr ⟨name, hname⟩) (hright right hr))
  · exact hskip

theorem application_succ (s : TokenStream) :
    (applicationWithin fixities (n + 1)).Ensures (MaybeBuilt s) Fails s := by
  rw [applicationWithin, ensures_bind]
  refine (h.factor s).mono ?_ fun _ _ => id
  rintro (_ | callee) t ⟨hcallee, hnone⟩
  · exact ⟨nofun, hnone⟩
  rw [ensures_bind]
  exact (h.arguments s t callee (hcallee callee rfl)).mono (fun _ _ => .some) fun _ _ => id

/-- Where no argument follows, at most layout has been skipped. -/
theorem arguments_succ (s t : TokenStream) (callee : Expression) (hcallee : Built s callee t) :
    (argumentsWithin fixities (n + 1) callee).Ensures (Built s) Fails t := by
  rw [argumentsWithin, ensures_ite]
  refine ⟨fun hcallable => ?_, fun _ => hcallee⟩
  rw [ensures_bind]
  refine (h.factor t).mono ?_ fun _ _ => id
  rintro (_ | argument) u ⟨hargument, hnone⟩
  · rcases hnone rfl with rfl | rfl
    · exact hcallee
    · exact hcallee.after _
  simp only [ensures_bind, ensures_merge]
  refine ⟨fun _ => ?_, fun _ => trivial⟩
  exact h.arguments s u _ (.application hcallable hcallee (hargument argument rfl))

theorem factor_succ (s : TokenStream) :
    (factorWithin fixities (n + 1)).Ensures (MaybeBuilt s) Fails s := by
  rw [factorWithin]
  simp only [ensures_bind, ensures_skipContinuation]
  refine (h.primary _).mono ?_ fun _ _ => id
  rintro (_ | primary) t ⟨hprimary, hnone⟩
  · exact ⟨by rintro _ ⟨⟩, fun _ => .inr (hnone rfl)⟩
  rw [ensures_bind]
  exact (h.members s t primary (hprimary primary rfl).before).mono (fun _ _ => .some)
    fun _ _ => id

theorem members_succ (s t : TokenStream) (value : Expression) (hvalue : Built s value t) :
    (membersWithin fixities (n + 1) value).Ensures (Built s) Fails t := by
  rw [membersWithin]
  simp only [ensures_bind, ensures_current, ensures_consume]
  refine ⟨fun hdot => ?_, fun _ => hvalue⟩
  rw [if_pos trivial, ensures_bind, ensures_take]
  refine ⟨fun hname => ?_, fun _ => trivial⟩
  rw [ensures_bind, ensures_merge]
  exact ⟨fun _ => h.members s _ _ (.member hvalue hdot hname), fun _ => trivial⟩

theorem primary_succ (s : TokenStream) :
    (primaryWithin fixities (n + 1)).Ensures
      (fun e? t => (∀ e ∈ e?, Built s e t) ∧ (e? = none → t = s)) Fails s := by
  have hgives {e : Expression} {t : TokenStream} (he : Built s e t) :
      (∀ e' ∈ some e, Built s e' t) ∧ (some e = none → t = s) := by
    refine ⟨?_, by rintro ⟨⟩⟩
    rintro _ ⟨⟩
    exact he
  rw [primaryWithin]
  simp only [ensures_bind, ensures_current]
  split
  -- An identifier, a number or a character is an expression by itself.
  iterate 3
    next hk => exact hgives (.leaf (by rw [hk]; rfl))
  next hk =>
    simp only [ensures_bind, ensures_advance]
    exact (h.text s (by rw [hk]; rfl)).mono (fun _ _ => hgives) fun _ _ => id
  next hk =>
    simp only [ensures_bind, ensures_advance]
    exact (h.round s hk).mono (fun _ _ => hgives) fun _ _ => id
  next hk =>
    simp only [ensures_bind, ensures_advance]
    exact (h.curly s hk).mono (fun _ _ => hgives) fun _ _ => id
  · exact ⟨by rintro _ ⟨⟩, fun _ => rfl⟩

theorem round_succ (s : TokenStream) (hopen : s.current.kind = .symbol .openRound) :
    (roundWithin fixities (n + 1) s.current.span).Ensures (Built s) Fails s.advance := by
  rw [roundWithin]
  simp only [ensures_bind, ensures_current, ensures_consume]
  constructor
  · intro hclose
    simp only [if_pos trivial, ensures_bind, ensures_merge]
    exact ⟨fun _ => .unit hopen hclose, fun _ => trivial⟩
  · intro _
    simp only [if_neg Bool.false_ne_true, ensures_bind]
    refine (h.expression s.advance).mono ?_ fun _ _ => id
    rintro e? t ⟨hinner, -⟩
    simp only [ensures_expect, ensures_take, TokenKind.isSymbol_iff]
    refine ⟨fun e he => ⟨fun hclose => ?_, fun _ => trivial⟩, fun _ => trivial⟩
    rw [ensures_merge]
    exact ⟨fun _ => .round hopen (hinner e he) hclose, fun _ => trivial⟩

theorem curly_succ (s : TokenStream) (hopen : s.current.kind = .symbol .openCurly) :
    (curlyWithin fixities (n + 1) s.current.span).Ensures (Built s) Fails s.advance := by
  rw [curlyWithin, ensures_bind]
  refine (h.binary s.advance 0).mono ?_ fun _ _ => id
  rintro (_ | first) t ⟨hfirst, hnone⟩
  · simp only [ensures_bind, ensures_take, ensures_merge, TokenKind.isSymbol_iff]
    exact ⟨fun hclose => ⟨fun _ => .emptyList hopen (hnone rfl) hclose, fun _ => trivial⟩,
      fun _ => trivial⟩
  · simp only [ensures_bind]
    refine (h.elements t).mono ?_ fun _ _ => id
    rintro rest u ⟨hrest, -⟩
    simp only [ensures_take, ensures_merge, TokenKind.isSymbol_iff]
    exact ⟨fun hclose => ⟨fun _ => .list hopen (hfirst first rfl) hrest hclose, fun _ => trivial⟩,
      fun _ => trivial⟩

theorem text_succ (s : TokenStream) (htext : s.current.kind.isText) :
    (textWithin fixities (n + 1) (.factor s.current s.current.span)).Ensures (Built s) Fails
      s.advance := by
  rw [textWithin]
  simp only [ensures_bind, ensures_current, ensures_ite, TokenKind.isSymbol_iff]
  refine ⟨fun hopen => ?_, fun _ => .leaf (TokenKind.isLeaf_of_isText htext)⟩
  refine (h.segments s.advance).mono ?_ fun _ _ => id
  rintro rest t ⟨hrest, hne⟩
  rw [cover, ensures_merge]
  exact ⟨fun _ => .interpolation htext hrest (hne hopen), fun _ => trivial⟩

theorem segments_succ (s : TokenStream) :
    (segmentsWithin fixities (n + 1)).Ensures (fun es t => BuiltSegments s es t ∧
      (s.current.kind = .symbol .interpolationOpen → es ≠ [])) Fails s := by
  rw [segmentsWithin]
  simp only [ensures_bind, ensures_consume]
  refine ⟨fun hopen => ?_, fun hne => ⟨.nil, fun hopen => absurd hopen hne⟩⟩
  rw [if_pos trivial, ensures_bind]
  refine (h.expression s.advance).mono ?_ fun _ _ => id
  rintro e? t ⟨hvalue, -⟩
  simp only [ensures_bind, ensures_expect, ensures_take, TokenKind.isSymbol_iff]
  refine ⟨fun e he => ⟨fun hclose => ⟨fun htext => ?_, fun _ => trivial⟩, fun _ => trivial⟩,
    fun _ => trivial⟩
  refine (h.segments _).mono ?_ fun _ _ => id
  rintro rest u ⟨hrest, -⟩
  exact ⟨.cons hopen (hvalue e he) hclose htext hrest, fun _ => List.cons_ne_nil _ _⟩

end Building

/-- The readers build what they answer, within any number of calls. -/
theorem building (fixities : FixityTable) : ∀ n, Building fixities n
  | 0     => .zero fixities
  | n + 1 =>
    have h := building fixities n
    { expression := h.expression_succ
      elements := h.elements_succ
      binary := h.binary_succ
      operations := h.operations_succ
      application := h.application_succ
      arguments := h.arguments_succ
      factor := h.factor_succ
      members := h.members_succ
      primary := h.primary_succ
      round := h.round_succ
      curly := h.curly_succ
      text := h.text_succ
      segments := h.segments_succ }

theorem expression_built (fixities : FixityTable) (s : TokenStream) :
    (expression fixities).Ensures (MaybeBuilt s) Fails s := by
  rw [expression, ensures_repeated]
  exact (building fixities _).expression s

/-! ### Whole streams -/

theorem wholeExpression_built (fixities : FixityTable) (s : TokenStream) :
    (wholeExpression fixities).Ensures (fun e _ => ∃ t, Built s e t) Fails s := by
  rw [wholeExpression, ensures_bind]
  refine (expression_built fixities s).mono ?_ fun _ _ => id
  rintro e? t ⟨he, -⟩
  simp only [ensures_bind, ensures_expect]
  refine ⟨fun e he? => ?_, fun _ => trivial⟩
  refine (Ensures.anything _ _).mono (fun _ _ _ => ?_) fun _ _ => id
  simp only [ensures_current, ensures_require]
  exact ⟨fun _ => ⟨t, he e he?⟩, fun _ => trivial⟩

theorem declaration_built (fixities : FixityTable) (s : TokenStream) :
    (declaration fixities).Ensures (fun d _ => ∃ t u, Built t d.body u) Fails s := by
  rw [declaration, ensures_bind]
  refine (Ensures.anything _ _).mono (fun binder t _ => ?_) fun _ _ => id
  rw [ensures_bind]
  refine (Ensures.anything _ _).mono (fun _ u _ => ?_) fun _ _ => id
  rw [ensures_bind]
  refine (expression_built fixities u).mono ?_ fun _ _ => id
  rintro body? v ⟨hbody, -⟩
  simp only [ensures_bind, ensures_expect]
  refine ⟨fun body hbody? => ?_, fun _ => trivial⟩
  exact (Ensures.anything _ _).mono (fun _ _ _ => ⟨u, v, hbody body hbody?⟩) fun _ _ => id

theorem item_built (fixities : FixityTable) (s : TokenStream) :
    (item fixities).Ensures (fun i _ => ∀ d ∈ i.declaration?, ∃ t u, Built t d.body u) Fails s := by
  rw [item]
  simp only [ensures_bind, ensures_current, ensures_peek, ensures_ite, ensures_fail]
  refine ⟨fun _ => ?_, fun _ => ⟨fun _ => ⟨fun _ => ?_, fun _ => ?_⟩, fun _ => trivial⟩⟩
  · exact (Ensures.anything _ _).mono (fun _ _ _ => by rintro _ ⟨⟩) fun _ _ => id
  · exact (Ensures.anything _ _).mono (fun _ _ _ => by rintro _ ⟨⟩) fun _ _ => id
  · refine (declaration_built fixities s).mono ?_ fun _ _ => id
    rintro d _ hd _ ⟨⟩
    exact hd

theorem items_built (fixities : FixityTable) (n : Nat) (s : TokenStream) :
    (itemsWithin fixities n).Ensures
      (fun items _ => ∀ i ∈ items, ∀ d ∈ i.declaration?, ∃ t u, Built t d.body u) Fails s := by
  induction n generalizing s with
  | zero => trivial
  | succ n ih =>
    rw [itemsWithin, ensures_bind]
    refine (Ensures.anything _ _).mono (fun _ t _ => ?_) fun _ _ => id
    simp only [ensures_bind, ensures_current, ensures_ite]
    refine ⟨fun _ => List.forall_mem_nil _, fun _ => ?_⟩
    refine (item_built fixities t).mono (fun first u hfirst => ?_) fun _ _ => id
    exact (ih u).mono (fun _ _ hrest => List.forall_mem_cons.mpr ⟨hfirst, hrest⟩) fun _ _ => id

theorem module_built (fixities : FixityTable) (s : TokenStream) :
    (module fixities).Ensures (fun m _ => ∀ d ∈ m.declarations, ∃ t u, Built t d.body u)
      Fails s := by
  rw [module, ensures_bind]
  refine (Ensures.anything _ _).mono (fun _ t _ => ?_) fun _ _ => id
  simp only [ensures_bind, ensures_current, ensures_require]
  refine ⟨fun _ => ?_, fun _ => trivial⟩
  refine (Ensures.anything _ _).mono (fun _ _ _ => ?_) fun _ _ => id
  refine (Ensures.anything _ _).mono (fun _ v _ => ?_) fun _ _ => id
  rw [ensures_repeated]
  refine (items_built fixities _ v).mono (fun items _ hitems => ?_) fun _ _ => id
  intro d hd
  obtain ⟨i, hi, hd⟩ := List.mem_filterMap.mp hd
  exact hitems i hi d hd

end Frontend.Parser
