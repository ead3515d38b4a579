import Frontend.Proofs.Grammar.Yield
import Frontend.Proofs.Tree.Nodes

/-!
# The shape of expressions

`Shaped` says which trees the parser builds from given tokens. Each reader of expressions keeps
it (`Shaping`), with the token before the place that it has reached where a member access may
follow: a dot directly behind the name of a value can only stand behind that value itself.
-/

namespace Frontend

/-! ### Shapes -/

namespace TokenKind

/-- A token, other than a name, that a factor may end with. -/
def endsFactor : TokenKind → Bool
  | number _    => true
  | character _ => true
  | text _      => true
  | symbol s    => s == .closeRound || s == .closeCurly
  | _           => false

theorem endsFactor_or_isIdentifier {k : TokenKind} (h : k.isLeaf) :
    k.endsFactor ∨ k.isIdentifier := by
  cases k <;> simp [isLeaf, endsFactor, isIdentifier] at *

end TokenKind

namespace Expression

/-- An access to a member. -/
def isMember : Expression → Bool
  | operation o _ _ _ => o.kind.isSymbol .dotAccess
  | _                 => false

/-- A name, or an access to a member. -/
def isPath (e : Expression) : Bool := e.isName || e.isMember

/-- A text literal with expressions in it: the first segment, and each expression with the segment
behind it. -/
def segments (first : Token) (parts : List (Expression × Token)) : List Expression :=
  .factor first first.span :: parts.flatMap fun p => [p.1, .factor p.2 p.2.span]

/-- The trees that are read from tokens. -/
inductive Shaped (tokens : List Token) : Expression → Prop
  | factor {t : Token} {span : Span} (ht : t.kind.isLeaf) : Shaped tokens (.factor t span)
  | application {callee argument : Expression} {span : Span} (hcallable : callee.isCallable)
      (hcallee : Shaped tokens callee) (hargument : Shaped tokens argument) :
      Shaped tokens (.application callee argument span)
  | operation {o : Token} {left right : Expression} {span : Span} (ho : o.kind.isOperator)
      (hleft : Shaped tokens left) (hright : Shaped tokens right) :
      Shaped tokens (.operation o left right span)
  /-- The token `u` is the one before the dot. -/
  | member {u o x : Token} {value : Expression} {span : Span} (ho : o.kind = .symbol .dotAccess)
      (hx : x.kind.isIdentifier) (hadjacent : [u, o, x] <:+: tokens)
      (hu : u.kind.endsFactor ∨ value.isPath) (hvalue : Shaped tokens value) :
      Shaped tokens (.operation o value (.factor x x.span) span)
  | tuple {elements : List Expression} {span : Span} (hlength : elements.length ≠ 1)
      (h : ∀ e ∈ elements, Shaped tokens e) : Shaped tokens (.tuple elements span)
  | list {elements : List Expression} {span : Span} (h : ∀ e ∈ elements, Shaped tokens e) :
      Shaped tokens (.list elements span)
  | interpolation {first : Token} {parts : List (Expression × Token)} {span : Span}
      (hfirst : first.kind.isText) (hparts : parts ≠ [])
      (hvalues : ∀ p ∈ parts, Shaped tokens p.1) (htexts : ∀ p ∈ parts, p.2.kind.isText) :
      Shaped tokens (.interpolation (segments first parts) span)

theorem Shaped.withSpan {tokens : List Token} {e : Expression} (h : e.Shaped tokens) (span : Span) :
    (e.withSpan span).Shaped tokens := by
  cases h with
  | factor ht => exact .factor ht
  | application hcallable hcallee hargument => exact .application hcallable hcallee hargument
  | operation ho hleft hright => exact .operation ho hleft hright
  | member ho hx hadjacent hu hvalue => exact .member ho hx hadjacent hu hvalue
  | tuple hlength h => exact .tuple hlength h
  | list h => exact .list h
  | interpolation hfirst hparts hvalues htexts =>
    exact .interpolation hfirst hparts hvalues htexts

end Expression

/-! ### Places in a stream -/

namespace TokenStream

variable {tokens : List Token} {s : TokenStream} {u : Token}

/-- The stream is what is left of the tokens, up to the end of input. -/
structure Within (tokens : List Token) (s : TokenStream) : Prop where
  ends : s.Ends
  suffix : s.ahead <:+ tokens

/-- The stream is what is left of the tokens behind the given one. -/
structure Behind (tokens : List Token) (u : Token) (s : TokenStream) : Prop where
  ends : s.Ends
  suffix : u :: s.ahead <:+ tokens

theorem Behind.within (h : s.Behind tokens u) : s.Within tokens :=
  ⟨h.ends, (List.suffix_cons u s.ahead).trans h.suffix⟩

theorem Within.behind_advance (h : s.Within tokens) (hk : s.current.kind ≠ .endOfInput) :
    s.advance.Behind tokens s.current := by
  have hr := h.ends.reads_advance hk
  have hahead : s.ahead = s.current :: s.advance.ahead := hr.ahead
  exact ⟨hr.ends h.ends, hahead ▸ h.suffix⟩

theorem Within.skipContinuation (h : s.Within tokens) (p : TokenKind → Bool) :
    (s.skipContinuation p).Within tokens := by
  obtain ⟨layout, hl, _⟩ := h.ends.exists_reads_skipContinuation p
  refine ⟨hl.ends h.ends, ?_⟩
  exact (hl.ahead ▸ List.suffix_append layout _ : _ <:+ s.ahead).trans h.suffix

end TokenStream

/-! ### The readers -/

namespace Parser

open TokenStream (Within Behind)

/-- The expression is shaped, if there is one, and the place is still one in the tokens. -/
def Shapes (tokens : List Token) (e? : Option Expression) (t : TokenStream) : Prop :=
  t.Within tokens ∧ ∀ e ∈ e?, e.Shaped tokens

/-- The expression is shaped, and a dot right behind it can only stand behind a path if the token
before the dot is a name. -/
def ShapesFactor (tokens : List Token) (e : Expression) (t : TokenStream) : Prop :=
  e.Shaped tokens ∧ ∃ u, t.Behind tokens u ∧ (u.kind.endsFactor ∨ e.isPath)

theorem ShapesFactor.within {tokens : List Token} {e : Expression} {t : TokenStream}
    (h : ShapesFactor tokens e t) : t.Within tokens := by
  obtain ⟨-, u, ht, -⟩ := h
  exact ht.within

/-- What the readers of expressions make of tokens within a number of calls. -/
structure Shaping (tokens : List Token) (fixities : FixityTable) (n : Nat) : Prop where
  expression : ∀ s, s.Within tokens →
    (expressionWithin fixities n).Ensures (Shapes tokens) Fails s
  elements : ∀ s, s.Within tokens →
    (elementsWithin fixities n).Ensures (fun es t => t.Within tokens ∧
      (∀ e ∈ es, e.Shaped tokens) ∧ (s.current.kind = .symbol .comma → es ≠ [])) Fails s
  binary : ∀ s band, s.Within tokens →
    (binaryWithin fixities n band).Ensures (Shapes tokens) Fails s
  operations : ∀ s band before? left, s.Within tokens → left.Shaped tokens →
    (operationsWithin fixities n band before? left).Ensures
      (fun e t => t.Within tokens ∧ e.Shaped tokens) Fails s
  application : ∀ s, s.Within tokens →
    (applicationWithin fixities n).Ensures (Shapes tokens) Fails s
  arguments : ∀ s callee, s.Within tokens → callee.Shaped tokens →
    (argumentsWithin fixities n callee).Ensures
      (fun e t => t.Within tokens ∧ e.Shaped tokens) Fails s
  factor : ∀ s, s.Within tokens →
    (factorWithin fixities n).Ensures (Shapes tokens) Fails s
  members : ∀ s value, ShapesFactor tokens value s →
    (membersWithin fixities n value).Ensures
      (fun e t => t.Within tokens ∧ e.Shaped tokens) Fails s
  primary : ∀ s, s.Within tokens →
    (primaryWithin fixities n).Ensures
      (fun e? t => t.Within tokens ∧ ∀ e ∈ e?, ShapesFactor tokens e t) Fails s
  round : ∀ s opening, s.Within tokens →
    (roundWithin fixities n opening).Ensures (ShapesFactor tokens) Fails s
  curly : ∀ s opening, s.Within tokens →
    (curlyWithin fixities n opening).Ensures (ShapesFactor tokens) Fails s
  text : ∀ s x, x.kind.isText → s.Behind tokens x →
    (textWithin fixities n (.factor x x.span)).Ensures (ShapesFactor tokens) Fails s
  segments : ∀ s x, x.kind.isText → s.Behind tokens x →
    (segmentsWithin fixities n).Ensures (fun es t => ∃ parts : List (Expression × Token),
      es = parts.flatMap (fun p => [p.1, .factor p.2 p.2.span]) ∧
      (∀ p ∈ parts, p.1.Shaped tokens) ∧ (∀ p ∈ parts, p.2.kind.isText) ∧
      (s.current.kind = .symbol .interpolationOpen → parts ≠ []) ∧
      ∃ u, t.Behind tokens u ∧ u.kind.isText) Fails s

namespace Shaping

variable {tokens : List Token} {fixities : FixityTable} {n : Nat}

theorem zero (tokens : List Token) (fixities : FixityTable) : Shaping tokens fixities 0 where
  expression _ _ := trivial
  elements _ _ := trivial
  binary _ _ _ := trivial
  operations _ _ _ _ _ _ := trivial
  application _ _ := trivial
  arguments _ _ _ _ := trivial
  factor _ _ := trivial
  members _ _ _ := trivial
  primary _ _ := trivial
  round _ _ _ := trivial
  curly _ _ _ := trivial
  text _ _ _ _ := trivial
  segments _ _ _ _ := trivial

/-- The closing bracket of a list. -/
theorem closeCurly {es : List Expression} {fault : SyntaxFault} {opening : Span} (s : TokenStream)
    (hs : s.Within tokens) (hes : ∀ e ∈ es, e.Shaped tokens) :
    (take (·.isSymbol .closeCurly) fault).Ensures
      (fun closing => (merge opening closing.span).Ensures
        (fun span => ShapesFactor tokens (.list es span)) Fails) Fails
      s := by
  rw [ensures_take]
  refine ⟨fun hclose => ?_, fun _ => trivial⟩
  rw [TokenKind.isSymbol_iff] at hclose
  have ht := hs.behind_advance (by simp [hclose])
  rw [ensures_merge]
  exact ⟨fun _ => ⟨.list hes, _, ht, .inl (by rw [hclose]; rfl)⟩, fun _ => trivial⟩

variable (h : Shaping tokens fixities n)
include h

theorem expression_succ (s : TokenStream) (hs : s.Within tokens) :
    (expressionWithin fixities (n + 1)).Ensures (Shapes tokens) Fails s := by
  rw [expressionWithin, ensures_bind]
  refine (h.binary s 0 hs).mono ?_ fun _ _ => id
  rintro (_ | first) t ⟨ht, hfirst⟩
  · exact ⟨ht, hfirst⟩
  have hskip := ht.skipContinuation (·.isSymbol .comma)
  simp only [ensures_bind, ensures_skipContinuation, ensures_current, ensures_ite,
    TokenKind.isSymbol_iff]
  refine ⟨fun hcomma => ?_, fun _ => ⟨hskip, hfirst⟩⟩
  refine (h.elements _ hskip).mono ?_ fun _ _ => id
  rintro rest u ⟨hu, hrest, hne⟩
  rw [cover, ensures_merge]
  refine ⟨fun _ => ⟨hu, ?_⟩, fun _ => trivial⟩
  rintro _ ⟨⟩
  refine .tuple ?_ (List.forall_mem_cons.mpr ⟨hfirst first rfl, hrest⟩)
  simpa using hne hcomma

theorem elements_succ (s : TokenStream) (hs : s.Within tokens) :
    (elementsWithin fixities (n + 1)).Ensures (fun es t => t.Within tokens ∧
      (∀ e ∈ es, e.Shaped tokens) ∧ (s.current.kind = .symbol .comma → es ≠ [])) Fails s := by
  rw [elementsWithin]
  simp only [ensures_bind, ensures_consume]
  refine ⟨fun hcomma => ?_, fun hne => ⟨hs, by simp, fun hcomma => absurd hcomma hne⟩⟩
  rw [if_pos trivial, ensures_bind]
  refine (h.binary _ 0 (hs.behind_advance (by simp [hcomma])).within).mono ?_ fun _ _ => id
  rintro e? t ⟨ht, hfirst⟩
  simp only [ensures_bind, ensures_expect, ensures_skipContinuation]
  refine ⟨fun e he => ?_, fun _ => trivial⟩
  refine (h.elements _ (ht.skipContinuation _)).mono ?_ fun _ _ => id
  rintro rest u ⟨hu, hrest, -⟩
  exact ⟨hu, List.forall_mem_cons.mpr ⟨hfirst e he, hrest⟩, fun _ => List.cons_ne_nil _ _⟩

theorem binary_succ (s : TokenStream) (band : Nat) (hs : s.Within tokens) :
    (binaryWithin fixities (n + 1) band).Ensures (Shapes tokens) Fails s := by
  rw [binaryWithin, ensures_ite]
  refine ⟨fun _ => h.application s hs, fun _ => ?_⟩
  rw [ensures_bind]
  refine (h.binary s (band + 1) hs).mono ?_ fun _ _ => id
  rintro (_ | left) t ⟨ht, hleft⟩
  · exact ⟨ht, hleft⟩
  rw [ensures_bind]
  refine (h.operations t band none left ht (hleft left rfl)).mono ?_ fun _ _ => id
  rintro e u ⟨hu, he⟩
  exact ⟨hu, by rintro _ ⟨⟩; exact he⟩

theorem operations_succ (s : TokenStream) (band : Nat) (before? : Option Associativity)
    (left : Expression) (hs : s.Within tokens) (hleft : left.Shaped tokens) :
    (operationsWithin fixities (n + 1) band before? left).Ensures
      (fun e t => t.Within tokens ∧ e.Shaped tokens) Fails s := by
  have hskip := hs.skipContinuation (·.isOperator)
  rw [operationsWithin]
  simp only [ensures_bind, ensures_skipContinuation, ensures_current]
  split
  · next name hname =>
    rw [ensures_ite]
    refine ⟨fun _ => ?_, fun _ => ⟨hskip, hleft⟩⟩
    simp only [ensures_bind, ensures_require, ensures_advance]
    refine ⟨fun _ => ?_, fun _ => trivial⟩
    refine (h.binary _ _ (hskip.behind_advance (by simp [hname])).within).mono ?_ fun _ _ => id
    rintro e? t ⟨ht, hright⟩
    simp only [ensures_expect, ensures_merge]
    refine ⟨fun right hr => ⟨fun _ => ?_, fun _ => trivial⟩, fun _ => trivial⟩
    exact h.operations t band _ _ ht
      (.operation (TokenKind.isOperator_iff.mpr ⟨name, hname⟩) hleft (hright right hr))
  · exact ⟨hskip, hleft⟩

theorem application_succ (s : TokenStream) (hs : s.Within tokens) :
    (applicationWithin fixities (n + 1)).Ensures (Shapes tokens) Fails s := by
  rw [applicationWithin, ensures_bind]
  refine (h.factor s hs).mono ?_ fun _ _ => id
  rintro (_ | callee) t ⟨ht, hcallee⟩
  · exact ⟨ht, hcallee⟩
  rw [ensures_bind]
  refine (h.arguments t callee ht (hcallee callee rfl)).mono ?_ fun _ _ => id
  rintro e u ⟨hu, he⟩
  exact ⟨hu, by rintro _ ⟨⟩; exact he⟩

theorem arguments_succ (s : TokenStream) (callee : Expression) (hs : s.Within tokens)
    (hcallee : callee.Shaped tokens) :
    (argumentsWithin fixities (n + 1) callee).Ensures
      (fun e t => t.Within tokens ∧ e.Shaped tokens) Fails s := by
  rw [argumentsWithin, ensures_ite]
  refine ⟨fun hcallable => ?_, fun _ => ⟨hs, hcallee⟩⟩
  rw [ensures_bind]
  refine (h.factor s hs).mono ?_ fun _ _ => id
  rintro (_ | argument) t ⟨ht, hargument⟩
  · exact ⟨ht, hcallee⟩
  simp only [ensures_bind, ensures_merge]
  refine ⟨fun _ => ?_, fun _ => trivial⟩
  exact h.arguments t _ ht (.application hcallable hcallee (hargument argument rfl))

theorem factor_succ (s : TokenStream) (hs : s.Within tokens) :
    (factorWithin fixities (n + 1)).Ensures (Shapes tokens) Fails s := by
  rw [factorWithin]
  simp only [ensures_bind, ensures_skipContinuation]
  refine (h.primary _ (hs.skipContinuation _)).mono ?_ fun _ _ => id
  rintro (_ | primary) t ⟨ht, hprimary⟩
  · exact ⟨ht, by rintro _ ⟨⟩⟩
  rw [ensures_bind]
  refine (h.members t primary (hprimary primary rfl)).mono ?_ fun _ _ => id
  rintro e u ⟨hu, he⟩
  exact ⟨hu, by rintro _ ⟨⟩; exact he⟩

theorem members_succ (s : TokenStream) (value : Expression) (hvalue : ShapesFactor tokens value s) :
    (membersWithin fixities (n + 1) value).Ensures
      (fun e t => t.Within tokens ∧ e.Shaped tokens) Fails s := by
  obtain ⟨hshaped, u, hs, hu⟩ := hvalue
  rw [membersWithin]
  simp only [ensures_bind, ensures_current, ensures_consume]
  refine ⟨fun hdot => ?_, fun _ => ⟨hs.within, hshaped⟩⟩
  have ht := hs.within.behind_advance (by simp [hdot])
  rw [if_pos trivial, ensures_bind, ensures_take]
  refine ⟨fun hx => ?_, fun _ => trivial⟩
  have hxk : s.advance.current.kind ≠ .endOfInput := by
    intro hk
    simp [hk, TokenKind.isIdentifier] at hx
  have ht' := ht.within.behind_advance hxk
  rw [ensures_bind, ensures_merge]
  refine ⟨fun _ => ?_, fun _ => trivial⟩
  have hadjacent : [u, s.current, s.advance.current] <:+: tokens := by
    have hdot' := (hs.ends.reads_advance (by simp [hdot])).ahead
    have hx' := (ht.ends.reads_advance hxk).ahead
    have hsuffix := hs.suffix
    rw [hdot', hx'] at hsuffix
    exact List.IsInfix.trans ⟨[], _, rfl⟩ hsuffix.isInfix
  have hmember : Expression.Shaped tokens (.operation s.current value
      (.factor s.advance.current s.advance.current.span)
      ⟨value.span.start, s.advance.current.span.stop⟩) :=
    .member hdot hx hadjacent hu hshaped
  refine h.members _ _ ⟨hmember, _, ht', .inr ?_⟩
  simp [Expression.isPath, Expression.isMember, TokenKind.isSymbol, hdot]

theorem primary_succ (s : TokenStream) (hs : s.Within tokens) :
    (primaryWithin fixities (n + 1)).Ensures
      (fun e? t => t.Within tokens ∧ ∀ e ∈ e?, ShapesFactor tokens e t) Fails s := by
  have hgives {e : Expression} {t : TokenStream} (he : ShapesFactor tokens e t) :
      t.Within tokens ∧ ∀ e' ∈ some e, ShapesFactor tokens e' t :=
    ⟨he.within, by rintro _ ⟨⟩; exact he⟩
  have hleaf (hk : s.current.kind.isLeaf) :
      ShapesFactor tokens (.factor s.current s.current.span) s.advance := by
    have hne : s.current.kind ≠ .endOfInput := by
      intro h
      simp [h, TokenKind.isLeaf] at hk
    refine ⟨.factor hk, _, hs.behind_advance hne, ?_⟩
    refine (TokenKind.endsFactor_or_isIdentifier hk).imp id fun hname => ?_
    simpa [Expression.isPath, Expression.isName] using .inl hname
  rw [primaryWithin]
  simp only [ensures_bind, ensures_current]
  split
  -- An identifier, a number or a character is an expression by itself.
  iterate 3
    next hk => exact hgives (hleaf (by rw [hk]; rfl))
  next hk =>
    have ht := hs.behind_advance (by simp [hk])
    simp only [ensures_bind, ensures_advance]
    exact (h.text _ _ (by rw [hk]; rfl) ht).mono (fun _ _ => hgives) fun _ _ => id
  next hk =>
    have ht := hs.behind_advance (by simp [hk])
    simp only [ensures_bind, ensures_advance]
    exact (h.round _ _ ht.within).mono (fun _ _ => hgives) fun _ _ => id
  next hk =>
    have ht := hs.behind_advance (by simp [hk])
    simp only [ensures_bind, ensures_advance]
    exact (h.curly _ _ ht.within).mono (fun _ _ => hgives) fun _ _ => id
  · exact ⟨hs, by rintro _ ⟨⟩⟩

theorem round_succ (s : TokenStream) (opening : Span) (hs : s.Within tokens) :
    (roundWithin fixities (n + 1) opening).Ensures (ShapesFactor tokens) Fails s := by
  rw [roundWithin]
  simp only [ensures_bind, ensures_current, ensures_consume]
  constructor
  · intro hclose
    have ht := hs.behind_advance (by simp [hclose])
    simp only [if_pos trivial, ensures_bind, ensures_merge]
    exact ⟨fun _ => ⟨.tuple (by simp) (by simp), _, ht, .inl (by rw [hclose]; rfl)⟩,
      fun _ => trivial⟩
  · intro _
    simp only [if_neg Bool.false_ne_true, ensures_bind]
    refine (h.expression s hs).mono ?_ fun _ _ => id
    rintro e? t ⟨ht, he⟩
    simp only [ensures_expect, ensures_take, TokenKind.isSymbol_iff]
    refine ⟨fun e he? => ⟨fun hclose => ?_, fun _ => trivial⟩, fun _ => trivial⟩
    have hu := ht.behind_advance (by simp [hclose])
    rw [ensures_merge]
    exact ⟨fun _ => ⟨(he e he?).withSpan _, _, hu, .inl (by rw [hclose]; rfl)⟩, fun _ => trivial⟩

theorem curly_succ (s : TokenStream) (opening : Span) (hs : s.Within tokens) :
    (curlyWithin fixities (n + 1) opening).Ensures (ShapesFactor tokens) Fails s := by
  rw [curlyWithin, ensures_bind]
  refine (h.binary s 0 hs).mono ?_ fun _ _ => id
  rintro (_ | first) t ⟨ht, hfirst⟩
  · simp only [ensures_bind, ensures_pure]
    exact closeCurly t ht (by simp)
  · simp only [ensures_bind, ensures_pure]
    refine (h.elements t ht).mono ?_ fun _ _ => id
    rintro rest u ⟨hu, hrest, -⟩
    exact closeCurly u hu (List.forall_mem_cons.mpr ⟨hfirst first rfl, hrest⟩)

theorem text_succ (s : TokenStream) (x : Token) (hx : x.kind.isText) (hs : s.Behind tokens x) :
    (textWithin fixities (n + 1) (.factor x x.span)).Ensures (ShapesFactor tokens) Fails s := by
  have hends {u : Token} (hu : u.kind.isText) : u.kind.endsFactor := by
    obtain ⟨content, hu⟩ := TokenKind.isText_iff.mp hu
    rw [hu]
    rfl
  rw [textWithin]
  simp only [ensures_bind, ensures_current, ensures_ite, TokenKind.isSymbol_iff]
  constructor
  · intro hopen
    refine (h.segments s x hx hs).mono ?_ fun _ _ => id
    rintro _ t ⟨parts, rfl, hvalues, htexts, hparts, u, hu, hutext⟩
    rw [cover, ensures_merge]
    exact ⟨fun _ => ⟨.interpolation hx (hparts hopen) hvalues htexts, u, hu, .inl (hends hutext)⟩,
      fun _ => trivial⟩
  · intro _
    obtain ⟨content, hcontent⟩ := TokenKind.isText_iff.mp hx
    exact ⟨.factor (by rw [hcontent]; rfl), x, hs, .inl (hends hx)⟩

theorem segments_succ (s : TokenStream) (x : Token) (hx : x.kind.isText) (hs : s.Behind tokens x) :
    (segmentsWithin fixities (n + 1)).Ensures (fun es t => ∃ parts : List (Expression × Token),
      es = parts.flatMap (fun p => [p.1, .factor p.2 p.2.span]) ∧
      (∀ p ∈ parts, p.1.Shaped tokens) ∧ (∀ p ∈ parts, p.2.kind.isText) ∧
      (s.current.kind = .symbol .interpolationOpen → parts ≠ []) ∧
      ∃ u, t.Behind tokens u ∧ u.kind.isText) Fails s := by
  rw [segmentsWithin]
  simp only [ensures_bind, ensures_consume]
  refine ⟨fun hopen => ?_, fun hne => ⟨[], rfl, by simp, by simp, fun h => absurd h hne, x, hs, hx⟩⟩
  have ht := hs.within.behind_advance (by simp [hopen])
  rw [if_pos trivial, ensures_bind]
  refine (h.expression _ ht.within).mono ?_ fun _ _ => id
  rintro e? u ⟨hu, he⟩
  simp only [ensures_bind, ensures_expect, ensures_take, TokenKind.isSymbol_iff]
  refine ⟨fun e he? => ⟨fun hclose => ?_, fun _ => trivial⟩, fun _ => trivial⟩
  have hv := hu.behind_advance (by simp [hclose])
  refine ⟨fun htext => ?_, fun _ => trivial⟩
  have hkind : u.advance.current.kind ≠ .endOfInput := by
    intro hk
    simp [hk, TokenKind.isText] at htext
  have hw := hv.within.behind_advance hkind
  refine (h.segments _ _ htext hw).mono ?_ fun _ _ => id
  rintro _ t ⟨parts, rfl, hvalues, htexts, -, hlast⟩
  exact ⟨(e, u.advance.current) :: parts, rfl,
    List.forall_mem_cons.mpr ⟨he e he?, hvalues⟩, List.forall_mem_cons.mpr ⟨htext, htexts⟩,
    fun _ => List.cons_ne_nil _ _, hlast⟩

end Shaping

/-- The readers give shaped expressions, within any number of calls. -/
theorem shaping (tokens : List Token) (fixities : FixityTable) : ∀ n, Shaping tokens fixities n
  | 0     => .zero tokens fixities
  | n + 1 =>
    have h := shaping tokens fixities n
    { expression := h.expression_succ
      elements := h.elements_succ
      binary := h.binary_succ
      operations := h.operations_succ
      application := h.application_succ
      arguments := h.arguments_succ
      factor := h.factor_succ
      members := h.members_succ
      primary := h.primary_succ
      round := h.round_succ
      curly := h.curly_succ
      text := h.text_succ
      segments := h.segments_succ }

end Parser

/-- An expression that is read from tokens with an end of input is shaped. -/
theorem shaped_of_parseExpression {tokens : List Token} {fixities : FixityTable} {e : Expression}
    (hend : ∃ t ∈ tokens, t.kind = .endOfInput) (h : parseExpression tokens fixities = .ok e) :
    e.Shaped tokens := by
  have hs : (TokenStream.ofList tokens).Within tokens := ⟨hend, List.suffix_rfl⟩
  have hw : (Parser.wholeExpression fixities).Ensures (fun e _ => e.Shaped tokens) Parser.Fails
      (.ofList tokens) := by
    rw [Parser.wholeExpression, Parser.expression]
    simp only [Parser.ensures_bind, Parser.ensures_repeated]
    refine ((Parser.shaping tokens fixities _).expression _ hs).mono ?_ fun _ _ => id
    rintro e? t ⟨ht, he⟩
    simp only [Parser.ensures_expect]
    refine ⟨fun e he? => ?_, fun _ => trivial⟩
    refine (Parser.lineBreaks_reads _ ht.ends).mono (fun _ _ _ => ?_) fun _ _ _ => trivial
    simp only [Parser.ensures_current, Parser.ensures_require]
    exact ⟨fun _ => he e he?, fun _ => trivial⟩
  obtain ⟨-, hshaped⟩ := hw.exists_of_run' h
  exact hshaped

end Frontend
