import Frontend.Proofs.Grammar.Yield

/-!
# The grammar of expressions

`Derives` is the grammar of expressions as a relation between phrases and the tokens that they
derive, without regard to layout and to how operators are grouped:

    Expression  ::= Binary ("," Binary)*
    Binary      ::= Application (#Operator Application)*
    Application ::= Factor | CallableFactor Factor Factor*
    Factor      ::= Primary (#DotAccess #Identifier)*
    Primary     ::= #Identifier | #Number | #Character | Text
                  | "(" Expression? ")" | "{" (Binary ("," Binary)*)? "}"
    Text        ::= #Text (#InterpolationOpen Expression #InterpolationClose #Text)*

Whether a factor is callable is told by its derivation: identifiers and accesses to members are, and
brackets pass on what is known of the expression between them. The readers of expressions read what
the grammar derives (`derivingWithin`).
-/

namespace Frontend

/-! ### Phrases -/

/-- The phrases of the grammar. The repetitions in its rules are phrases of their own. -/
inductive Phrase where
  | expression
  /-- Binary expressions with a comma before each. -/
  | elements
  | binary
  /-- Applications with an operator before each. -/
  | operations
  | application
  /-- Factors one behind the other. -/
  | arguments
  | factor
  /-- Names with a dot before each. -/
  | members
  | primary
  /-- Interpolated expressions in their brackets, with a segment of the text literal behind each. -/
  | segments
deriving DecidableEq, Repr

/-- The tokens that a phrase derives. Of a repetition the derivation tells whether it is not empty,
and of any other phrase whether it is callable. -/
inductive Derives : Phrase → Bool → List Token → Prop
  /-- A single binary expression is as callable as it is by itself, and a tuple is not callable. -/
  | expression {b c : Bool} {ts us : List Token} (hfirst : Derives .binary b ts)
      (hrest : Derives .elements c us) : Derives .expression (b && !c) (ts ++ us)
  | noElements : Derives .elements false []
  | elements {b c : Bool} {comma : Token} {ts us : List Token}
      (hcomma : comma.kind = .symbol .comma) (hfirst : Derives .binary b ts)
      (hrest : Derives .elements c us) : Derives .elements true (comma :: (ts ++ us))
  /-- With an operator in it, a binary expression is callable. -/
  | binary {b c : Bool} {ts us : List Token} (hfirst : Derives .application b ts)
      (hrest : Derives .operations c us) : Derives .binary (b || c) (ts ++ us)
  | noOperations : Derives .operations false []
  | operations {b c : Bool} {operator : Token} {ts us : List Token}
      (hoperator : operator.kind.isOperator) (hfirst : Derives .application b ts)
      (hrest : Derives .operations c us) : Derives .operations true (operator :: (ts ++ us))
  | factorAlone {b : Bool} {ts : List Token} (h : Derives .factor b ts) : Derives .application b ts
  /-- Only a callable factor is applied, and with an argument it is callable again. -/
  | application {b c : Bool} {ts us vs : List Token} (hcallee : Derives .factor true ts)
      (hfirst : Derives .factor b us) (hrest : Derives .arguments c vs) :
      Derives .application true (ts ++ (us ++ vs))
  | noArguments : Derives .arguments false []
  | arguments {b c : Bool} {ts us : List Token} (hfirst : Derives .factor b ts)
      (hrest : Derives .arguments c us) : Derives .arguments true (ts ++ us)
  /-- With an access to a member, a factor is callable. -/
  | factor {b c : Bool} {ts us : List Token} (hfirst : Derives .primary b ts)
      (hrest : Derives .members c us) : Derives .factor (b || c) (ts ++ us)
  | noMembers : Derives .members false []
  | members {c : Bool} {dot name : Token} {us : List Token}
      (hdot : dot.kind = .symbol .dotAccess) (hname : name.kind.isIdentifier)
      (hrest : Derives .members c us) : Derives .members true (dot :: name :: us)
  | identifier {t : Token} (ht : t.kind.isIdentifier) : Derives .primary true [t]
  | number {t : Token} (ht : ∃ digits, t.kind = .number digits) : Derives .primary false [t]
  | character {t : Token} (ht : ∃ content, t.kind = .character content) :
      Derives .primary false [t]
  | text {b : Bool} {t : Token} {ts : List Token} (ht : t.kind.isText)
      (hrest : Derives .segments b ts) : Derives .primary false (t :: ts)
  | emptyTuple {o c : Token} (ho : o.kind = .symbol .openRound)
      (hc : c.kind = .symbol .closeRound) : Derives .primary false [o, c]
  | brackets {b : Bool} {o c : Token} {ts : List Token} (ho : o.kind = .symbol .openRound)
      (h : Derives .expression b ts) (hc : c.kind = .symbol .closeRound) :
      Derives .primary b (o :: (ts ++ [c]))
  | emptyList {o c : Token} (ho : o.kind = .symbol .openCurly) (hc : c.kind = .symbol .closeCurly) :
      Derives .primary false [o, c]
  | list {a b : Bool} {o c : Token} {ts us : List Token} (ho : o.kind = .symbol .openCurly)
      (hfirst : Derives .binary a ts) (hrest : Derives .elements b us)
      (hc : c.kind = .symbol .closeCurly) : Derives .primary false (o :: (ts ++ (us ++ [c])))
  | noSegments : Derives .segments false []
  | segments {b c : Bool} {opening closing text : Token} {ts us : List Token}
      (hopening : opening.kind = .symbol .interpolationOpen) (h : Derives .expression b ts)
      (hclosing : closing.kind = .symbol .interpolationClose) (htext : text.kind.isText)
      (hrest : Derives .segments c us) :
      Derives .segments true (opening :: (ts ++ closing :: text :: us))

theorem Expression.isCallable_withSpan (e : Expression) (s : Span) :
    (e.withSpan s).isCallable = e.isCallable := by
  cases e <;> rfl

namespace Derives

variable {b c : Bool} {o : Token} {ts us : List Token}

theorem operations_append (h : Derives .operations b ts) (h' : Derives .operations c us) :
    Derives .operations (b || c) (ts ++ us) := by
  generalize hphrase : Phrase.operations = phrase at h
  induction h with
  | noOperations => exact h'
  | operations ho hfirst _ _ ih =>
    rw [List.cons_append, List.append_assoc]
    exact .operations ho hfirst (ih rfl)
  | _ => cases hphrase

/-- More operations behind a binary expression. -/
theorem binary_append (h : Derives .binary b ts) (h' : Derives .operations c us) :
    Derives .binary (b || c) (ts ++ us) := by
  cases h with
  | binary hfirst hrest =>
    rw [List.append_assoc, Bool.or_assoc]
    exact .binary hfirst (hrest.operations_append h')

/-- An operator with a binary expression as its right operand, and more operations behind. -/
theorem operations_binary (ho : o.kind.isOperator) (h : Derives .binary b ts)
    (h' : Derives .operations c us) : Derives .operations true (o :: (ts ++ us)) := by
  cases h with
  | binary hfirst hrest =>
    rw [List.append_assoc]
    exact .operations ho hfirst (hrest.operations_append h')

/-- A factor and, if it is callable, arguments. -/
theorem application_arguments (h : Derives .factor b ts) (h' : Derives .arguments c us)
    (hcallable : c = true → b = true) : Derives .application b (ts ++ us) := by
  cases h' with
  | noArguments =>
    rw [List.append_nil]
    exact .factorAlone h
  | arguments hfirst hrest =>
    obtain rfl := hcallable rfl
    exact .application h hfirst hrest

end Derives

/-! ### Streams without layout -/

namespace TokenStream

variable {s t : TokenStream} {read : List Token}

/-- The end of input is ahead, and no line break. -/
structure LayoutFree (s : TokenStream) : Prop where
  ends : s.Ends
  noBreak : ∀ t ∈ s.ahead, t.kind ≠ .lineBreak

theorem Reads.layoutFree (h : s.Reads read t) (hs : s.LayoutFree) : t.LayoutFree where
  ends := h.ends hs.ends
  noBreak u hu := hs.noBreak u (h.ahead ▸ List.mem_append_right read hu)

theorem layoutFree_concat {tokens : List Token} {stop : Token} (hstop : stop.kind = .endOfInput)
    (htokens : ∀ t ∈ tokens, t.kind ≠ .lineBreak) : (ofList (tokens ++ [stop])).LayoutFree where
  ends := ⟨stop, List.mem_append_right tokens List.mem_cons_self, hstop⟩
  noBreak t ht := by
    rcases List.mem_append.mp ht with ht | ht
    · exact htokens t ht
    · simp [List.mem_singleton.mp ht, hstop]

theorem LayoutFree.skipContinuation (h : s.LayoutFree) (p : TokenKind → Bool) :
    s.skipContinuation p = s := by
  obtain ⟨rest, hrest⟩ := h.ends.ahead_eq
  exact skipContinuation_of_ne p (h.noBreak s.current (hrest ▸ List.mem_cons_self))

end TokenStream

namespace Parser

open TokenStream (LayoutFree)

/-! ### What the readers derive -/

/-- The answer of a reader of optional phrases: what it gives is derived by the tokens that were
read, and if it gives nothing, it reads nothing. -/
def Derived (phrase : Phrase) (s : TokenStream) : Option Expression → TokenStream → Prop
  | none, t   => t = s
  | some e, t => ∃ own, s.Reads own t ∧ Derives phrase e.isCallable own

/-- What the readers of expressions derive within a number of calls. -/
structure Deriving (fixities : FixityTable) (n : Nat) : Prop where
  expression : ∀ s : TokenStream, s.LayoutFree →
    (expressionWithin fixities n).Ensures (Derived .expression s) Fails s
  elements : ∀ s : TokenStream, s.LayoutFree →
    (elementsWithin fixities n).Ensures
      (fun _ t => ∃ own, s.Reads own t ∧ Derives .elements (s.current.kind.isSymbol .comma) own)
      Fails s
  binary : ∀ (s : TokenStream) band, s.LayoutFree →
    (binaryWithin fixities n band).Ensures (Derived .binary s) Fails s
  operations : ∀ (s : TokenStream) band before? (left : Expression), s.LayoutFree →
    (operationsWithin fixities n band before? left).Ensures
      (fun e t => ∃ c own, s.Reads own t ∧ Derives .operations c own ∧
        e.isCallable = (left.isCallable || c)) Fails s
  application : ∀ s : TokenStream, s.LayoutFree →
    (applicationWithin fixities n).Ensures (Derived .application s) Fails s
  arguments : ∀ (s : TokenStream) (callee : Expression), s.LayoutFree →
    (argumentsWithin fixities n callee).Ensures
      (fun e t => ∃ c own, s.Reads own t ∧ Derives .arguments c own ∧
        (c = true → callee.isCallable = true) ∧ e.isCallable = callee.isCallable) Fails s
  factor : ∀ s : TokenStream, s.LayoutFree →
    (factorWithin fixities n).Ensures (Derived .factor s) Fails s
  members : ∀ (s : TokenStream) (value : Expression), s.LayoutFree →
    (membersWithin fixities n value).Ensures
      (fun e t => ∃ c own, s.Reads own t ∧ Derives .members c own ∧
        e.isCallable = (value.isCallable || c)) Fails s
  primary : ∀ s : TokenStream, s.LayoutFree →
    (primaryWithin fixities n).Ensures (Derived .primary s) Fails s
  round : ∀ (s : TokenStream) (o : Token), s.LayoutFree → o.kind = .symbol .openRound →
    (roundWithin fixities n o.span).Ensures
      (fun e t => ∃ own, s.Reads own t ∧ Derives .primary e.isCallable (o :: own)) Fails s
  curly : ∀ (s : TokenStream) (o : Token), s.LayoutFree → o.kind = .symbol .openCurly →
    (curlyWithin fixities n o.span).Ensures
      (fun e t => ∃ own, s.Reads own t ∧ Derives .primary e.isCallable (o :: own)) Fails s
  text : ∀ (s : TokenStream) (first : Expression), s.LayoutFree → first.isCallable = false →
    (textWithin fixities n first).Ensures
      (fun e t => ∃ c own, s.Reads own t ∧ Derives .segments c own ∧ e.isCallable = false) Fails s
  segments : ∀ s : TokenStream, s.LayoutFree →
    (segmentsWithin fixities n).Ensures
      (fun _ t => ∃ c own, s.Reads own t ∧ Derives .segments c own) Fails s

namespace Deriving

variable {fixities : FixityTable} {n : Nat}

theorem zero (fixities : FixityTable) : Deriving fixities 0 where
  expression _ _ := trivial
  elements _ _ := trivial
  binary _ _ _ := trivial
  operations _ _ _ _ _ := trivial
  application _ _ := trivial
  arguments _ _ _ := trivial
  factor _ _ := trivial
  members _ _ _ := trivial
  primary _ _ := trivial
  round _ _ _ _ := trivial
  curly _ _ _ _ := trivial
  text _ _ _ _ := trivial
  segments _ _ := trivial

variable (h : Deriving fixities n)
include h

theorem expression_succ (s : TokenStream) (hs : s.LayoutFree) :
    (expressionWithin fixities (n + 1)).Ensures (Derived .expression s) Fails s := by
  rw [expressionWithin, ensures_bind]
  refine (h.binary s 0 hs).mono ?_ fun _ _ => id
  rintro (_ | first) t ht
  · exact ht
  obtain ⟨own, hown, hfirst⟩ := ht
  have htfree := hown.layoutFree hs
  simp only [ensures_bind, ensures_skipContinuation, htfree.skipContinuation, ensures_current,
    ensures_ite]
  constructor
  · intro hcomma
    refine (h.elements t htfree).mono ?_ fun _ _ => id
    rintro rest u ⟨more, hmore, helements⟩
    rw [hcomma] at helements
    rw [cover, ensures_merge]
    refine ⟨fun _ => ⟨own ++ more, hown.trans hmore, ?_⟩, fun _ => trivial⟩
    have hexpression := Derives.expression hfirst helements
    rwa [Bool.not_true, Bool.and_false] at hexpression
  · intro _
    have hexpression := Derives.expression hfirst .noElements
    rw [Bool.not_false, Bool.and_true, List.append_nil] at hexpression
    exact ⟨own, hown, hexpression⟩

theorem elements_succ (s : TokenStream) (hs : s.LayoutFree) :
    (elementsWithin fixities (n + 1)).Ensures
      (fun _ t => ∃ own, s.Reads own t ∧ Derives .elements (s.current.kind.isSymbol .comma) own)
      Fails s := by
  rw [elementsWithin]
  simp only [ensures_bind, ensures_consume]
  constructor
  · intro hcomma
    have hc := hs.ends.reads_advance (by simp [hcomma])
    have htfree := hc.layoutFree hs
    rw [if_pos trivial, ensures_bind]
    refine (h.binary _ 0 htfree).mono ?_ fun _ _ => id
    rintro (_ | element) u hu
    · simp only [ensures_bind, ensures_expect]
      exact ⟨by simp, fun _ => trivial⟩
    obtain ⟨own, hown, hfirst⟩ := hu
    have hufree := hown.layoutFree htfree
    simp only [ensures_bind, ensures_expect, ensures_skipContinuation, hufree.skipContinuation]
    refine ⟨?_, by simp⟩
    rintro _ ⟨⟩
    refine (h.elements u hufree).mono ?_ fun _ _ => id
    rintro rest v ⟨more, hmore, hrest⟩
    refine ⟨s.current :: (own ++ more), hc.trans (hown.trans hmore), ?_⟩
    rw [TokenKind.isSymbol_iff.mpr hcomma]
    exact .elements hcomma hfirst hrest
  · intro hne
    have hsymbol : s.current.kind.isSymbol .comma = false := by simpa [TokenKind.isSymbol] using hne
    rw [hsymbol]
    exact ⟨[], .refl s, .noElements⟩

theorem binary_succ (s : TokenStream) (band : Nat) (hs : s.LayoutFree) :
    (binaryWithin fixities (n + 1) band).Ensures (Derived .binary s) Fails s := by
  rw [binaryWithin, ensures_ite]
  constructor
  · intro _
    refine (h.application s hs).mono ?_ fun _ _ => id
    rintro (_ | e) t ht
    · exact ht
    obtain ⟨own, hown, happlication⟩ := ht
    have hbinary := Derives.binary happlication .noOperations
    rw [Bool.or_false, List.append_nil] at hbinary
    exact ⟨own, hown, hbinary⟩
  · intro _
    rw [ensures_bind]
    refine (h.binary s (band + 1) hs).mono ?_ fun _ _ => id
    rintro (_ | left) t ht
    · exact ht
    obtain ⟨own, hown, hleft⟩ := ht
    rw [ensures_bind]
    refine (h.operations t band none left (hown.layoutFree hs)).mono ?_ fun _ _ => id
    rintro e u ⟨c, more, hmore, hoperations, he⟩
    exact ⟨own ++ more, hown.trans hmore, he ▸ hleft.binary_append hoperations⟩

theorem operations_succ (s : TokenStream) (band : Nat) (before? : Option Associativity)
    (left : Expression) (hs : s.LayoutFree) :
    (operationsWithin fixities (n + 1) band before? left).Ensures
      (fun e t => ∃ c own, s.Reads own t ∧ Derives .operations c own ∧
        e.isCallable = (left.isCallable || c)) Fails s := by
  have hnone : ∃ c own, s.Reads own s ∧ Derives .operations c own ∧
      left.isCallable = (left.isCallable || c) :=
    ⟨false, [], .refl s, .noOperations, (Bool.or_false _).symm⟩
  rw [operationsWithin]
  simp only [ensures_bind, ensures_skipContinuation, hs.skipContinuation, ensures_current]
  split
  · next name hname =>
    have ho := hs.ends.reads_advance (by simp [hname])
    have htfree := ho.layoutFree hs
    rw [ensures_ite]
    refine ⟨fun _ => ?_, fun _ => hnone⟩
    simp only [ensures_bind, ensures_require, ensures_advance]
    refine ⟨fun _ => ?_, fun _ => trivial⟩
    refine (h.binary _ _ htfree).mono ?_ fun _ _ => id
    rintro (_ | right) u hu
    · simp only [ensures_expect]
      exact ⟨by simp, fun _ => trivial⟩
    obtain ⟨own, hown, hright⟩ := hu
    simp only [ensures_expect, ensures_merge]
    refine ⟨?_, by simp⟩
    rintro _ ⟨⟩
    refine ⟨fun _ => ?_, fun _ => trivial⟩
    refine (h.operations u band _ _ (hown.layoutFree htfree)).mono ?_ fun _ _ => id
    rintro e v ⟨c, more, hmore, hoperations, he⟩
    refine ⟨true, s.current :: (own ++ more), ho.trans (hown.trans hmore), ?_, ?_⟩
    · exact .operations_binary (by simp [hname, TokenKind.isOperator]) hright hoperations
    · rw [he, Bool.or_true]
      rfl
  · exact hnone

theorem application_succ (s : TokenStream) (hs : s.LayoutFree) :
    (applicationWithin fixities (n + 1)).Ensures (Derived .application s) Fails s := by
  rw [applicationWithin, ensures_bind]
  refine (h.factor s hs).mono ?_ fun _ _ => id
  rintro (_ | callee) t ht
  · exact ht
  obtain ⟨own, hown, hcallee⟩ := ht
  rw [ensures_bind]
  refine (h.arguments t callee (hown.layoutFree hs)).mono ?_ fun _ _ => id
  rintro e u ⟨c, more, hmore, harguments, hcallable, he⟩
  exact ⟨own ++ more, hown.trans hmore, he ▸ hcallee.application_arguments harguments hcallable⟩

theorem arguments_succ (s : TokenStream) (callee : Expression) (hs : s.LayoutFree) :
    (argumentsWithin fixities (n + 1) callee).Ensures
      (fun e t => ∃ c own, s.Reads own t ∧ Derives .arguments c own ∧
        (c = true → callee.isCallable = true) ∧ e.isCallable = callee.isCallable) Fails s := by
  have hnone : ∃ c own, s.Reads own s ∧ Derives .arguments c own ∧
      (c = true → callee.isCallable = true) ∧ callee.isCallable = callee.isCallable :=
    ⟨false, [], .refl s, .noArguments, nofun, rfl⟩
  rw [argumentsWithin, ensures_ite]
  refine ⟨fun hcallable => ?_, fun _ => hnone⟩
  rw [ensures_bind]
  refine (h.factor s hs).mono ?_ fun _ _ => id
  rintro (_ | argument) t ht
  · obtain rfl : t = s := ht
    exact hnone
  obtain ⟨own, hown, hfirst⟩ := ht
  simp only [ensures_bind, ensures_merge]
  refine ⟨fun _ => ?_, fun _ => trivial⟩
  refine (h.arguments t _ (hown.layoutFree hs)).mono ?_ fun _ _ => id
  rintro e u ⟨c, more, hmore, hrest, -, he⟩
  refine ⟨true, own ++ more, hown.trans hmore, .arguments hfirst hrest, fun _ => hcallable, ?_⟩
  rw [he, hcallable]
  rfl

theorem factor_succ (s : TokenStream) (hs : s.LayoutFree) :
    (factorWithin fixities (n + 1)).Ensures (Derived .factor s) Fails s := by
  rw [factorWithin]
  simp only [ensures_bind, ensures_skipContinuation, hs.skipContinuation]
  refine (h.primary s hs).mono ?_ fun _ _ => id
  rintro (_ | value) t ht
  · exact ht
  obtain ⟨own, hown, hprimary⟩ := ht
  rw [ensures_bind]
  refine (h.members t value (hown.layoutFree hs)).mono ?_ fun _ _ => id
  rintro e u ⟨c, more, hmore, hmembers, he⟩
  exact ⟨own ++ more, hown.trans hmore, he ▸ .factor hprimary hmembers⟩

theorem members_succ (s : TokenStream) (value : Expression) (hs : s.LayoutFree) :
    (membersWithin fixities (n + 1) value).Ensures
      (fun e t => ∃ c own, s.Reads own t ∧ Derives .members c own ∧
        e.isCallable = (value.isCallable || c)) Fails s := by
  rw [membersWithin]
  simp only [ensures_bind, ensures_current, ensures_consume]
  constructor
  · intro hdot
    have ho := hs.ends.reads_advance (by simp [hdot])
    have htfree := ho.layoutFree hs
    rw [if_pos trivial, ensures_bind, ensures_take]
    refine ⟨fun hk => ?_, fun _ => trivial⟩
    obtain ⟨name, hname⟩ := TokenKind.isIdentifier_iff.mp hk
    have hm := htfree.ends.reads_advance (by simp [hname])
    rw [ensures_bind, ensures_merge]
    refine ⟨fun _ => ?_, fun _ => trivial⟩
    refine (h.members _ _ (hm.layoutFree htfree)).mono ?_ fun _ _ => id
    rintro e u ⟨c, own, hown, hrest, he⟩
    refine ⟨true, _, ho.trans (hm.trans hown), .members hdot hk hrest, ?_⟩
    rw [he, Bool.or_true]
    rfl
  · intro _
    exact ⟨false, [], .refl s, .noMembers, (Bool.or_false _).symm⟩

theorem primary_succ (s : TokenStream) (hs : s.LayoutFree) :
    (primaryWithin fixities (n + 1)).Ensures (Derived .primary s) Fails s := by
  rw [primaryWithin]
  simp only [ensures_bind, ensures_current]
  split
  · next name hk =>
    have ho := hs.ends.reads_advance (by simp [hk])
    refine ⟨_, ho, ?_⟩
    simp only [Expression.isCallable, hk, TokenKind.isIdentifier]
    exact .identifier (by simp [hk, TokenKind.isIdentifier])
  · next digits hk =>
    have ho := hs.ends.reads_advance (by simp [hk])
    refine ⟨_, ho, ?_⟩
    simp only [Expression.isCallable, hk, TokenKind.isIdentifier]
    exact .number ⟨digits, hk⟩
  · next content hk =>
    have ho := hs.ends.reads_advance (by simp [hk])
    refine ⟨_, ho, ?_⟩
    simp only [Expression.isCallable, hk, TokenKind.isIdentifier]
    exact .character ⟨content, hk⟩
  · next content hk =>
    have ho := hs.ends.reads_advance (by simp [hk])
    have hfirst : (Expression.factor s.current s.current.span).isCallable = false := by
      simp [Expression.isCallable, hk, TokenKind.isIdentifier]
    simp only [ensures_bind, ensures_advance]
    refine (h.text _ _ (ho.layoutFree hs) hfirst).mono ?_ fun _ _ => id
    rintro e t ⟨c, own, hown, hsegments, he⟩
    refine ⟨_, ho.trans hown, ?_⟩
    rw [he]
    exact .text (by simp [hk, TokenKind.isText]) hsegments
  · next hk =>
    have ho := hs.ends.reads_advance (by simp [hk])
    simp only [ensures_bind, ensures_advance]
    refine (h.round _ s.current (ho.layoutFree hs) hk).mono ?_ fun _ _ => id
    rintro e t ⟨own, hown, hprimary⟩
    exact ⟨_, ho.trans hown, hprimary⟩
  · next hk =>
    have ho := hs.ends.reads_advance (by simp [hk])
    simp only [ensures_bind, ensures_advance]
    refine (h.curly _ s.current (ho.layoutFree hs) hk).mono ?_ fun _ _ => id
    rintro e t ⟨own, hown, hprimary⟩
    exact ⟨_, ho.trans hown, hprimary⟩
  · rfl

theorem round_succ (s : TokenStream) (o : Token) (hs : s.LayoutFree)
    (ho : o.kind = .symbol .openRound) :
    (roundWithin fixities (n + 1) o.span).Ensures
      (fun e t => ∃ own, s.Reads own t ∧ Derives .primary e.isCallable (o :: own)) Fails s := by
  rw [roundWithin]
  simp only [ensures_bind, ensures_current, ensures_consume]
  constructor
  · intro hc
    have hclose := hs.ends.reads_advance (by simp [hc])
    rw [if_pos trivial, ensures_bind, ensures_merge]
    exact ⟨fun _ => ⟨_, hclose, .emptyTuple ho hc⟩, fun _ => trivial⟩
  · intro _
    simp only [if_neg Bool.false_ne_true, ensures_bind]
    refine (h.expression s hs).mono ?_ fun _ _ => id
    rintro (_ | inner) t ht
    · simp only [ensures_expect]
      exact ⟨by simp, fun _ => trivial⟩
    obtain ⟨own, hown, hinner⟩ := ht
    simp only [ensures_expect, ensures_take]
    refine ⟨?_, by simp⟩
    rintro _ ⟨⟩
    refine ⟨fun hc => ?_, fun _ => trivial⟩
    rw [TokenKind.isSymbol_iff] at hc
    have hclose := (hown.layoutFree hs).ends.reads_advance (by simp [hc])
    rw [ensures_merge]
    refine ⟨fun _ => ⟨_, hown.trans hclose, ?_⟩, fun _ => trivial⟩
    rw [Expression.isCallable_withSpan]
    exact .brackets ho hinner hc

theorem curly_succ (s : TokenStream) (o : Token) (hs : s.LayoutFree)
    (ho : o.kind = .symbol .openCurly) :
    (curlyWithin fixities (n + 1) o.span).Ensures
      (fun e t => ∃ own, s.Reads own t ∧ Derives .primary e.isCallable (o :: own)) Fails s := by
  rw [curlyWithin, ensures_bind]
  refine (h.binary s 0 hs).mono ?_ fun _ _ => id
  rintro (_ | first) t ht
  · obtain rfl : t = s := ht
    simp only [ensures_bind, ensures_take]
    refine ⟨fun hc => ?_, fun _ => trivial⟩
    rw [TokenKind.isSymbol_iff] at hc
    have hclose := hs.ends.reads_advance (by simp [hc])
    rw [ensures_merge]
    exact ⟨fun _ => ⟨_, hclose, .emptyList ho hc⟩, fun _ => trivial⟩
  obtain ⟨own, hown, hfirst⟩ := ht
  have htfree := hown.layoutFree hs
  simp only [ensures_bind]
  refine (h.elements t htfree).mono ?_ fun _ _ => id
  rintro rest u ⟨more, hmore, hrest⟩
  rw [ensures_take]
  refine ⟨fun hc => ?_, fun _ => trivial⟩
  rw [TokenKind.isSymbol_iff] at hc
  have hclose := (hmore.layoutFree htfree).ends.reads_advance (by simp [hc])
  rw [ensures_merge]
  exact ⟨fun _ => ⟨_, hown.trans (hmore.trans hclose), .list ho hfirst hrest hc⟩, fun _ => trivial⟩

theorem text_succ (s : TokenStream) (first : Expression) (hs : s.LayoutFree)
    (hfirst : first.isCallable = false) :
    (textWithin fixities (n + 1) first).Ensures
      (fun e t => ∃ c own, s.Reads own t ∧ Derives .segments c own ∧ e.isCallable = false)
      Fails s := by
  rw [textWithin]
  simp only [ensures_bind, ensures_current, ensures_ite]
  refine ⟨fun _ => ?_, fun _ => ⟨false, [], .refl s, .noSegments, hfirst⟩⟩
  refine (h.segments s hs).mono ?_ fun _ _ => id
  rintro rest t ⟨c, own, hown, hsegments⟩
  rw [cover, ensures_merge]
  exact ⟨fun _ => ⟨c, own, hown, hsegments, rfl⟩, fun _ => trivial⟩

theorem segments_succ (s : TokenStream) (hs : s.LayoutFree) :
    (segmentsWithin fixities (n + 1)).Ensures
      (fun _ t => ∃ c own, s.Reads own t ∧ Derives .segments c own) Fails s := by
  rw [segmentsWithin]
  simp only [ensures_bind, ensures_consume]
  refine ⟨fun hopen => ?_, fun _ => ⟨false, [], .refl s, .noSegments⟩⟩
  have ho := hs.ends.reads_advance (by simp [hopen])
  have htfree := ho.layoutFree hs
  rw [if_pos trivial, ensures_bind]
  refine (h.expression _ htfree).mono ?_ fun _ _ => id
  rintro (_ | value) u hu
  · simp only [ensures_bind, ensures_expect]
    exact ⟨by simp, fun _ => trivial⟩
  obtain ⟨own, hown, hvalue⟩ := hu
  have hufree := hown.layoutFree htfree
  simp only [ensures_bind, ensures_expect, ensures_take]
  refine ⟨?_, by simp⟩
  rintro _ ⟨⟩
  refine ⟨fun hclose => ?_, fun _ => trivial⟩
  rw [TokenKind.isSymbol_iff] at hclose
  have hc := hufree.ends.reads_advance (by simp [hclose])
  have hvfree := hc.layoutFree hufree
  refine ⟨fun htext => ?_, fun _ => trivial⟩
  obtain ⟨content, hcontent⟩ := TokenKind.isText_iff.mp htext
  have hx := hvfree.ends.reads_advance (by simp [hcontent])
  refine (h.segments _ (hx.layoutFree hvfree)).mono ?_ fun _ _ => id
  rintro rest w ⟨c, more, hmore, hrest⟩
  refine ⟨true, _, ho.trans (hown.trans (hc.trans (hx.trans hmore))), ?_⟩
  exact .segments hopen hvalue hclose htext hrest

end Deriving

/-- What the readers of expressions give is derived by the tokens they read, within any number of
calls. -/
theorem derivingWithin (fixities : FixityTable) : ∀ n, Deriving fixities n
  | 0     => .zero fixities
  | n + 1 =>
    have h := derivingWithin fixities n
    { expression := h.expression_succ
      elements := h.elements_succ
      binary := h.binary_succ
      operations := h.operations_succ
      application := h.application_succ
      arguments := h.arguments_succ
      factor := h.factor_succ
      members := h.members_succ
      primary := h.primary_succ
      round := h.round_succ
      curly := h.curly_succ
      text := h.text_succ
      segments := h.segments_succ }

end Parser

end Frontend
