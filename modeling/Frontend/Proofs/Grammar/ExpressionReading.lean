import Frontend.Proofs.Grammar.Stretch

/-!
# What the readers of expressions read

`Reading` says of each reader of expressions that what it gives was read from a stretch of tokens
that covers it, and that nothing else was read: at a token that no expression starts with, the
readers of optional expressions give nothing and stay where they are. A reader that takes over a
part of its result speaks of the stretch from the start of that part.

It also says where the readers fail: at a token ahead that the failure names. If the rest of a
text literal is missing there, the token before is not the bracket that closes an expression in
the literal, unless the token there is not a text. If a bracket is not closed there, the opening
one is among the tokens before.
-/

namespace Frontend

namespace TokenStream

/-- An expression starts here, if need be on a line that continues the current one. -/
def startsFactor (s : TokenStream) : Bool :=
  (s.skipContinuation (·.startsFactor)).current.kind.startsFactor

end TokenStream

/-- The fault says nothing of the tokens before the one it is found at. -/
def SyntaxFault.isLocal : SyntaxFault → Bool
  | .unterminatedInterpolation => false
  | .unclosedBracket _ _       => false
  | _                          => true

namespace Parser

open TokenStream (ReadsAs)

/-- The answer of a reader of optional expressions: there is one exactly where one starts. -/
def Answers (starts : Bool) (s : TokenStream) (R : Expression → TokenStream → Prop) :
    Option Expression → TokenStream → Prop
  | none, t   => starts = false ∧ t = s
  | some e, t => starts = true ∧ R e t

/-! ### Failures -/

/-- The failure is at a place that is ahead. -/
def FailsAt (s : TokenStream) (e : ParseFailure) (t : TokenStream) : Prop :=
  ∃ read, s.Reads read t ∧ ∀ x, e = .error x → x.token = t.current ∧
    (x.fault = .unterminatedInterpolation → ∃ u, read.getLast? = some u ∧
      (u.kind = .symbol .interpolationClose → t.current.kind.isText = false)) ∧
    ∀ closing opening, x.fault = .unclosedBracket closing opening → ∃ u ∈ read, u.span = opening

namespace FailsAt

variable {s t u : TokenStream} {read : List Token}

theorem of_reads (h : s.Reads read t) {fault : SyntaxFault} (hf : fault.isLocal) :
    FailsAt s (.error ⟨fault, t.current⟩) t := by
  refine ⟨read, h, ?_⟩
  rintro _ ⟨⟩
  refine ⟨rfl, ?_, ?_⟩
  · rintro rfl
    cases hf
  · rintro closing opening rfl
    cases hf

/-- The bracket that is not closed has been read. -/
theorem unclosed (h : s.Reads read t) {o : Token} (ho : o ∈ read) (closing : Symbol) :
    FailsAt s (.error ⟨.unclosedBracket closing o.span, t.current⟩) t := by
  refine ⟨read, h, ?_⟩
  rintro _ ⟨⟩
  refine ⟨rfl, (fun hf => by cases hf), ?_⟩
  rintro _ _ ⟨⟩
  exact ⟨o, ho, rfl⟩

/-- Behind an expression there is no bracket that closes an interpolation. -/
theorem of_isRead {e : Expression} (h : IsRead s e t) (hs : s.Ends) :
    FailsAt s (.error ⟨.unterminatedInterpolation, t.current⟩) t := by
  obtain ⟨own, hr, hc⟩ := h
  obtain ⟨layout, hl, _⟩ := hs.exists_reads_skipContinuation (·.startsFactor)
  obtain ⟨w, hw, _, hk⟩ := hc.exists_last
  refine ⟨_, hl.trans hr, ?_⟩
  rintro _ ⟨⟩
  refine ⟨rfl, fun _ => ⟨w, ?_, fun h => absurd h hk⟩, fun _ _ hf => by cases hf⟩
  rw [List.getLast?_append, hw, Option.some_or]

theorem disorder (h : s.Reads read t) (d : Span.Disorder) : FailsAt s (.disorder d) t := by
  refine ⟨read, h, ?_⟩
  rintro _ ⟨⟩

theorem endless (h : s.Reads read t) : FailsAt s .endless t := by
  refine ⟨read, h, ?_⟩
  rintro _ ⟨⟩

theorem trans {e : ParseFailure} (h : s.Reads read t) (h' : FailsAt t e u) : FailsAt s e u := by
  obtain ⟨more, hr, hx⟩ := h'
  refine ⟨_, h.trans hr, ?_⟩
  intro x he
  obtain ⟨htoken, hlast, hopening⟩ := hx x he
  refine ⟨htoken, ?_, ?_⟩
  · intro hf
    obtain ⟨w, hw, hk⟩ := hlast hf
    exact ⟨w, by rw [List.getLast?_append, hw, Option.some_or], hk⟩
  · intro closing opening hf
    obtain ⟨o, ho, hspan⟩ := hopening closing opening hf
    exact ⟨o, List.mem_append_right _ ho, hspan⟩

end FailsAt

/-! ### The readers -/

/-- What the readers of expressions do within a number of calls. -/
structure Reading (fixities : FixityTable) (n : Nat) : Prop where
  expression : ∀ s, s.Ends →
    (expressionWithin fixities n).Ensures (Answers s.startsFactor s (IsRead s)) (FailsAt s) s
  elements : ∀ s first m t, s.Ends → IsRead s first m →
    (t = m ∨ t = m.skipContinuation (·.isSymbol .comma)) →
    (elementsWithin fixities n).Ensures (AreRead s first) (FailsAt s) t
  binary : ∀ s band, s.Ends →
    (binaryWithin fixities n band).Ensures
      (Answers s.startsFactor s (IsOperand fixities band s)) (FailsAt s) s
  operations : ∀ s band before? left t, s.Ends → IsOperand fixities (band + 1) s left t →
    (operationsWithin fixities n band before? left).Ensures
      (IsOperand fixities band s) (FailsAt s) t
  application : ∀ s, s.Ends →
    (applicationWithin fixities n).Ensures (Answers s.startsFactor s (IsRead s)) (FailsAt s) s
  arguments : ∀ s callee t, s.Ends → IsRead s callee t →
    (argumentsWithin fixities n callee).Ensures (IsRead s) (FailsAt s) t
  factor : ∀ s, s.Ends →
    (factorWithin fixities n).Ensures (Answers s.startsFactor s (IsRead s)) (FailsAt s) s
  members : ∀ s value t, s.Ends → IsRead s value t →
    (membersWithin fixities n value).Ensures (IsRead s) (FailsAt s) t
  primary : ∀ s, s.Ends →
    (primaryWithin fixities n).Ensures
      (Answers s.current.kind.startsFactor s (IsRead s)) (FailsAt s) s
  round : ∀ s o t, s.Ends → s.Reads [o] t → o.kind = .symbol .openRound →
    (roundWithin fixities n o.span).Ensures (IsRead s) (FailsAt s) t
  curly : ∀ s o t, s.Ends → s.Reads [o] t → o.kind = .symbol .openCurly →
    (curlyWithin fixities n o.span).Ensures (IsRead s) (FailsAt s) t
  text : ∀ s first t, s.Ends → IsRead s first t →
    (textWithin fixities n first).Ensures (IsRead s) (FailsAt s) t
  segments : ∀ s first t, s.Ends → IsRead s first t →
    (segmentsWithin fixities n).Ensures (AreRead s first) (FailsAt s) t

namespace Reading

variable {fixities : FixityTable} {n : Nat}

/-- Where the elements of a sequence are read, the tokens since the first one are layout. -/
theorem exists_reads_separator {m t : TokenStream} (hm : m.Ends)
    (ht : t = m ∨ t = m.skipContinuation (·.isSymbol .comma)) :
    ∃ layout, m.Reads layout t ∧ Spells layout [] := by
  rcases ht with rfl | rfl
  · exact ⟨[], .refl _, .nil⟩
  · exact hm.exists_reads_skipContinuation _

theorem zero (fixities : FixityTable) : Reading fixities 0 where
  expression s _ := .endless (.refl s)
  elements s first m t hs hr ht := by
    obtain ⟨_, hown⟩ := hr.reads hs
    obtain ⟨_, hl, _⟩ := exists_reads_separator (hr.ends hs) ht
    exact .endless (hown.trans hl)
  binary s _ _ := .endless (.refl s)
  operations s _ _ _ t hs hr := .endless (hr.reads hs).choose_spec
  application s _ := .endless (.refl s)
  arguments s _ t hs hr := .endless (hr.reads hs).choose_spec
  factor s _ := .endless (.refl s)
  members s _ t hs hr := .endless (hr.reads hs).choose_spec
  primary s _ := .endless (.refl s)
  round s _ t _ ho _ := .endless ho
  curly s _ t _ ho _ := .endless ho
  text s _ t hs hr := .endless (hr.reads hs).choose_spec
  segments s _ t hs hr := .endless (hr.reads hs).choose_spec

variable (h : Reading fixities n)
include h

theorem expression_succ (s : TokenStream) (hs : s.Ends) :
    (expressionWithin fixities (n + 1)).Ensures
      (Answers s.startsFactor s (IsRead s)) (FailsAt s) s := by
  rw [expressionWithin, ensures_bind]
  refine (h.binary s 0 hs).mono ?_ fun _ _ => id
  rintro (_ | first) t ht
  · exact ht
  have hr := ht.2.isRead hs
  simp only [ensures_bind, ensures_skipContinuation, ensures_current, ensures_ite]
  constructor
  · intro _
    refine (h.elements s first t _ hs hr (.inr rfl)).mono ?_ fun _ _ => id
    intro rest u hu
    obtain ⟨_, hreads⟩ := hu.reads hs
    rw [cover, ensures_merge]
    exact ⟨fun _ => ⟨ht.1, hu⟩, fun _ => .disorder hreads _⟩
  · intro hc
    rw [Bool.not_eq_true] at hc
    rw [(hr.ends hs).skipContinuation_eq_self (p := (·.isSymbol .comma)) hc]
    exact ⟨ht.1, hr⟩

theorem elements_succ (s : TokenStream) (first : Expression) (m t : TokenStream) (hs : s.Ends)
    (hr : IsRead s first m) (ht : t = m ∨ t = m.skipContinuation (·.isSymbol .comma)) :
    (elementsWithin fixities (n + 1)).Ensures (AreRead s first) (FailsAt s) t := by
  have hm := hr.ends hs
  obtain ⟨own, hown⟩ := hr.reads hs
  obtain ⟨layout, hl, hlayout⟩ := exists_reads_separator hm ht
  rw [elementsWithin]
  simp only [ensures_bind, ensures_consume]
  constructor
  · intro hc
    have hcomma := (hl.ends hm).reads_advance (by simp [hc])
    have hcs : Spells [t.current] [] := .punctuation (by simp [hc, TokenKind.isPunctuation])
    have hsep := hl.trans hcomma
    have hpre := hown.trans hsep
    have hu := hsep.ends hm
    rw [if_pos trivial, ensures_bind]
    refine (h.binary _ 0 hu).mono ?_ fun _ _ => .trans hpre
    rintro (_ | element) v hv
    · obtain ⟨-, rfl⟩ := hv
      simp only [ensures_bind, ensures_expect]
      exact ⟨by simp, fun _ => .of_reads hpre (by decide)⟩
    have hv := hv.2.isRead hu
    simp only [ensures_bind, ensures_expect, ensures_skipContinuation]
    refine ⟨?_, by simp⟩
    rintro _ ⟨⟩
    refine (h.elements _ element v _ hu hv (.inr rfl)).mono ?_ fun _ _ => .trans hpre
    intro more w hw
    exact AreRead.cons hr hs hsep (hlayout.append hcs) hw
  · intro hc
    have htm : t = m := by
      rcases ht with rfl | rfl
      · rfl
      · exact hm.skipContinuation_eq_self (by simpa [TokenKind.isSymbol] using hc)
    subst htm
    exact hr.singleton

theorem binary_succ (s : TokenStream) (band : Nat) (hs : s.Ends) :
    (binaryWithin fixities (n + 1) band).Ensures
      (Answers s.startsFactor s (IsOperand fixities band s)) (FailsAt s) s := by
  rw [binaryWithin, ensures_ite]
  constructor
  · intro hband
    refine (h.application s hs).mono ?_ fun _ _ => id
    rintro (_ | e) t ht
    · exact ht
    refine ⟨ht.1, t, ht.2, .inl rfl, fun name _ => ?_⟩
    have := (fixities.get name).precedence.isLt
    rw [Fixity.maxPrecedence] at hband
    omega
  · intro hband
    rw [ensures_bind]
    refine (h.binary s (band + 1) hs).mono ?_ fun _ _ => id
    rintro (_ | left) t ht
    · exact ht
    rw [ensures_bind]
    exact (h.operations s band none left t hs ht.2).mono (fun e u hu => ⟨ht.1, hu⟩) fun _ _ => id

theorem operations_succ (s : TokenStream) (band : Nat) (before? : Option Associativity)
    (left : Expression) (t : TokenStream) (hs : s.Ends)
    (hr : IsOperand fixities (band + 1) s left t) :
    (operationsWithin fixities (n + 1) band before? left).Ensures
      (IsOperand fixities band s) (FailsAt s) t := by
  obtain ⟨m, layout, hm, hl, _⟩ := hr.exists_layout hs
  obtain ⟨own, hown⟩ := hm.reads hs
  have hve := hl.ends (hm.ends hs)
  rw [operationsWithin]
  simp only [ensures_bind, ensures_skipContinuation, ensures_current]
  split
  · next name hname =>
    rw [ensures_ite]
    constructor
    · intro hband
      have ho := hve.reads_advance (by simp [hname])
      have hoe := ho.ends hve
      have hpre := hown.trans (hl.trans ho)
      simp only [ensures_bind, ensures_require, ensures_advance]
      refine ⟨fun _ => ?_, fun _ => .of_reads (hown.trans hl) (by decide)⟩
      refine (h.binary _ _ hoe).mono ?_ fun _ _ => .trans hpre
      rintro (_ | right) w hw
      · obtain ⟨-, rfl⟩ := hw
        simp only [ensures_expect]
        exact ⟨by simp, fun _ => .of_reads hpre (by decide)⟩
      obtain ⟨own', hown'⟩ := hw.2.reads hoe
      simp only [ensures_expect, ensures_merge]
      refine ⟨?_, by simp⟩
      rintro _ ⟨⟩
      refine ⟨fun _ => ?_, fun _ => .disorder (hpre.trans hown') _⟩
      exact h.operations s band _ _ w hs (hr.operation hs rfl hname hband hw.2)
    · intro hband
      refine hr.loosen hs fun name' hname' => ?_
      obtain rfl : name = name' := by simpa [hname] using hname'
      exact hband
  · next hk => exact hr.loosen hs fun name hname => absurd hname (hk name)

theorem application_succ (s : TokenStream) (hs : s.Ends) :
    (applicationWithin fixities (n + 1)).Ensures
      (Answers s.startsFactor s (IsRead s)) (FailsAt s) s := by
  rw [applicationWithin, ensures_bind]
  refine (h.factor s hs).mono ?_ fun _ _ => id
  rintro (_ | callee) t ht
  · exact ht
  rw [ensures_bind]
  exact (h.arguments s callee t hs ht.2).mono (fun e u hu => ⟨ht.1, hu⟩) fun _ _ => id

theorem arguments_succ (s : TokenStream) (callee : Expression) (t : TokenStream) (hs : s.Ends)
    (hr : IsRead s callee t) :
    (argumentsWithin fixities (n + 1) callee).Ensures (IsRead s) (FailsAt s) t := by
  have ht := hr.ends hs
  obtain ⟨own, hown⟩ := hr.reads hs
  rw [argumentsWithin, ensures_ite]
  refine ⟨fun _ => ?_, fun _ => hr⟩
  rw [ensures_bind]
  refine (h.factor t ht).mono ?_ fun _ _ => .trans hown
  rintro (_ | argument) u hu
  · obtain ⟨-, rfl⟩ := hu
    exact hr
  obtain ⟨own', hown'⟩ := hu.2.reads ht
  simp only [ensures_bind, ensures_merge]
  refine ⟨fun _ => ?_, fun _ => .disorder (hown.trans hown') _⟩
  exact h.arguments s _ u hs (hr.application hs hu.2)

theorem factor_succ (s : TokenStream) (hs : s.Ends) :
    (factorWithin fixities (n + 1)).Ensures
      (Answers s.startsFactor s (IsRead s)) (FailsAt s) s := by
  obtain ⟨layout, hl, hlayout⟩ := hs.exists_reads_skipContinuation (·.startsFactor)
  have hidem := hs.skipContinuation_idem (·.startsFactor)
  rw [factorWithin]
  simp only [ensures_bind, ensures_skipContinuation]
  refine (h.primary _ (hl.ends hs)).mono ?_ fun _ _ => .trans hl
  rintro (_ | primary) t ⟨hk, ht⟩
  · exact ⟨hk, ht.trans (hs.skipContinuation_eq_self hk)⟩
  have hr : IsRead s primary t := by rwa [IsRead, ReadsAs, hidem] at ht
  rw [ensures_bind]
  exact (h.members s primary t hs hr).mono (fun e u hu => ⟨hk, hu⟩) fun _ _ => id

theorem members_succ (s : TokenStream) (value : Expression) (t : TokenStream) (hs : s.Ends)
    (hr : IsRead s value t) :
    (membersWithin fixities (n + 1) value).Ensures (IsRead s) (FailsAt s) t := by
  have ht := hr.ends hs
  obtain ⟨own, hown⟩ := hr.reads hs
  rw [membersWithin]
  simp only [ensures_bind, ensures_current, ensures_consume]
  refine ⟨?_, fun _ => hr⟩
  intro hdot
  have ho := ht.reads_advance (by simp [hdot])
  have hoe := ho.ends ht
  have hpre := hown.trans ho
  rw [if_pos trivial, ensures_bind, ensures_take]
  refine ⟨?_, fun _ => .of_reads hpre (by decide)⟩
  intro hk
  obtain ⟨name, hname⟩ := TokenKind.isIdentifier_iff.mp hk
  have hm := hoe.reads_advance (by simp [hname])
  rw [ensures_bind, ensures_merge]
  refine ⟨fun _ => ?_, fun _ => .disorder (hpre.trans hm) _⟩
  exact h.members s _ _ hs (hr.member hs ho hdot hm (by simp [hname, TokenKind.isContent]))

theorem primary_succ (s : TokenStream) (hs : s.Ends) :
    (primaryWithin fixities (n + 1)).Ensures
      (Answers s.current.kind.startsFactor s (IsRead s)) (FailsAt s) s := by
  rw [primaryWithin]
  simp only [ensures_bind, ensures_current]
  split
  -- An identifier, a number or a character is an expression by itself.
  iterate 3
    next hk =>
      have ho := hs.reads_advance (by simp [hk])
      have hr := IsRead.factor hs ho (by simp [hk, TokenKind.isContent])
      exact ⟨by simp [hk, TokenKind.startsFactor], hr⟩
  next content hk =>
    have ho := hs.reads_advance (by simp [hk])
    have hr := IsRead.factor hs ho (by simp [hk, TokenKind.isContent])
    simp only [ensures_bind, ensures_advance]
    refine (h.text s _ _ hs hr).mono ?_ fun _ _ => id
    exact fun e t ht => ⟨by simp [hk, TokenKind.startsFactor], ht⟩
  next hk =>
    have ho := hs.reads_advance (by simp [hk])
    simp only [ensures_bind, ensures_advance]
    refine (h.round s _ _ hs ho hk).mono ?_ fun _ _ => id
    exact fun e t ht => ⟨by simp [hk, TokenKind.startsFactor], ht⟩
  next hk =>
    have ho := hs.reads_advance (by simp [hk])
    simp only [ensures_bind, ensures_advance]
    refine (h.curly s _ _ hs ho hk).mono ?_ fun _ _ => id
    exact fun e t ht => ⟨by simp [hk, TokenKind.startsFactor], ht⟩
  next =>
    refine ⟨?_, rfl⟩
    cases hk : s.current.kind <;> simp_all [TokenKind.startsFactor]

theorem round_succ (s : TokenStream) (o : Token) (t : TokenStream) (hs : s.Ends)
    (ho : s.Reads [o] t) (hk : o.kind = .symbol .openRound) :
    (roundWithin fixities (n + 1) o.span).Ensures (IsRead s) (FailsAt s) t := by
  have ht := ho.ends hs
  have hob : o.kind.isBracket := by rw [hk]; rfl
  rw [roundWithin]
  simp only [ensures_bind, ensures_current, ensures_consume]
  constructor
  · intro hc
    have hclose := ht.reads_advance (by simp [hc])
    rw [if_pos trivial, ensures_bind, ensures_merge]
    exact ⟨fun _ => ho.enclosed hs hob (.refl t) .nil hclose (by rw [hc]; rfl),
      fun _ => .disorder (ho.trans hclose) _⟩
  · intro _
    simp only [if_neg Bool.false_ne_true, ensures_bind]
    refine (h.expression t ht).mono ?_ fun _ _ => .trans ho
    rintro (_ | inner) u hu
    · obtain ⟨-, rfl⟩ := hu
      simp only [ensures_expect]
      exact ⟨by simp, fun _ => .of_reads ho (by decide)⟩
    obtain ⟨mid, hmid, hspells⟩ := hu.2.exists_spells ht
    have hpre := ho.trans hmid
    simp only [ensures_expect, ensures_take]
    refine ⟨?_, by simp⟩
    rintro _ ⟨⟩
    refine ⟨?_, fun _ => .unclosed hpre List.mem_cons_self .closeRound⟩
    intro hc
    rw [TokenKind.isSymbol_iff] at hc
    have hclose := (hmid.ends ht).reads_advance (by simp [hc])
    rw [ensures_merge]
    refine ⟨fun _ => ?_, fun _ => .disorder (hpre.trans hclose) _⟩
    have henclosed := ho.enclosed hs hob hmid hspells hclose (by rw [hc]; rfl)
    simpa [IsRead] using henclosed

omit h in
/-- The closing bracket behind the elements of a list. -/
theorem closeCurly {s t u : TokenStream} {o : Token} {mid : List Token} {es : List Expression}
    {fault : SyntaxFault} (hs : s.Ends) (ho : s.Reads [o] t) (hk : o.kind = .symbol .openCurly)
    (hmid : t.Reads mid u) (hspells : Spells mid (Expression.tokensOfAll es))
    (hfault : FailsAt s (.error ⟨fault, u.current⟩) u) :
    (take (·.isSymbol .closeCurly) fault).Ensures
      (fun closing => (merge o.span closing.span).Ensures
        (fun span => IsRead s (.list es span)) (FailsAt s)) (FailsAt s) u := by
  have hpre := ho.trans hmid
  rw [ensures_take]
  refine ⟨?_, fun _ => hfault⟩
  intro hc
  rw [TokenKind.isSymbol_iff] at hc
  have hclose := (hpre.ends hs).reads_advance (by simp [hc])
  rw [ensures_merge]
  exact ⟨fun _ => ho.enclosed hs (by rw [hk]; rfl) hmid hspells hclose (by rw [hc]; rfl),
    fun _ => .disorder (hpre.trans hclose) _⟩

theorem curly_succ (s : TokenStream) (o : Token) (t : TokenStream) (hs : s.Ends)
    (ho : s.Reads [o] t) (hk : o.kind = .symbol .openCurly) :
    (curlyWithin fixities (n + 1) o.span).Ensures (IsRead s) (FailsAt s) t := by
  have ht := ho.ends hs
  rw [curlyWithin, ensures_bind]
  refine (h.binary t 0 ht).mono ?_ fun _ _ => .trans ho
  rintro (_ | first) u hu
  · obtain ⟨-, rfl⟩ := hu
    simp only [ensures_bind, ensures_pure]
    exact closeCurly hs ho hk (.refl u) .nil (.of_reads ho (by decide))
  have hr := hu.2.isRead ht
  simp only [ensures_bind, ensures_pure]
  refine (h.elements t first u u ht hr (.inl rfl)).mono ?_ fun _ _ => .trans ho
  intro rest v hv
  obtain ⟨mid, hmid, hspells⟩ := ReadsAs.exists_spells hv ht
  exact closeCurly hs ho hk hmid hspells
    (.unclosed (ho.trans hmid) List.mem_cons_self .closeCurly)

theorem text_succ (s : TokenStream) (first : Expression) (t : TokenStream) (hs : s.Ends)
    (hr : IsRead s first t) :
    (textWithin fixities (n + 1) first).Ensures (IsRead s) (FailsAt s) t := by
  rw [textWithin]
  simp only [ensures_bind, ensures_current, ensures_ite]
  refine ⟨fun _ => ?_, fun _ => hr⟩
  refine (h.segments s first t hs hr).mono ?_ fun _ _ => id
  intro rest u hu
  obtain ⟨_, hreads⟩ := hu.reads hs
  rw [cover, ensures_merge]
  exact ⟨fun _ => hu, fun _ => .disorder hreads _⟩

theorem segments_succ (s : TokenStream) (first : Expression) (t : TokenStream) (hs : s.Ends)
    (hr : IsRead s first t) :
    (segmentsWithin fixities (n + 1)).Ensures (AreRead s first) (FailsAt s) t := by
  have ht := hr.ends hs
  obtain ⟨own, hown⟩ := hr.reads hs
  rw [segmentsWithin]
  simp only [ensures_bind, ensures_consume]
  refine ⟨?_, fun _ => hr.singleton⟩
  intro hopen
  have ho := ht.reads_advance (by simp [hopen])
  have hos : Spells [t.current] [] := .punctuation (by simp [hopen, TokenKind.isPunctuation])
  have hoe := ho.ends ht
  rw [if_pos trivial, ensures_bind]
  refine (h.expression _ hoe).mono ?_ fun _ _ => .trans (hown.trans ho)
  rintro (_ | value) u hu
  · obtain ⟨-, rfl⟩ := hu
    simp only [ensures_bind, ensures_expect]
    exact ⟨by simp, fun _ => .of_reads (hown.trans ho) (by decide)⟩
  have hvalue := hu.2
  have hue := hvalue.ends hoe
  obtain ⟨read, hread⟩ := hvalue.reads hoe
  have hpre := (hown.trans ho).trans hread
  simp only [ensures_bind, ensures_expect, ensures_take]
  refine ⟨?_, by simp⟩
  rintro _ ⟨⟩
  refine ⟨?_, fun _ => .trans (hown.trans ho) (.of_isRead hvalue hoe)⟩
  intro hclose
  rw [TokenKind.isSymbol_iff] at hclose
  have hc := hue.reads_advance (by simp [hclose])
  have hcs : Spells [u.current] [] := .punctuation (by simp [hclose, TokenKind.isPunctuation])
  have hce := hc.ends hue
  refine ⟨fun htext => ?_, fun htext => .trans hpre ⟨_, hc, ?_⟩⟩
  · obtain ⟨content, hcontent⟩ := TokenKind.isText_iff.mp htext
    have hx := hce.reads_advance (by simp [hcontent])
    have hsegment := IsRead.factor hce hx (by simp [hcontent, TokenKind.isContent])
    refine (h.segments _ _ _ hce hsegment).mono ?_ fun _ _ => .trans (hpre.trans hc)
    intro rest v hv
    exact AreRead.cons hr hs ho hos (AreRead.cons hvalue hoe hc hcs hv)
  · rintro _ ⟨⟩
    exact ⟨rfl, fun _ => ⟨_, rfl, fun _ => htext⟩, fun _ _ hf => by cases hf⟩

end Reading

/-- The readers of expressions read what they give, within any number of calls. -/
theorem reading (fixities : FixityTable) : ∀ n, Reading fixities n
  | 0     => .zero fixities
  | n + 1 =>
    have h := reading fixities n
    { expression := h.expression_succ
      elements := h.elements_succ
      binary := h.binary_succ
      operations := h.operations_succ
      application := h.application_succ
      arguments := h.arguments_succ
      factor := h.factor_succ
      members := h.members_succ
      primary := h.primary_succ
      round := h.round_succ
      curly := h.curly_succ
      text := h.text_succ
      segments := h.segments_succ }

end Parser

end Frontend
