import Frontend.Proofs.Grammar.Yield
import Frontend.Proofs.Source.Order

/-!
# Reading expressions comes to an end

On tokens that are in order and that have an end of input, a reader of expressions finishes with a
value or with a fault at a token: the spans that it merges are in order, and it is not short of
calls. Each call spends one of the calls that are left, and there is a token for every sixteen
calls, which is enough to pass the ten bands and what is around them.
-/

namespace Frontend

/-! ### Streams in order -/

namespace TokenStream

variable {s t : TokenStream} {read content : List Token} {span : Span}

/-- The tokens ahead are in order, and the end of input is among them. -/
structure Orderly (s : TokenStream) : Prop where
  ends : s.Ends
  inOrder : Token.InOrder s.ahead

theorem Reads.orderly (h : s.Reads read t) (hs : s.Orderly) : t.Orderly where
  ends := h.ends hs.ends
  inOrder := (h.ahead ▸ hs.inOrder).of_append

theorem Ends.length_pos (h : s.Ends) : 0 < s.ahead.length := by
  obtain ⟨t, ht, _⟩ := h
  exact List.length_pos_of_mem ht

theorem Reads.length_le (h : s.Reads read t) : t.ahead.length ≤ s.ahead.length := by
  have := h.length
  omega

theorem Reads.length_succ {o : Token} (h : s.Reads [o] t) :
    s.ahead.length = t.ahead.length + 1 := by
  rw [h.length, List.length_singleton, Nat.add_comm]

/-- An expression takes up at least one token. -/
theorem ReadsAs.length_lt (h : s.ReadsAs content span t) (hs : s.Ends) :
    t.ahead.length < s.ahead.length := by
  obtain ⟨own, hr, hc⟩ := h
  obtain ⟨layout, hl, _⟩ := hs.exists_reads_skipContinuation (·.startsFactor)
  have hpos := List.length_pos_of_ne_nil hc.ne_nil
  have := (hl.trans hr).length
  rw [List.length_append] at this
  omega

/-- The span of what is read from tokens in order does not start behind its own end. -/
theorem ReadsAs.start_le_stop (h : s.ReadsAs content span t) (hs : s.Orderly) :
    span.start ≤ span.stop := by
  obtain ⟨own, hr, hc⟩ := h
  obtain ⟨layout, hl, _⟩ := hs.ends.exists_reads_skipContinuation (·.startsFactor)
  have ho := (hl.orderly hs).inOrder
  rw [hr.ahead] at ho
  obtain ⟨first, rest, rfl⟩ := List.exists_cons_of_ne_nil hc.ne_nil
  obtain ⟨last, hlast, hstop, _⟩ := hc.exists_last
  have hfirst : first.span.start = span.start := by simpa using hc.start_eq
  have hmem : last ∈ first :: rest := List.mem_of_getLast? hlast
  have hle := ho.start_le (List.mem_append_left t.ahead hmem)
  have hspan := ho.spans last (List.mem_append_left t.ahead hmem)
  rw [← hfirst, ← hstop]
  exact Position.le_trans hle hspan

end TokenStream

/-! ### Parsers that finish -/

/-- Something is wrong at a token: neither are spans out of order, nor does the reading go on for
ever. -/
def ParseFailure.IsFault : ParseFailure → Prop
  | .error _    => True
  | .disorder _ => False
  | .endless    => False

namespace Parser

open TokenStream (Orderly)

variable {α : Type} {p : Parser α} {Q : α → TokenStream → Prop}
  {E : ParseFailure → TokenStream → Prop} {s t : TokenStream} {fixities : FixityTable}
  {band : Nat}

/-- The parser ends with a value or with a fault at a token. -/
def Finishes (p : Parser α) (s : TokenStream) : Prop :=
  p.Ensures (fun _ _ => True) (fun e _ => e.IsFault) s

/-- What is known of the values that a parser gives remains so when it is known to finish. -/
theorem Finishes.and_ensures (h : p.Finishes s) (hp : p.Ensures Q E s) :
    p.Ensures Q (fun e _ => e.IsFault) s :=
  (h.and hp).mono (fun _ _ ht => ht.2) fun _ _ he => he.1

theorem IsOperand.length_lt {e : Expression} (h : IsOperand fixities band s e t) (hs : s.Ends) :
    t.ahead.length < s.ahead.length := by
  obtain ⟨m, hm, ht, _⟩ := h
  have hlt := hm.length_lt hs
  rcases ht with rfl | rfl
  · exact hlt
  · obtain ⟨layout, hl, _⟩ := (hm.ends hs).exists_reads_skipContinuation (·.isOperator)
    exact Nat.lt_of_le_of_lt hl.length_le hlt

theorem IsOperand.start_le_stop {e : Expression} (h : IsOperand fixities band s e t)
    (hs : s.Orderly) : e.span.start ≤ e.span.stop := by
  obtain ⟨m, hm, _⟩ := h
  exact hm.start_le_stop hs

/-! ### The readers -/

/-- What the readers of expressions need to finish: calls for each of the tokens ahead, and more
the further they are from a step to the next token. -/
structure Finishing (fixities : FixityTable) (n : Nat) : Prop where
  expression : ∀ s : TokenStream, s.Orderly → 16 * s.ahead.length + 14 ≤ n →
    (expressionWithin fixities n).Finishes s
  elements : ∀ s : TokenStream, s.Orderly → 16 * s.ahead.length ≤ n →
    (elementsWithin fixities n).Finishes s
  binary : ∀ (s : TokenStream) (band : Nat), s.Orderly → band ≤ 10 →
    16 * s.ahead.length + 13 ≤ n + band → (binaryWithin fixities n band).Finishes s
  operations : ∀ s band before? left t, s.Orderly → IsOperand fixities (band + 1) s left t →
    16 * t.ahead.length ≤ n → (operationsWithin fixities n band before? left).Finishes t
  application : ∀ s : TokenStream, s.Orderly → 16 * s.ahead.length + 2 ≤ n →
    (applicationWithin fixities n).Finishes s
  arguments : ∀ s callee t, s.Orderly → IsRead s callee t → 16 * t.ahead.length + 2 ≤ n →
    (argumentsWithin fixities n callee).Finishes t
  factor : ∀ s : TokenStream, s.Orderly → 16 * s.ahead.length + 1 ≤ n →
    (factorWithin fixities n).Finishes s
  members : ∀ s value t, s.Orderly → IsRead s value t → 16 * t.ahead.length ≤ n →
    (membersWithin fixities n value).Finishes t
  primary : ∀ s : TokenStream, s.Orderly → 16 * s.ahead.length ≤ n →
    (primaryWithin fixities n).Finishes s
  round : ∀ (s : TokenStream) (o : Token) (t : TokenStream), s.Orderly → s.Reads [o] t →
    o.kind = .symbol .openRound → 16 * t.ahead.length + 15 ≤ n →
    (roundWithin fixities n o.span).Finishes t
  curly : ∀ (s : TokenStream) (o : Token) (t : TokenStream), s.Orderly → s.Reads [o] t →
    o.kind = .symbol .openCurly → 16 * t.ahead.length + 14 ≤ n →
    (curlyWithin fixities n o.span).Finishes t
  text : ∀ s first t, s.Orderly → IsRead s first t → 16 * t.ahead.length + 1 ≤ n →
    (textWithin fixities n first).Finishes t
  segments : ∀ s : TokenStream, s.Orderly → 16 * s.ahead.length ≤ n →
    (segmentsWithin fixities n).Finishes s

namespace Finishing

variable {n : Nat}

theorem zero (fixities : FixityTable) : Finishing fixities 0 where
  expression s hs hn := absurd hs.ends.length_pos (by omega)
  elements s hs hn := absurd hs.ends.length_pos (by omega)
  binary s band hs hb hn := absurd hs.ends.length_pos (by omega)
  operations s _ _ _ t hs hr hn := by
    obtain ⟨_, hreads⟩ := hr.reads hs.ends
    exact absurd (hreads.ends hs.ends).length_pos (by omega)
  application s hs hn := absurd hs.ends.length_pos (by omega)
  arguments s _ t hs hr hn := absurd (hr.ends hs.ends).length_pos (by omega)
  factor s hs hn := absurd hs.ends.length_pos (by omega)
  members s _ t hs hr hn := absurd (hr.ends hs.ends).length_pos (by omega)
  primary s hs hn := absurd hs.ends.length_pos (by omega)
  round s o t hs ho _ hn := absurd (ho.ends hs.ends).length_pos (by omega)
  curly s o t hs ho _ hn := absurd (ho.ends hs.ends).length_pos (by omega)
  text s _ t hs hr hn := absurd (hr.ends hs.ends).length_pos (by omega)
  segments s hs hn := absurd hs.ends.length_pos (by omega)

variable (h : Finishing fixities n)
include h

theorem expression_succ (s : TokenStream) (hs : s.Orderly)
    (hn : 16 * s.ahead.length + 14 ≤ n + 1) : (expressionWithin fixities (n + 1)).Finishes s := by
  have hr := reading fixities n
  have hbinary := h.binary s 0 hs (by omega) (by omega)
  rw [expressionWithin, Finishes, ensures_bind]
  refine (hbinary.and_ensures (hr.binary s 0 hs.ends)).mono ?_ fun _ _ => id
  rintro (_ | first) t ht
  · trivial
  have hfirst := ht.2.isRead hs.ends
  have hlt := hfirst.length_lt hs.ends
  obtain ⟨own, hown⟩ := hfirst.reads hs.ends
  obtain ⟨layout, hl, _⟩ := (hown.ends hs.ends).exists_reads_skipContinuation (·.isSymbol .comma)
  have hle := hl.length_le
  have helements := h.elements _ ((hown.trans hl).orderly hs) (by omega)
  simp only [ensures_bind, ensures_skipContinuation, ensures_current, ensures_ite]
  refine ⟨fun _ => ?_, fun _ => trivial⟩
  refine (helements.and_ensures (hr.elements s first t _ hs.ends hfirst (.inr rfl))).mono ?_
    fun _ _ => id
  intro rest u hu
  rw [cover, ensures_merge]
  exact ⟨fun _ => trivial, fun hc => absurd (hu.start_le_stop hs) hc⟩

theorem elements_succ (s : TokenStream) (hs : s.Orderly) (hn : 16 * s.ahead.length ≤ n + 1) :
    (elementsWithin fixities (n + 1)).Finishes s := by
  have hr := reading fixities n
  rw [elementsWithin, Finishes]
  simp only [ensures_bind, ensures_consume]
  refine ⟨?_, fun _ => trivial⟩
  intro hc
  have hcomma := hs.ends.reads_advance (by simp [hc])
  have hlen := hcomma.length_succ
  have ht := hcomma.orderly hs
  have hbinary := h.binary _ 0 ht (by omega) (by omega)
  rw [if_pos trivial, ensures_bind]
  refine (hbinary.and_ensures (hr.binary _ 0 ht.ends)).mono ?_ fun _ _ => id
  rintro (_ | element) u hu
  · simp only [ensures_bind, ensures_expect]
    exact ⟨by simp, fun _ => trivial⟩
  have helement := hu.2.isRead ht.ends
  have hlt := helement.length_lt ht.ends
  obtain ⟨own, hown⟩ := helement.reads ht.ends
  obtain ⟨layout, hl, _⟩ := (hown.ends ht.ends).exists_reads_skipContinuation (·.isSymbol .comma)
  have hle := hl.length_le
  simp only [ensures_bind, ensures_expect, ensures_skipContinuation]
  refine ⟨?_, by simp⟩
  rintro _ ⟨⟩
  exact h.elements _ ((hown.trans hl).orderly ht) (by omega)

theorem binary_succ (s : TokenStream) (band : Nat) (hs : s.Orderly) (hb : band ≤ 10)
    (hn : 16 * s.ahead.length + 13 ≤ n + 1 + band) :
    (binaryWithin fixities (n + 1) band).Finishes s := by
  have hr := reading fixities n
  rw [binaryWithin, Finishes, ensures_ite]
  refine ⟨fun _ => h.application s hs (by omega), ?_⟩
  intro hband
  rw [Fixity.maxPrecedence] at hband
  have hbinary := h.binary s (band + 1) hs (by omega) (by omega)
  rw [ensures_bind]
  refine (hbinary.and_ensures (hr.binary s (band + 1) hs.ends)).mono ?_ fun _ _ => id
  rintro (_ | left) t ht
  · trivial
  have hlt := ht.2.length_lt hs.ends
  rw [ensures_bind]
  exact h.operations s band none left t hs ht.2 (by omega)

theorem operations_succ (s : TokenStream) (band : Nat) (before? : Option Associativity)
    (left : Expression) (t : TokenStream) (hs : s.Orderly)
    (hleft : IsOperand fixities (band + 1) s left t) (hn : 16 * t.ahead.length ≤ n + 1) :
    (operationsWithin fixities (n + 1) band before? left).Finishes t := by
  have hr := reading fixities n
  obtain ⟨own, hown⟩ := hleft.reads hs.ends
  have ht := hown.orderly hs
  obtain ⟨layout, hl, _⟩ := ht.ends.exists_reads_skipContinuation (·.isOperator)
  have hle := hl.length_le
  rw [operationsWithin, Finishes]
  simp only [ensures_bind, ensures_skipContinuation, ensures_current]
  split
  · next name hname =>
    rw [ensures_ite]
    refine ⟨?_, fun _ => trivial⟩
    intro hband
    have ho := (hl.ends ht.ends).reads_advance (by simp [hname])
    have hlen := ho.length_succ
    have hu := ho.orderly (hl.orderly ht)
    have hright := Fixity.rightBand_le (fixities.get name)
    have hprecedence := (fixities.get name).precedence.isLt
    have hbinary := h.binary _ (fixities.get name).rightBand hu (by omega) (by omega)
    simp only [ensures_bind, ensures_require, ensures_advance]
    refine ⟨fun _ => ?_, fun _ => trivial⟩
    refine (hbinary.and_ensures (hr.binary _ _ hu.ends)).mono ?_ fun _ _ => id
    rintro (_ | right) w hw
    · simp only [ensures_expect]
      exact ⟨by simp, fun _ => trivial⟩
    have hlt := hw.2.length_lt hu.ends
    have hoperation := hleft.operation hs.ends rfl hname hband hw.2
    simp only [ensures_expect, ensures_merge]
    refine ⟨?_, by simp⟩
    rintro _ ⟨⟩
    refine ⟨fun _ => ?_, fun hc => absurd (hoperation.start_le_stop hs) hc⟩
    exact h.operations s band _ _ w hs hoperation (by omega)
  · trivial

theorem application_succ (s : TokenStream) (hs : s.Orderly)
    (hn : 16 * s.ahead.length + 2 ≤ n + 1) : (applicationWithin fixities (n + 1)).Finishes s := by
  have hfactor := h.factor s hs (by omega)
  rw [applicationWithin, Finishes, ensures_bind]
  refine (hfactor.and_ensures ((reading fixities n).factor s hs.ends)).mono ?_ fun _ _ => id
  rintro (_ | callee) t ht
  · trivial
  have hlt := ht.2.length_lt hs.ends
  rw [ensures_bind]
  exact h.arguments s callee t hs ht.2 (by omega)

theorem arguments_succ (s : TokenStream) (callee : Expression) (t : TokenStream) (hs : s.Orderly)
    (hcallee : IsRead s callee t) (hn : 16 * t.ahead.length + 2 ≤ n + 1) :
    (argumentsWithin fixities (n + 1) callee).Finishes t := by
  obtain ⟨own, hown⟩ := hcallee.reads hs.ends
  have ht := hown.orderly hs
  have hfactor := h.factor t ht (by omega)
  rw [argumentsWithin, Finishes, ensures_ite]
  refine ⟨fun _ => ?_, fun _ => trivial⟩
  rw [ensures_bind]
  refine (hfactor.and_ensures ((reading fixities n).factor t ht.ends)).mono ?_ fun _ _ => id
  rintro (_ | argument) u hu
  · trivial
  have hlt := hu.2.length_lt ht.ends
  have happlication := hcallee.application hs.ends hu.2
  simp only [ensures_bind, ensures_merge]
  refine ⟨fun _ => ?_, fun hc => absurd (happlication.start_le_stop hs) hc⟩
  exact h.arguments s _ u hs happlication (by omega)

theorem factor_succ (s : TokenStream) (hs : s.Orderly) (hn : 16 * s.ahead.length + 1 ≤ n + 1) :
    (factorWithin fixities (n + 1)).Finishes s := by
  obtain ⟨layout, hl, _⟩ := hs.ends.exists_reads_skipContinuation (·.startsFactor)
  have hle := hl.length_le
  have ht := hl.orderly hs
  have hprimary := h.primary _ ht (by omega)
  rw [factorWithin, Finishes]
  simp only [ensures_bind, ensures_skipContinuation]
  refine (hprimary.and_ensures ((reading fixities n).primary _ ht.ends)).mono ?_ fun _ _ => id
  rintro (_ | primary) u hu
  · trivial
  have hlt := hu.2.length_lt ht.ends
  rw [ensures_bind]
  exact h.members _ primary u ht hu.2 (by omega)

theorem members_succ (s : TokenStream) (value : Expression) (t : TokenStream) (hs : s.Orderly)
    (hvalue : IsRead s value t) (hn : 16 * t.ahead.length ≤ n + 1) :
    (membersWithin fixities (n + 1) value).Finishes t := by
  have ht := hvalue.ends hs.ends
  rw [membersWithin, Finishes]
  simp only [ensures_bind, ensures_current, ensures_consume]
  refine ⟨?_, fun _ => trivial⟩
  intro hdot
  have ho := ht.reads_advance (by simp [hdot])
  have hoe := ho.ends ht
  rw [if_pos trivial, ensures_bind, ensures_take]
  refine ⟨?_, fun _ => trivial⟩
  intro hk
  obtain ⟨name, hname⟩ := TokenKind.isIdentifier_iff.mp hk
  have hm := hoe.reads_advance (by simp [hname])
  have hlen := ho.length_succ
  have hlen' := hm.length_succ
  have hmember := hvalue.member hs.ends ho hdot hm (by simp [hname, TokenKind.isContent])
  rw [ensures_bind, ensures_merge]
  refine ⟨fun _ => ?_, fun hc => absurd (hmember.start_le_stop hs) hc⟩
  exact h.members s _ _ hs hmember (by omega)

theorem primary_succ (s : TokenStream) (hs : s.Orderly) (hn : 16 * s.ahead.length ≤ n + 1) :
    (primaryWithin fixities (n + 1)).Finishes s := by
  rw [primaryWithin, Finishes]
  simp only [ensures_bind, ensures_current]
  split
  iterate 3 exact trivial
  next content hk =>
    have ho := hs.ends.reads_advance (by simp [hk])
    have hlen := ho.length_succ
    have hfirst := IsRead.factor hs.ends ho (by simp [hk, TokenKind.isContent])
    have htext := h.text s _ _ hs hfirst (by omega)
    simp only [ensures_bind, ensures_advance]
    exact htext
  next hk =>
    have ho := hs.ends.reads_advance (by simp [hk])
    have hlen := ho.length_succ
    simp only [ensures_bind, ensures_advance]
    exact h.round s _ _ hs ho hk (by omega)
  next hk =>
    have ho := hs.ends.reads_advance (by simp [hk])
    have hlen := ho.length_succ
    simp only [ensures_bind, ensures_advance]
    exact h.curly s _ _ hs ho hk (by omega)
  next => trivial

theorem round_succ (s : TokenStream) (o : Token) (t : TokenStream) (hs : s.Orderly)
    (ho : s.Reads [o] t) (hk : o.kind = .symbol .openRound)
    (hn : 16 * t.ahead.length + 15 ≤ n + 1) : (roundWithin fixities (n + 1) o.span).Finishes t := by
  have ht := ho.orderly hs
  have hob : o.kind.isBracket := by rw [hk]; rfl
  rw [roundWithin, Finishes]
  simp only [ensures_bind, ensures_current, ensures_consume]
  constructor
  · intro hc
    have hclose := ht.ends.reads_advance (by simp [hc])
    have hempty := ho.enclosed hs.ends hob (.refl t) .nil hclose (by rw [hc]; rfl)
    rw [if_pos trivial, ensures_bind, ensures_merge]
    exact ⟨fun _ => trivial, fun hm => absurd (hempty.start_le_stop hs) hm⟩
  · intro _
    have hexpression := h.expression t ht (by omega)
    simp only [if_neg Bool.false_ne_true, ensures_bind]
    refine (hexpression.and_ensures ((reading fixities n).expression t ht.ends)).mono ?_
      fun _ _ => id
    rintro (_ | inner) u hu
    · simp only [ensures_expect]
      exact ⟨by simp, fun _ => trivial⟩
    obtain ⟨mid, hmid, hspells⟩ := hu.2.exists_spells ht.ends
    simp only [ensures_expect, ensures_take]
    refine ⟨?_, by simp⟩
    rintro _ ⟨⟩
    refine ⟨?_, fun _ => trivial⟩
    intro hc
    rw [TokenKind.isSymbol_iff] at hc
    have hclose := (hmid.ends ht.ends).reads_advance (by simp [hc])
    have henclosed := ho.enclosed hs.ends hob hmid hspells hclose (by rw [hc]; rfl)
    rw [ensures_merge]
    exact ⟨fun _ => trivial, fun hm => absurd (henclosed.start_le_stop hs) hm⟩

omit h in
/-- The closing bracket behind the elements of a list. -/
theorem closeCurly {s t u : TokenStream} {o : Token} {mid content : List Token}
    (fault : SyntaxFault) (hs : s.Orderly) (ho : s.Reads [o] t)
    (hk : o.kind = .symbol .openCurly) (hmid : t.Reads mid u) (hspells : Spells mid content) :
    (take (·.isSymbol .closeCurly) fault).Ensures
      (fun closing => (merge o.span closing.span).Ensures
        (fun _ _ => True) (fun e _ => e.IsFault)) (fun e _ => e.IsFault) u := by
  rw [ensures_take]
  refine ⟨?_, fun _ => trivial⟩
  intro hc
  rw [TokenKind.isSymbol_iff] at hc
  have hclose := ((ho.trans hmid).ends hs.ends).reads_advance (by simp [hc])
  have henclosed :=
    ho.enclosed hs.ends (by rw [hk]; rfl) hmid hspells hclose (by rw [hc]; rfl)
  rw [ensures_merge]
  exact ⟨fun _ => trivial, fun hm => absurd (henclosed.start_le_stop hs) hm⟩

theorem curly_succ (s : TokenStream) (o : Token) (t : TokenStream) (hs : s.Orderly)
    (ho : s.Reads [o] t) (hk : o.kind = .symbol .openCurly)
    (hn : 16 * t.ahead.length + 14 ≤ n + 1) : (curlyWithin fixities (n + 1) o.span).Finishes t := by
  have hr := reading fixities n
  have ht := ho.orderly hs
  have hbinary := h.binary t 0 ht (by omega) (by omega)
  rw [curlyWithin, Finishes, ensures_bind]
  refine (hbinary.and_ensures (hr.binary t 0 ht.ends)).mono ?_ fun _ _ => id
  rintro (_ | first) u hu
  · obtain ⟨-, rfl⟩ := hu
    simp only [ensures_bind, ensures_pure]
    exact closeCurly _ hs ho hk (.refl u) .nil
  have hfirst := hu.2.isRead ht.ends
  have hlt := hfirst.length_lt ht.ends
  obtain ⟨own, hown⟩ := hfirst.reads ht.ends
  have helements := h.elements u (hown.orderly ht) (by omega)
  simp only [ensures_bind, ensures_pure]
  refine (helements.and_ensures (hr.elements t first u u ht.ends hfirst (.inl rfl))).mono ?_
    fun _ _ => id
  intro rest v hv
  obtain ⟨mid, hmid, hspells⟩ := hv.exists_spells ht.ends
  exact closeCurly _ hs ho hk hmid hspells

theorem text_succ (s : TokenStream) (first : Expression) (t : TokenStream) (hs : s.Orderly)
    (hfirst : IsRead s first t) (hn : 16 * t.ahead.length + 1 ≤ n + 1) :
    (textWithin fixities (n + 1) first).Finishes t := by
  obtain ⟨own, hown⟩ := hfirst.reads hs.ends
  have hsegments := h.segments t (hown.orderly hs) (by omega)
  rw [textWithin, Finishes]
  simp only [ensures_bind, ensures_current, ensures_ite]
  refine ⟨fun _ => ?_, fun _ => trivial⟩
  refine (hsegments.and_ensures ((reading fixities n).segments s first t hs.ends hfirst)).mono ?_
    fun _ _ => id
  intro rest u hu
  rw [cover, ensures_merge]
  exact ⟨fun _ => trivial, fun hc => absurd (hu.start_le_stop hs) hc⟩

theorem segments_succ (s : TokenStream) (hs : s.Orderly) (hn : 16 * s.ahead.length ≤ n + 1) :
    (segmentsWithin fixities (n + 1)).Finishes s := by
  rw [segmentsWithin, Finishes]
  simp only [ensures_bind, ensures_consume]
  refine ⟨?_, fun _ => trivial⟩
  intro hopen
  have ho := hs.ends.reads_advance (by simp [hopen])
  have hlen := ho.length_succ
  have ht := ho.orderly hs
  have hexpression := h.expression _ ht (by omega)
  rw [if_pos trivial, ensures_bind]
  refine (hexpression.and_ensures ((reading fixities n).expression _ ht.ends)).mono ?_ fun _ _ => id
  rintro (_ | value) u hu
  · simp only [ensures_bind, ensures_expect]
    exact ⟨by simp, fun _ => trivial⟩
  obtain ⟨read, hread⟩ := hu.2.reads ht.ends
  have hlt := hu.2.length_lt ht.ends
  have hue := hread.orderly ht
  simp only [ensures_bind, ensures_expect, ensures_take]
  refine ⟨?_, by simp⟩
  rintro _ ⟨⟩
  refine ⟨?_, fun _ => trivial⟩
  intro hclose
  rw [TokenKind.isSymbol_iff] at hclose
  have hc := hue.ends.reads_advance (by simp [hclose])
  have hce := hc.orderly hue
  have hlen' := hc.length_succ
  refine ⟨?_, fun _ => trivial⟩
  intro htext
  obtain ⟨content, hcontent⟩ := TokenKind.isText_iff.mp htext
  have hx := hce.ends.reads_advance (by simp [hcontent])
  have hlen'' := hx.length_succ
  refine (h.segments _ (hx.orderly hce) (by omega)).mono (fun _ _ _ => trivial) fun _ _ => id

end Finishing

/-- The readers of expressions finish within the calls that they need. -/
theorem finishing (fixities : FixityTable) : ∀ n, Finishing fixities n
  | 0     => .zero fixities
  | n + 1 =>
    have h := finishing fixities n
    { expression := h.expression_succ
      elements := h.elements_succ
      binary := h.binary_succ
      operations := h.operations_succ
      application := h.application_succ
      arguments := h.arguments_succ
      factor := h.factor_succ
      members := h.members_succ
      primary := h.primary_succ
      round := h.round_succ
      curly := h.curly_succ
      text := h.text_succ
      segments := h.segments_succ }

/-! ### Whole streams -/

theorem lineBreaks_finishes (n : Nat) {s : TokenStream} (hs : s.Ends) (hn : s.ahead.length ≤ n) :
    (lineBreaksWithin n).Finishes s := by
  induction n generalizing s with
  | zero => exact absurd hs.length_pos (by omega)
  | succ n ih =>
    rw [lineBreaksWithin, Finishes]
    simp only [ensures_bind, ensures_current, ensures_ite, ensures_advance]
    refine ⟨?_, fun _ => trivial⟩
    intro hk
    have hb := hs.reads_advance (by simp [hk])
    have hlen := hb.length_succ
    exact ih (hb.ends hs) (by omega)

/-- On tokens in order, an expression or a fault at a token is found. -/
theorem wholeExpression_finishes (fixities : FixityTable) {s : TokenStream} (hs : s.Orderly) :
    (wholeExpression fixities).Finishes s := by
  have hexpression : (expressionWithin fixities s.fuel).Finishes s :=
    (finishing fixities _).expression s hs (by unfold TokenStream.fuel; omega)
  rw [wholeExpression, expression, Finishes]
  simp only [ensures_bind, ensures_repeated]
  refine (hexpression.and_ensures ((reading fixities _).expression s hs.ends)).mono ?_ fun _ _ => id
  rintro (_ | e) t ht
  · simp only [ensures_expect]
    exact ⟨by simp, fun _ => trivial⟩
  have hte := ht.2.ends hs.ends
  simp only [ensures_expect]
  refine ⟨?_, by simp⟩
  rintro _ ⟨⟩
  refine (lineBreaks_finishes _ hte (by unfold TokenStream.fuel; omega)).mono ?_ fun _ _ => id
  intro _ u _
  simp only [ensures_current, ensures_require]
  exact ⟨fun _ => trivial, fun _ => trivial⟩

end Parser

end Frontend
