import Frontend.Proofs.Grammar.Coincidence
import Mathlib.Order.Fin.Basic

/-!
# Relative precedences

Only the order of the precedences of operators matters. The readers of expressions give the same
results with two tables that give the operators at hand the same associativities and precedences in
the same order (`SameOrder`).

The two runs go through the same bands, but an operator may belong to different ones. Bands are
level (`Level`) if the same operators bind at least as tightly as they say. Where a band has no
operators in one of the runs, that run passes it alone, and at most skips a continuation there.
-/

namespace Frontend

/-! ### Tables of the same order -/

/-- The operators have the same associativities in both tables, and their precedences are in the
same order. -/
structure SameOrder (names : Set String) (T T' : FixityTable) : Prop where
  associativity : ∀ x ∈ names, (T.get x).associativity = (T'.get x).associativity
  precedence : ∀ x ∈ names, ∀ y ∈ names,
    (T.get x).precedence < (T.get y).precedence ↔ (T'.get x).precedence < (T'.get y).precedence

/-- The same operators bind at least as tightly as the two bands say. -/
def Level (names : Set String) (T T' : FixityTable) (b b' : Nat) : Prop :=
  ∀ x ∈ names, b ≤ (T.get x).precedence.val ↔ b' ≤ (T'.get x).precedence.val

/-- None of the operators belongs to the band. -/
def Vacant (names : Set String) (T : FixityTable) (b : Nat) : Prop :=
  ∀ x ∈ names, (T.get x).precedence.val ≠ b

variable {names : Set String} {T T' : FixityTable} {b b' : Nat}

theorem Level.zero : Level names T T' 0 0 := fun _ _ => iff_of_true (Nat.zero_le _) (Nat.zero_le _)

theorem Level.symm (h : Level names T T' b b') : Level names T' T b' b := fun x hx => (h x hx).symm

theorem Level.vacant_right (h : Level names T T' b b') (hb : Fixity.maxPrecedence < b) :
    Vacant names T' b' := by
  intro x hx heq
  have hlt := (T.get x).precedence.isLt
  have hle := (h x hx).mpr heq.ge
  rw [Fixity.maxPrecedence] at hb
  omega

/-- A vacant band can be passed. -/
theorem Level.succ_right (h : Level names T T' b b') (hb' : Vacant names T' b') :
    Level names T T' b (b' + 1) := by
  intro x hx
  have hne := hb' x hx
  rw [h x hx]
  omega

/-- Bands that are level and not vacant have the same operators. -/
theorem SameOrder.band_iff (h : SameOrder names T T') (hlevel : Level names T T' b b')
    (hb : ¬ Vacant names T b) (hb' : ¬ Vacant names T' b') {z : String} (hz : z ∈ names) :
    (T.get z).precedence.val = b ↔ (T'.get z).precedence.val = b' := by
  simp only [Vacant, ne_eq, not_forall, not_not] at hb hb'
  obtain ⟨x, hx, rfl⟩ := hb
  obtain ⟨y, hy, rfl⟩ := hb'
  have hxy := h.precedence y hy x hx
  have hxz := h.precedence x hx z hz
  have hyz := h.precedence y hy z hz
  have hlevelx := hlevel x hx
  have hlevely := hlevel y hy
  have hlevelz := hlevel z hz
  simp only [Fin.lt_def] at hxy hxz hyz
  omega

theorem SameOrder.level_succ (h : SameOrder names T T') (hlevel : Level names T T' b b')
    (hb : ¬ Vacant names T b) (hb' : ¬ Vacant names T' b') :
    Level names T T' (b + 1) (b' + 1) := by
  intro z hz
  have hband := h.band_iff hlevel hb hb' hz
  have hle := hlevel z hz
  omega

/-- The right operands of an operator are read in level bands. -/
theorem Level.rightBand {name : String} (h : Level names T T' b b')
    (hsucc : Level names T T' (b + 1) (b' + 1))
    (hassociativity : (T.get name).associativity = (T'.get name).associativity)
    (hb : (T.get name).precedence.val = b) (hb' : (T'.get name).precedence.val = b') :
    Level names T T' (T.get name).rightBand (T'.get name).rightBand := by
  rw [Fixity.rightBand, Fixity.rightBand, ← hassociativity, hb, hb']
  cases (T.get name).associativity with
  | right => exact h
  | left | none => exact hsucc

/-! ### Streams -/

namespace TokenStream

/-- The end of input is ahead, and no operators but the given ones. -/
structure UsesOnly (names : Set String) (s : TokenStream) : Prop where
  ends : s.Ends
  operator : ∀ t ∈ s.ahead, ∀ name, t.kind = .operator name → name ∈ names

variable {s t : TokenStream} {read : List Token}

theorem UsesOnly.of_reads (h : s.UsesOnly names) (hr : s.Reads read t) : t.UsesOnly names where
  ends := hr.ends h.ends
  operator u hu := h.operator u (hr.ahead ▸ List.mem_append_right _ hu)

theorem UsesOnly.skipContinuation (h : s.UsesOnly names) (c : TokenKind → Bool) :
    (s.skipContinuation c).UsesOnly names := by
  obtain ⟨layout, hl, -⟩ := h.ends.exists_reads_skipContinuation c
  exact h.of_reads hl

theorem UsesOnly.advance (h : s.UsesOnly names) (hk : s.current.kind ≠ .endOfInput) :
    s.advance.UsesOnly names :=
  h.of_reads (h.ends.reads_advance hk)

theorem UsesOnly.mem_of_current (h : s.UsesOnly names) {name : String}
    (hk : s.current.kind = .operator name) : name ∈ names := by
  obtain ⟨rest, hrest⟩ := h.ends.ahead_eq
  exact h.operator _ (hrest ▸ List.mem_cons_self) name hk

end TokenStream

namespace Parser

open TokenStream (UsesOnly)

variable {α β : Type} {s t : TokenStream} {K : β → TokenStream → TokenStream → Prop}

/-- Both runs are at the same place. -/
def Same {α : Type} (names : Set String) (_ : α) (s t : TokenStream) : Prop :=
  s = t ∧ s.UsesOnly names

/-- Both runs are behind an operand of their bands. The continuation before an operator has been
skipped where a band has been passed. -/
def BehindOperand (names : Set String) (b b' : Nat) :
    Option Expression → TokenStream → TokenStream → Prop
  | none, s, t   => s = t ∧ s.UsesOnly names
  | some _, s, t => s.UsesOnly names ∧ t.UsesOnly names ∧
      s.skipContinuation (·.isOperator) = t.skipContinuation (·.isOperator) ∧
      (b ≤ Fixity.maxPrecedence → s.skipContinuation (·.isOperator) = s) ∧
      (b' ≤ Fixity.maxPrecedence → t.skipContinuation (·.isOperator) = t)

theorem BehindOperand.symm {a? : Option Expression} (h : BehindOperand names b b' a? s t) :
    BehindOperand names b' b a? t s := by
  cases a? with
  | none => exact ⟨h.1.symm, h.1 ▸ h.2⟩
  | some a =>
    obtain ⟨hs, ht, hskip, hs', ht'⟩ := h
    exact ⟨ht, hs, hskip.symm, ht', hs'⟩

/-- Behind the loosest band both runs are at the same place. -/
theorem BehindOperand.same {a? : Option Expression} (h : BehindOperand names 0 0 a? s t) :
    Same names a? s t := by
  cases a? with
  | none => exact h
  | some a =>
    obtain ⟨hs, -, hskip, hs', ht'⟩ := h
    exact ⟨(hs' (Nat.zero_le _)).symm.trans (hskip.trans (ht' (Nat.zero_le _))), hs⟩

/-! ### The readers -/

/-- Both parsers start with the same step, which reads tokens. -/
theorem coincides_of_advances {p : Parser α} {f g : α → Parser β} (hs : s.UsesOnly names)
    (hp : p.Advances s)
    (hf : ∀ a t, t.UsesOnly names → (f a).Coincides (g a) K t t) :
    (p >>= f).Coincides (p >>= g) K s s :=
  coincides_of_ensures (hp.mono (fun a t ⟨_, hr⟩ => hf a t (hs.of_reads hr)) fun _ _ _ => trivial)

theorem coincides_expect {f g : α → Parser β} {fault : SyntaxFault} {a? : Option α}
    (hf : ∀ a, a? = some a → (f a).Coincides (g a) K s s) :
    (expect fault a? >>= f).Coincides (expect fault a? >>= g) K s s :=
  coincides_of_ensures ((ensures_expect _ _).mpr ⟨hf, fun _ => trivial⟩)

theorem coincides_take {f g : Token → Parser β} {c : TokenKind → Bool} {fault : SyntaxFault}
    (hs : s.UsesOnly names) (hc : c .endOfInput = false)
    (hf : ∀ x t, t.UsesOnly names → (f x).Coincides (g x) K t t) :
    (take c fault >>= f).Coincides (take c fault >>= g) K s s := by
  refine coincides_of_ensures ((ensures_take _ _).mpr ⟨fun hk => ?_, fun _ => trivial⟩)
  exact hf _ _ (hs.advance fun hend => by simp [hend, hc] at hk)

/-- The readers give the same results with both tables, for any numbers of calls. -/
structure Coinciding (names : Set String) (T T' : FixityTable) (n m : Nat) : Prop where
  expression : ∀ {s}, s.UsesOnly names →
    (expressionWithin T n).Coincides (expressionWithin T' m) (Same names) s s
  elements : ∀ {s}, s.UsesOnly names →
    (elementsWithin T n).Coincides (elementsWithin T' m) (Same names) s s
  binary : ∀ {s b b'}, s.UsesOnly names → Level names T T' b b' →
    (binaryWithin T n b).Coincides (binaryWithin T' m b') (BehindOperand names b b') s s
  operations : ∀ {s t b b'} before? left, s.UsesOnly names →
    s.skipContinuation (·.isOperator) = t.skipContinuation (·.isOperator) →
    (∀ z ∈ names, (T.get z).precedence.val = b ↔ (T'.get z).precedence.val = b') →
    Level names T T' b b' → Level names T T' (b + 1) (b' + 1) →
    (operationsWithin T n b before? left).Coincides (operationsWithin T' m b' before? left)
      (fun _ s t => s = t ∧ s.UsesOnly names ∧ s.skipContinuation (·.isOperator) = s) s t
  application : ∀ {s}, s.UsesOnly names →
    (applicationWithin T n).Coincides (applicationWithin T' m) (Same names) s s
  arguments : ∀ {s} callee, s.UsesOnly names →
    (argumentsWithin T n callee).Coincides (argumentsWithin T' m callee) (Same names) s s
  factor : ∀ {s}, s.UsesOnly names →
    (factorWithin T n).Coincides (factorWithin T' m) (Same names) s s
  members : ∀ {s} value, s.UsesOnly names →
    (membersWithin T n value).Coincides (membersWithin T' m value) (Same names) s s
  primary : ∀ {s}, s.UsesOnly names →
    (primaryWithin T n).Coincides (primaryWithin T' m) (Same names) s s
  round : ∀ {s} opening, s.UsesOnly names →
    (roundWithin T n opening).Coincides (roundWithin T' m opening) (Same names) s s
  curly : ∀ {s} opening, s.UsesOnly names →
    (curlyWithin T n opening).Coincides (curlyWithin T' m opening) (Same names) s s
  text : ∀ {s} first, s.UsesOnly names →
    (textWithin T n first).Coincides (textWithin T' m first) (Same names) s s
  segments : ∀ {s}, s.UsesOnly names →
    (segmentsWithin T n).Coincides (segmentsWithin T' m) (Same names) s s

namespace Coinciding

variable {n m : Nat}

theorem zero_left (names : Set String) (T T' : FixityTable) (m : Nat) :
    Coinciding names T T' 0 m where
  expression _ := .endlessLeft _ _
  elements _ := .endlessLeft _ _
  binary _ _ := .endlessLeft _ _
  operations _ _ _ _ _ _ _ := .endlessLeft _ _
  application _ := .endlessLeft _ _
  arguments _ _ := .endlessLeft _ _
  factor _ := .endlessLeft _ _
  members _ _ := .endlessLeft _ _
  primary _ := .endlessLeft _ _
  round _ _ := .endlessLeft _ _
  curly _ _ := .endlessLeft _ _
  text _ _ := .endlessLeft _ _
  segments _ := .endlessLeft _ _

theorem zero_right (names : Set String) (T T' : FixityTable) (n : Nat) :
    Coinciding names T T' n 0 where
  expression _ := .endlessRight _ _
  elements _ := .endlessRight _ _
  binary _ _ := .endlessRight _ _
  operations _ _ _ _ _ _ _ := .endlessRight _ _
  application _ := .endlessRight _ _
  arguments _ _ := .endlessRight _ _
  factor _ := .endlessRight _ _
  members _ _ := .endlessRight _ _
  primary _ := .endlessRight _ _
  round _ _ := .endlessRight _ _
  curly _ _ := .endlessRight _ _
  text _ _ := .endlessRight _ _
  segments _ := .endlessRight _ _

variable (h : Coinciding names T T' n m)
include h

theorem expression_succ (hs : s.UsesOnly names) :
    (expressionWithin T (n + 1)).Coincides (expressionWithin T' (m + 1)) (Same names) s s := by
  rw [expressionWithin, expressionWithin]
  refine (h.binary hs .zero).bind ?_
  intro first? s t hbehind
  obtain ⟨rfl, hs⟩ := hbehind.same
  cases first? with
  | none => exact coincides_pure ⟨rfl, hs⟩
  | some first =>
    replace hs := hs.skipContinuation (·.isSymbol .comma)
    refine coincides_skipContinuation (coincides_current ?_)
    refine coincides_ite .rfl (fun _ => ?_) fun _ => ?_
    · refine (h.elements hs).bind ?_
      rintro rest s _ ⟨rfl, hs⟩
      exact coincides_merge fun w => coincides_pure ⟨rfl, hs⟩
    · exact coincides_pure ⟨rfl, hs⟩

theorem elements_succ (hs : s.UsesOnly names) :
    (elementsWithin T (n + 1)).Coincides (elementsWithin T' (m + 1)) (Same names) s s := by
  rw [elementsWithin, elementsWithin]
  refine coincides_of_advances hs (.consume hs.ends .comma) fun hcomma s hs => ?_
  refine coincides_ite .rfl (fun _ => ?_) fun _ => coincides_pure ⟨rfl, hs⟩
  refine (h.binary hs .zero).bind ?_
  intro element? s t hbehind
  obtain ⟨rfl, hs⟩ := hbehind.same
  refine coincides_expect fun element _ => coincides_skipContinuation ?_
  refine (h.elements (hs.skipContinuation _)).bind ?_
  rintro rest s _ ⟨rfl, hs⟩
  exact coincides_pure ⟨rfl, hs⟩

omit h in
/-- In a vacant band nothing is read, and the continuation is skipped. -/
theorem operations_vacant (before? : Option Associativity) (left : Expression)
    (ht : t.UsesOnly names) (hvacant : Vacant names T' b') :
    operationsWithin T' (m + 1) b' before? left t =
      .ok left (t.skipContinuation (·.isOperator)) := by
  simp only [operationsWithin, Bind.bind, EStateM.bind, Parser.skipContinuation, current]
  cases hk : (t.skipContinuation (·.isOperator)).current.kind with
  | operator name =>
    have hne := hvacant name ((ht.skipContinuation _).mem_of_current hk)
    simp only [if_neg hne]
    rfl
  | _ => rfl

omit h in
/-- A run may pass a vacant band alone. -/
theorem binary_vacant {p : Parser (Option Expression)} (hb' : ¬ Fixity.maxPrecedence < b')
    (hvacant : Vacant names T' b')
    (hp : p.Coincides (binaryWithin T' m (b' + 1)) (BehindOperand names b (b' + 1)) s s) :
    p.Coincides (binaryWithin T' (m + 1) b') (BehindOperand names b b') s s := by
  rw [binaryWithin, if_neg hb']
  refine hp.bind_right ?_
  rintro (_ | left) s t hbehind
  · exact coincides_pure hbehind
  obtain ⟨hs, ht, hskip, hs', -⟩ := hbehind
  cases m with
  | zero => exact .endlessRight _ _
  | succ m =>
    have hidem := ht.ends.skipContinuation_idem (·.isOperator)
    simp only [Coincides, Bind.bind, EStateM.bind, operations_vacant none left ht hvacant]
    exact .ok ⟨hs, ht.skipContinuation _, hskip.trans hidem.symm, hs', fun _ => hidem⟩

theorem binary_succ (hleft : Coinciding names T T' n (m + 1))
    (hright : Coinciding names T T' (n + 1) m) (horder : SameOrder names T T')
    (hs : s.UsesOnly names) (hlevel : Level names T T' b b') :
    (binaryWithin T (n + 1) b).Coincides (binaryWithin T' (m + 1) b') (BehindOperand names b b')
      s s := by
  by_cases hvacant : ¬ Fixity.maxPrecedence < b ∧ Vacant names T b
  · have hlevel' := (hlevel.symm.succ_right hvacant.2).symm
    have hbinary := (hleft.binary hs hlevel').symm.mono fun _ _ _ => BehindOperand.symm
    exact (binary_vacant hvacant.1 hvacant.2 hbinary).symm.mono fun _ _ _ => BehindOperand.symm
  by_cases hvacant' : ¬ Fixity.maxPrecedence < b' ∧ Vacant names T' b'
  · exact binary_vacant hvacant'.1 hvacant'.2 (hright.binary hs (hlevel.succ_right hvacant'.2))
  rw [not_and] at hvacant hvacant'
  rw [binaryWithin, binaryWithin]
  have hbeyond : Fixity.maxPrecedence < b' ↔ Fixity.maxPrecedence < b := by
    constructor
    · intro hb'
      by_contra hb
      exact hvacant hb (hlevel.symm.vacant_right hb')
    · intro hb
      by_contra hb'
      exact hvacant' hb' (hlevel.vacant_right hb)
  refine coincides_ite hbeyond (fun hb => ?_) fun hb => ?_
  · refine (h.application hs).mono ?_
    rintro (_ | e) s _ ⟨rfl, hs⟩
    · exact ⟨rfl, hs⟩
    · exact ⟨hs, hs, rfl, fun hle => absurd hb (Nat.not_lt.mpr hle),
        fun hle => absurd (hbeyond.mpr hb) (Nat.not_lt.mpr hle)⟩
  · have htighter := horder.level_succ hlevel (hvacant hb) (hvacant' (mt hbeyond.mp hb))
    refine (h.binary hs htighter).bind ?_
    rintro (_ | left) s t hbehind
    · exact coincides_pure hbehind
    obtain ⟨hs, -, hskip, -⟩ := hbehind
    have hband z hz := horder.band_iff hlevel (hvacant hb) (hvacant' (mt hbeyond.mp hb)) (z := z) hz
    refine (h.operations none left hs hskip hband hlevel htighter).bind ?_
    rintro e s _ ⟨rfl, hs, hidem⟩
    exact coincides_pure ⟨hs, hs, rfl, fun _ => hidem, fun _ => hidem⟩

theorem operations_succ (horder : SameOrder names T T') (before? : Option Associativity)
    (left : Expression) (hs : s.UsesOnly names)
    (hskip : s.skipContinuation (·.isOperator) = t.skipContinuation (·.isOperator))
    (hband : ∀ z ∈ names, (T.get z).precedence.val = b ↔ (T'.get z).precedence.val = b')
    (hlevel : Level names T T' b b') (htighter : Level names T T' (b + 1) (b' + 1)) :
    (operationsWithin T (n + 1) b before? left).Coincides
      (operationsWithin T' (m + 1) b' before? left)
      (fun _ s t => s = t ∧ s.UsesOnly names ∧ s.skipContinuation (·.isOperator) = s) s t := by
  rw [operationsWithin, operationsWithin]
  refine coincides_skipContinuation ?_
  rw [← hskip]
  have hidem := hs.ends.skipContinuation_idem (·.isOperator)
  replace hs := hs.skipContinuation (·.isOperator)
  generalize s.skipContinuation (·.isOperator) = s at hs hidem
  refine coincides_current ?_
  split
  · next name hname =>
    have hmem := hs.mem_of_current hname
    refine coincides_ite (hband name hmem).symm (fun hb => ?_) fun _ =>
      coincides_pure ⟨rfl, hs, hidem⟩
    have hright := hlevel.rightBand htighter (horder.associativity name hmem) hb
      ((hband name hmem).mp hb)
    rw [← horder.associativity name hmem]
    refine coincides_of_ensures ((ensures_require _ _).mpr ⟨fun _ => ?_, fun _ => trivial⟩)
    refine coincides_of_advances hs (.advance hs.ends (by simp [hname])) fun _ s hs => ?_
    refine (h.binary hs hright).bind ?_
    rintro (_ | right) s t hbehind
    · obtain ⟨rfl, -⟩ := hbehind
      exact .error _ _ _
    · obtain ⟨hs, -, hskip, -⟩ := hbehind
      refine coincides_merge fun w => ?_
      exact h.operations _ _ hs hskip hband hlevel htighter
  · exact coincides_pure ⟨rfl, hs, hidem⟩

theorem application_succ (hs : s.UsesOnly names) :
    (applicationWithin T (n + 1)).Coincides (applicationWithin T' (m + 1)) (Same names) s s := by
  rw [applicationWithin, applicationWithin]
  refine (h.factor hs).bind ?_
  rintro callee? s _ ⟨rfl, hs⟩
  cases callee? with
  | none => exact coincides_pure ⟨rfl, hs⟩
  | some callee =>
    refine (h.arguments callee hs).bind ?_
    rintro e s _ ⟨rfl, hs⟩
    exact coincides_pure ⟨rfl, hs⟩

theorem arguments_succ (callee : Expression) (hs : s.UsesOnly names) :
    (argumentsWithin T (n + 1) callee).Coincides (argumentsWithin T' (m + 1) callee) (Same names)
      s s := by
  rw [argumentsWithin, argumentsWithin]
  refine coincides_ite .rfl (fun _ => ?_) fun _ => coincides_pure ⟨rfl, hs⟩
  refine (h.factor hs).bind ?_
  rintro argument? s _ ⟨rfl, hs⟩
  cases argument? with
  | none => exact coincides_pure ⟨rfl, hs⟩
  | some argument => exact coincides_merge fun w => h.arguments _ hs

theorem factor_succ (hs : s.UsesOnly names) :
    (factorWithin T (n + 1)).Coincides (factorWithin T' (m + 1)) (Same names) s s := by
  rw [factorWithin, factorWithin]
  refine coincides_skipContinuation ((h.primary (hs.skipContinuation _)).bind ?_)
  rintro primary? s _ ⟨rfl, hs⟩
  cases primary? with
  | none => exact coincides_pure ⟨rfl, hs⟩
  | some primary =>
    refine (h.members primary hs).bind ?_
    rintro e s _ ⟨rfl, hs⟩
    exact coincides_pure ⟨rfl, hs⟩

theorem members_succ (value : Expression) (hs : s.UsesOnly names) :
    (membersWithin T (n + 1) value).Coincides (membersWithin T' (m + 1) value) (Same names)
      s s := by
  rw [membersWithin, membersWithin]
  refine coincides_current (coincides_of_advances hs (.consume hs.ends .dotAccess) ?_)
  intro hdot t ht
  refine coincides_ite .rfl (fun _ => ?_) fun _ => coincides_pure ⟨rfl, ht⟩
  refine coincides_take ht rfl fun member u hu => ?_
  exact coincides_merge fun w => h.members _ hu

theorem primary_succ (hs : s.UsesOnly names) :
    (primaryWithin T (n + 1)).Coincides (primaryWithin T' (m + 1)) (Same names) s s := by
  rw [primaryWithin, primaryWithin]
  refine coincides_current ?_
  have hfactor (hk : s.current.kind ≠ .endOfInput) :
      (do advance; return some (.factor s.current s.current.span) :
        Parser (Option Expression)).Coincides
      (do advance; return some (.factor s.current s.current.span)) (Same names) s s :=
    coincides_of_advances hs (.advance hs.ends hk) fun _ _ ht => coincides_pure ⟨rfl, ht⟩
  have hbehind (hk : s.current.kind ≠ .endOfInput) (p q : Parser Expression)
      (hpq : ∀ t, t.UsesOnly names → p.Coincides q (Same names) t t) :
      (do advance; return some (← p) : Parser (Option Expression)).Coincides
      (do advance; return some (← q)) (Same names) s s := by
    refine coincides_of_advances hs (.advance hs.ends hk) fun _ t ht => (hpq t ht).bind ?_
    rintro e t _ ⟨rfl, ht⟩
    exact coincides_pure ⟨rfl, ht⟩
  split
  · next hk => exact hfactor (by simp [hk])
  · next hk => exact hfactor (by simp [hk])
  · next hk => exact hfactor (by simp [hk])
  · next hk => exact hbehind (by simp [hk]) _ _ fun t ht => h.text _ ht
  · next hk => exact hbehind (by simp [hk]) _ _ fun t ht => h.round _ ht
  · next hk => exact hbehind (by simp [hk]) _ _ fun t ht => h.curly _ ht
  · exact coincides_pure ⟨rfl, hs⟩

theorem round_succ (opening : Span) (hs : s.UsesOnly names) :
    (roundWithin T (n + 1) opening).Coincides (roundWithin T' (m + 1) opening) (Same names)
      s s := by
  rw [roundWithin, roundWithin]
  refine coincides_current (coincides_of_advances hs (.consume hs.ends .closeRound) ?_)
  intro hclose t ht
  refine coincides_ite .rfl (fun _ => ?_) fun _ => ?_
  · exact coincides_merge fun w => coincides_pure ⟨rfl, ht⟩
  · refine (h.expression ht).bind ?_
    rintro inner? u _ ⟨rfl, hu⟩
    refine coincides_expect fun inner _ => coincides_take hu rfl fun closing v hv => ?_
    exact coincides_merge fun w => coincides_pure ⟨rfl, hv⟩

theorem curly_succ (opening : Span) (hs : s.UsesOnly names) :
    (curlyWithin T (n + 1) opening).Coincides (curlyWithin T' (m + 1) opening) (Same names)
      s s := by
  rw [curlyWithin, curlyWithin]
  refine (h.binary hs .zero).bind ?_
  intro first? s t hbehind
  obtain ⟨rfl, hs⟩ := hbehind.same
  cases first? with
  | none =>
    refine coincides_take hs rfl fun closing v hv => ?_
    exact coincides_merge fun w => coincides_pure ⟨rfl, hv⟩
  | some first =>
    refine (h.elements hs).bind ?_
    rintro rest s _ ⟨rfl, hs⟩
    refine coincides_take hs rfl fun closing v hv => ?_
    exact coincides_merge fun w => coincides_pure ⟨rfl, hv⟩

theorem text_succ (first : Expression) (hs : s.UsesOnly names) :
    (textWithin T (n + 1) first).Coincides (textWithin T' (m + 1) first) (Same names) s s := by
  rw [textWithin, textWithin]
  refine coincides_current (coincides_ite .rfl (fun _ => ?_) fun _ => coincides_pure ⟨rfl, hs⟩)
  refine (h.segments hs).bind ?_
  rintro rest s _ ⟨rfl, hs⟩
  exact coincides_merge fun w => coincides_pure ⟨rfl, hs⟩

theorem segments_succ (hs : s.UsesOnly names) :
    (segmentsWithin T (n + 1)).Coincides (segmentsWithin T' (m + 1)) (Same names) s s := by
  rw [segmentsWithin, segmentsWithin]
  refine coincides_of_advances hs (.consume hs.ends .interpolationOpen) fun _ s hs => ?_
  refine coincides_ite .rfl (fun _ => ?_) fun _ => coincides_pure ⟨rfl, hs⟩
  refine (h.expression hs).bind ?_
  rintro value? s _ ⟨rfl, hs⟩
  refine coincides_expect fun value _ => coincides_take hs rfl fun _ s hs => ?_
  refine coincides_take hs rfl fun text s hs => (h.segments hs).bind ?_
  rintro rest s _ ⟨rfl, hs⟩
  exact coincides_pure ⟨rfl, hs⟩

end Coinciding

/-- The readers of expressions give the same results with both tables. -/
theorem coinciding (horder : SameOrder names T T') : ∀ n m, Coinciding names T T' n m
  | 0, m         => .zero_left names T T' m
  | n + 1, 0     => .zero_right names T T' (n + 1)
  | n + 1, m + 1 =>
    have h := coinciding horder n m
    { expression := h.expression_succ
      elements := h.elements_succ
      binary := h.binary_succ (coinciding horder n (m + 1)) (coinciding horder (n + 1) m) horder
      operations := h.operations_succ horder
      application := h.application_succ
      arguments := h.arguments_succ
      factor := h.factor_succ
      members := h.members_succ
      primary := h.primary_succ
      round := h.round_succ
      curly := h.curly_succ
      text := h.text_succ
      segments := h.segments_succ }
termination_by n m => n + m

/-! ### Whole streams -/

section Whole

variable (horder : SameOrder names T T')
include horder

theorem expression_coincides (hs : s.UsesOnly names) :
    (expression T).Coincides (expression T') (Same names) s s :=
  coincides_repeated ((coinciding horder _ _).expression hs)

theorem wholeExpression_coincides (hs : s.UsesOnly names) :
    (wholeExpression T).Coincides (wholeExpression T') (fun _ _ _ => True) s s := by
  rw [wholeExpression, wholeExpression]
  refine (expression_coincides horder hs).bind ?_
  rintro e? s _ ⟨rfl, hs⟩
  exact coincides_expect fun e _ => .refl _ fun _ _ => trivial

theorem declaration_coincides (hs : s.UsesOnly names) :
    (declaration T).Coincides (declaration T') (Same names) s s := by
  rw [declaration, declaration]
  refine coincides_of_advances hs (identifier_advances hs.ends (by decide)) fun binder s hs => ?_
  refine coincides_take hs rfl fun _ s hs => (expression_coincides horder hs).bind ?_
  rintro body? s _ ⟨rfl, hs⟩
  refine coincides_expect fun body _ => ?_
  refine coincides_of_advances hs (terminator_advances hs.ends) fun _ s hs => ?_
  exact coincides_pure ⟨rfl, hs⟩

theorem item_coincides (hs : s.UsesOnly names) :
    (item T).Coincides (item T') (Same names) s s := by
  have hdeferred (kind : DeferredKind) :
      (do return .deferred (← deferred kind) : Parser Item).Coincides
        (do return .deferred (← deferred kind)) (Same names) s s :=
    coincides_of_advances hs (deferred_advances kind hs.ends) fun _ _ ht =>
      coincides_pure ⟨rfl, ht⟩
  rw [item, item]
  refine coincides_current (coincides_ite .rfl (fun _ => hdeferred .data) fun _ => ?_)
  refine coincides_ite .rfl (fun _ => ?_) fun _ => .error _ _ _
  refine coincides_of_ensures ?_
  rw [ensures_peek]
  refine coincides_ite .rfl (fun _ => hdeferred .signature) fun _ => ?_
  refine (declaration_coincides horder hs).bind ?_
  rintro d s _ ⟨rfl, hs⟩
  exact coincides_pure ⟨rfl, hs⟩

theorem itemsWithin_coincides (n : Nat) (hs : s.UsesOnly names) :
    (itemsWithin T n).Coincides (itemsWithin T' n) (Same names) s s := by
  induction n generalizing s with
  | zero => exact .endlessLeft _ _
  | succ n ih =>
    rw [itemsWithin, itemsWithin]
    refine coincides_of_advances hs (separators_advances hs.ends) fun _ s hs => ?_
    refine coincides_current (coincides_ite .rfl (fun _ => coincides_pure ⟨rfl, hs⟩) fun _ => ?_)
    refine (item_coincides horder hs).bind ?_
    rintro first s _ ⟨rfl, hs⟩
    refine (ih hs).bind ?_
    rintro rest s _ ⟨rfl, hs⟩
    exact coincides_pure ⟨rfl, hs⟩

theorem module_coincides (hs : s.UsesOnly names) :
    (module T).Coincides (module T') (Same names) s s := by
  rw [module, module]
  refine coincides_of_advances hs (.repeated fun n => blankLinesWithin_advances n hs.ends) ?_
  intro _ s hs
  refine coincides_current (coincides_of_advances hs (.require _ (by decide)) fun _ s hs => ?_)
  refine coincides_of_advances hs (header_advances hs.ends) fun header s hs => ?_
  refine coincides_of_advances hs (.repeated fun n => importsWithin_advances n hs.ends) ?_
  intro imports s hs
  refine (coincides_repeated (itemsWithin_coincides horder _ hs)).bind ?_
  rintro items s _ ⟨rfl, hs⟩
  exact coincides_pure ⟨rfl, hs⟩

end Whole

end Parser

/-! ### The theorem -/

/-- Only the order of precedences matters: tokens spell the same module and the same expression, or
have the same fault, with two tables between which the precedences of their operators are moved in
order and the associativities are kept. -/
theorem parse_eq_of_strictMonoOn {tokens : List Token} {stop : Token} {T T' : FixityTable}
    (f : Fin 10 → Fin 10) (hstop : stop.kind = .endOfInput)
    (horder : Token.InOrder (tokens ++ [stop]))
    (hmono : StrictMonoOn f
      {p | ∃ t ∈ tokens, ∃ name, t.kind = .operator name ∧ (T.get name).precedence = p})
    (hfixity : ∀ t ∈ tokens, ∀ name, t.kind = .operator name →
      (T'.get name).associativity = (T.get name).associativity ∧
        (T'.get name).precedence = f (T.get name).precedence) :
    parseModule (tokens ++ [stop]) T = parseModule (tokens ++ [stop]) T' ∧
      parseExpression (tokens ++ [stop]) T = parseExpression (tokens ++ [stop]) T' := by
  have hsame : SameOrder {x | ∃ t ∈ tokens, t.kind = .operator x} T T' := by
    constructor
    · rintro x ⟨t, ht, hx⟩
      exact (hfixity t ht x hx).1.symm
    · rintro x ⟨t, ht, hx⟩ y ⟨u, hu, hy⟩
      rw [(hfixity t ht x hx).2, (hfixity u hu y hy).2]
      exact (hmono.lt_iff_lt ⟨t, ht, x, hx, rfl⟩ ⟨u, hu, y, hy, rfl⟩).symm
  have hends : (TokenStream.ofList (tokens ++ [stop])).Ends :=
    ⟨stop, List.mem_append_right tokens List.mem_cons_self, hstop⟩
  have hwithin : (TokenStream.ofList (tokens ++ [stop])).UsesOnly
      {x | ∃ t ∈ tokens, t.kind = .operator x} := by
    refine ⟨hends, fun t ht x hx => ?_⟩
    rcases List.mem_append.mp ht with ht | ht
    · exact ⟨t, ht, hx⟩
    · rw [List.mem_singleton.mp ht, hstop] at hx
      cases hx
  exact ⟨(Parser.module_coincides hsame hwithin).run'_eq
      (Parser.module_finishes T ⟨hends, horder⟩) (Parser.module_finishes T' ⟨hends, horder⟩),
    (Parser.wholeExpression_coincides hsame hwithin).run'_eq
      (Parser.wholeExpression_finishes T ⟨hends, horder⟩)
      (Parser.wholeExpression_finishes T' ⟨hends, horder⟩)⟩

/-- A comparison of a sum with a product, whose operators are moved as far apart as possible. -/
theorem parse_eq_of_strictMonoOn_sum :
    let tokens := Token.row 0
      [.identifier "a", .operator "==", .identifier "b", .operator "+", .identifier "c",
        .operator "*", .identifier "d"]
    let stop : Token := ⟨.endOfInput, ⟨7, 0, 7⟩, ⟨8, 0, 8⟩⟩
    let apart : FixityTable := ⟨[("==", ⟨0, .none⟩), ("+", ⟨1, .left⟩), ("*", ⟨9, .left⟩)]⟩
    (parseExpression (tokens ++ [stop]) .standard).isOk ∧
      parseExpression (tokens ++ [stop]) .standard = parseExpression (tokens ++ [stop]) apart := by
  intro tokens stop apart
  have hnames (t : Token) (ht : t ∈ tokens) (x : String) (hx : t.kind = .operator x) :
      x = "==" ∨ x = "+" ∨ x = "*" := by
    have hkinds : ∀ t ∈ tokens, t.kind.isOperator →
        t.kind = .operator "==" ∨ t.kind = .operator "+" ∨ t.kind = .operator "*" := by decide
    simpa [hx] using hkinds t ht (TokenKind.isOperator_iff.mpr ⟨x, hx⟩)
  refine ⟨by decide +kernel, (parse_eq_of_strictMonoOn
    (fun p => if p = 4 then 0 else if p = 6 then 1 else 9) rfl ?_ ?_ ?_).2⟩
  · exact Token.row_inOrder 0 (tokens.map (·.kind) ++ [TokenKind.endOfInput])
  · rintro p ⟨t, ht, x, hx, rfl⟩ q ⟨u, hu, y, hy, rfl⟩
    rcases hnames t ht x hx with rfl | rfl | rfl <;>
      rcases hnames u hu y hy with rfl | rfl | rfl <;> decide
  · intro t ht x hx
    rcases hnames t ht x hx with rfl | rfl | rfl <;> decide

end Frontend
