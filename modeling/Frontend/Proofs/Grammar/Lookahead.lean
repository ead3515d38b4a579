import Frontend.Grammar.Module
import Frontend.Proofs.Grammar.Foresight

/-!
# Faults are found early

Where reading fails is settled by the tokens up to that place and by the next three: other tokens
that share these fail in the same way. The readers echo each other over
shared tokens (`echoing`), with enough calls on both sides.
-/

namespace Frontend

open TokenStream (Resembles)

namespace Parser

/-- An optional value is read from at least one token, if it is there. -/
def atLeastOne {α : Type} : Option α → Nat
  | some _ => 1
  | none   => 0

/-! ### Readers of expressions -/

/-- The readers of expressions echo each other, with a number of calls on one side, and on the other
side with as many calls as pass the ten bands and what is around them. -/
structure Echoing (fixities : FixityTable) (n : Nat) : Prop where
  expression : ∀ m s, (expressionWithin fixities n).Echoes (expressionWithin fixities m)
    (fun _ => 0) 15 m s
  elements : ∀ m s, (elementsWithin fixities n).Echoes (elementsWithin fixities m)
    (fun _ => 0) 1 m s
  binary : ∀ band m s, (binaryWithin fixities n band).Echoes (binaryWithin fixities m band)
    (fun _ => 0) (10 - band + 4) m s
  operations : ∀ band before? left m s,
    (operationsWithin fixities n band before? left).Echoes
      (operationsWithin fixities m band before? left) (fun _ => 0) 1 m s
  application : ∀ m s, (applicationWithin fixities n).Echoes (applicationWithin fixities m)
    (fun _ => 0) 3 m s
  arguments : ∀ callee m s, (argumentsWithin fixities n callee).Echoes
    (argumentsWithin fixities m callee) (fun _ => 0) 3 m s
  factor : ∀ m s, (factorWithin fixities n).Echoes (factorWithin fixities m) atLeastOne 2 m s
  members : ∀ value m s, (membersWithin fixities n value).Echoes (membersWithin fixities m value)
    (fun _ => 0) 1 m s
  primary : ∀ m s, (primaryWithin fixities n).Echoes (primaryWithin fixities m) atLeastOne 1 m s
  round : ∀ opening m s, (roundWithin fixities n opening).Echoes (roundWithin fixities m opening)
    (fun _ => 0) 16 m s
  curly : ∀ opening m s, (curlyWithin fixities n opening).Echoes (curlyWithin fixities m opening)
    (fun _ => 0) 15 m s
  text : ∀ first m s, (textWithin fixities n first).Echoes (textWithin fixities m first)
    (fun _ => 0) 2 m s
  segments : ∀ m s, (segmentsWithin fixities n).Echoes (segmentsWithin fixities m)
    (fun _ => 0) 1 m s

namespace Echoing

variable {fixities : FixityTable} {n : Nat}

theorem zero (fixities : FixityTable) : Echoing fixities 0 where
  expression _ _ := echoes_diverge
  elements _ _ := echoes_diverge
  binary _ _ _ := echoes_diverge
  operations _ _ _ _ _ := echoes_diverge
  application _ _ := echoes_diverge
  arguments _ _ _ := echoes_diverge
  factor _ _ := echoes_diverge
  members _ _ _ := echoes_diverge
  primary _ _ := echoes_diverge
  round _ _ _ := echoes_diverge
  curly _ _ _ := echoes_diverge
  text _ _ _ := echoes_diverge
  segments _ _ := echoes_diverge

variable (h : Echoing fixities n)
include h

theorem expression_succ (m : Nat) (s : TokenStream) :
    (expressionWithin fixities (n + 1)).Echoes (expressionWithin fixities (m + 1))
      (fun _ => 0) 14 m s := by
  rw [expressionWithin, expressionWithin]
  refine (h.binary 0 m s).bind (by decide) fun first? s => ?_
  cases first? with
  | none => exact echoes_pure rfl
  | some first =>
    refine echoes_skipContinuation (echoes_current (echoes_ite (fun _ => ?_) fun _ => ?_))
    · refine (h.elements m _).bind (by decide) fun rest s => ?_
      exact echoes_merge fun span => echoes_pure rfl
    · exact echoes_pure rfl

theorem elements_succ (m : Nat) (s : TokenStream) :
    (elementsWithin fixities (n + 1)).Echoes (elementsWithin fixities (m + 1))
      (fun _ => 0) 0 m s := by
  rw [elementsWithin, elementsWithin]
  refine echoes_consume ?_ (echoes_pure rfl)
  -- The comma pays for the bands of the element.
  refine (h.binary 0 m _).bind (by decide) fun element? s => ?_
  refine echoes_expect fun element _ => echoes_skipContinuation ?_
  exact (h.elements m _).bind_pure (by decide) fun _ => rfl

theorem binary_succ (band m : Nat) (s : TokenStream) :
    (binaryWithin fixities (n + 1) band).Echoes (binaryWithin fixities (m + 1) band)
      (fun _ => 0) (10 - band + 3) m s := by
  rw [binaryWithin, binaryWithin]
  refine echoes_ite (fun _ => ?_) fun hband => ?_
  · exact (h.application m s).weaken (fun _ => Nat.le_refl 0) (by omega)
  · rw [Fixity.maxPrecedence] at hband
    refine (h.binary (band + 1) m s).bind (by omega) fun left? s => ?_
    cases left? with
    | none => exact echoes_pure rfl
    | some left =>
      exact (h.operations band none left m s).bind_pure (by omega) fun _ => rfl

theorem operations_succ (band : Nat) (before? : Option Associativity) (left : Expression)
    (m : Nat) (s : TokenStream) :
    (operationsWithin fixities (n + 1) band before? left).Echoes
      (operationsWithin fixities (m + 1) band before? left) (fun _ => 0) 0 m s := by
  rw [operationsWithin, operationsWithin]
  refine echoes_skipContinuation (echoes_current ?_)
  split
  · next hname =>
    refine echoes_ite (fun _ => ?_) fun _ => echoes_pure rfl
    refine echoes_require fun _ => echoes_advance (by simp [hname]) ?_
    refine (h.binary _ m _).bind (by omega) fun right? s => ?_
    refine echoes_expect fun right _ => echoes_merge fun span => ?_
    exact (h.operations band _ _ m s).weaken (fun _ => Nat.le_refl 0) (by omega)
  · exact echoes_pure rfl

theorem application_succ (m : Nat) (s : TokenStream) :
    (applicationWithin fixities (n + 1)).Echoes (applicationWithin fixities (m + 1))
      (fun _ => 0) 2 m s := by
  rw [applicationWithin, applicationWithin]
  refine (h.factor m s).bind (by decide) fun callee? s => ?_
  cases callee? with
  | none => exact echoes_pure rfl
  | some callee =>
    exact (h.arguments callee m s).bind_pure (by simp [atLeastOne]) fun _ => rfl

theorem arguments_succ (callee : Expression) (m : Nat) (s : TokenStream) :
    (argumentsWithin fixities (n + 1) callee).Echoes (argumentsWithin fixities (m + 1) callee)
      (fun _ => 0) 2 m s := by
  rw [argumentsWithin, argumentsWithin]
  refine echoes_ite (fun _ => ?_) fun _ => echoes_pure rfl
  refine (h.factor m s).bind (by decide) fun argument? s => ?_
  cases argument? with
  | none => exact echoes_pure rfl
  | some argument =>
    -- The argument pays for the arguments behind it.
    refine echoes_merge fun span => ?_
    exact (h.arguments _ m s).weaken (fun _ => Nat.le_refl 0) (by simp [atLeastOne])

theorem factor_succ (m : Nat) (s : TokenStream) :
    (factorWithin fixities (n + 1)).Echoes (factorWithin fixities (m + 1)) atLeastOne 1 m s := by
  rw [factorWithin, factorWithin]
  refine echoes_skipContinuation ((h.primary m _).bind (by decide) fun primary? s => ?_)
  cases primary? with
  | none => exact echoes_pure rfl
  | some primary =>
    exact (h.members primary m s).bind_pure (by simp [atLeastOne]) fun _ => rfl

theorem members_succ (value : Expression) (m : Nat) (s : TokenStream) :
    (membersWithin fixities (n + 1) value).Echoes (membersWithin fixities (m + 1) value)
      (fun _ => 0) 0 m s := by
  rw [membersWithin, membersWithin]
  refine echoes_current (echoes_consume ?_ (echoes_pure rfl))
  refine echoes_take rfl fun _ => echoes_merge fun span => ?_
  exact (h.members _ m _).weaken (fun _ => Nat.le_refl 0) (by omega)

theorem primary_succ (m : Nat) (s : TokenStream) :
    (primaryWithin fixities (n + 1)).Echoes (primaryWithin fixities (m + 1)) atLeastOne 0 m s := by
  rw [primaryWithin, primaryWithin]
  refine echoes_current ?_
  split
  · next hk => exact echoes_advance (by simp [hk]) (echoes_pure rfl)
  · next hk => exact echoes_advance (by simp [hk]) (echoes_pure rfl)
  · next hk => exact echoes_advance (by simp [hk]) (echoes_pure rfl)
  · next hk =>
    exact echoes_advance (by simp [hk]) ((h.text _ m _).bind_pure (by decide) fun _ => rfl)
  · next hk =>
    exact echoes_advance (by simp [hk]) ((h.round _ m _).bind_pure (by decide) fun _ => rfl)
  · next hk =>
    exact echoes_advance (by simp [hk]) ((h.curly _ m _).bind_pure (by decide) fun _ => rfl)
  · exact echoes_pure rfl

theorem round_succ (opening : Span) (m : Nat) (s : TokenStream) :
    (roundWithin fixities (n + 1) opening).Echoes (roundWithin fixities (m + 1) opening)
      (fun _ => 0) 15 m s := by
  rw [roundWithin, roundWithin]
  refine echoes_current (echoes_consume (echoes_merge fun span => echoes_pure rfl) ?_)
  refine (h.expression m s).bind (by decide) fun inner? s => ?_
  refine echoes_expect fun inner _ => echoes_take rfl fun _ => ?_
  exact echoes_merge fun span => echoes_pure rfl

theorem curly_succ (opening : Span) (m : Nat) (s : TokenStream) :
    (curlyWithin fixities (n + 1) opening).Echoes (curlyWithin fixities (m + 1) opening)
      (fun _ => 0) 14 m s := by
  rw [curlyWithin, curlyWithin]
  refine (h.binary 0 m s).bind (by decide) fun first? s => ?_
  cases first? with
  | none => exact echoes_take rfl fun _ => echoes_merge fun span => echoes_pure rfl
  | some first =>
    refine (h.elements m s).bind (by decide) fun rest s => ?_
    exact echoes_take rfl fun _ => echoes_merge fun span => echoes_pure rfl

theorem text_succ (first : Expression) (m : Nat) (s : TokenStream) :
    (textWithin fixities (n + 1) first).Echoes (textWithin fixities (m + 1) first)
      (fun _ => 0) 1 m s := by
  rw [textWithin, textWithin]
  refine echoes_current (echoes_ite (fun _ => ?_) fun _ => echoes_pure rfl)
  refine (h.segments m s).bind (by decide) fun rest s => ?_
  exact echoes_merge fun span => echoes_pure rfl

theorem segments_succ (m : Nat) (s : TokenStream) :
    (segmentsWithin fixities (n + 1)).Echoes (segmentsWithin fixities (m + 1))
      (fun _ => 0) 0 m s := by
  rw [segmentsWithin, segmentsWithin]
  refine echoes_consume ?_ (echoes_pure rfl)
  refine (h.expression m _).bind (by decide) fun value? s => ?_
  refine echoes_expect fun value _ => echoes_take rfl fun _ => echoes_take rfl fun _ => ?_
  exact (h.segments m _).bind_pure (by decide) fun _ => rfl

end Echoing

/-- The readers of expressions echo each other over shared tokens. -/
theorem echoing (fixities : FixityTable) : ∀ n, Echoing fixities n
  | 0     => .zero fixities
  | n + 1 =>
    have h := echoing fixities n
    { expression m s := .of_succ (fun m => h.expression_succ m s) m
      elements m s := .of_succ (fun m => h.elements_succ m s) m
      binary band m s :=
        .of_succ (q := (binaryWithin fixities · band)) (fun m => h.binary_succ band m s) m
      operations band before? left m s :=
        .of_succ (q := (operationsWithin fixities · band before? left))
          (fun m => h.operations_succ band before? left m s) m
      application m s := .of_succ (fun m => h.application_succ m s) m
      arguments callee m s :=
        .of_succ (q := (argumentsWithin fixities · callee)) (fun m => h.arguments_succ callee m s) m
      factor m s := .of_succ (fun m => h.factor_succ m s) m
      members value m s :=
        .of_succ (q := (membersWithin fixities · value)) (fun m => h.members_succ value m s) m
      primary m s := .of_succ (fun m => h.primary_succ m s) m
      round opening m s :=
        .of_succ (q := (roundWithin fixities · opening)) (fun m => h.round_succ opening m s) m
      curly opening m s :=
        .of_succ (q := (curlyWithin fixities · opening)) (fun m => h.curly_succ opening m s) m
      text first m s :=
        .of_succ (q := (textWithin fixities · first)) (fun m => h.text_succ first m s) m
      segments m s := .of_succ (fun m => h.segments_succ m s) m }

variable {s : TokenStream} {cost steps : Nat} {fixities : FixityTable} {fault : SyntaxFault}

theorem lineBreaksWithin_echoes : ∀ n m s,
    (lineBreaksWithin n).Echoes (lineBreaksWithin m) (fun _ => 0) 1 m s
  | 0, _, _     => echoes_diverge
  | n + 1, m, s => by
    refine .of_succ (fun m => ?_) m
    rw [lineBreaksWithin, lineBreaksWithin]
    refine echoes_current (echoes_ite (fun hk => ?_) fun _ => echoes_pure rfl)
    refine echoes_advance (by simp [hk]) ?_
    exact (lineBreaksWithin_echoes n m _).weaken (fun _ => Nat.le_refl 0) (by omega)

theorem lineBreaks_echoes :
    (repeated lineBreaksWithin).Echoes (repeated lineBreaksWithin) (fun _ => 0) cost steps s :=
  echoes_repeated (by decide) fun m => lineBreaksWithin_echoes s.fuel m s

theorem expression_echoes :
    (expression fixities).Echoes (expression fixities) (fun _ => 0) cost steps s :=
  echoes_repeated (by decide) fun m => (echoing fixities s.fuel).expression m s

theorem wholeExpression_echoes :
    (wholeExpression fixities).Echoes (wholeExpression fixities) (fun _ => 0) cost steps s := by
  rw [wholeExpression]
  refine expression_echoes.bind (Nat.le_refl cost) fun e? s => echoes_expect fun e _ => ?_
  refine lineBreaks_echoes.bind (Nat.le_refl _) fun _ s => ?_
  exact echoes_current (echoes_require fun _ => echoes_pure rfl)

/-! ### Layout -/

theorem blankLinesWithin_echoes : ∀ n m s,
    (blankLinesWithin n).Echoes (blankLinesWithin m) (fun _ => 0) 1 m s
  | 0, _, _     => echoes_diverge
  | n + 1, m, s => by
    refine .of_succ (fun m => ?_) m
    rw [blankLinesWithin, blankLinesWithin]
    refine echoes_current ?_
    by_cases hend : s.current.kind = .endOfInput
    · -- The next token is looked at here, but it makes no difference.
      refine (echoes_pure (a := ()) rfl).congr ?_ fun s' _ => ?_ <;>
        simp [hend, TokenKind.isIndentation, Bind.bind, EStateM.bind, peek]
    refine echoes_next hend (echoes_ite (fun _ => echoes_advance hend ?_) fun _ => echoes_pure rfl)
    exact (blankLinesWithin_echoes n m _).weaken (fun _ => Nat.le_refl 0) (by omega)

theorem blankLines_echoes :
    (repeated blankLinesWithin).Echoes (repeated blankLinesWithin) (fun _ => 0) cost steps s :=
  echoes_repeated (by decide) fun m => blankLinesWithin_echoes s.fuel m s

theorem separatorsWithin_echoes : ∀ n m s,
    (separatorsWithin n).Echoes (separatorsWithin m) (fun _ => 0) 1 m s
  | 0, _, _     => echoes_diverge
  | n + 1, m, s => by
    refine .of_succ (fun m => ?_) m
    rw [separatorsWithin, separatorsWithin]
    refine blankLines_echoes.bind (Nat.le_refl 0) fun _ s => echoes_consume ?_ ?_
    · exact (separatorsWithin_echoes n m _).weaken (fun _ => Nat.le_refl 0) (by omega)
    · exact echoes_current (.of_bind_pure (echoes_require fun _ => echoes_pure rfl))

theorem separators_echoes :
    separators.Echoes separators (fun _ => 0) cost steps s :=
  echoes_repeated (by decide) fun m => separatorsWithin_echoes s.fuel m s

theorem terminator_echoes : terminator.Echoes terminator (fun _ => 0) cost steps s := by
  rw [terminator]
  refine echoes_current (echoes_ite (fun hk => .of_bind_pure ?_) fun _ => .of_bind_pure ?_)
  · refine echoes_advance (fun he => ?_) (echoes_pure rfl)
    simp [he, TokenKind.isSymbol] at hk
  · exact echoes_require fun _ => echoes_pure rfl

/-- Where a line goes on, its next token is read. -/
theorem lineWithin_echoes_succ {n m : Nat} {span : Span}
    (h : ∀ span s, (lineWithin n span).Echoes (lineWithin m span) (fun _ => 0) 1 m s)
    (hend : ¬ (s.current.kind = .endOfInput ∨ s.current.kind = .symbol .semicolon))
    (hbreak : s.current.kind ≠ .lineBreak) :
    (lineWithin (n + 1) span).Echoes (lineWithin (m + 1) span) (fun _ => 1) 0 m s := by
  have hstep : (merge span s.current.span >>= fun span => advance >>= fun _ =>
      lineWithin n span).Echoes (merge span s.current.span >>= fun span => advance >>= fun _ =>
        lineWithin m span) (fun _ => 1) 0 m s :=
    echoes_merge fun span => echoes_advance (fun he => hend (.inl he))
      ((h span _).weaken (fun _ => Nat.le_refl 0) (by omega))
  refine hstep.congr (lineWithin_succ n span hend hbreak) fun s' hs' => ?_
  rw [← hs'.current] at hend hbreak ⊢
  exact lineWithin_succ m span hend hbreak

theorem lineWithin_echoes : ∀ n span m s,
    (lineWithin n span).Echoes (lineWithin m span) (fun _ => 0) 1 m s
  | 0, _, _, _        => echoes_diverge
  | n + 1, span, m, s => by
    refine .of_succ (q := (lineWithin · span)) (fun m => ?_) m
    by_cases hend : s.current.kind = .endOfInput ∨ s.current.kind = .symbol .semicolon
    · refine (echoes_pure (a := span) rfl).congr ?_ fun s' hs' => ?_
      · simp only [lineWithin, if_pos hend]
        rfl
      · simp only [lineWithin, hs'.current, if_pos hend]
        rfl
    by_cases hbreak : s.current.kind = .lineBreak
    · by_cases hcontinues : s.continues fun _ => true
      · refine (echoes_continuation (f := fun _ => lineWithin n span)
          (g := fun _ => lineWithin m span) hcontinues ?_).congr ?_ fun s' hs' => ?_
        · exact (lineWithin_echoes n span m _).weaken (fun _ => Nat.le_refl 0) (by omega)
        · simp [Bind.bind, EStateM.bind, lineWithin, skipContinuation, hbreak, hcontinues]
        · simp [Bind.bind, EStateM.bind, lineWithin, skipContinuation, hs'.current, hs'.continues,
            hbreak, hcontinues]
      · refine (echoes_pure (a := span) rfl).congr ?_ fun s' hs' => ?_
        · simp only [lineWithin, if_neg hend, if_pos hbreak, if_neg hcontinues]
          rfl
        · simp only [lineWithin, hs'.current, hs'.continues, if_neg hend, if_pos hbreak,
            if_neg hcontinues]
          rfl
    · exact (lineWithin_echoes_succ (fun span s => lineWithin_echoes n span m s) hend hbreak).weaken
        (fun _ => Nat.zero_le 1) (by omega)

/-! ### Header and imports -/

theorem echoes_identifier {β : Type} {f g : Identifier → Parser β} {most : β → Nat}
    (h : ∀ i, (f i).Echoes (g i) (fun b => most b - 1) (cost + 16) steps s.advance) :
    (identifier fault >>= f).Echoes (identifier fault >>= g) most cost steps s := by
  cases hi : Identifier.ofToken? s.current with
  | some i =>
    have hk : s.current.kind ≠ .endOfInput := fun he => by simp [Identifier.ofToken?, he] at hi
    refine (echoes_advance (f := fun _ => f i) (g := fun _ => g i) hk (h i)).congr ?_
      fun s' hs' => ?_
    · simp [Bind.bind, EStateM.bind, identifier, advance, hi]
    · simp [Bind.bind, EStateM.bind, identifier, advance, hs'.current, hi]
  | none =>
    refine (echoes_fail fault).congr ?_ fun s' hs' => ?_
    · simp [Bind.bind, EStateM.bind, identifier, fail, hi]
    · simp [Bind.bind, EStateM.bind, identifier, fail, hs'.current, hi]

theorem bindingsWithin_echoes : ∀ n m s,
    (bindingsWithin fault n).Echoes (bindingsWithin fault m) (fun _ => 0) 1 m s
  | 0, _, _     => echoes_diverge
  | n + 1, m, s => by
    refine .of_succ (fun m => ?_) m
    rw [bindingsWithin, bindingsWithin]
    refine echoes_identifier fun first => echoes_consume (echoes_pure rfl) ?_
    refine echoes_take rfl fun _ => ?_
    exact (bindingsWithin_echoes n m _).bind_pure (by omega) fun _ => rfl

theorem bindings?_echoes :
    (bindings? fault).Echoes (bindings? fault) (fun _ => 0) cost steps s := by
  rw [bindings?]
  refine echoes_consume (echoes_consume (echoes_pure rfl) ?_) (echoes_pure rfl)
  exact (echoes_repeated (by decide) fun m => bindingsWithin_echoes _ m _).bind_pure
    (Nat.le_refl _) fun _ => rfl

theorem header_echoes : header.Echoes header (fun _ => 0) cost steps s := by
  rw [header]
  refine echoes_take rfl fun _ => echoes_identifier fun name => ?_
  refine bindings?_echoes.bind (Nat.le_refl _) fun exports s => ?_
  exact terminator_echoes.bind_pure (Nat.le_refl _) fun _ => rfl

theorem localName?_echoes : localName?.Echoes localName? (fun _ => 0) cost steps s := by
  rw [localName?]
  exact echoes_consume (echoes_identifier fun i => echoes_pure rfl) (echoes_pure rfl)

theorem importRest_echoes : importRest.Echoes importRest (fun _ => 0) cost steps s := by
  rw [importRest]
  refine echoes_identifier fun source => ?_
  refine localName?_echoes.bind (Nat.le_refl _) fun localName s => ?_
  refine bindings?_echoes.bind (Nat.le_refl _) fun bindings s => ?_
  exact terminator_echoes.bind_pure (Nat.le_refl _) fun _ => rfl

theorem importsWithin_echoes : ∀ n m s,
    (importsWithin n).Echoes (importsWithin m) (fun _ => 0) 1 m s
  | 0, _, _     => echoes_diverge
  | n + 1, m, s => by
    refine .of_succ (fun m => ?_) m
    rw [importsWithin, importsWithin]
    refine separators_echoes.bind (Nat.le_refl _) fun _ s => ?_
    refine echoes_consume ?_ (echoes_pure rfl)
    refine importRest_echoes.bind (Nat.le_refl _) fun first s => ?_
    exact (importsWithin_echoes n m _).bind_pure (by omega) fun _ => rfl

/-! ### Items -/

theorem declaration_echoes :
    (declaration fixities).Echoes (declaration fixities) (fun _ => 1) cost steps s := by
  rw [declaration]
  refine echoes_identifier fun binder => echoes_take rfl fun _ => ?_
  refine expression_echoes.bind (Nat.le_refl _) fun body? s => echoes_expect fun body _ => ?_
  exact terminator_echoes.bind_pure (Nat.le_refl _) fun _ => rfl

/-- A deferred item has at least one token. -/
theorem deferred_echoes (kind : DeferredKind)
    (hend : ¬ (s.current.kind = .endOfInput ∨ s.current.kind = .symbol .semicolon))
    (hbreak : s.current.kind ≠ .lineBreak) :
    (deferred kind).Echoes (deferred kind) (fun _ => 1) cost steps s := by
  obtain ⟨n, hn⟩ : ∃ n, s.fuel = n + 1 :=
    Nat.exists_eq_succ_of_ne_zero (by simp [TokenStream.fuel])
  have hline (m : Nat) : (lineWithin s.fuel s.current.span).Echoes (lineWithin m s.current.span)
      (fun _ => 1) 1 m s := by
    rw [hn]
    refine .of_succ (q := (lineWithin · s.current.span)) (fun m => ?_) m
    exact lineWithin_echoes_succ (fun span s => lineWithin_echoes n span m s) hend hbreak
  rw [deferred]
  refine (echoes_repeated (by decide) fun m => echoes_current (hline m)).bind (Nat.le_refl cost)
    fun span s => ?_
  exact terminator_echoes.bind_pure (Nat.le_refl _) fun _ => rfl

theorem item_echoes : (item fixities).Echoes (item fixities) (fun _ => 1) cost steps s := by
  rw [item]
  refine echoes_current (echoes_ite (fun hk => ?_) fun _ => echoes_ite (fun hk => ?_) fun _ =>
    echoes_fail _)
  · have hdata := TokenKind.isSymbol_iff.mp hk
    exact (deferred_echoes .data (by simp [hdata]) (by simp [hdata])).bind_pure
      (Nat.le_refl _) fun _ => rfl
  · obtain ⟨name, hname⟩ := TokenKind.isIdentifier_iff.mp hk
    refine echoes_next (by simp [hname]) (echoes_ite (fun _ => ?_) fun _ => ?_)
    · exact (deferred_echoes .signature (by simp [hname]) (by simp [hname])).bind_pure
        (Nat.le_refl _) fun _ => rfl
    · exact declaration_echoes.bind_pure (Nat.le_refl _) fun _ => rfl

theorem itemsWithin_echoes : ∀ n m s,
    (itemsWithin fixities n).Echoes (itemsWithin fixities m) (fun _ => 0) 1 m s
  | 0, _, _     => echoes_diverge
  | n + 1, m, s => by
    refine .of_succ (fun m => ?_) m
    rw [itemsWithin, itemsWithin]
    refine separators_echoes.bind (Nat.le_refl _) fun _ s => ?_
    refine echoes_current (echoes_ite (fun _ => echoes_pure rfl) fun _ => ?_)
    -- The item pays for the items behind it.
    refine item_echoes.bind (Nat.le_refl _) fun first s => ?_
    exact (itemsWithin_echoes n m _).bind_pure (by omega) fun _ => rfl

theorem module_echoes :
    (module fixities).Echoes (module fixities) (fun _ => 0) cost steps s := by
  rw [module]
  refine blankLines_echoes.bind (Nat.le_refl _) fun _ s => echoes_current ?_
  refine echoes_require fun _ => header_echoes.bind (Nat.le_refl _) fun names s => ?_
  refine (echoes_repeated (by decide) fun m => importsWithin_echoes s.fuel m s).bind
    (Nat.le_refl _) fun imports s => ?_
  exact (echoes_repeated (by decide) fun m => itemsWithin_echoes s.fuel m s).bind_pure
    (Nat.le_refl _) fun _ => rfl

/-! ### Where reading fails -/

variable {α : Type} {p : Parser α} {tokens tokens' : List Token} {i : Nat} {e : SyntaxError}

/-- Reading the tokens fails when the given number of them has been read. -/
def FaultsAt (p : Parser α) (tokens : List Token) (i : Nat) (e : SyntaxError) : Prop :=
  ∃ t, p (.ofList tokens) = .error (.error e) t ∧ t.ahead.length + i = tokens.length

instance : Decidable (p.FaultsAt tokens i e) :=
  match h : p (.ofList tokens) with
  | .error (.error e') t =>
    decidable_of_iff (e' = e ∧ t.ahead.length + i = tokens.length) (by simp [FaultsAt, h])
  | .error (.disorder _) _ => isFalse (by simp [FaultsAt, h])
  | .error .endless _      => isFalse (by simp [FaultsAt, h])
  | .ok _ _                => isFalse (by simp [FaultsAt, h])

theorem FaultsAt.run'_eq (h : p.FaultsAt tokens i e) : p.run' tokens = .error (.error e) := by
  obtain ⟨t, ht, -⟩ := h
  simp only [run', ht]

/-- A reader that fails has read some number of tokens. -/
theorem Echoes.exists_faultsAt (h : ∀ steps, p.Echoes p (fun _ => 0) 0 steps (.ofList tokens))
    (hrun : p.run' tokens = .error (.error e)) : ∃ i, p.FaultsAt tokens i e := by
  rw [run'] at hrun
  split at hrun
  · cases hrun
  · next t ht =>
    cases hrun
    obtain ⟨read, hr, -⟩ := (h 0).of_error ht (by simp)
    exact ⟨read.length, t, ht, by rw [Nat.add_comm]; exact hr.length.symm⟩

/-- A reader that echoes itself fails in the same way on tokens that share the ones it has read and
the three behind them. -/
theorem Echoes.faultsAt (h : ∀ steps, p.Echoes p (fun _ => 0) 0 steps (.ofList tokens))
    (hshared : tokens'.take (i + 3) = tokens.take (i + 3)) (hf : p.FaultsAt tokens i e) :
    p.FaultsAt tokens' i e := by
  obtain ⟨t, ht, hi⟩ := hf
  by_cases hthree : 3 ≤ t.ahead.length
  · obtain ⟨read, hr, -, hq⟩ := (h (16 * tokens.length)).of_error ht (by simp)
    have htokens : tokens = read ++ t.ahead := hr.ahead
    obtain rfl : read.length = i := by
      rw [htokens, List.length_append] at hi
      omega
    have hread : tokens'.take read.length = read := by
      simpa [List.take_take, htokens] using congrArg (List.take read.length) hshared
    have hview : (tokens'.drop read.length).take 3 = t.ahead.take 3 := by
      simpa [List.drop_take, htokens] using congrArg (List.drop read.length) hshared
    have hsplit : tokens' = read ++ tokens'.drop read.length := by
      conv_lhs => rw [← List.take_append_drop read.length tokens', hread]
    have hr' : (TokenStream.ofList tokens').Reads read
        ⟨tokens'.drop read.length, (TokenStream.ofList tokens').last⟩ := ⟨hsplit, rfl, hr.noEnd⟩
    refine ⟨_, hq ?_ _ _ hr' (.of_take hthree hview), ?_⟩
    · rw [htokens, List.length_append]
      omega
    · rw [Nat.add_comm]
      exact hr'.length.symm
  · -- Fewer tokens are left than can be seen, so that all tokens are shared.
    have hall : tokens.take (i + 3) = tokens := List.take_of_length_le (by omega)
    rw [hall] at hshared
    have hlength := congrArg List.length hshared
    rw [List.length_take] at hlength
    have hall' : tokens'.take (i + 3) = tokens' := List.take_of_length_le (by omega)
    rw [← hshared, hall'] at ht hi
    exact ⟨t, ht, hi⟩

/-- Every fault of a module is found when some number of its tokens has been read. -/
theorem parseModule_eq_error_iff (fixities : FixityTable) :
    parseModule tokens fixities = .error (.error e) ↔
      ∃ i, (module fixities).FaultsAt tokens i e :=
  ⟨Echoes.exists_faultsAt fun _ => module_echoes, fun ⟨_, h⟩ => h.run'_eq⟩

/-- Every fault of an expression is found when some number of its tokens has been read. -/
theorem parseExpression_eq_error_iff (fixities : FixityTable) :
    parseExpression tokens fixities = .error (.error e) ↔
      ∃ i, (wholeExpression fixities).FaultsAt tokens i e :=
  ⟨Echoes.exists_faultsAt fun _ => wholeExpression_echoes, fun ⟨_, h⟩ => h.run'_eq⟩

/-- Where reading a module or an expression fails, and with which fault at which token, is settled
by the tokens read before and by the next three: it fails in the same way on all tokens that share
these, and none of them are accepted. -/
theorem faultsAt_of_take_eq (fixities : FixityTable) {tokens tokens' : List Token} {i : Nat}
    {e : SyntaxError} (hshared : tokens'.take (i + 3) = tokens.take (i + 3)) :
    ((module fixities).FaultsAt tokens i e →
      (module fixities).FaultsAt tokens' i e ∧ ∀ m, parseModule tokens' fixities ≠ .ok m) ∧
    ((wholeExpression fixities).FaultsAt tokens i e →
      (wholeExpression fixities).FaultsAt tokens' i e ∧
        ∀ x, parseExpression tokens' fixities ≠ .ok x) := by
  constructor <;> intro h
  · have h' := Echoes.faultsAt (fun _ => module_echoes) hshared h
    exact ⟨h', fun m hm => by rw [parseModule, h'.run'_eq] at hm; cases hm⟩
  · have h' := Echoes.faultsAt (fun _ => wholeExpression_echoes) hshared h
    exact ⟨h', fun x hx => by rw [parseExpression, h'.run'_eq] at hx; cases hx⟩

/-- A tuple without its second element, and an import without a name: what stands behind the next
two tokens makes no difference. -/
theorem faultsAt_of_take_eq_equals :
    let tuple : List TokenKind :=
      [.symbol .openRound, .identifier "a", .symbol .comma, .symbol .equals, .identifier "b",
        .identifier "c"]
    let imports : List TokenKind :=
      [.symbol .moduleWord, .identifier "M", .lineBreak, .symbol .importWord, .symbol .equals,
        .identifier "a", .lineBreak]
    (wholeExpression .standard).FaultsAt (Token.row 0 (tuple ++ [.endOfInput])) 3
      ⟨.expressionExpected, ⟨.symbol .equals, ⟨3, 0, 3⟩, ⟨4, 0, 4⟩⟩⟩ ∧
    (wholeExpression .standard).FaultsAt
      (Token.row 0 (tuple ++ [.symbol .closeRound, .endOfInput])) 3
      ⟨.expressionExpected, ⟨.symbol .equals, ⟨3, 0, 3⟩, ⟨4, 0, 4⟩⟩⟩ ∧
    (module .standard).FaultsAt (Token.row 0 (imports ++ [.endOfInput])) 4
      ⟨.invalidImport, ⟨.symbol .equals, ⟨4, 0, 4⟩, ⟨5, 0, 5⟩⟩⟩ ∧
    (module .standard).FaultsAt (Token.row 0 (imports ++ [.identifier "b"])) 4
      ⟨.invalidImport, ⟨.symbol .equals, ⟨4, 0, 4⟩, ⟨5, 0, 5⟩⟩⟩ := by
  intro tuple imports
  have htuple : (wholeExpression .standard).FaultsAt (Token.row 0 (tuple ++ [.endOfInput])) 3
      ⟨.expressionExpected, ⟨.symbol .equals, ⟨3, 0, 3⟩, ⟨4, 0, 4⟩⟩⟩ := by
    decide +kernel
  have himports : (module .standard).FaultsAt (Token.row 0 (imports ++ [.endOfInput])) 4
      ⟨.invalidImport, ⟨.symbol .equals, ⟨4, 0, 4⟩, ⟨5, 0, 5⟩⟩⟩ := by
    decide +kernel
  exact ⟨htuple, ((faultsAt_of_take_eq .standard (by decide)).2 htuple).1, himports,
    ((faultsAt_of_take_eq .standard (by decide)).1 himports).1⟩

end Parser

end Frontend
