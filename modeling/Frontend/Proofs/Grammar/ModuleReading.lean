import Frontend.Grammar.Module
import Frontend.Proofs.Grammar.Yield

/-!
# What the readers of modules read

`p.Advances s` says that the parser `p` reads tokens before the end of input, and that it fails, if
it does, at a token ahead. All readers of modules advance, however many steps they may take.
-/

namespace Frontend.Parser

variable {α β : Type} {p : Parser α} {s t : TokenStream} {read : List Token}
  {fault : SyntaxFault}

/-- The parser reads tokens before the end of input, and its failure is at a token ahead. -/
def Advances (p : Parser α) (s : TokenStream) : Prop :=
  p.Ensures (fun _ t => ∃ read, s.Reads read t) (FailsAt s) s

namespace Advances

/-! ### Steps -/

theorem pure (a : α) : (Pure.pure a : Parser α).Advances s := ⟨[], .refl s⟩

theorem diverge : (diverge : Parser α).Advances s := .endless (.refl s)

theorem fail (hf : fault.isLocal) : (fail fault : Parser α).Advances s :=
  .of_reads (.refl s) hf

theorem require (condition : Bool) (hf : fault.isLocal) :
    (require condition fault).Advances s :=
  (ensures_require condition fault).mpr ⟨fun _ => ⟨[], .refl s⟩, fun _ => .of_reads (.refl s) hf⟩

theorem expect (a : Option α) (hf : fault.isLocal) :
    (expect fault a).Advances s :=
  (ensures_expect fault a).mpr ⟨fun _ _ => ⟨[], .refl s⟩, fun _ => .of_reads (.refl s) hf⟩

theorem advance (hs : s.Ends) (hk : s.current.kind ≠ .endOfInput) : advance.Advances s :=
  ⟨_, hs.reads_advance hk⟩

theorem consume (hs : s.Ends) (symbol : Symbol) : (consume symbol).Advances s :=
  (ensures_consume symbol).mpr
    ⟨fun hk => ⟨_, hs.reads_advance (by simp [hk])⟩, fun _ => ⟨[], .refl s⟩⟩

theorem take (hs : s.Ends) (symbol : Symbol) (hf : fault.isLocal) :
    (take (·.isSymbol symbol) fault).Advances s := by
  refine (ensures_take _ fault).mpr ⟨fun hk => ⟨_, hs.reads_advance ?_⟩,
    fun _ => .of_reads (.refl s) hf⟩
  rw [TokenKind.isSymbol_iff.mp hk]
  simp

/-- A parser behind tokens that have been read. -/
theorem after (h : p.Advances t) (hr : s.Reads read t) :
    p.Ensures (fun _ u => ∃ read, s.Reads read u) (FailsAt s) t :=
  h.mono (fun _ _ ⟨_, hu⟩ => ⟨_, hr.trans hu⟩) fun _ _ he => he.trans hr

theorem bind {f : α → Parser β} (hs : s.Ends) (h : p.Advances s)
    (hf : ∀ a t, t.Ends → (f a).Advances t) : (p >>= f).Advances s := by
  rw [Advances]
  rw [ensures_bind]
  exact h.mono (fun a t ⟨_, hr⟩ => (hf a t (hr.ends hs)).after hr) fun _ _ he => he

theorem current {f : Token → Parser β} (h : (f s.current).Advances s) :
    (current >>= f).Advances s :=
  (ensures_bind f).mpr h

theorem peek {f : Token → Parser β} (n : Nat) (h : (f (s.peek n)).Advances s) :
    (peek n >>= f).Advances s :=
  (ensures_bind f).mpr h

theorem congr {q : Parser α} (hq : q.Advances s) (h : p s = q s) : p.Advances s :=
  (ensures_congr h).mpr hq

theorem repeated {p : Nat → Parser α} (h : ∀ n, (p n).Advances s) : (repeated p).Advances s :=
  h s.fuel

theorem ite {c : Prop} [Decidable c] {q : Parser α} (hp : c → p.Advances s)
    (hq : ¬ c → q.Advances s) : (if c then p else q).Advances s :=
  (ensures_ite c q).mpr ⟨hp, hq⟩

end Advances

/-! ### Layout -/

theorem blankLinesWithin_advances (n : Nat) (hs : s.Ends) : (blankLinesWithin n).Advances s := by
  induction n generalizing s with
  | zero => exact .diverge
  | succ n ih =>
    rw [blankLinesWithin]
    refine .current (.peek 1 (.ite (fun hk => ?_) fun _ => .pure ()))
    refine .bind hs (.advance hs ?_) fun _ t ht => ih ht
    rintro he
    simp [he, TokenKind.isIndentation] at hk

theorem separatorsWithin_advances (n : Nat) (hs : s.Ends) : (separatorsWithin n).Advances s := by
  induction n generalizing s with
  | zero => exact .diverge
  | succ n ih =>
    rw [separatorsWithin]
    apply Advances.bind hs (.repeated fun m => blankLinesWithin_advances m hs)
    intro _ t ht
    apply Advances.bind ht (.consume ht .semicolon)
    intro _ u hu
    refine .ite (fun _ => ih hu) fun _ => ?_
    exact .require _ (by decide)

theorem terminator_advances (hs : s.Ends) : terminator.Advances s := by
  rw [terminator]
  refine .current (.ite (fun hk => .advance hs ?_) fun _ => .require _ (by decide))
  rintro he
  simp [he, TokenKind.isSymbol] at hk

/-- Where a line goes on, its next token is added to the span. -/
theorem lineWithin_succ (n : Nat) (span : Span)
    (hend : ¬ (s.current.kind = .endOfInput ∨ s.current.kind = .symbol .semicolon))
    (hbreak : s.current.kind ≠ .lineBreak) :
    lineWithin (n + 1) span s =
      (do
        let span ← merge span s.current.span
        advance
        lineWithin n span) s := by
  simp only [lineWithin, if_neg hend, if_neg hbreak, bind, EStateM.bind]
  cases merge span s.current.span s <;> rfl

theorem lineWithin_advances (n : Nat) (span : Span) (hs : s.Ends) :
    (lineWithin n span).Advances s := by
  induction n generalizing s span with
  | zero => exact .diverge
  | succ n ih =>
    by_cases hend : s.current.kind = .endOfInput ∨ s.current.kind = .symbol .semicolon
    · apply (Advances.pure span).congr
      simp only [lineWithin, if_pos hend]
      rfl
    by_cases hbreak : s.current.kind = .lineBreak
    · by_cases hgoes : s.continues fun _ => true
      · obtain ⟨layout, hl, _⟩ := hs.exists_reads_skipContinuation fun _ => true
        refine (ensures_congr ?_).mpr ((ih span (hl.ends hs)).after hl)
        simp only [lineWithin, if_neg hend, if_pos hbreak, if_pos hgoes]
      · apply (Advances.pure span).congr
        simp only [lineWithin, if_neg hend, if_pos hbreak, if_neg hgoes]
        rfl
    · apply (ensures_congr (lineWithin_succ n span hend hbreak)).mpr
      rw [ensures_bind, ensures_merge]
      refine ⟨fun _ => ?_, fun _ => .disorder (.refl s) _⟩
      exact Advances.bind hs (.advance hs fun he => hend (.inl he)) fun _ t ht => ih _ ht

/-! ### Header and imports -/

theorem identifier_advances (hs : s.Ends) (hf : fault.isLocal) :
    (identifier fault).Advances s := by
  rw [Advances, Ensures, identifier]
  cases hi : Identifier.ofToken? s.current with
  | none => exact .of_reads (.refl s) hf
  | some i =>
    refine ⟨_, hs.reads_advance ?_⟩
    intro he
    simp [Identifier.ofToken?, he] at hi

theorem bindingsWithin_advances (n : Nat) (hs : s.Ends) (hf : fault.isLocal) :
    (bindingsWithin fault n).Advances s := by
  induction n generalizing s with
  | zero => exact .diverge
  | succ n ih =>
    rw [bindingsWithin]
    apply Advances.bind hs (identifier_advances hs hf)
    intro first t ht
    apply Advances.bind ht (.consume ht _)
    intro closed u hu
    refine .ite (fun _ => .pure [first]) fun _ => ?_
    apply Advances.bind hu (.take hu _ hf)
    intro _ v hv
    exact .bind hv (ih hv) fun rest _ _ => .pure (first :: rest)

theorem bindings?_advances (hs : s.Ends) (hf : fault.isLocal) :
    (bindings? fault).Advances s := by
  rw [bindings?]
  apply Advances.bind hs (.consume hs _)
  intro _ t ht
  apply Advances.ite ?_ fun _ => .pure none
  intro _
  apply Advances.bind ht (.consume ht _)
  intro _ u hu
  refine .ite (fun _ => .pure (some [])) fun _ => ?_
  exact .bind hu (.repeated fun n => bindingsWithin_advances n hu hf) fun names _ _ =>
    .pure (some names)

theorem header_advances (hs : s.Ends) : header.Advances s := by
  rw [header]
  apply Advances.bind hs (.take hs _ (by decide))
  intro _ t ht
  apply Advances.bind ht (identifier_advances ht (by decide))
  intro name u hu
  apply Advances.bind hu (bindings?_advances hu (by decide))
  intro names v hv
  exact .bind hv (terminator_advances hv) fun _ _ _ => .pure (name, names)

theorem localName?_advances (hs : s.Ends) : localName?.Advances s := by
  rw [localName?]
  apply Advances.bind hs (.consume hs _)
  intro _ t ht
  apply Advances.ite ?_ fun _ => .pure none
  intro _
  exact .bind ht (identifier_advances ht (by decide)) fun name _ _ => .pure (some name)

theorem importRest_advances (hs : s.Ends) : importRest.Advances s := by
  rw [importRest]
  apply Advances.bind hs (identifier_advances hs (by decide))
  intro _ t ht
  apply Advances.bind ht (localName?_advances ht)
  intro _ u hu
  apply Advances.bind hu (bindings?_advances hu (by decide))
  intro _ v hv
  exact .bind hv (terminator_advances hv) fun _ _ _ => .pure _

theorem separators_advances (hs : s.Ends) : separators.Advances s :=
  .repeated fun n => separatorsWithin_advances n hs

theorem importsWithin_advances (n : Nat) (hs : s.Ends) : (importsWithin n).Advances s := by
  induction n generalizing s with
  | zero => exact .diverge
  | succ n ih =>
    rw [importsWithin]
    apply Advances.bind hs (separators_advances hs)
    intro _ t ht
    apply Advances.bind ht (.consume ht _)
    intro _ u hu
    apply Advances.ite ?_ fun _ => .pure []
    intro _
    apply Advances.bind hu (importRest_advances hu)
    intro first v hv
    exact .bind hv (ih hv) fun rest _ _ => .pure (first :: rest)

/-! ### Items -/

theorem expression_advances (fixities : FixityTable) (hs : s.Ends) :
    (expression fixities).Advances s := by
  rw [expression]
  refine .repeated fun n => ((reading fixities n).expression s hs).mono ?_ fun _ _ he => he
  rintro (_ | e) t ⟨-, ht⟩
  · exact ⟨[], ht ▸ .refl s⟩
  · exact ht.reads hs

theorem declaration_advances (fixities : FixityTable) (hs : s.Ends) :
    (declaration fixities).Advances s := by
  rw [declaration]
  apply Advances.bind hs (identifier_advances hs (by decide))
  intro binder t ht
  apply Advances.bind ht (.take ht _ (by decide))
  intro _ u hu
  apply Advances.bind hu (expression_advances fixities hu)
  intro _ v hv
  apply Advances.bind hv (.expect _ (by decide))
  intro body w hw
  exact .bind hw (terminator_advances hw) fun _ _ _ => .pure _

theorem deferred_advances (kind : DeferredKind) (hs : s.Ends) : (deferred kind).Advances s := by
  rw [deferred]
  have hline : ∀ n, (do lineWithin n (← current).span : Parser Span).Advances s := by
    intro n
    exact .current (lineWithin_advances n s.current.span hs)
  apply Advances.bind hs (.repeated hline)
  intro span t ht
  exact .bind ht (terminator_advances ht) fun _ _ _ => .pure _

theorem item_advances (fixities : FixityTable) (hs : s.Ends) : (item fixities).Advances s := by
  have hdeferred : ∀ kind, (do return .deferred (← deferred kind) : Parser Item).Advances s := by
    intro kind
    exact .bind hs (deferred_advances kind hs) fun _ _ _ => .pure _
  have hdeclared : (do return .declared (← declaration fixities) : Parser Item).Advances s :=
    .bind hs (declaration_advances fixities hs) fun _ _ _ => .pure _
  rw [item]
  apply Advances.current
  apply Advances.ite (fun _ => hdeferred .data)
  intro _
  apply Advances.ite ?_ fun _ => .fail (by decide)
  intro _
  apply Advances.peek
  exact .ite (fun _ => hdeferred .signature) fun _ => hdeclared

theorem itemsWithin_advances (fixities : FixityTable) (n : Nat) (hs : s.Ends) :
    (itemsWithin fixities n).Advances s := by
  induction n generalizing s with
  | zero => exact .diverge
  | succ n ih =>
    rw [itemsWithin]
    apply Advances.bind hs (separators_advances hs)
    intro _ t ht
    apply Advances.current
    apply Advances.ite (fun _ => .pure [])
    intro _
    apply Advances.bind ht (item_advances fixities ht)
    intro first u hu
    exact .bind hu (ih hu) fun rest _ _ => .pure (first :: rest)

/-- A module is read from tokens before the end of input. -/
theorem module_advances (fixities : FixityTable) (hs : s.Ends) : (module fixities).Advances s := by
  rw [module]
  apply Advances.bind hs (.repeated fun n => blankLinesWithin_advances n hs)
  intro _ t ht
  apply Advances.current
  apply Advances.bind ht (.require _ (by decide))
  intro _ u hu
  apply Advances.bind hu (header_advances hu)
  intro header v hv
  apply Advances.bind hv (.repeated fun n => importsWithin_advances n hv)
  intro imports w hw
  exact .bind hw (.repeated fun n => itemsWithin_advances fixities n hw) fun items _ _ => .pure _

end Frontend.Parser
