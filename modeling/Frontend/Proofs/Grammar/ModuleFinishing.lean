import Frontend.Proofs.Grammar.ModuleLanguage

/-!
# Reading modules comes to an end

On tokens that are in order and that have an end of input, the reader of modules finishes with a
module or with a fault at a token. Each of its loops takes a token in each turn, so the steps that
it starts with are enough, and a line that is not read starts before all tokens that are added to
its span.
-/

namespace Frontend.Parser

variable {α β : Type} {p : Parser α} {s t : TokenStream} {fault : SyntaxFault}
  {fixities : FixityTable}

/-! ### Steps -/

namespace Finishes

theorem pure (a : α) : (Pure.pure a : Parser α).Finishes s := trivial

theorem require (condition : Bool) (fault : SyntaxFault) : (require condition fault).Finishes s :=
  (ensures_require condition fault).mpr ⟨fun _ => trivial, fun _ => trivial⟩

theorem expect (fault : SyntaxFault) (a : Option α) : (expect fault a).Finishes s :=
  (ensures_expect fault a).mpr ⟨fun _ _ => trivial, fun _ => trivial⟩

theorem consume (symbol : Symbol) : (consume symbol).Finishes s :=
  (ensures_consume symbol).mpr ⟨fun _ => trivial, fun _ => trivial⟩

theorem take (q : TokenKind → Bool) (fault : SyntaxFault) : (take q fault).Finishes s :=
  (ensures_take q fault).mpr ⟨fun _ => trivial, fun _ => trivial⟩

theorem identifier (fault : SyntaxFault) : (identifier fault).Finishes s := by
  rw [Finishes, Ensures, Parser.identifier]
  cases Identifier.ofToken? s.current <;> trivial

theorem ite {c : Prop} [Decidable c] {q : Parser α} (hp : c → p.Finishes s)
    (hq : ¬ c → q.Finishes s) : (if c then p else q).Finishes s :=
  (ensures_ite c q).mpr ⟨hp, hq⟩

theorem repeated {p : Nat → Parser α} (h : (p s.fuel).Finishes s) : (repeated p).Finishes s := h

/-- A parser goes on behind the tokens that the first one has read. -/
theorem bind {f : α → Parser β} (h : p.Finishes s) (hp : p.Advances s)
    (hf : ∀ a t read, s.Reads read t → (f a).Finishes t) : (p >>= f).Finishes s := by
  rw [Finishes, ensures_bind]
  refine (h.and_ensures hp).mono ?_ fun _ _ => id
  rintro a t ⟨read, hr⟩
  exact hf a t read hr

end Finishes

/-! ### Layout -/

theorem blankLines_finishes (n : Nat) (hs : s.Ends) (hn : s.ahead.length ≤ n) :
    (blankLinesWithin n).Finishes s :=
  (blankLines_reads n hs hn).mono (fun _ _ _ => trivial) fun _ _ => False.elim

theorem separatorsWithin_finishes (n : Nat) (hs : s.Ends) (hn : s.ahead.length ≤ n) :
    (separatorsWithin n).Finishes s := by
  induction n generalizing s with
  | zero => exact absurd hs.length_pos (by omega)
  | succ n ih =>
    rw [separatorsWithin]
    refine .bind (.repeated (blankLines_finishes _ hs s.length_le_fuel))
      (.repeated fun m => blankLinesWithin_advances m hs) fun _ t read hr => ?_
    have ht := hr.ends hs
    have hle := hr.length_le
    rw [Finishes, ensures_bind, ensures_consume]
    refine ⟨fun hk => ?_, fun _ => Finishes.require _ _⟩
    have hx := ht.reads_advance (by simp [hk])
    have hlen := hx.length_succ
    exact ih (hx.ends ht) (by omega)

theorem separators_finishes (hs : s.Ends) : separators.Finishes s :=
  .repeated (separatorsWithin_finishes _ hs s.length_le_fuel)

theorem terminator_finishes : terminator.Finishes s := by
  rw [terminator, Finishes, ensures_bind, ensures_current]
  exact Finishes.ite (fun _ => trivial) fun _ => .require _ _

/-- The tokens that are added to the span of a line end behind its start. -/
theorem lineWithin_finishes (n : Nat) (span : Span) (hs : s.Ends) (hn : s.ahead.length ≤ n)
    (hspan : ∀ t ∈ s.ahead, span.start ≤ t.span.stop) : (lineWithin n span).Finishes s := by
  induction n generalizing s span with
  | zero => exact absurd hs.length_pos (by omega)
  | succ n ih =>
    by_cases hend : s.current.kind = .endOfInput ∨ s.current.kind = .symbol .semicolon
    · simp only [Finishes, Ensures, lineWithin, if_pos hend]
    by_cases hbreak : s.current.kind = .lineBreak
    · by_cases hgoes : s.continues fun _ => true
      · have hlater : (lineWithin n span).Finishes (s.skipContinuation fun _ => true) := by
          obtain ⟨b, i, hr, -⟩ := hs.reads_of_continues hgoes
          have hlen := hr.length
          simp only [List.length_cons, List.length_nil] at hlen
          exact ih span (hr.ends hs) (by omega) fun t ht =>
            hspan t (hr.ahead ▸ List.mem_append_right _ ht)
        refine (ensures_congr ?_).mpr hlater
        simp only [lineWithin, if_neg hend, if_pos hbreak, if_pos hgoes]
      · simp only [Finishes, Ensures, lineWithin, if_neg hend, if_pos hbreak, if_neg hgoes]
    · refine (ensures_congr (lineWithin_succ n span hend hbreak)).mpr ?_
      have hx := hs.reads_advance fun he => hend (.inl he)
      have hlen := hx.length_succ
      have hle := hspan s.current (by rw [hx.ahead]; exact List.mem_cons_self)
      rw [ensures_bind, ensures_merge]
      refine ⟨fun _ => ?_, fun h => absurd hle h⟩
      rw [ensures_bind, ensures_advance]
      exact ih _ (hx.ends hs) (by omega) fun t ht =>
        hspan t (hx.ahead ▸ List.mem_append_right _ ht)

/-! ### Header and imports -/

theorem bindingsWithin_finishes (n : Nat) (hs : s.Ends) (hn : s.ahead.length ≤ n)
    (hf : fault.isLocal) : (bindingsWithin fault n).Finishes s := by
  induction n generalizing s with
  | zero => exact absurd hs.length_pos (by omega)
  | succ n ih =>
    rw [bindingsWithin]
    refine .bind (.identifier fault) (identifier_advances hs hf) fun first t read hr => ?_
    have ht := hr.ends hs
    have hle := hr.length_le
    refine .bind (.consume _) (.consume ht _) fun closed u read' hr' => ?_
    have hu := hr'.ends ht
    have hle' := hr'.length_le
    refine .ite (fun _ => .pure _) fun _ => ?_
    rw [Finishes, ensures_bind]
    refine ((Finishes.take _ _).and_ensures (take_reads hu .comma)).mono ?_ fun _ _ => id
    rintro c v ⟨hc, -⟩
    have hlen := hc.length_succ
    rw [ensures_bind]
    exact (ih (hc.ends hu) (by omega)).mono (fun _ _ _ => trivial) fun _ _ => id

theorem bindings?_finishes (hs : s.Ends) (hf : fault.isLocal) :
    (bindings? fault).Finishes s := by
  rw [bindings?]
  refine .bind (.consume _) (.consume hs _) fun _ t _ ht => .ite (fun _ => ?_) fun _ => .pure _
  replace ht := ht.ends hs
  refine .bind (.consume _) (.consume ht _) fun _ u _ hu => .ite (fun _ => .pure _) fun _ => ?_
  replace hu := hu.ends ht
  exact .bind (.repeated (bindingsWithin_finishes _ hu u.length_le_fuel hf))
    (.repeated fun n => bindingsWithin_advances n hu hf) fun _ _ _ _ => .pure _

theorem header_finishes (hs : s.Ends) : header.Finishes s := by
  rw [header]
  refine .bind (.take _ _) (.take hs _ (by decide)) fun _ t _ ht => ?_
  replace ht := ht.ends hs
  refine .bind (.identifier _) (identifier_advances ht (by decide)) fun _ u _ hu => ?_
  replace hu := hu.ends ht
  refine .bind (bindings?_finishes hu (by decide)) (bindings?_advances hu (by decide))
    fun _ v _ hv => ?_
  exact .bind terminator_finishes (terminator_advances (hv.ends hu)) fun _ _ _ _ => .pure _

theorem localName?_finishes (hs : s.Ends) : localName?.Finishes s := by
  rw [localName?]
  refine .bind (.consume _) (.consume hs _) fun _ t _ ht => .ite (fun _ => ?_) fun _ => .pure _
  exact .bind (.identifier _) (identifier_advances (ht.ends hs) (by decide)) fun _ _ _ _ => .pure _

theorem importRest_finishes (hs : s.Ends) : importRest.Finishes s := by
  rw [importRest]
  refine .bind (.identifier _) (identifier_advances hs (by decide)) fun _ t _ ht => ?_
  replace ht := ht.ends hs
  refine .bind (localName?_finishes ht) (localName?_advances ht) fun _ u _ hu => ?_
  replace hu := hu.ends ht
  refine .bind (bindings?_finishes hu (by decide)) (bindings?_advances hu (by decide))
    fun _ v _ hv => ?_
  exact .bind terminator_finishes (terminator_advances (hv.ends hu)) fun _ _ _ _ => .pure _

theorem importsWithin_finishes (n : Nat) (hs : s.Ends) (hn : s.ahead.length ≤ n) :
    (importsWithin n).Finishes s := by
  induction n generalizing s with
  | zero => exact absurd hs.length_pos (by omega)
  | succ n ih =>
    rw [importsWithin]
    refine .bind (separators_finishes hs) (separators_advances hs) fun _ t _ hr => ?_
    have ht := hr.ends hs
    have hle := hr.length_le
    rw [Finishes, ensures_bind, ensures_consume]
    refine ⟨fun hk => ?_, fun _ => trivial⟩
    have hw := ht.reads_advance (by simp [hk])
    have hlen := hw.length_succ
    have hu := hw.ends ht
    refine Finishes.bind (importRest_finishes hu) (importRest_advances hu) fun _ v _ hr' => ?_
    have hle' := hr'.length_le
    have hv := hr'.ends hu
    exact .bind (ih hv (by omega)) (importsWithin_advances n hv) fun _ _ _ _ => .pure _

/-! ### Items -/

theorem expression_finishes (fixities : FixityTable) (hs : s.Orderly) :
    (expression fixities).Finishes s :=
  .repeated ((finishing fixities _).expression s hs (by unfold TokenStream.fuel; omega))

theorem declaration_finishes (fixities : FixityTable) (hs : s.Orderly) :
    (declaration fixities).Finishes s := by
  rw [declaration]
  refine .bind (.identifier _) (identifier_advances hs.ends (by decide)) fun _ t _ ht => ?_
  replace ht := ht.orderly hs
  refine .bind (.take _ _) (.take ht.ends _ (by decide)) fun _ u _ hu => ?_
  replace hu := hu.orderly ht
  refine .bind (expression_finishes fixities hu) (expression_advances fixities hu.ends)
    fun _ v _ hv => ?_
  replace hv := hv.ends hu.ends
  refine .bind (.expect _ _) (.expect _ (by decide)) fun _ w _ hw => ?_
  exact .bind terminator_finishes (terminator_advances (hw.ends hv)) fun _ _ _ _ => .pure _

theorem deferred_finishes (kind : DeferredKind) (hs : s.Orderly) : (deferred kind).Finishes s := by
  have hspan : ∀ t ∈ s.ahead, s.current.span.start ≤ t.span.stop := by
    obtain ⟨rest, hahead⟩ := hs.ends.ahead_eq
    have horder := hs.inOrder
    rw [hahead] at horder ⊢
    exact fun t ht => Position.le_trans (horder.start_le ht) (horder.spans t ht)
  rw [deferred]
  refine .bind (.repeated ?_) (.repeated fun n => ?_) fun _ t _ ht => ?_
  · rw [Finishes, ensures_bind, ensures_current]
    exact lineWithin_finishes _ s.current.span hs.ends s.length_le_fuel hspan
  · exact .current (lineWithin_advances n s.current.span hs.ends)
  · exact .bind terminator_finishes (terminator_advances (ht.ends hs.ends)) fun _ _ _ _ => .pure _

theorem item_finishes (fixities : FixityTable) (hs : s.Orderly) : (item fixities).Finishes s := by
  rw [item, Finishes]
  simp only [ensures_bind, ensures_current, ensures_peek, ensures_ite, ensures_pure, ensures_fail]
  refine ⟨fun _ => ?_, fun _ => ⟨fun _ => ⟨fun _ => ?_, fun _ => ?_⟩, fun _ => trivial⟩⟩
  · exact deferred_finishes .data hs
  · exact deferred_finishes .signature hs
  · exact declaration_finishes fixities hs

theorem itemsWithin_finishes (fixities : FixityTable) (n : Nat) (hs : s.Orderly)
    (hn : s.ahead.length ≤ n) : (itemsWithin fixities n).Finishes s := by
  induction n generalizing s with
  | zero => exact absurd hs.ends.length_pos (by omega)
  | succ n ih =>
    rw [itemsWithin]
    refine .bind (separators_finishes hs.ends) (separators_advances hs.ends) fun _ t _ hr => ?_
    have ht := hr.orderly hs
    have hle := hr.length_le
    rw [Finishes, ensures_bind, ensures_current]
    refine Finishes.ite (fun _ => .pure _) fun _ => ?_
    rw [Finishes, ensures_bind]
    refine ((item_finishes fixities ht).and_ensures (item_reads ht.ends)).mono ?_ fun _ _ => id
    rintro first v ⟨u, hitem, hend⟩
    obtain ⟨x, own, hown⟩ := itemLine_reads_own hitem ht.ends
    obtain ⟨own', hown'⟩ := terminator_reads_own hend
    have hlen := hown.length
    have hle' := hown'.length_le
    simp only [List.length_cons] at hlen
    have hv := (hown.trans hown').orderly ht
    exact Finishes.bind (ih hv (by omega)) (itemsWithin_advances fixities n hv.ends)
      fun _ _ _ _ => .pure _

/-! ### Modules -/

/-- On tokens in order, a module or a fault at a token is found. -/
theorem module_finishes (fixities : FixityTable) (hs : s.Orderly) :
    (module fixities).Finishes s := by
  rw [module]
  refine .bind (.repeated (blankLines_finishes _ hs.ends s.length_le_fuel))
    (.repeated fun n => blankLinesWithin_advances n hs.ends) fun _ t _ ht => ?_
  replace ht := ht.orderly hs
  rw [Finishes, ensures_bind, ensures_current]
  refine Finishes.bind (.require _ _) (.require _ (by decide)) fun _ u _ hu => ?_
  replace hu := hu.orderly ht
  refine .bind (header_finishes hu.ends) (header_advances hu.ends) fun _ v _ hv => ?_
  replace hv := hv.orderly hu
  refine .bind (.repeated (importsWithin_finishes _ hv.ends v.length_le_fuel))
    (.repeated fun n => importsWithin_advances n hv.ends) fun _ w _ hw => ?_
  replace hw := hw.orderly hv
  exact .bind (.repeated (itemsWithin_finishes fixities _ hw w.length_le_fuel))
    (.repeated fun n => itemsWithin_advances fixities n hw.ends) fun _ _ _ _ => .pure _

end Frontend.Parser
