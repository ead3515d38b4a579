import Frontend.Proofs.Grammar.Acceptance
import Frontend.Proofs.Grammar.Precedence

/-!
# Operators that are not associative

Two neighbouring operators of one precedence clash if one of them is not associative. A band sees
a clash at its second operator, and only if it has read the first one itself: the right operand of
an operator that associates to the right is read by the same band anew, with no operator before
it. So a flat chain is refused just if the first operator of a clash does not associate to the
right.
-/

namespace Frontend

open OperatorTree (Clash)

variable {fixities : FixityTable}

theorem FlatChain.wholeExpression_clashes (chain : FlatChain) (fixities : FixityTable) :
    (Parser.wholeExpression fixities).Ensures
      (fun e _ => ∃ tree : OperatorTree, e = tree.toExpression ∧
        Climbs fixities 0 chain.first chain.links tree [])
      (fun e _ => Parser.Clashing fixities chain.links e) (.ofList chain.tokens) := by
  rw [chain.ofList_tokens]
  exact Parser.wholeExpression_clashes chain.stop_kind chain.first_kind chain.link_kinds

/-- The only failure at a chain in order is at the second operator of a clash. -/
theorem FlatChain.exists_clash_of_error (chain : FlatChain) (horder : Token.InOrder chain.tokens)
    {failure : ParseFailure} (h : parseExpression chain.tokens fixities = .error failure) :
    ∃ a b, failure = .error ⟨.nonAssociativeOperator, b⟩ ∧ Clash fixities chain.links a b ∧
      (fixities.ofToken a).associativity ≠ .right := by
  have hends : (TokenStream.ofList chain.tokens).Ends :=
    ⟨chain.stop, by simp [TokenStream.ofList, tokens], chain.stop_kind⟩
  have hfinishes := Parser.wholeExpression_finishes fixities ⟨hends, horder⟩
  have hclashes := chain.wholeExpression_clashes fixities
  rw [parseExpression, Parser.run'] at h
  split at h
  · cases h
  · next hp =>
    cases h
    cases failure with
    | error x =>
      obtain ⟨hfault, a, hclash⟩ := hclashes.of_error hp x rfl
      obtain ⟨fault, b⟩ := x
      cases hfault
      exact ⟨a, b, rfl, hclash⟩
    | disorder d => exact (hfinishes.of_error hp).elim
    | endless => exact (hfinishes.of_error hp).elim

/-- A chain that is read is read as a grouped tree, so the first operator of each of its clashes
associates to the right. -/
theorem FlatChain.right_of_clash (chain : FlatChain) {e : Expression} {a b : Token}
    (h : parseExpression chain.tokens fixities = .ok e)
    (hclash : Clash fixities chain.links a b) : (fixities.ofToken a).associativity = .right := by
  have hclashes := chain.wholeExpression_clashes fixities
  obtain ⟨_, tree, rfl, htree⟩ := hclashes.exists_of_run' h
  have hlinks : tree.links = chain.links := by simpa using htree.links_eq
  exact htree.grouped.right_of_clash (hlinks ▸ hclash)

/-- A chain in order is read just if the first operator of each clash associates to the right. If
it is not read, the fault is at the second operator of a clash. -/
theorem FlatChain.exists_parseExpression_iff_clash (chain : FlatChain) (fixities : FixityTable)
    (horder : Token.InOrder chain.tokens) :
    ((∃ e, parseExpression chain.tokens fixities = .ok e) ↔
        ∀ a b, Clash fixities chain.links a b → (fixities.ofToken a).associativity = .right) ∧
      ∀ failure, parseExpression chain.tokens fixities = .error failure →
        ∃ a b, failure = .error ⟨.nonAssociativeOperator, b⟩ ∧ Clash fixities chain.links a b ∧
          (fixities.ofToken a).associativity ≠ .right := by
  refine ⟨⟨?_, fun hright => ?_⟩, fun _ => chain.exists_clash_of_error horder⟩
  · rintro ⟨e, he⟩ a b hclash
    exact chain.right_of_clash he hclash
  · cases hp : parseExpression chain.tokens fixities with
    | ok e => exact ⟨e, rfl⟩
    | error failure =>
      obtain ⟨a, b, -, hclash, hnot⟩ := chain.exists_clash_of_error horder hp
      exact absurd (hright a b hclash) hnot

/-- The chain of the numbers two to four with two operators of two characters. -/
def FlatChain.ofTwo (first second : String) : FlatChain where
  first := ⟨.number "2", ⟨0, 0, 0⟩, ⟨1, 0, 1⟩⟩
  links := [(⟨.operator first, ⟨2, 0, 2⟩, ⟨4, 0, 4⟩⟩, ⟨.number "3", ⟨5, 0, 5⟩, ⟨6, 0, 6⟩⟩),
    (⟨.operator second, ⟨7, 0, 7⟩, ⟨9, 0, 9⟩⟩, ⟨.number "4", ⟨10, 0, 10⟩, ⟨11, 0, 11⟩⟩)]
  stop := ⟨.endOfInput, ⟨11, 0, 11⟩, ⟨11, 0, 11⟩⟩
  first_kind := ⟨_, rfl⟩
  link_kinds := List.forall_mem_cons.mpr
    ⟨⟨⟨_, rfl⟩, _, rfl⟩, List.forall_mem_singleton.mpr ⟨⟨_, rfl⟩, _, rfl⟩⟩
  stop_kind := rfl

/-- A table with an operator that associates to the right and one of the same precedence that is
not associative. -/
def FixityTable.mixed : FixityTable :=
  ⟨[("++", ⟨⟨4, by decide⟩, .right⟩), ("==", ⟨⟨4, by decide⟩, .none⟩)]⟩

/-- The operators of `2 == 3 ++ 4` are refused. -/
theorem FlatChain.exists_fault_of_clash :
    ∃ b, parseExpression (ofTwo "==" "++").tokens .mixed =
      .error (.error ⟨.nonAssociativeOperator, b⟩) := by
  have horder : Token.InOrder (ofTwo "==" "++").tokens := ⟨by decide, by decide⟩
  obtain ⟨hiff, hfault⟩ := (ofTwo "==" "++").exists_parseExpression_iff_clash .mixed horder
  cases hp : parseExpression (ofTwo "==" "++").tokens .mixed with
  | ok e =>
    have hclash : Clash .mixed (ofTwo "==" "++").links
        ⟨.operator "==", ⟨2, 0, 2⟩, ⟨4, 0, 4⟩⟩ ⟨.operator "++", ⟨7, 0, 7⟩, ⟨9, 0, 9⟩⟩ :=
      ⟨⟨_, _, [], [], [], rfl, by decide, by simp⟩, .inl (by decide)⟩
    exact absurd (hiff.mp ⟨e, hp⟩ _ _ hclash) (by decide)
  | error failure =>
    obtain ⟨a, b, rfl, -⟩ := hfault failure hp
    exact ⟨b, rfl⟩

/-- The operators of `2 ++ 3 == 4` clash, and the chain is read all the same. -/
theorem FlatChain.exists_parseExpression_of_clash :
    (∃ a b, Clash .mixed (ofTwo "++" "==").links a b) ∧
      ∃ e, parseExpression (ofTwo "++" "==").tokens .mixed = .ok e := by
  refine ⟨⟨⟨.operator "++", ⟨2, 0, 2⟩, ⟨4, 0, 4⟩⟩, ⟨.operator "==", ⟨7, 0, 7⟩, ⟨9, 0, 9⟩⟩,
    ⟨_, _, [], [], [], rfl, by decide, by simp⟩, .inr (by decide)⟩, ?_⟩
  exact Except.exists_ok_of_isOk (by decide +kernel)

end Frontend
