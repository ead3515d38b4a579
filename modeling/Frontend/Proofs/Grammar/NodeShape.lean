import Frontend.Proofs.Grammar.Acceptance
import Frontend.Proofs.Grammar.Construction

/-!
# The shape of the nodes that are built

Each way to build an expression keeps the shape of nodes, so every node of every expression that
is read has it: those of single expressions and those of the bodies of declarations.
-/

namespace Frontend

open Expression (Everywhere NodeShaped TakesTurns)

namespace Parser

theorem BuiltSegments.length_even {s t : TokenStream} {es : List Expression} :
    BuiltSegments s es t → es.length % 2 = 0
  | .nil => rfl
  | .cons _ _ _ _ hrest => by
    have heven := hrest.length_even
    simp only [List.length_cons]
    omega

/-- The texts among the segments behind the first one stand at the odd places. -/
theorem BuiltSegments.isText {s t : TokenStream} {es : List Expression} :
    BuiltSegments s es t → ∀ i e, es[i]? = some e → i % 2 = 1 → e.isText
  | .nil, _, _, he, _ => by cases he
  | .cons _ _ _ _ _, 0, _, _, hi => by cases hi
  | .cons _ _ _ htext _, 1, _, he, _ => by
    cases he
    exact htext
  | .cons _ _ _ _ hrest, i + 2, e, he, hi => hrest.isText i e he (by omega)

theorem BuiltSegments.takesTurns {s t : TokenStream} {first : Expression} {rest : List Expression}
    (h : BuiltSegments s rest t) (hne : rest ≠ []) (hfirst : first.isText) :
    TakesTurns (first :: rest) where
  odd := by
    have heven := h.length_even
    simp only [List.length_cons]
    omega
  length_ge := by
    have heven := h.length_even
    have hpos := List.length_pos_of_ne_nil hne
    simp only [List.length_cons]
    omega
  texts i e he hi := by
    match i with
    | 0     =>
      cases he
      exact hfirst
    | i + 1 => exact h.isText i e he (by omega)

mutual

/-- Every node of an expression that is built has its shape. -/
theorem Built.everywhere {s t : TokenStream} {e : Expression} :
    Built s e t → e.Everywhere NodeShaped
  | .before h => h.everywhere
  | .after _ h => h.everywhere
  | .leaf hk => Everywhere.leaf hk
  | .application hcallable hcallee hargument =>
    Everywhere.pair hcallable rfl hcallee.everywhere hargument.everywhere
  | .operation hleft ho hright =>
    Everywhere.pair (.inl ho) rfl hleft.everywhere hright.everywhere
  | .member hvalue hdot hname =>
    have hleaf := TokenKind.isLeaf_of_isIdentifier hname
    Everywhere.pair (.inr ⟨hdot, hname⟩) rfl hvalue.everywhere (Everywhere.leaf hleaf)
  | .tuple hfirst hrest hne => by
    refine .node ?_ (List.forall_mem_cons.mpr ⟨hfirst.everywhere, hrest.everywhere⟩)
    simpa [NodeShaped] using hne
  | .interpolation hfirst hrest hne =>
    have hleaf := TokenKind.isLeaf_of_isText hfirst
    .node (hrest.takesTurns hne hfirst)
      (List.forall_mem_cons.mpr ⟨Everywhere.leaf hleaf, hrest.everywhere⟩)
  | .unit _ _ => .node Nat.zero_ne_one nofun
  | .round _ hinner _ => hinner.everywhere.withSpan (hinner.everywhere.here.withSpan _)
  | .emptyList _ _ _ => .node trivial nofun
  | .list _ hfirst hrest _ =>
    .node trivial (List.forall_mem_cons.mpr ⟨hfirst.everywhere, hrest.everywhere⟩)

theorem BuiltElements.everywhere {s t : TokenStream} {es : List Expression} :
    BuiltElements s es t → ∀ e ∈ es, e.Everywhere NodeShaped
  | .nil => nofun
  | .cons _ hfirst hrest => List.forall_mem_cons.mpr ⟨hfirst.everywhere, hrest.everywhere⟩

theorem BuiltSegments.everywhere {s t : TokenStream} {es : List Expression} :
    BuiltSegments s es t → ∀ e ∈ es, e.Everywhere NodeShaped
  | .nil => nofun
  | .cons _ hvalue _ htext hrest =>
    have hleaf := TokenKind.isLeaf_of_isText htext
    List.forall_mem_cons.mpr ⟨hvalue.everywhere,
      List.forall_mem_cons.mpr ⟨Everywhere.leaf hleaf, hrest.everywhere⟩⟩

end

end Parser

/-! ### The theorem -/

/-- Every node of every expression that is read, alone or in a module, has its shape, whatever
tokens are given. -/
theorem nodeShaped_of_parse (tokens : List Token) (fixities : FixityTable) :
    (∀ e, parseExpression tokens fixities = .ok e → e.Everywhere NodeShaped) ∧
      ∀ m, parseModule tokens fixities = .ok m →
        ∀ d ∈ m.declarations, d.body.Everywhere NodeShaped := by
  constructor
  · intro e he
    obtain ⟨_, t, hbuilt⟩ := (Parser.wholeExpression_built fixities _).exists_of_run' he
    exact hbuilt.everywhere
  · intro m hm d hd
    obtain ⟨_, hbodies⟩ := (Parser.module_built fixities _).exists_of_run' hm
    obtain ⟨t, u, hbuilt⟩ := hbodies d hd
    exact hbuilt.everywhere

/-- The expression `f (x + 1)` is read, and its nodes have their shape. -/
theorem nodeShaped_of_parse_call :
    ∃ e, parseExpression (Token.row 0 [.identifier "f", .symbol .openRound, .identifier "x",
        .operator "+", .number "1", .symbol .closeRound, .endOfInput]) .standard = .ok e ∧
      e.Everywhere NodeShaped := by
  obtain ⟨e, he⟩ := Except.exists_ok_of_isOk (x := parseExpression (Token.row 0
    [.identifier "f", .symbol .openRound, .identifier "x", .operator "+", .number "1",
      .symbol .closeRound, .endOfInput]) .standard) (by decide +kernel)
  exact ⟨e, he, (nodeShaped_of_parse _ _).1 e he⟩

end Frontend
