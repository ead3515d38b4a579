import Frontend.Proofs.Grammar.Finishing
import Frontend.Proofs.Tree.Operators

/-!
# Precedence climbing

A flat chain of numbers and operators is read as a tree in which every operation obeys the fixities
of its operators. A band reads the longest tree whose operators are of the band or tighter: its
outermost operator is, and the operator that comes next is not (`Climbs`).
-/

namespace Frontend

/-! ### Flat chains -/

/-- An operator with the number behind it. -/
def IsLink (link : Token × Token) : Prop :=
  (∃ name, link.1.kind = .operator name) ∧ ∃ digits, link.2.kind = .number digits

/-- Numbers with operators between them, and the end of input. -/
structure FlatChain where
  first : Token
  links : List (Token × Token)
  stop : Token
  first_kind : ∃ digits, first.kind = .number digits
  link_kinds : ∀ link ∈ links, IsLink link
  stop_kind : stop.kind = .endOfInput

namespace FlatChain

/-- The numbers and operators of a chain from left to right. -/
def content (chain : FlatChain) : List Token := chain.first :: linkTokens chain.links

/-- All tokens of a chain. -/
def tokens (chain : FlatChain) : List Token := chain.content ++ [chain.stop]

end FlatChain

/-! ### Bands -/

section Bands

open OperatorTree (operation Clash)

variable {fixities : FixityTable} {x y o : Token} {links rest : List (Token × Token)}

/-- The next operator, if there is one, is looser than the band. -/
def NextBelow (fixities : FixityTable) (band : Nat) (links : List (Token × Token)) : Prop :=
  ∀ link ∈ links.head?, (fixities.ofToken link.1).precedence.val < band

/-- The tree is what a band reads of a chain: a grouped tree of its operators and the tighter ones,
up to a looser operator. -/
structure Climbs (fixities : FixityTable) (band : Nat) (first : Token)
    (links : List (Token × Token)) (tree : OperatorTree) (rest : List (Token × Token)) : Prop where
  first_eq : tree.first = first
  links_eq : tree.links ++ rest = links
  grouped : tree.Grouped fixities
  root : tree.RootFrom fixities band
  next : NextBelow fixities band rest

/-- The tree is what a band has read of a chain so far, and `before?` tells how the operator before
the next one associates. -/
structure Climbing (fixities : FixityTable) (band : Nat) (before? : Option Associativity)
    (first : Token) (links : List (Token × Token)) (tree : OperatorTree)
    (rest : List (Token × Token)) : Prop where
  first_eq : tree.first = first
  links_eq : tree.links ++ rest = links
  grouped : tree.Grouped fixities
  root : match before? with
    | none => tree.RootFrom fixities (band + 1)
    | some a => ∃ o l r, tree = operation o l r ∧ (fixities.ofToken o).precedence.val = band ∧
        (fixities.ofToken o).associativity = a
  next : NextBelow fixities (band + 1) rest
  /-- A right operand in the band has taken all operators of the band. -/
  next_right : before? = some .right → NextBelow fixities band rest

theorem Climbs.climbing {band : Nat} {tree : OperatorTree}
    (h : Climbs fixities (band + 1) x links tree rest) :
    Climbing fixities band none x links tree rest where
  first_eq := h.first_eq
  links_eq := h.links_eq
  grouped := h.grouped
  root := h.root
  next := h.next
  next_right := nofun

/-- A band ends at an operator that is looser than the band. -/
theorem Climbing.climbs {band : Nat} {before? : Option Associativity} {tree : OperatorTree}
    (h : Climbing fixities band before? x links tree rest) (hnext : NextBelow fixities band rest) :
    Climbs fixities band x links tree rest where
  first_eq := h.first_eq
  links_eq := h.links_eq
  grouped := h.grouped
  root := by
    have hroot := h.root
    split at hroot
    · exact hroot.mono (Nat.le_succ band)
    · obtain ⟨o, l, r, rfl, hp, -⟩ := hroot
      exact Nat.le_of_eq hp.symm
  next := hnext

/-- What stands before an operator of the band fits it, unless the two cannot be chained. -/
theorem Climbing.fitsLeft {band : Nat} {before? : Option Associativity} {tree : OperatorTree}
    (h : Climbing fixities band before? x links tree ((o, y) :: rest))
    (hband : (fixities.ofToken o).precedence.val = band)
    (hchain : before?.any (·.forbidsChain (fixities.ofToken o).associativity) = false) :
    tree.FitsLeft fixities o := by
  have hroot := h.root
  cases before? with
  | none =>
    cases tree with
    | operand _ => trivial
    | operation o' l r =>
      exact .inl (show (fixities.ofToken o).precedence.val < _ from hband ▸ hroot)
  | some a =>
    obtain ⟨o', l, r, rfl, hp, rfl⟩ := hroot
    have hright : (fixities.ofToken o').associativity ≠ .right := fun hr => by
      have hlt := h.next_right (congrArg some hr) (o, y) rfl
      exact Nat.lt_irrefl band (hband ▸ hlt)
    simp only [Option.any_some, Associativity.forbidsChain, Bool.or_eq_false_iff,
      beq_eq_false_iff_ne] at hchain
    have hleft : (fixities.ofToken o').associativity = .left := by
      cases ha : (fixities.ofToken o').associativity with
      | left => rfl
      | right => exact absurd ha hright
      | none => exact absurd ha hchain.1
    exact .inr ⟨Fin.ext (hp.trans hband.symm), hleft, hchain.2⟩

/-- What the band of a right operand reads fits the operator before it. -/
theorem fitsRight_of_rootFrom {tree : OperatorTree}
    (h : tree.RootFrom fixities (fixities.ofToken o).rightBand) : tree.FitsRight fixities o := by
  cases tree with
  | operand _ => trivial
  | operation o' l r =>
    have hle : (fixities.ofToken o).rightBand ≤ (fixities.ofToken o').precedence.val := h
    cases ha : (fixities.ofToken o).associativity with
    | right =>
      simp only [Fixity.rightBand, ha] at hle
      rcases Nat.lt_or_eq_of_le hle with hlt | heq
      · exact .inl hlt
      · exact .inr ⟨Fin.ext heq.symm, ha⟩
    | left =>
      simp only [Fixity.rightBand, ha] at hle
      exact .inl hle
    | none =>
      simp only [Fixity.rightBand, ha] at hle
      exact .inl hle

/-- An operator of the band and its right operand are read. -/
theorem Climbing.step {band : Nat} {before? : Option Associativity} {tree right : OperatorTree}
    {rest' : List (Token × Token)}
    (h : Climbing fixities band before? x links tree ((o, y) :: rest))
    (hband : (fixities.ofToken o).precedence.val = band)
    (hchain : before?.any (·.forbidsChain (fixities.ofToken o).associativity) = false)
    (hright : Climbs fixities (fixities.ofToken o).rightBand y rest right rest') :
    Climbing fixities band (some (fixities.ofToken o).associativity) x links
      (operation o tree right) rest' where
  first_eq := h.first_eq
  links_eq := by
    rw [← h.links_eq, ← hright.links_eq, ← hright.first_eq, OperatorTree.links]
    simp
  grouped :=
    ⟨h.grouped, hright.grouped, h.fitsLeft hband hchain, fitsRight_of_rootFrom hright.root⟩
  root := ⟨o, tree, right, rfl, hband, rfl⟩
  next link hlink := Nat.lt_of_lt_of_le (hright.next link hlink)
    (hband ▸ Fixity.rightBand_le _)
  next_right ha link hlink := by
    have hlt := hright.next link hlink
    simp only [Fixity.rightBand, Option.some.inj ha, hband] at hlt
    exact hlt

/-- Where an operator cannot be chained, it clashes with one that does not associate to the
right. -/
theorem Climbing.exists_clash {band : Nat} {before? : Option Associativity}
    {tree : OperatorTree} (h : Climbing fixities band before? x links tree ((o, y) :: rest))
    (hband : (fixities.ofToken o).precedence.val = band)
    (hchain : before?.any (·.forbidsChain (fixities.ofToken o).associativity) = true) :
    ∃ a, Clash fixities links a o ∧ (fixities.ofToken a).associativity ≠ .right := by
  cases before? with
  | none => simp at hchain
  | some _ =>
    obtain ⟨o', l, r, rfl, hp, rfl⟩ := h.root
    simp only [Option.any_some, Associativity.forbidsChain, Bool.or_eq_true, beq_iff_eq] at hchain
    have hright : (fixities.ofToken o').associativity ≠ .right := fun hr => by
      have hlt := h.next_right (congrArg some hr) (o, y) rfl
      exact Nat.lt_irrefl band (hband ▸ hlt)
    have hlinks : links = l.links ++ (o', r.first) :: (r.links ++ (o, y) :: rest) := by
      rw [← h.links_eq, OperatorTree.links]
      simp
    refine ⟨o', ⟨⟨_, _, _, _, _, hlinks, Fin.ext (hp.trans hband.symm), fun link hlink => ?_⟩,
      hchain⟩, hright⟩
    have hle := h.grouped.2.1.le_precedence h.grouped.2.2.2.rootFrom hlink
    exact Nat.lt_of_le_of_ne hle fun heq =>
      hright (h.grouped.associativity_of_right (Fin.ext heq.symm) hlink)

end Bands

/-! ### Streams -/

namespace TokenStream

variable {x o stop : Token} {rest : List (Token × Token)}

/-- The stream of the operators of a chain. -/
def ofLinks (rest : List (Token × Token)) (stop : Token) : TokenStream :=
  ⟨linkTokens rest ++ [stop], stop⟩

/-- The stream of an operand and the operators behind it. -/
def ofOperand (x : Token) (rest : List (Token × Token)) (stop : Token) : TokenStream :=
  ⟨x :: linkTokens rest ++ [stop], stop⟩

@[simp] theorem current_ofLinks_nil : (ofLinks [] stop).current = stop := rfl

@[simp] theorem current_ofLinks_cons : (ofLinks ((o, x) :: rest) stop).current = o := rfl

@[simp] theorem current_ofOperand : (ofOperand x rest stop).current = x := rfl

theorem advance_ofLinks_cons (h : o.kind ≠ .endOfInput) :
    (ofLinks ((o, x) :: rest) stop).advance = ofOperand x rest stop := by
  simp [advance, ofLinks, ofOperand, linkTokens, h]

theorem advance_ofOperand (h : x.kind ≠ .endOfInput) :
    (ofOperand x rest stop).advance = ofLinks rest stop := by
  simp [advance, ofLinks, ofOperand, h]

/-- Behind an operand of a chain there is an operator or the end of input. -/
theorem current_ofLinks_kind (hrest : ∀ link ∈ rest, IsLink link)
    (hstop : stop.kind = .endOfInput) :
    (∃ name, (ofLinks rest stop).current.kind = .operator name) ∨
      (ofLinks rest stop).current.kind = .endOfInput := by
  cases rest with
  | nil => exact .inr hstop
  | cons link rest => exact .inl (hrest link List.mem_cons_self).1

theorem skipContinuation_ofLinks (p : TokenKind → Bool) (hrest : ∀ link ∈ rest, IsLink link)
    (hstop : stop.kind = .endOfInput) :
    (ofLinks rest stop).skipContinuation p = ofLinks rest stop := by
  apply skipContinuation_of_ne p
  rcases current_ofLinks_kind hrest hstop with ⟨name, hk⟩ | hk
  · simp [hk]
  · simp [hk]

end TokenStream

namespace Parser

open OperatorTree (Clash)
open TokenStream (ofLinks ofOperand)

variable {fixities : FixityTable} {x stop : Token} {links rest : List (Token × Token)}

/-! ### Numbers -/

/-- The answer is the expression of a number, which alone was read. -/
def ReadsNumber (x : Token) (rest : List (Token × Token)) (stop : Token) (e? : Option Expression)
    (t : TokenStream) : Prop :=
  e? = some (.factor x x.span) ∧ t = ofLinks rest stop

section Numbers

variable (hx : ∃ digits, x.kind = .number digits) (hrest : ∀ link ∈ rest, IsLink link)
  (hstop : stop.kind = .endOfInput)
include hx

theorem primary_number (n : Nat) :
    (primaryWithin fixities n).Ensures (ReadsNumber x rest stop) (fun e _ => e = .endless)
      (ofOperand x rest stop) := by
  obtain ⟨digits, hx⟩ := hx
  cases n with
  | zero => rfl
  | succ n =>
    have hadvance : (ofOperand x rest stop).advance = ofLinks rest stop :=
      TokenStream.advance_ofOperand (by simp [hx])
    rw [primaryWithin]
    simp only [ensures_bind, ensures_current, TokenStream.current_ofOperand, hx, ensures_advance,
      hadvance]
    exact ⟨rfl, rfl⟩

include hrest hstop

theorem factor_number (n : Nat) :
    (factorWithin fixities n).Ensures (ReadsNumber x rest stop) (fun e _ => e = .endless)
      (ofOperand x rest stop) := by
  cases n with
  | zero => rfl
  | succ n =>
    have hskip : (ofOperand x rest stop).skipContinuation (·.startsFactor) =
        ofOperand x rest stop := by
      obtain ⟨digits, hx⟩ := hx
      exact TokenStream.skipContinuation_of_ne _ (by simp [hx])
    have hdot : (ofLinks rest stop).current.kind ≠ .symbol .dotAccess := by
      rcases TokenStream.current_ofLinks_kind hrest hstop with ⟨name, h⟩ | h <;> simp [h]
    rw [factorWithin]
    simp only [ensures_bind, ensures_skipContinuation, hskip]
    refine (primary_number hx n).mono ?_ fun _ _ => id
    rintro _ _ ⟨rfl, rfl⟩
    cases n with
    | zero => rfl
    | succ n =>
      rw [ensures_bind, membersWithin]
      simp only [ensures_bind, ensures_current, ensures_consume]
      exact ⟨fun h => absurd h hdot, fun _ => ⟨rfl, rfl⟩⟩

theorem application_number (n : Nat) :
    (applicationWithin fixities n).Ensures (ReadsNumber x rest stop) (fun e _ => e = .endless)
      (ofOperand x rest stop) := by
  cases n with
  | zero => rfl
  | succ n =>
    rw [applicationWithin, ensures_bind]
    refine (factor_number hx hrest hstop n).mono ?_ fun _ _ => id
    rintro _ _ ⟨rfl, rfl⟩
    cases n with
    | zero => rfl
    | succ n =>
      have hcallable : (Expression.factor x x.span).isCallable = false := by
        obtain ⟨digits, hx⟩ := hx
        simp [Expression.isCallable, TokenKind.isIdentifier, hx]
      rw [ensures_bind, argumentsWithin, hcallable]
      exact ⟨rfl, rfl⟩

end Numbers

/-! ### Chains -/

/-- The only fault in a chain is an operator that clashes with one before it. -/
def Clashing (fixities : FixityTable) (links : List (Token × Token)) (e : ParseFailure) : Prop :=
  ∀ error, e = .error error → error.fault = .nonAssociativeOperator ∧
    ∃ a, Clash fixities links a error.token ∧ (fixities.ofToken a).associativity ≠ .right

theorem clashing_endless : Clashing fixities links .endless := by
  rintro _ ⟨⟩

theorem clashing_disorder (d : Span.Disorder) : Clashing fixities links (.disorder d) := by
  rintro _ ⟨⟩

theorem Clashing.prepend {e : ParseFailure} (h : Clashing fixities links e)
    (more : List (Token × Token)) : Clashing fixities (more ++ links) e := by
  intro error he
  obtain ⟨hfault, a, hclash, hright⟩ := h error he
  exact ⟨hfault, a, hclash.prepend more, hright⟩

/-- What the bands make of a chain within a number of calls. -/
structure ClimbingWithin (fixities : FixityTable) (stop : Token) (n : Nat) : Prop where
  binary : ∀ band x links, (∃ digits, x.kind = .number digits) → (∀ link ∈ links, IsLink link) →
    (binaryWithin fixities n band).Ensures
      (fun e? t => ∃ tree rest, e? = some tree.toExpression ∧ t = ofLinks rest stop ∧
        Climbs fixities band x links tree rest)
      (fun e _ => Clashing fixities links e) (ofOperand x links stop)
  operations : ∀ band before? x links tree rest, (∀ link ∈ links, IsLink link) →
    Climbing fixities band before? x links tree rest →
    (operationsWithin fixities n band before? tree.toExpression).Ensures
      (fun e t => ∃ tree' rest', e = tree'.toExpression ∧ t = ofLinks rest' stop ∧
        Climbs fixities band x links tree' rest')
      (fun e _ => Clashing fixities links e) (ofLinks rest stop)

namespace ClimbingWithin

variable {n : Nat} (h : ClimbingWithin fixities stop n) (hstop : stop.kind = .endOfInput)
include h hstop

theorem binary_succ (band : Nat) (x : Token) (links : List (Token × Token))
    (hx : ∃ digits, x.kind = .number digits) (hlinks : ∀ link ∈ links, IsLink link) :
    (binaryWithin fixities (n + 1) band).Ensures
      (fun e? t => ∃ tree rest, e? = some tree.toExpression ∧ t = ofLinks rest stop ∧
        Climbs fixities band x links tree rest)
      (fun e _ => Clashing fixities links e) (ofOperand x links stop) := by
  rw [binaryWithin, ensures_ite]
  constructor
  · intro hband
    refine (application_number hx hlinks hstop n).mono ?_ ?_
    · rintro _ _ ⟨rfl, rfl⟩
      refine ⟨.operand x, links, rfl, rfl, rfl, rfl, trivial, trivial, fun link _ => ?_⟩
      exact Nat.lt_of_lt_of_le (fixities.ofToken link.1).precedence.isLt hband
    · rintro _ _ rfl
      exact clashing_endless
  · intro _
    rw [ensures_bind]
    refine (h.binary (band + 1) x links hx hlinks).mono ?_ fun _ _ => id
    rintro _ _ ⟨tree, rest, rfl, rfl, hclimbs⟩
    rw [ensures_bind]
    refine (h.operations band none x links tree rest hlinks hclimbs.climbing).mono ?_ fun _ _ => id
    rintro _ _ ⟨tree', rest', rfl, rfl, hclimbs'⟩
    exact ⟨tree', rest', rfl, rfl, hclimbs'⟩

theorem operations_succ (band : Nat) (before? : Option Associativity) (x : Token)
    (links : List (Token × Token)) (tree : OperatorTree) (rest : List (Token × Token))
    (hlinks : ∀ link ∈ links, IsLink link)
    (hclimbing : Climbing fixities band before? x links tree rest) :
    (operationsWithin fixities (n + 1) band before? tree.toExpression).Ensures
      (fun e t => ∃ tree' rest', e = tree'.toExpression ∧ t = ofLinks rest' stop ∧
        Climbs fixities band x links tree' rest')
      (fun e _ => Clashing fixities links e) (ofLinks rest stop) := by
  have hrest : ∀ link ∈ rest, link ∈ links := fun link hlink => by
    rw [← hclimbing.links_eq]
    exact List.mem_append_right _ hlink
  have hskip := TokenStream.skipContinuation_ofLinks (·.isOperator)
    (fun link hlink => hlinks link (hrest link hlink)) hstop
  rw [operationsWithin]
  simp only [ensures_bind, ensures_skipContinuation, ensures_current, hskip]
  cases rest with
  | nil =>
    simp only [TokenStream.current_ofLinks_nil, hstop]
    exact ⟨tree, [], rfl, rfl, hclimbing.climbs (by simp [NextBelow])⟩
  | cons link rest =>
    obtain ⟨o, y⟩ := link
    obtain ⟨⟨name, hname⟩, hy⟩ := hlinks (o, y) (hrest _ List.mem_cons_self)
    replace hname : o.kind = .operator name := hname
    have hfixity : fixities.get name = fixities.ofToken o := by
      simp [FixityTable.ofToken, hname]
    simp only [TokenStream.current_ofLinks_cons, hname, hfixity, ensures_ite]
    constructor
    · intro hband
      have hadvance : (ofLinks ((o, y) :: rest) stop).advance = ofOperand y rest stop :=
        TokenStream.advance_ofLinks_cons (by simp [hname])
      have hmem : ∀ link ∈ rest, link ∈ links := fun link hlink =>
        hrest link (List.mem_cons_of_mem _ hlink)
      have hbefore : (tree.links ++ [(o, y)]) ++ rest = links := by
        rw [← hclimbing.links_eq]
        simp
      simp only [ensures_bind, ensures_require, ensures_advance, hadvance]
      constructor
      · intro hchain
        refine (h.binary _ y rest hy fun link hlink => hlinks link (hmem link hlink)).mono ?_
          fun _ _ he => hbefore ▸ he.prepend _
        rintro _ _ ⟨right, rest', rfl, rfl, hright⟩
        simp only [ensures_expect, ensures_merge]
        refine ⟨?_, by simp⟩
        rintro _ ⟨⟩
        refine ⟨fun _ => ?_, fun _ => clashing_disorder _⟩
        exact h.operations band _ x links _ rest' hlinks
          (hclimbing.step hband (by simpa using hchain) hright)
      · intro hchain
        rintro _ ⟨⟩
        exact ⟨rfl, hclimbing.exists_clash hband (by simpa using hchain)⟩
    · intro hband
      refine ⟨tree, _, rfl, rfl, hclimbing.climbs ?_⟩
      rintro _ ⟨⟩
      have hlt := hclimbing.next (o, y) rfl
      exact Nat.lt_of_le_of_ne (Nat.le_of_lt_succ hlt) hband

end ClimbingWithin

/-- The bands read the chain, within any number of calls. -/
theorem climbingWithin (fixities : FixityTable) (hstop : stop.kind = .endOfInput) :
    ∀ n, ClimbingWithin fixities stop n
  | 0     => ⟨fun _ _ _ _ _ => clashing_endless, fun _ _ _ _ _ _ _ _ => clashing_endless⟩
  | n + 1 =>
    have h := climbingWithin fixities hstop n
    { binary := h.binary_succ hstop
      operations := h.operations_succ hstop }

/-! ### Whole chains -/

theorem expression_climbs (hstop : stop.kind = .endOfInput) (hx : ∃ digits, x.kind = .number digits)
    (hlinks : ∀ link ∈ links, IsLink link) (n : Nat) :
    (expressionWithin fixities n).Ensures
      (fun e? t => ∃ tree, e? = some tree.toExpression ∧ t = ofLinks [] stop ∧
        Climbs fixities 0 x links tree [])
      (fun e _ => Clashing fixities links e) (ofOperand x links stop) := by
  cases n with
  | zero => exact clashing_endless
  | succ n =>
    rw [expressionWithin, ensures_bind]
    refine ((climbingWithin fixities hstop n).binary 0 x links hx hlinks).mono ?_ fun _ _ => id
    rintro _ _ ⟨tree, rest, rfl, rfl, hclimbs⟩
    obtain rfl : rest = [] := by
      cases rest with
      | nil => rfl
      | cons link rest => exact absurd (hclimbs.next link rfl) (Nat.not_lt_zero _)
    have hskip : (ofLinks [] stop).skipContinuation (·.isSymbol .comma) = ofLinks [] stop :=
      TokenStream.skipContinuation_of_ne _ (by simp [hstop])
    simp only [ensures_bind, ensures_skipContinuation, ensures_current, hskip, ensures_ite]
    refine ⟨?_, fun _ => ⟨tree, rfl, rfl, hclimbs⟩⟩
    intro hc
    simp [hstop, TokenKind.isSymbol] at hc

theorem wholeExpression_clashes (hstop : stop.kind = .endOfInput)
    (hx : ∃ digits, x.kind = .number digits) (hlinks : ∀ link ∈ links, IsLink link) :
    (wholeExpression fixities).Ensures
      (fun e _ => ∃ tree, e = tree.toExpression ∧ Climbs fixities 0 x links tree [])
      (fun e _ => Clashing fixities links e) (ofOperand x links stop) := by
  rw [wholeExpression, expression]
  simp only [ensures_bind, ensures_repeated]
  refine (expression_climbs hstop hx hlinks _).mono ?_ fun _ _ => id
  rintro _ _ ⟨tree, rfl, rfl, hclimbs⟩
  simp only [ensures_expect]
  refine ⟨?_, by simp⟩
  rintro _ ⟨⟩
  have hfuel : (ofLinks [] stop).fuel = 31 + 1 := rfl
  rw [hfuel, lineBreaksWithin]
  simp only [ensures_bind, ensures_current, ensures_ite, ensures_require,
    TokenStream.current_ofLinks_nil, hstop]
  refine ⟨by simp, fun _ => ⟨fun _ => ⟨tree, rfl, hclimbs⟩, ?_⟩⟩
  intro hc
  simp [hstop] at hc

/-- The only fault in a chain is an operator that cannot be chained. -/
def Unchainable (fixities : FixityTable) (links : List (Token × Token)) (e : ParseFailure) : Prop :=
  ∀ error, e = .error error → error.fault = .nonAssociativeOperator ∧
    ∃ link ∈ links, (fixities.ofToken link.1).associativity = .none

theorem Clashing.unchainable {e : ParseFailure} (h : Clashing fixities links e) :
    Unchainable fixities links e := by
  intro error he
  obtain ⟨hfault, a, hclash, -⟩ := h error he
  exact ⟨hfault, hclash.exists_nonAssociative⟩

theorem wholeExpression_climbs (hstop : stop.kind = .endOfInput)
    (hx : ∃ digits, x.kind = .number digits) (hlinks : ∀ link ∈ links, IsLink link) :
    (wholeExpression fixities).Ensures
      (fun e _ => ∃ tree, e = tree.toExpression ∧ Climbs fixities 0 x links tree [])
      (fun e _ => Unchainable fixities links e) (ofOperand x links stop) :=
  (wholeExpression_clashes hstop hx hlinks).mono (fun _ _ => id) fun _ _ => Clashing.unchainable

end Parser

/-! ### The theorem -/

theorem FlatChain.ofList_tokens (chain : FlatChain) :
    TokenStream.ofList chain.tokens = .ofOperand chain.first chain.links chain.stop := by
  have hlast : chain.tokens.getLast? = some chain.stop := List.getLast?_concat
  rw [TokenStream.ofList, hlast, Option.getD_some]
  rfl

/-- A chain in order is read unless one of its operators is not associative, and what is read is a
grouped tree of the chain: the only one, if the operators of one precedence associate alike. -/
theorem FlatChain.grouped_of_parseExpression (chain : FlatChain) (fixities : FixityTable)
    (horder : Token.InOrder chain.tokens) :
    ((∀ link ∈ chain.links, (fixities.ofToken link.1).associativity ≠ .none) →
        ∃ e, parseExpression chain.tokens fixities = .ok e) ∧
      ∀ e, parseExpression chain.tokens fixities = .ok e →
        e.tokens = chain.content ∧
          ∃ tree : OperatorTree, e = tree.toExpression ∧ tree.Grouped fixities ∧
            (OperatorTree.AssociateAlike fixities chain.links →
              ∀ other : OperatorTree, other.toExpression.tokens = chain.content →
                other.Grouped fixities → other = tree) := by
  have hends : (TokenStream.ofList chain.tokens).Ends :=
    ⟨chain.stop, by simp [TokenStream.ofList, tokens], chain.stop_kind⟩
  have hfinishes := Parser.wholeExpression_finishes fixities ⟨hends, horder⟩
  have hclimbs : (Parser.wholeExpression fixities).Ensures _ _ _ :=
    Parser.wholeExpression_climbs chain.stop_kind chain.first_kind chain.link_kinds
  rw [← chain.ofList_tokens] at hclimbs
  rw [parseExpression, Parser.run']
  constructor
  · intro hassociative
    split
    · exact ⟨_, rfl⟩
    · next failure t hp =>
      have hfault := hfinishes.of_error hp
      cases failure with
      | error x =>
        obtain ⟨-, link, hlink, hnone⟩ := hclimbs.of_error hp x rfl
        exact absurd hnone (hassociative link hlink)
      | disorder d => exact hfault.elim
      | endless => exact hfault.elim
  · intro e he
    split at he
    · next e' t hp =>
      cases he
      obtain ⟨tree, rfl, htree⟩ := hclimbs.of_ok hp
      have hlinks : tree.links = chain.links := by simpa using htree.links_eq
      refine ⟨?_, tree, rfl, htree.grouped, fun halike other hother hgrouped => ?_⟩
      · rw [tree.tokens_toExpression, htree.first_eq, hlinks, content]
      · rw [other.tokens_toExpression, content] at hother
        obtain ⟨hfirst, hrest⟩ := List.cons.inj hother
        have hlinks' : other.links = chain.links := linkTokens_injective hrest
        exact hgrouped.unique htree.grouped (hlinks' ▸ halike) (hfirst.trans htree.first_eq.symm)
          (hlinks'.trans hlinks.symm)
    · cases he

/-- The chain `1 - 2 * 3 - 4`. -/
def FlatChain.differences : FlatChain where
  first := ⟨.number "1", ⟨0, 0, 0⟩, ⟨1, 0, 1⟩⟩
  links := [(⟨.operator "-", ⟨1, 0, 1⟩, ⟨2, 0, 2⟩⟩, ⟨.number "2", ⟨2, 0, 2⟩, ⟨3, 0, 3⟩⟩),
    (⟨.operator "*", ⟨3, 0, 3⟩, ⟨4, 0, 4⟩⟩, ⟨.number "3", ⟨4, 0, 4⟩, ⟨5, 0, 5⟩⟩),
    (⟨.operator "-", ⟨5, 0, 5⟩, ⟨6, 0, 6⟩⟩, ⟨.number "4", ⟨6, 0, 6⟩, ⟨7, 0, 7⟩⟩)]
  stop := ⟨.endOfInput, ⟨7, 0, 7⟩, ⟨8, 0, 8⟩⟩
  first_kind := ⟨_, rfl⟩
  link_kinds := by simp [IsLink]
  stop_kind := rfl

/-- The tree `(1 - (2 * 3)) - 4` of the chain. -/
def OperatorTree.differences : OperatorTree :=
  operation ⟨.operator "-", ⟨5, 0, 5⟩, ⟨6, 0, 6⟩⟩
    (operation ⟨.operator "-", ⟨1, 0, 1⟩, ⟨2, 0, 2⟩⟩
      (operand ⟨.number "1", ⟨0, 0, 0⟩, ⟨1, 0, 1⟩⟩)
      (operation ⟨.operator "*", ⟨3, 0, 3⟩, ⟨4, 0, 4⟩⟩
        (operand ⟨.number "2", ⟨2, 0, 2⟩, ⟨3, 0, 3⟩⟩)
        (operand ⟨.number "3", ⟨4, 0, 4⟩, ⟨5, 0, 5⟩⟩)))
    (operand ⟨.number "4", ⟨6, 0, 6⟩, ⟨7, 0, 7⟩⟩)

/-- The product is grouped before the differences, and these from the left. -/
theorem FlatChain.grouped_differences :
    parseExpression differences.tokens .standard = .ok OperatorTree.differences.toExpression ∧
      OperatorTree.differences.toExpression.tokens = differences.content ∧
      OperatorTree.differences.Grouped .standard ∧
        ∀ other : OperatorTree, other.toExpression.tokens = differences.content →
          other.Grouped .standard → other = OperatorTree.differences := by
  have horder : Token.InOrder differences.tokens := Token.row_inOrder 0
    [.number "1", .operator "-", .number "2", .operator "*", .number "3", .operator "-",
      .number "4", .endOfInput]
  obtain ⟨hsome, hall⟩ := differences.grouped_of_parseExpression .standard horder
  obtain ⟨e, he⟩ := hsome (by decide +kernel)
  obtain ⟨-, tree, rfl, -, hunique⟩ := hall e he
  have halike : OperatorTree.AssociateAlike .standard differences.links := by
    rw [OperatorTree.AssociateAlike]
    decide +kernel
  have hcontent : OperatorTree.differences.toExpression.tokens = differences.content := by
    decide +kernel
  have hgrouped : OperatorTree.differences.Grouped .standard := by
    simp only [OperatorTree.differences, OperatorTree.Grouped, OperatorTree.FitsLeft,
      OperatorTree.FitsRight]
    decide +kernel
  obtain rfl : OperatorTree.differences = tree := hunique halike _ hcontent hgrouped
  exact ⟨he, hcontent, hgrouped, hunique halike⟩

end Frontend
