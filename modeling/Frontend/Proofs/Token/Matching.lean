import Frontend.Proofs.Token.Brackets

/-!
# Matched brackets

Brackets are matched if each of them, of every kind, has its counterpart and what is between the
two is matched. `settle` reads tokens with a stack of open brackets and gives up at a closing
bracket that does not close the innermost one; it finds just the matched tokens to leave no bracket
open. Tokens that settle every stack alike (`Alike`) can stand for one another.

Matched tokens are nested (`Nested`), but among nested tokens a round, square or curly closing
bracket may also stand alone.
-/

namespace Frontend

/-! ### Matching -/

/-- Every opening bracket is closed by a bracket of its own kind, what is between the two is
matched, and there is no other closing bracket. -/
inductive Matched : List Token → Prop
  | nil : Matched []
  | other {t : Token} {tokens : List Token} (hopens : t.kind.opens? = none)
      (hcloses : t.kind.closes? = none) (h : Matched tokens) : Matched (t :: tokens)
  | bracket {b : BracketKind} {o c : Token} {inner tokens : List Token}
      (ho : o.kind.opens? = some b) (hinner : Matched inner) (hc : c.kind.closes? = some b)
      (h : Matched tokens) : Matched (o :: (inner ++ c :: tokens))

/-- The open brackets behind a token, unless it closes another one than the innermost. -/
def Token.settle (t : Token) (brackets : List BracketKind) : Option (List BracketKind) :=
  match t.kind.opens? with
  | some b => some (b :: brackets)
  | none   =>
    match t.kind.closes? with
    | some b => if brackets.head? = some b then some brackets.tail else none
    | none   => some brackets

/-- The open brackets behind tokens, unless one of them closes another bracket than the
innermost. -/
def settle : List Token → List BracketKind → Option (List BracketKind)
  | [], brackets          => some brackets
  | t :: tokens, brackets => (t.settle brackets).bind (settle tokens)

variable {t o c : Token} {tokens more inner before after : List Token} {b : BracketKind}
  {brackets : List BracketKind}

namespace Token

theorem settle_of_opens? (h : t.kind.opens? = some b) :
    t.settle brackets = some (b :: brackets) := by
  simp [settle, h]

theorem settle_of_closes? (h : t.kind.closes? = some b) :
    t.settle brackets = if brackets.head? = some b then some brackets.tail else none := by
  cases ho : t.kind.opens? with
  | none => simp [settle, h, ho]
  | some b' =>
    rw [TokenKind.closes?_of_opens? ho] at h
    cases h

theorem settle_of_none (ho : t.kind.opens? = none) (hc : t.kind.closes? = none) :
    t.settle brackets = some brackets := by
  simp [settle, ho, hc]

section Kind

variable {k : TokenKind} (ht : t.kind = k)
include ht

theorem settle_of_kind (ho : k.opens? = none) (hc : k.closes? = none) :
    t.settle brackets = some brackets :=
  settle_of_none (ht ▸ ho) (ht ▸ hc)

theorem settle_of_opening (ho : k.opens? = some b) : t.settle brackets = some (b :: brackets) :=
  settle_of_opens? (ht ▸ ho)

/-- The innermost bracket is closed. -/
theorem settle_of_closing (hc : k.closes? = some b) : t.settle (b :: brackets) = some brackets :=
  (settle_of_closes? (ht ▸ hc)).trans (if_pos rfl)

end Kind

end Token

theorem settle_append :
    settle (tokens ++ more) brackets = (settle tokens brackets).bind (settle more) := by
  induction tokens generalizing brackets with
  | nil => rfl
  | cons t tokens ih =>
    simp only [List.cons_append, settle, Option.bind_assoc]
    exact congrArg _ (funext fun _ => ih)

/-! ### Settling matched tokens -/

/-- Matched tokens leave all open brackets as they are. -/
theorem Matched.settle (h : Matched tokens) : settle tokens brackets = some brackets := by
  induction h generalizing brackets with
  | nil => rfl
  | other ho hc _ ih =>
    rw [Frontend.settle, Token.settle_of_none ho hc]
    exact ih
  | bracket ho _ hc _ ihinner ih =>
    rw [Frontend.settle, Token.settle_of_opens? ho, Option.bind_some, settle_append, ihinner,
      Option.bind_some, Frontend.settle, Token.settle_of_closes? hc, List.head?_cons, if_pos rfl]
    exact ih

/-- The tokens close the given brackets one after the other, and are matched in between. -/
def MatchedBehind : List BracketKind → List Token → Prop
  | [], tokens            => Matched tokens
  | b :: brackets, tokens => ∃ inner c rest, tokens = inner ++ c :: rest ∧ Matched inner ∧
      c.kind.closes? = some b ∧ MatchedBehind brackets rest

theorem MatchedBehind.other (hopens : t.kind.opens? = none) (hcloses : t.kind.closes? = none)
    (h : MatchedBehind brackets tokens) : MatchedBehind brackets (t :: tokens) := by
  cases brackets with
  | nil => exact Matched.other hopens hcloses h
  | cons b brackets =>
    obtain ⟨inner, c, rest, rfl, hinner, hc, hrest⟩ := h
    exact ⟨t :: inner, c, rest, rfl, .other hopens hcloses hinner, hc, hrest⟩

theorem MatchedBehind.bracket (ho : t.kind.opens? = some b)
    (h : MatchedBehind (b :: brackets) tokens) : MatchedBehind brackets (t :: tokens) := by
  obtain ⟨inner, c, rest, rfl, hinner, hc, hrest⟩ := h
  cases brackets with
  | nil => exact Matched.bracket ho hinner hc hrest
  | cons b' brackets =>
    obtain ⟨inner', c', rest', rfl, hinner', hc', hrest'⟩ := hrest
    exact ⟨t :: (inner ++ c :: inner'), c', rest', by simp, .bracket ho hinner hc hinner', hc',
      hrest'⟩

/-- Tokens that settle a stack without leaving a bracket open close the brackets of the stack. -/
theorem matchedBehind_of_settle (h : settle tokens brackets = some []) :
    MatchedBehind brackets tokens := by
  induction tokens generalizing brackets with
  | nil =>
    obtain rfl : brackets = [] := by simpa [settle] using h
    exact Matched.nil
  | cons t tokens ih =>
    rw [settle] at h
    cases ho : t.kind.opens? with
    | some b =>
      rw [Token.settle_of_opens? ho] at h
      exact .bracket ho (ih h)
    | none =>
      cases hc : t.kind.closes? with
      | none =>
        rw [Token.settle_of_none ho hc] at h
        exact .other ho hc (ih h)
      | some b =>
        rw [Token.settle_of_closes? hc] at h
        split at h
        · next hhead =>
          obtain ⟨brackets, rfl⟩ := List.head?_eq_some_iff.mp hhead
          exact ⟨[], t, tokens, rfl, .nil, hc, ih h⟩
        · cases h

theorem matched_iff_settle : Matched tokens ↔ settle tokens [] = some [] :=
  ⟨Matched.settle, matchedBehind_of_settle⟩

/-! ### Putting together -/

/-- The tokens settle every stack of open brackets alike. -/
def Alike (tokens more : List Token) : Prop :=
  ∀ brackets, settle tokens brackets = settle more brackets

theorem Alike.refl (tokens : List Token) : Alike tokens tokens := fun _ => rfl

theorem Alike.append {tokens' more' : List Token} (h : Alike tokens tokens')
    (h' : Alike more more') : Alike (tokens ++ more) (tokens' ++ more') := by
  intro brackets
  rw [settle_append, settle_append, h brackets]
  exact congrArg _ (funext h')

theorem Alike.matched_iff (h : Alike tokens more) : Matched tokens ↔ Matched more := by
  rw [matched_iff_settle, matched_iff_settle, h]

theorem Matched.alike (h : Matched tokens) : Alike tokens [] := fun _ => h.settle

namespace Matched

theorem append (h : Matched tokens) (h' : Matched more) : Matched (tokens ++ more) :=
  ((h.alike.append h'.alike).matched_iff).mpr .nil

theorem single (ho : t.kind.opens? = none) (hc : t.kind.closes? = none) : Matched [t] :=
  .other ho hc .nil

/-- A token of a kind that is no bracket. -/
theorem of_kind {k : TokenKind} (h : t.kind = k) (ho : k.opens? = none) (hc : k.closes? = none) :
    Matched [t] :=
  .single (h ▸ ho) (h ▸ hc)

theorem enclose {k k' : TokenKind} (h : Matched inner) (ho : o.kind = k) (hc : c.kind = k')
    (hopens : k.opens? = some b) (hcloses : k'.closes? = some b) :
    Matched (o :: (inner ++ [c])) :=
  .bracket (ho ▸ hopens) h (hc ▸ hcloses) .nil

theorem of_forall (h : ∀ t ∈ tokens, t.kind.opens? = none ∧ t.kind.closes? = none) :
    Matched tokens := by
  induction tokens with
  | nil => exact .nil
  | cons t tokens ih =>
    obtain ⟨ht, htokens⟩ := List.forall_mem_cons.mp h
    exact .other ht.1 ht.2 (ih htokens)

end Matched

end Frontend
