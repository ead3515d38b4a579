import Frontend.Proofs.Token.Matching

/-!
# Pieces between commas

`Token.pieces` cuts tokens at the commas that stand outside of all brackets. Tokens are whole if
they leave the brackets around them as they are and none of their commas cuts them (`Whole`).
-/

namespace Frontend

open TokenKind (replay)

namespace Token

/-- The pieces of the tokens between their commas outside of all brackets. The brackets that are
open before the tokens are given, the innermost first. -/
def pieces : List BracketKind → List Token → List (List Token)
  | _, []                 => [[]]
  | brackets, t :: tokens =>
    if t.kind = .symbol .comma ∧ brackets = [] then [] :: pieces [] tokens
    else (pieces (replay brackets t.kind) tokens).modifyHead (t :: ·)

/-- One of the commas stands outside of all brackets. -/
def HasOuterComma (brackets : List BracketKind) (tokens : List Token) : Prop :=
  ∃ before comma after, tokens = before ++ comma :: after ∧ comma.kind = .symbol .comma ∧
    (before.map (·.kind)).foldl replay brackets = []

variable {t : Token} {tokens piece : List Token} {brackets : List BracketKind}

theorem pieces_cons (h : ¬ (t.kind = .symbol .comma ∧ brackets = [])) :
    pieces brackets (t :: tokens) = (pieces (replay brackets t.kind) tokens).modifyHead (t :: ·) :=
  if_neg h

theorem pieces_comma (h : t.kind = .symbol .comma) :
    pieces [] (t :: tokens) = [] :: pieces [] tokens :=
  if_pos ⟨h, rfl⟩

/-- The pieces have their tokens in order. -/
theorem sublist_of_mem_pieces (h : piece ∈ pieces brackets tokens) : piece.Sublist tokens := by
  induction tokens generalizing brackets piece with
  | nil =>
    obtain rfl := List.mem_singleton.mp h
    exact .slnil
  | cons t tokens ih =>
    by_cases hcut : t.kind = .symbol .comma ∧ brackets = []
    · rw [hcut.2, pieces_comma hcut.1] at h
      rcases List.mem_cons.mp h with rfl | h
      · exact List.nil_sublist _
      · exact (ih h).cons t
    · rw [pieces_cons hcut] at h
      cases hpieces : pieces (replay brackets t.kind) tokens with
      | nil => simp [hpieces] at h
      | cons first rest =>
        rw [hpieces, List.modifyHead_cons] at h
        rcases List.mem_cons.mp h with rfl | h
        · exact (ih (hpieces ▸ List.mem_cons_self)).cons_cons t
        · exact (ih (hpieces ▸ List.mem_cons_of_mem first h)).cons t

/-- Without a comma outside of all brackets, there is a single piece. -/
theorem pieces_eq_singleton (h : ¬ HasOuterComma brackets tokens) :
    pieces brackets tokens = [tokens] := by
  induction tokens generalizing brackets with
  | nil => rfl
  | cons t tokens ih =>
    have huncut : ¬ (t.kind = .symbol .comma ∧ brackets = []) :=
      fun hcut => h ⟨[], t, tokens, rfl, hcut⟩
    have htokens : ¬ HasOuterComma (replay brackets t.kind) tokens := by
      rintro ⟨before, comma, after, rfl, hcomma⟩
      exact h ⟨t :: before, comma, after, rfl, hcomma⟩
    rw [pieces_cons huncut, ih htokens, List.modifyHead_cons]

end Token

/-! ### Whole tokens -/

/-- The tokens leave the open brackets as they are, and they are not cut. -/
structure Whole (brackets : List BracketKind) (own : List Token) : Prop where
  settle : settle own brackets = some brackets
  pieces : ∀ rest,
    Token.pieces brackets (own ++ rest) = (Token.pieces brackets rest).modifyHead (own ++ ·)

namespace Whole

open Token (pieces_cons)

variable {t o c : Token} {own more : List Token} {b : BracketKind} {brackets : List BracketKind}
  {k k' : TokenKind}

theorem nil : Whole brackets [] where
  settle := rfl
  pieces rest := by cases h : Token.pieces brackets rest <;> simp [h]

theorem append (h : Whole brackets own) (h' : Whole brackets more) :
    Whole brackets (own ++ more) where
  settle := by rw [settle_append, h.settle, Option.bind_some, h'.settle]
  pieces rest := by
    rw [List.append_assoc, h.pieces, h'.pieces, List.modifyHead_modifyHead]
    exact congrArg (List.modifyHead · _) (funext fun _ => (List.append_assoc own more _).symm)

/-- A token that is no bracket, and a comma only if a bracket is open. -/
theorem token (ht : t.kind = k) (ho : k.opens? = none) (hc : k.closes? = none)
    (hk : k = .symbol .comma → brackets ≠ []) : Whole brackets [t] where
  settle := by
    rw [Frontend.settle, Token.settle_of_kind ht ho hc]
    rfl
  pieces rest := by
    subst ht
    rw [List.singleton_append, pieces_cons fun hcut => hk hcut.1 hcut.2, replay_of_none ho hc]
    rfl

/-- Whole tokens between brackets. -/
theorem enclose (h : Whole (b :: brackets) own) (ho : o.kind = k) (hc : c.kind = k')
    (hopens : k.opens? = some b) (hcloses : k'.closes? = some b) :
    Whole brackets (o :: (own ++ [c])) where
  settle := by
    rw [Frontend.settle, Token.settle_of_opening ho hopens, Option.bind_some, settle_append,
      h.settle, Option.bind_some, Frontend.settle, Token.settle_of_closing hc hcloses]
    rfl
  pieces rest := by
    subst ho hc
    have hopening : ¬ (o.kind = .symbol .comma ∧ brackets = []) := by
      rintro ⟨hcomma, -⟩
      simp [hcomma, TokenKind.opens?, Symbol.opens?] at hopens
    have hclosing : replay (b :: brackets) c.kind = brackets :=
      (replay_of_closes? hcloses).trans (if_pos rfl)
    have hinner : Token.pieces (b :: brackets) (own ++ c :: rest) =
        ((Token.pieces brackets rest).modifyHead (c :: ·)).modifyHead (own ++ ·) := by
      rw [h.pieces, pieces_cons (by simp), hclosing]
    rw [List.cons_append, List.append_assoc, List.singleton_append, pieces_cons hopening,
      replay_of_opens? hopens, hinner, List.modifyHead_modifyHead, List.modifyHead_modifyHead]
    exact congrArg (List.modifyHead · _) (funext fun _ => by simp)

end Whole

end Frontend
