import Frontend.Token.Lexer

/-!
# Brackets among tokens

The lexer keeps a stack of open brackets. `replay` is the same stack read back from the tokens: an
opening bracket is pushed, and a closing one is ignored unless it closes the innermost bracket.
`Closes` says that no interpolation is closed but the innermost bracket, and `Nested` that every
bracket is closed in its turn.
-/

namespace Frontend

namespace TokenKind

/-- The kind of bracket that a token opens. -/
def opens? : TokenKind → Option BracketKind
  | symbol .interpolationOpen => some .interpolation
  | symbol s                  => s.opens?
  | _                         => none

/-- The kind of bracket that a token closes. -/
def closes? : TokenKind → Option BracketKind
  | symbol .interpolationClose => some .interpolation
  | symbol s                   => s.closes?
  | _                          => none

variable {k : TokenKind} {b : BracketKind}

theorem opens?_eq_interpolation :
    k.opens? = some .interpolation ↔ k = .symbol .interpolationOpen := by
  cases k with
  | symbol s => cases s <;> simp [opens?, Symbol.opens?]
  | _ => simp [opens?]

theorem closes?_eq_interpolation :
    k.closes? = some .interpolation ↔ k = .symbol .interpolationClose := by
  cases k with
  | symbol s => cases s <;> simp [closes?, Symbol.closes?]
  | _ => simp [closes?]

theorem closes?_of_opens? (h : k.opens? = some b) : k.closes? = none := by
  cases k with
  | symbol s => cases s <;> first | rfl | cases h
  | _ => cases h

/-- The open brackets behind a token, the innermost first. -/
def replay (brackets : List BracketKind) (k : TokenKind) : List BracketKind :=
  match k.opens? with
  | some b => b :: brackets
  | none   =>
    match k.closes? with
    | some b => if brackets.head? = some b then brackets.tail else brackets
    | none   => brackets

end TokenKind

open TokenKind (replay opens? closes?)

variable {k : TokenKind} {b : BracketKind} {brackets inner outer : List BracketKind}
  {ks ks' : List TokenKind}

/-! ### Replaying -/

theorem replay_of_opens? (h : k.opens? = some b) : replay brackets k = b :: brackets := by
  simp [replay, h]

theorem replay_of_closes? (h : k.closes? = some b) :
    replay brackets k = if brackets.head? = some b then brackets.tail else brackets := by
  cases ho : k.opens? with
  | none => simp [replay, h, ho]
  | some b' =>
    rw [TokenKind.closes?_of_opens? ho] at h
    cases h

theorem replay_of_none (ho : k.opens? = none) (hc : k.closes? = none) :
    replay brackets k = brackets := by
  simp [replay, ho, hc]

/-- Each bracket that closes an interpolation closes the innermost bracket. -/
def Closes : List BracketKind → List TokenKind → Prop
  | _, []             => True
  | brackets, k :: ks =>
    (k.closes? = some .interpolation → brackets.head? = some .interpolation) ∧
      Closes (replay brackets k) ks

theorem closes_append :
    Closes brackets (ks ++ ks') ↔ Closes brackets ks ∧ Closes (ks.foldl replay brackets) ks' := by
  induction ks generalizing brackets with
  | nil => simp [Closes]
  | cons k ks ih => simp [Closes, ih, and_assoc]

/-! ### Nesting -/

/-- Every opening bracket is closed by a bracket of its own kind, and what is between the two is
nested. Round, square and curly closing brackets without an opening one may stand anywhere. -/
inductive Nested : List TokenKind → Prop
  | nil : Nested []
  | other {k : TokenKind} {ks : List TokenKind} (hopens : k.opens? = none)
      (hcloses : k.closes? ≠ some .interpolation) (h : Nested ks) : Nested (k :: ks)
  | bracket {b : BracketKind} {o c : TokenKind} {inner ks : List TokenKind}
      (ho : o.opens? = some b) (hinner : Nested inner) (hc : c.closes? = some b)
      (h : Nested ks) : Nested (o :: inner ++ c :: ks)

/-- The tokens close the given brackets one after the other, and are nested in between. -/
def NestedBehind : List BracketKind → List TokenKind → Prop
  | [], ks            => Nested ks
  | b :: brackets, ks => ∃ inner c rest, ks = inner ++ c :: rest ∧ Nested inner ∧
      c.closes? = some b ∧ NestedBehind brackets rest

theorem NestedBehind.other (hopens : k.opens? = none) (hcloses : k.closes? ≠ some .interpolation)
    (h : NestedBehind brackets ks) : NestedBehind brackets (k :: ks) := by
  cases brackets with
  | nil => exact Nested.other hopens hcloses h
  | cons b brackets =>
    obtain ⟨inner, c, rest, rfl, hinner, hc, hrest⟩ := h
    exact ⟨k :: inner, c, rest, rfl, .other hopens hcloses hinner, hc, hrest⟩

theorem NestedBehind.bracket (ho : k.opens? = some b) (h : NestedBehind (b :: brackets) ks) :
    NestedBehind brackets (k :: ks) := by
  obtain ⟨inner, c, rest, rfl, hinner, hc, hrest⟩ := h
  cases brackets with
  | nil => exact Nested.bracket ho hinner hc hrest
  | cons b' brackets =>
    obtain ⟨inner', c', rest', rfl, hinner', hc', hrest'⟩ := hrest
    exact ⟨k :: inner ++ c :: inner', c', rest', by simp, .bracket ho hinner hc hinner', hc',
      hrest'⟩

/-- Tokens behind which no bracket is open close the brackets that were open before them. -/
theorem nestedBehind_of_closes (h : Closes brackets ks) (hend : ks.foldl replay brackets = []) :
    NestedBehind brackets ks := by
  induction ks generalizing brackets with
  | nil =>
    obtain rfl : brackets = [] := hend
    exact Nested.nil
  | cons k ks ih =>
    obtain ⟨hk, hks⟩ := h
    have hrest := ih hks hend
    cases ho : k.opens? with
    | some b =>
      rw [replay_of_opens? ho] at hrest
      exact .bracket ho hrest
    | none =>
      cases hc : k.closes? with
      | none =>
        rw [replay_of_none ho hc] at hrest
        exact .other ho (by simp [hc]) hrest
      | some b =>
        rw [replay_of_closes? hc] at hrest
        split at hrest
        · next hhead =>
          obtain ⟨outer, rfl⟩ := List.head?_eq_some_iff.mp hhead
          exact ⟨[], k, ks, rfl, .nil, hc, hrest⟩
        · next hhead =>
          refine .other ho ?_ hrest
          rintro hb
          exact hhead (hc.symm.trans hb ▸ hk hb)

/-! ### Interpolations -/

/-- The number of interpolations that tokens open and close agree, and no more are closed than
have been opened up to any place. -/
structure Balanced (ks : List TokenKind) : Prop where
  closed_le : ∀ read, read <+: ks →
    read.count (.symbol .interpolationClose) ≤ read.count (.symbol .interpolationOpen)
  closed_eq : ks.count (.symbol .interpolationClose) = ks.count (.symbol .interpolationOpen)

/-- Replaying a token, an interpolation is opened or closed where the token says so. -/
theorem count_replay (hk : k.closes? = some .interpolation → brackets.head? = some .interpolation) :
    (replay brackets k).count .interpolation +
        (if k = .symbol .interpolationClose then 1 else 0) =
      brackets.count .interpolation + (if k = .symbol .interpolationOpen then 1 else 0) := by
  have hopen : k.opens? = some .interpolation ↔ _ := TokenKind.opens?_eq_interpolation
  have hclose : k.closes? = some .interpolation ↔ _ := TokenKind.closes?_eq_interpolation
  cases ho : k.opens? with
  | some b =>
    rw [replay_of_opens? ho, List.count_cons]
    simp [← hopen, ← hclose, ho, TokenKind.closes?_of_opens? ho]
  | none =>
    cases hc : k.closes? with
    | none => simp [replay_of_none ho hc, ← hopen, ← hclose, ho, hc]
    | some b =>
      rw [replay_of_closes? hc]
      by_cases hb : b = .interpolation
      · subst hb
        obtain ⟨outer, rfl⟩ := List.head?_eq_some_iff.mp (hk hc)
        simp [← hopen, ← hclose, ho, hc]
      · split
        · next hhead =>
          obtain ⟨outer, rfl⟩ := List.head?_eq_some_iff.mp hhead
          simp [← hopen, ← hclose, ho, hc, hb]
        · simp [← hopen, ← hclose, ho, hc, hb]

/-- Replaying tokens, the open interpolations are those that were open and have been opened without
those that have been closed. -/
theorem Closes.count_eq (h : Closes brackets ks) :
    (ks.foldl replay brackets).count .interpolation + ks.count (.symbol .interpolationClose) =
      brackets.count .interpolation + ks.count (.symbol .interpolationOpen) := by
  induction ks generalizing brackets with
  | nil => rfl
  | cons k ks ih =>
    have hcount := ih h.2
    have hstep := count_replay h.1
    rw [List.foldl_cons, List.count_cons, List.count_cons]
    simp only [beq_iff_eq]
    omega

/-- Tokens behind which no interpolation is open are balanced. -/
theorem Closes.balanced (h : Closes [] ks) (hend : .interpolation ∉ ks.foldl replay []) :
    Balanced ks where
  closed_le read hread := by
    obtain ⟨rest, rfl⟩ := hread
    have hcount := (closes_append.mp h).1.count_eq
    rw [List.count_nil] at hcount
    omega
  closed_eq := by
    have hcount := h.count_eq
    rw [List.count_eq_zero.mpr hend, List.count_nil] at hcount
    omega

/-- A token leaves the brackets outside of an opened interpolation as they are, unless it closes the
interpolation. -/
theorem replay_append (hk : k.closes? = some .interpolation → inner.head? = some .interpolation) :
    replay (inner ++ .interpolation :: outer) k = replay inner k ++ .interpolation :: outer := by
  cases ho : k.opens? with
  | some b => simp [replay_of_opens? ho]
  | none =>
    cases hc : k.closes? with
    | none => simp [replay_of_none ho hc]
    | some b =>
      rw [replay_of_closes? hc, replay_of_closes? hc]
      cases inner with
      | nil =>
        have hb : .interpolation ≠ b := by
          rintro rfl
          simpa using hk hc
        simp [hb]
      | cons b' inner => by_cases hb : b' = b <;> simp [hb]

/-- Reading on behind an opened interpolation, the brackets outside of it stay as they are as long
as it is not closed. -/
theorem Closes.inside (h : Closes (inner ++ .interpolation :: outer) ks)
    (hle : ∀ read, read <+: ks → read.count (.symbol .interpolationClose) ≤
      inner.count .interpolation + read.count (.symbol .interpolationOpen)) :
    Closes inner ks ∧ ks.foldl replay (inner ++ .interpolation :: outer) =
      ks.foldl replay inner ++ .interpolation :: outer := by
  induction ks generalizing inner with
  | nil => exact ⟨trivial, rfl⟩
  | cons k ks ih =>
    obtain ⟨hk, hks⟩ := h
    have hinner : k.closes? = some .interpolation → inner.head? = some .interpolation := by
      intro hc
      cases inner with
      | nil =>
        have hk' : k = .symbol .interpolationClose := TokenKind.closes?_eq_interpolation.mp hc
        have hone := hle [k] ⟨ks, rfl⟩
        simp [hk'] at hone
      | cons b inner => exact hk hc
    have hreplay : replay (inner ++ .interpolation :: outer) k = _ := replay_append hinner
    have hcount := count_replay hinner
    rw [hreplay] at hks
    obtain ⟨hcloses, heq⟩ := ih hks fun read hread => by
      have hcons := hle (k :: read) ((List.prefix_cons_inj k).mpr hread)
      rw [List.count_cons, List.count_cons] at hcons
      simp only [beq_iff_eq] at hcons
      omega
    exact ⟨⟨hinner, hcloses⟩, by rw [List.foldl_cons, List.foldl_cons, hreplay, heq]⟩

/-- What stands between an opening bracket of an interpolation and the one that closes it is
nested. -/
theorem Closes.nested {before after : List TokenKind}
    (h : Closes [] (before ++ .symbol .interpolationOpen ::
      (ks ++ .symbol .interpolationClose :: after)))
    (hks : Balanced ks) : Nested ks := by
  obtain ⟨-, -, hinside⟩ := closes_append.mp h
  generalize before.foldl replay [] = outer at hinside
  obtain ⟨hinside, hclose, -⟩ := closes_append.mp hinside
  have hopen : replay outer (.symbol .interpolationOpen) = [] ++ .interpolation :: outer := rfl
  rw [hopen] at hinside hclose
  obtain ⟨hcloses, heq⟩ := hinside.inside fun read hread => by
    rw [List.count_nil, Nat.zero_add]
    exact hks.closed_le read hread
  rw [heq] at hclose
  apply nestedBehind_of_closes hcloses
  -- The innermost bracket is an interpolation, and all those opened in between are closed.
  have hcount := hcloses.count_eq
  have heq := hks.closed_eq
  rw [List.count_nil] at hcount
  cases hstack : ks.foldl replay [] with
  | nil => rfl
  | cons b brackets =>
    rw [hstack] at hclose hcount
    obtain rfl : b = .interpolation := by simpa using hclose rfl
    rw [List.count_cons_self] at hcount
    omega

end Frontend
