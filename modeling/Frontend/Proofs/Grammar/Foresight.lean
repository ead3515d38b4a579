import Frontend.Grammar.Expression
import Frontend.Proofs.Grammar.ModuleGrammar

/-!
# How far the readers look ahead

A reader never goes back. It looks at the current token and the next two, and never at one behind
an end of input. Two streams that share the tokens up to where the first run ends, and what can be
seen from there, are therefore read in the same way. `p.Echoes q least cost steps s` says this of
the parser `p` at the stream `s` and of the parser `q` at every such stream.

Two things stand between this and an equation between two runs of one parser.

* The second stream may be shorter or longer, so that the bounds on the depth of calls differ.
  `q` is the reader with some bound of its own, and `steps`, which is this bound, has to suffice for
  the tokens that are read, sixteen calls for each of them, and for `cost` calls more.
* Some calls are paid for by the token that the call before has read. `least` is the number of
  tokens that are known to be read for a value.
-/

namespace Frontend

/-! ### The first end of input -/

namespace Token

variable {before tokens : List Token}

/-- The tokens up to the first end of input, which is the last of them. -/
def upToEnd : List Token → List Token
  | []          => []
  | t :: tokens => if t.kind = .endOfInput then [t] else t :: upToEnd tokens

theorem upToEnd_append (h : ∀ t ∈ before, t.kind ≠ .endOfInput) :
    upToEnd (before ++ tokens) = before ++ upToEnd tokens := by
  induction before with
  | nil => rfl
  | cons t before ih =>
    obtain ⟨ht, hbefore⟩ := List.forall_mem_cons.mp h
    rw [List.cons_append, upToEnd, if_neg ht, ih hbefore, List.cons_append]

theorem upToEnd_isPrefix (tokens : List Token) : upToEnd tokens <+: tokens := by
  induction tokens with
  | nil => exact List.prefix_rfl
  | cons t tokens ih =>
    rw [upToEnd]
    split
    · exact ⟨tokens, rfl⟩
    · exact (List.prefix_cons_inj t).mpr ih

theorem upToEnd_upToEnd (tokens : List Token) : upToEnd (upToEnd tokens) = upToEnd tokens := by
  induction tokens with
  | nil => rfl
  | cons t tokens ih =>
    by_cases ht : t.kind = .endOfInput
    · simp [upToEnd, ht]
    · simp [upToEnd, ht, ih]

theorem take_upToEnd (n : Nat) (tokens : List Token) :
    (upToEnd tokens).take n = upToEnd (tokens.take n) := by
  induction tokens generalizing n with
  | nil => simp [upToEnd]
  | cons t tokens ih =>
    cases n with
    | zero => simp [upToEnd]
    | succ n =>
      by_cases ht : t.kind = .endOfInput
      · simp [upToEnd, ht]
      · simp [upToEnd, ht, ih]

/-- Tokens are cut behind an end of input, and not at all if there is none among them. -/
theorem upToEnd_cases (tokens : List Token) :
    (∃ t ∈ upToEnd tokens, t.kind = .endOfInput) ∨
      (upToEnd tokens = tokens ∧ ∀ t ∈ tokens, t.kind ≠ .endOfInput) := by
  induction tokens with
  | nil => exact .inr ⟨rfl, by simp⟩
  | cons t tokens ih =>
    by_cases ht : t.kind = .endOfInput
    · exact .inl ⟨t, by simp [upToEnd, ht], ht⟩
    rw [upToEnd, if_neg ht]
    rcases ih with ⟨u, hu, hk⟩ | ⟨heq, htokens⟩
    · exact .inl ⟨u, List.mem_cons_of_mem t hu, hk⟩
    · exact .inr ⟨by rw [heq], List.forall_mem_cons.mpr ⟨ht, htokens⟩⟩

theorem getElem?_upToEnd {n : Nat}
    (h : ∀ k < n, ∀ t, tokens[k]? = some t → t.kind ≠ .endOfInput) :
    (upToEnd tokens)[n]? = tokens[n]? := by
  induction tokens generalizing n with
  | nil => rfl
  | cons t tokens ih =>
    cases n with
    | zero =>
      rw [upToEnd]
      split <;> rfl
    | succ n =>
      have ht : t.kind ≠ .endOfInput := h 0 (Nat.zero_lt_succ n) t rfl
      rw [upToEnd, if_neg ht, List.getElem?_cons_succ, List.getElem?_cons_succ]
      exact ih fun k hk u hu => h (k + 1) (Nat.succ_lt_succ hk) u hu

end Token

namespace TokenStream

variable {s t s' t' : TokenStream} {read more : List Token}

/-! ### The tokens that can be seen -/

/-- The tokens that a reader may look at: the current one and the next two, but none behind an end
of input. -/
def view (s : TokenStream) : List Token := (Token.upToEnd s.ahead).take 3

/-- The view has three tokens, or it goes as far as an end of input. -/
def Sighted (s : TokenStream) : Prop :=
  s.view.length = 3 ∨ ∃ t ∈ s.view, t.kind = .endOfInput

/-- The view is whole, and it is the same in both streams. -/
structure Resembles (s s' : TokenStream) : Prop where
  sighted : s.Sighted
  same : s'.view = s.view

theorem Reads.view_eq (h : s.Reads read t) :
    s.view = read.take 3 ++ t.view.take (3 - read.length) := by
  rw [view, view, h.ahead, Token.upToEnd_append h.noEnd, List.take_append, List.take_take,
    Nat.min_eq_left (Nat.sub_le 3 _)]

theorem sighted_of_length (h : 3 ≤ s.ahead.length) : s.Sighted := by
  rw [Sighted, view, Token.take_upToEnd]
  rcases Token.upToEnd_cases (s.ahead.take 3) with hend | ⟨heq, -⟩
  · exact .inr hend
  · exact .inl (by rw [heq, List.length_take_of_le h])

theorem Ends.sighted (h : s.Ends) : s.Sighted := by
  by_cases hlength : 3 ≤ s.ahead.length
  · exact sighted_of_length hlength
  rw [Sighted, view, Token.take_upToEnd, List.take_of_length_le (by omega)]
  rcases Token.upToEnd_cases s.ahead with hend | ⟨-, hnone⟩
  · exact .inr hend
  · obtain ⟨t, ht, hk⟩ := h
    exact absurd hk (hnone t ht)

theorem Sighted.length_pos (h : s.Sighted) : 0 < s.ahead.length := by
  refine List.length_pos_of_ne_nil fun hnil => ?_
  simp [Sighted, view, hnil, Token.upToEnd] at h

theorem Sighted.before (h : t.Sighted) (hs : s.Reads read t) : s.Sighted := by
  rw [Sighted, hs.view_eq]
  by_cases hlong : 3 ≤ read.length + t.view.length
  · left
    simp only [List.length_append, List.length_take]
    omega
  · right
    obtain ⟨u, hu, hk⟩ := h.resolve_left (by omega)
    rw [List.take_of_length_le (by omega : t.view.length ≤ 3 - read.length)]
    exact ⟨u, List.mem_append_right _ hu, hk⟩

theorem Resembles.sighted' (h : s.Resembles s') : s'.Sighted := by
  rw [Sighted, h.same]
  exact h.sighted

/-- Streams with the same three tokens ahead. -/
theorem Resembles.of_take (h : 3 ≤ s.ahead.length) (hsame : s'.ahead.take 3 = s.ahead.take 3) :
    s.Resembles s' :=
  ⟨sighted_of_length h, by rw [view, view, Token.take_upToEnd, Token.take_upToEnd, hsame]⟩

theorem peek_of_view {n : Nat} {x : Token} (h : s.view[n]? = some x) : s.peek n = x := by
  obtain ⟨more, hmore⟩ : s.view <+: s.ahead :=
    (List.take_prefix 3 _).trans (Token.upToEnd_isPrefix s.ahead)
  obtain ⟨hlt, -⟩ := List.getElem?_eq_some_iff.mp h
  rw [peek, ← hmore, List.getElem?_append_left hlt, h]
  rfl

/-- What stands in the view behind tokens that are no end of input. -/
theorem Sighted.getElem?_view (h : s.Sighted) {n : Nat} (hn : n < 3)
    (hk : ∀ k < n, (s.peek k).kind ≠ .endOfInput) : s.view[n]? = some (s.peek n) := by
  have hahead : s.view[n]? = s.ahead[n]? := by
    rw [view, List.getElem?_take_of_lt hn, Token.getElem?_upToEnd]
    intro k hkn t ht
    have hpeek : s.peek k = t := by simp [peek, ht]
    exact hpeek ▸ hk k hkn
  have hlt : n < s.view.length := by
    rcases h with hlength | ⟨u, hu, hend⟩
    · omega
    · obtain ⟨j, hj, rfl⟩ := List.getElem_of_mem hu
      have hpeek : s.peek j = s.view[j] := peek_of_view (List.getElem?_eq_getElem hj)
      by_contra hnot
      exact hk j (by omega) (hpeek ▸ hend)
  have hview := List.getElem?_eq_getElem hlt
  rw [hview, peek_of_view hview]

/-- The next tokens are the same in both streams as long as no end of input comes before them. -/
theorem Resembles.peek (h : s.Resembles s') {n : Nat} (hn : n < 3)
    (hk : ∀ k < n, (s.peek k).kind ≠ .endOfInput) : s'.peek n = s.peek n :=
  peek_of_view (h.same ▸ h.sighted.getElem?_view hn hk)

theorem Resembles.current (h : s.Resembles s') : s'.current = s.current :=
  h.peek (by decide) fun _ hk => absurd hk (Nat.not_lt_zero _)

/-- The next token is the same in both streams if the current one is no end of input. -/
theorem Resembles.next (h : s.Resembles s') (hk : s.current.kind ≠ .endOfInput) :
    s'.peek 1 = s.peek 1 :=
  h.peek (by decide) fun k hlt => by rwa [Nat.lt_one_iff.mp hlt]

theorem Resembles.continues (h : s.Resembles s') (p : TokenKind → Bool) :
    s'.continues p = s.continues p := by
  rw [TokenStream.continues, TokenStream.continues, h.current]
  by_cases hbreak : s.current.kind = .lineBreak
  · have hcurrent : s.current.kind ≠ .endOfInput := by simp [hbreak]
    rw [h.next hcurrent]
    by_cases hindent : (s.peek 1).kind.isIndentation
    · rw [h.peek (by decide : 2 < 3)]
      intro k hk
      obtain rfl | rfl : k = 0 ∨ k = 1 := by omega
      · exact hcurrent
      · intro hend
        simp [hend, TokenKind.isIndentation] at hindent
    · simp [hindent]
  · rw [beq_eq_false_iff_ne.mpr hbreak]
    rfl

/-- Streams that share what lies before streams that resemble each other resemble each other. -/
theorem Resembles.before (h : t.Resembles t') (hs : s.Reads read t) (hs' : s'.Reads read t') :
    s.Resembles s' :=
  ⟨h.sighted.before hs, by rw [hs.view_eq, hs'.view_eq, h.same]⟩

/-! ### The tokens that are read -/

theorem Reads.unique (h : s.Reads read t) (h' : s.Reads more t) : read = more :=
  List.append_cancel_right (h.ahead.symm.trans h'.ahead)

/-- There is a place between two parts of the tokens that are read. -/
theorem Reads.exists_between (h : s.Reads (read ++ more) t) :
    ∃ u, s.Reads read u ∧ u.Reads more t :=
  ⟨⟨more ++ t.ahead, s.last⟩,
    ⟨by rw [h.ahead, List.append_assoc], rfl, fun v hv => h.noEnd v (List.mem_append_left _ hv)⟩,
    ⟨rfl, h.last, fun v hv => h.noEnd v (List.mem_append_right _ hv)⟩⟩

/-- Behind a token that is not the end of input, everything has come nearer. -/
theorem peek_advance (hk : s.current.kind ≠ .endOfInput) (n : Nat) :
    s.advance.peek n = s.peek (n + 1) := by
  unfold advance
  split
  · next hnil => simp [peek, hnil]
  · next x rest hx =>
    have hcurrent : s.current = x := by simp [current, TokenStream.peek, hx]
    rw [if_neg (hcurrent ▸ hk)]
    simp [peek, hx]

end TokenStream

namespace Parser

open TokenStream

variable {α β : Type}

/-! ### Two runs over shared tokens -/

/-- The tokens between `s` and `t` are read, at least `least` of them if the view behind them is
whole. Where they lead to a stream that resembles `t`, `q` has the given outcome, unless it is short
of calls. -/
def Retraces (q : Parser α) (outcome : TokenStream → EStateM.Result ParseFailure TokenStream α)
    (least cost steps : Nat) (s t : TokenStream) : Prop :=
  ∃ read, s.Reads read t ∧ (t.Sighted → least ≤ read.length) ∧
    (cost + 16 * read.length ≤ steps →
      ∀ s' t', s'.Reads read t' → t.Resembles t' → q s' = outcome t')

/-- What `p` does at `s`, `q` does at every stream that shares the tokens `p` reads and what can be
seen behind them. Nothing is said when `p` is short of calls. -/
def Echoes (p q : Parser α) (least : α → Nat) (cost steps : Nat) (s : TokenStream) : Prop :=
  p.Ensures (fun a t => q.Retraces (.ok a) (least a) cost steps s t)
    (fun e t => e ≠ .endless → q.Retraces (.error e) 0 cost steps s t) s

variable {p q : Parser α} {f g : α → Parser β} {least least' : α → Nat} {most : β → Nat}
  {cost cost' steps steps' : Nat} {s t : TokenStream}
  {outcome : TokenStream → EStateM.Result ParseFailure TokenStream α}

theorem Retraces.here (h : ∀ s', s.Resembles s' → q s' = outcome s') :
    q.Retraces outcome 0 cost steps s s := by
  refine ⟨[], .refl s, fun _ => Nat.zero_le _, fun _ s' t' hr ht => ?_⟩
  cases hr.eq_of_nil
  exact h _ ht

/-- What is known of a run remains known with fewer tokens and with more calls. -/
theorem Retraces.weaken {m n : Nat} (h : q.Retraces outcome n cost steps s t) (hm : m ≤ n)
    (hcost : cost + steps' ≤ cost' + steps) : q.Retraces outcome m cost' steps' s t := by
  obtain ⟨read, hr, hn, ht⟩ := h
  exact ⟨read, hr, fun hsighted => Nat.le_trans hm (hn hsighted), fun hsteps => ht (by omega)⟩

/-- The second run goes on from where the first part of it has come to. -/
theorem Retraces.bind {a : α} {outcome : TokenStream → EStateM.Result ParseFailure TokenStream β}
    {u : TokenStream} {k m n : Nat} (h : q.Retraces (.ok a) n cost steps s t)
    (hg : (g a).Retraces outcome m (cost + 16 * n) steps t u) (hk : k ≤ n + m) :
    (q >>= g).Retraces outcome k cost steps s u := by
  obtain ⟨read, hread, hn, hq⟩ := h
  obtain ⟨more, hmore, hm, hg⟩ := hg
  have hn (hsighted : u.Sighted) : n ≤ read.length := hn (hsighted.before hmore)
  refine ⟨read ++ more, hread.trans hmore, fun hsighted => ?_, fun hsteps s' u' hs' hu' => ?_⟩
  · have := hn hsighted
    have := hm hsighted
    rw [List.length_append]
    omega
  · have := hn hu'.sighted
    rw [List.length_append] at hsteps
    obtain ⟨t', hread', hmore'⟩ := hs'.exists_between
    have hq' := hq (by omega) s' t' hread' (hu'.before hmore hmore')
    simpa only [Bind.bind, EStateM.bind, hq'] using hg (by omega) t' u' hmore' hu'

theorem Retraces.bind_error {e : ParseFailure} (h : q.Retraces (.error e) 0 cost steps s t) :
    (q >>= g).Retraces (.error e) 0 cost steps s t := by
  obtain ⟨read, hread, hn, hq⟩ := h
  refine ⟨read, hread, hn, fun hsteps s' t' hs' ht' => ?_⟩
  simp only [Bind.bind, EStateM.bind, hq hsteps s' t' hs' ht']

/-! ### Consequences -/

theorem Echoes.weaken (h : p.Echoes q least cost steps s) (hleast : ∀ a, least' a ≤ least a)
    (hcost : cost + steps' ≤ cost' + steps) : p.Echoes q least' cost' steps' s :=
  h.mono (fun a _ ht => ht.weaken (hleast a) hcost)
    fun _ _ ht he => (ht he).weaken (Nat.le_refl 0) hcost

/-- One call more has been spent on both sides, if the second one has any. -/
theorem Echoes.of_succ {q : Nat → Parser α} (h : ∀ m, p.Echoes (q (m + 1)) least cost m s)
    (m : Nat) : p.Echoes (q m) least (cost + 1) m s := by
  cases m with
  | zero =>
    have hretraces {outcome outcome' n t} (ht : (q 1).Retraces outcome n cost 0 s t) :
        (q 0).Retraces outcome' n (cost + 1) 0 s t := by
      obtain ⟨read, hr, hn, -⟩ := ht
      exact ⟨read, hr, hn, fun hsteps => by omega⟩
    exact (h 0).mono (fun _ _ ht => hretraces ht) fun _ _ ht he => hretraces (ht he)
  | succ m => exact (h m).weaken (fun _ => Nat.le_refl _) (by omega)

/-- Parsers that do what others do on the tokens that can be seen. -/
theorem Echoes.congr {p' q' : Parser α} (h : p'.Echoes q' least cost steps s) (hp : p s = p' s)
    (hq : ∀ s', s.Resembles s' → q s' = q' s') : p.Echoes q least cost steps s := by
  have hretraces {outcome n t} (ht : q'.Retraces outcome n cost steps s t) :
      q.Retraces outcome n cost steps s t := by
    obtain ⟨read, hr, hn, ht⟩ := ht
    refine ⟨read, hr, hn, fun hsteps s' t' hs' ht' => ?_⟩
    rw [hq s' (ht'.before hr hs')]
    exact ht hsteps s' t' hs' ht'
  refine (ensures_congr hp).mpr ?_
  exact h.mono (fun _ _ ht => hretraces ht) fun _ _ ht he => hretraces (ht he)

/-- A last step is followed by nothing. -/
theorem Echoes.of_bind_pure (h : (p >>= pure).Echoes (q >>= pure) least cost steps s) :
    p.Echoes q least cost steps s := by
  simpa only [bind_pure] using h

theorem Echoes.bind (h : p.Echoes q least cost' steps s) (hcost : cost' ≤ cost)
    (hf : ∀ a t, (f a).Echoes (g a) (fun b => most b - least a) (cost + 16 * least a) steps t) :
    (p >>= f).Echoes (q >>= g) most cost steps s := by
  have h : p.Echoes q least cost steps s := h.weaken (fun _ => Nat.le_refl _) (by omega)
  refine (ensures_bind f).mpr (h.mono (fun a t ht => ?_) fun e t ht he => (ht he).bind_error)
  exact (hf a t).mono (fun b u hu => ht.bind hu (Nat.sub_le_iff_le_add'.mp (Nat.le_refl _)))
    fun e u hu he => ht.bind (hu he) (Nat.zero_le _)

/-! ### Steps -/

theorem echoes_diverge : (diverge : Parser α).Echoes q least cost steps s :=
  fun h => absurd rfl h

theorem echoes_pure {a : α} (ha : least a = 0) :
    (pure a : Parser α).Echoes (pure a) least cost steps s := by
  rw [Echoes, ensures_pure, ha]
  exact .here fun _ _ => rfl

/-- The value is changed, and nothing more is read. -/
theorem Echoes.bind_pure {f : α → β} (h : p.Echoes q least cost' steps s) (hcost : cost' ≤ cost)
    (hf : ∀ a, most (f a) - least a = 0) :
    (p >>= fun a => pure (f a)).Echoes (q >>= fun a => pure (f a)) most cost steps s :=
  h.bind hcost fun a _ => echoes_pure (hf a)

theorem echoes_fail (fault : SyntaxFault) :
    (fail fault : Parser α).Echoes (fail fault) least cost steps s := by
  rw [Echoes, ensures_fail]
  intro _
  refine .here fun s' hs' => ?_
  rw [fail, hs'.current]

theorem echoes_ite {c : Prop} [Decidable c] {p' q' : Parser α}
    (hthen : c → p.Echoes q least cost steps s) (helse : ¬ c → p'.Echoes q' least cost steps s) :
    (if c then p else p').Echoes (if c then q else q') least cost steps s := by
  by_cases hc : c
  · simpa only [if_pos hc] using hthen hc
  · simpa only [if_neg hc] using helse hc

theorem echoes_current {f g : Token → Parser β}
    (h : (f s.current).Echoes (g s.current) most cost steps s) :
    (current >>= f).Echoes (current >>= g) most cost steps s := by
  refine h.congr rfl fun s' hs' => ?_
  rw [← hs'.current]
  rfl

theorem echoes_next {f g : Token → Parser β} (hk : s.current.kind ≠ .endOfInput)
    (h : (f (s.peek 1)).Echoes (g (s.peek 1)) most cost steps s) :
    (peek 1 >>= f).Echoes (peek 1 >>= g) most cost steps s := by
  refine h.congr rfl fun s' hs' => ?_
  rw [← hs'.next hk]
  rfl

theorem echoes_advance {f g : Unit → Parser β} (hk : s.current.kind ≠ .endOfInput)
    (h : (f ()).Echoes (g ()) (fun b => most b - 1) (cost + 16) steps s.advance) :
    (advance >>= f).Echoes (advance >>= g) most cost steps s := by
  have hadvance : advance.Retraces (.ok ()) 1 cost steps s s.advance := by
    cases hahead : s.ahead with
    | nil =>
      have hstay : s.advance = s := by simp [TokenStream.advance, hahead]
      rw [hstay]
      have hblind : ¬ s.Sighted := fun h => by simpa [hahead] using h.length_pos
      exact ⟨[], .refl s, fun h => absurd h hblind, fun _ _ _ _ ht' => absurd ht'.sighted hblind⟩
    | cons x rest =>
      refine ⟨_, reads_advance_of_ahead hahead hk, fun _ => Nat.le_refl 1, ?_⟩
      intro _ s' t' hs' _
      rw [← hs'.advance_eq]
      rfl
  refine (ensures_bind f).mpr ((ensures_advance).mpr (h.mono (fun b u hu => ?_) ?_))
  · exact hadvance.bind hu (Nat.sub_le_iff_le_add'.mp (Nat.le_refl _))
  · exact fun e u hu he => hadvance.bind (hu he) (Nat.zero_le _)

theorem echoes_consume {f g : Bool → Parser β} {symbol : Symbol}
    (htrue : (f true).Echoes (g true) (fun b => most b - 1) (cost + 16) steps s.advance)
    (hfalse : (f false).Echoes (g false) most cost steps s) :
    (consume symbol >>= f).Echoes (consume symbol >>= g) most cost steps s := by
  cases h : s.current.kind.isSymbol symbol with
  | true =>
    have hk : s.current.kind ≠ .endOfInput := by simp [TokenKind.isSymbol_iff.mp h]
    refine (echoes_advance (f := fun _ => f true) (g := fun _ => g true) hk htrue).congr ?_ ?_
    · simp [Bind.bind, EStateM.bind, consume, advance, h]
    · intro s' hs'
      simp [Bind.bind, EStateM.bind, consume, advance, hs'.current, h]
  | false =>
    refine hfalse.congr ?_ fun s' hs' => ?_
    · simp [Bind.bind, EStateM.bind, consume, h]
    · simp [Bind.bind, EStateM.bind, consume, hs'.current, h]

theorem echoes_take {f g : Token → Parser β} {c : TokenKind → Bool} {fault : SyntaxFault}
    (hend : c .endOfInput = false)
    (h : c s.current.kind → (f s.current).Echoes (g s.current) (fun b => most b - 1) (cost + 16)
      steps s.advance) :
    (take c fault >>= f).Echoes (take c fault >>= g) most cost steps s := by
  cases hc : c s.current.kind with
  | true =>
    have hk : s.current.kind ≠ .endOfInput := fun hk => by simp [hk, hend] at hc
    refine (echoes_advance (f := fun _ => f s.current) (g := fun _ => g s.current) hk
      (h hc)).congr ?_ ?_
    · simp [Bind.bind, EStateM.bind, take, advance, hc]
    · intro s' hs'
      simp [Bind.bind, EStateM.bind, take, advance, hs'.current, hc]
  | false =>
    refine (echoes_fail fault).congr ?_ fun s' hs' => ?_
    · simp [Bind.bind, EStateM.bind, take, fail, hc]
    · simp [Bind.bind, EStateM.bind, take, fail, hs'.current, hc]

theorem echoes_require {f g : Unit → Parser β} {c : Bool} {fault : SyntaxFault}
    (h : c → (f ()).Echoes (g ()) most cost steps s) :
    (require c fault >>= f).Echoes (require c fault >>= g) most cost steps s := by
  cases c with
  | true => exact h rfl
  | false => exact echoes_fail fault

theorem echoes_expect {a? : Option α} {fault : SyntaxFault}
    (h : ∀ a, a? = some a → (f a).Echoes (g a) most cost steps s) :
    (expect fault a? >>= f).Echoes (expect fault a? >>= g) most cost steps s := by
  cases a? with
  | none => exact echoes_fail fault
  | some a => exact h a rfl

theorem echoes_merge {f g : Span → Parser β} {u v : Span}
    (h : ∀ w, (f w).Echoes (g w) most cost steps s) :
    (merge u v >>= f).Echoes (merge u v >>= g) most cost steps s := by
  cases hw : u.merge (some v) with
  | ok w =>
    refine (h w).congr ?_ fun s' _ => ?_ <;> simp [Bind.bind, EStateM.bind, merge, hw]
  | error d =>
    have herror : ∀ {f : Span → Parser β} s, (merge u v >>= f) s = .error (.disorder d) s := by
      simp [Bind.bind, EStateM.bind, merge, hw]
    rw [Echoes, Ensures, herror]
    exact fun _ => .here fun s' _ => herror s'

/-- A continuation that is skipped is a line break and an indentation. -/
theorem echoes_continuation {f g : Unit → Parser β} {c : TokenKind → Bool} (hc : s.continues c)
    (h : (f ()).Echoes (g ()) (fun b => most b - 1 - 1) (cost + 16 + 16) steps
      (s.skipContinuation c)) :
    (skipContinuation c >>= f).Echoes (skipContinuation c >>= g) most cost steps s := by
  have hkinds := hc
  simp only [TokenStream.continues, Bool.and_eq_true, beq_iff_eq] at hkinds
  obtain ⟨⟨⟨hbreak, hindent⟩, -⟩, -⟩ := hkinds
  have hbreak : s.current.kind ≠ .endOfInput := by simp [hbreak]
  have hindent : s.advance.current.kind ≠ .endOfInput := fun hk => by
    rw [TokenStream.current, peek_advance hbreak] at hk
    simp [hk, TokenKind.isIndentation] at hindent
  rw [TokenStream.skipContinuation, if_pos hc] at h
  refine (echoes_advance (f := fun _ => advance >>= f) (g := fun _ => advance >>= g) hbreak
    (echoes_advance hindent h)).congr ?_ fun s' hs' => ?_
  · simp [Bind.bind, EStateM.bind, skipContinuation, advance, TokenStream.skipContinuation, hc]
  · simp [Bind.bind, EStateM.bind, skipContinuation, advance, TokenStream.skipContinuation,
      hs'.continues, hc]

theorem echoes_skipContinuation {f g : Unit → Parser β} {c : TokenKind → Bool}
    (h : (f ()).Echoes (g ()) most cost steps (s.skipContinuation c)) :
    (skipContinuation c >>= f).Echoes (skipContinuation c >>= g) most cost steps s := by
  by_cases hc : s.continues c
  · refine echoes_continuation hc (h.weaken (fun b => ?_) (by omega))
    exact (Nat.sub_le _ 1).trans (Nat.sub_le _ 1)
  · rw [TokenStream.skipContinuation, if_neg hc] at h
    refine h.congr ?_ fun s' hs' => ?_
    · simp [Bind.bind, EStateM.bind, skipContinuation, TokenStream.skipContinuation, hc]
    · simp [Bind.bind, EStateM.bind, skipContinuation, TokenStream.skipContinuation,
        hs'.continues, hc]

/-- A parser that is repeated has sixteen calls for each token that it reads, and for two tokens
more, one of which is still ahead. -/
theorem echoes_repeated {p q : Nat → Parser α} (hcost : cost' ≤ 32)
    (h : ∀ m, (p s.fuel).Echoes (q m) least cost' m s) :
    (repeated p).Echoes (repeated q) least cost steps s := by
  have hretraces {outcome n t} (ht : ∀ m, (q m).Retraces outcome n cost' m s t) :
      (repeated q).Retraces outcome n cost steps s t := by
    obtain ⟨read, hr, hn, -⟩ := ht 0
    refine ⟨read, hr, hn, fun _ s' t' hs' ht' => ?_⟩
    obtain ⟨read', hr', -, hq⟩ := ht s'.fuel
    cases hr.unique hr'
    refine hq ?_ s' t' hs' ht'
    have := ht'.sighted'.length_pos
    rw [fuel, hs'.length]
    omega
  unfold Echoes Ensures at *
  rw [repeated]
  split
  · next hp => exact hretraces fun m => by simpa only [hp] using h m
  · next hp =>
    simp only [hp] at h
    exact fun he => hretraces fun m => h m he

end Parser

end Frontend
