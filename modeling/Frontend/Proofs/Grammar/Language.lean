import Frontend.Proofs.Grammar.Chain
import Frontend.Proofs.Grammar.Derivation

/-!
# The language of expressions

The readers of expressions are greedy: a phrase is read as long as its tokens go on. Each kind of
token has a level, that of the tightest phrases that go on with it, and a phrase is read up to a
token of a looser level. What the grammar derives is accepted by the readers for that reason, and
what they accept is derived: they read the language of the grammar.
-/

namespace Frontend

/-! ### Levels -/

/-- The level of a phrase: a primary expression binds tightest. -/
def Phrase.level : Phrase → Nat
  | primary | segments      => 0
  | factor | members        => 1
  | application | arguments => 2
  | binary | operations     => 3
  | expression | elements   => 4

/-- The phrase is a repetition, which may be empty. -/
def Phrase.isRepetition : Phrase → Bool
  | segments | members | arguments | operations | elements => true
  | _                                                      => false

/-- The level of the phrases that go on with a token of the kind. No phrase stops at a line break,
and none goes on with a closing bracket or the end of input. -/
def TokenKind.level : TokenKind → Nat
  | .lineBreak                 => 0
  | .symbol .interpolationOpen => 0
  | .symbol .dotAccess         => 1
  | .identifier _              => 2
  | .number _                  => 2
  | .character _               => 2
  | .text _                    => 2
  | .symbol .openRound         => 2
  | .symbol .openCurly         => 2
  | .operator _                => 3
  | .symbol .comma             => 4
  | _                          => 5

namespace TokenKind

variable {k : TokenKind}

theorem level_of_isOperator (h : k.isOperator) : k.level = 3 := by
  obtain ⟨name, rfl⟩ := isOperator_iff.mp h
  rfl

theorem level_of_isIdentifier (h : k.isIdentifier) : k.level = 2 := by
  obtain ⟨name, rfl⟩ := isIdentifier_iff.mp h
  rfl

theorem level_of_isText (h : k.isText) : k.level = 2 := by
  obtain ⟨content, rfl⟩ := isText_iff.mp h
  rfl

theorem ne_lineBreak_of_level (h : 0 < k.level) : k ≠ .lineBreak := by
  rintro rfl
  exact Nat.lt_irrefl 0 h

theorem isSymbol_eq_false_of_level {s : Symbol} {n : Nat} (hk : n < k.level)
    (hs : (symbol s).level ≤ n) : k.isSymbol s = false := by
  have hne : k ≠ .symbol s := by
    rintro rfl
    omega
  simpa [isSymbol] using hne

theorem isOperator_eq_false_of_level (h : k.level ≠ 3) : k.isOperator = false := by
  cases hk : k.isOperator with
  | false => rfl
  | true => exact absurd (level_of_isOperator hk) h

theorem isIdentifier_eq_false_of_level (h : k.level ≠ 2) : k.isIdentifier = false := by
  cases hk : k.isIdentifier with
  | false => rfl
  | true => exact absurd (level_of_isIdentifier hk) h

theorem isText_eq_false_of_level (h : k.level ≠ 2) : k.isText = false := by
  cases hk : k.isText with
  | false => rfl
  | true => exact absurd (level_of_isText hk) h

theorem startsFactor_eq_false_of_level (h : k.level ≠ 2) : k.startsFactor = false := by
  cases k with
  | symbol s => cases s <;> first | rfl | exact absurd rfl h
  | _ => first | rfl | exact absurd rfl h

end TokenKind

/-! ### The first tokens of phrases -/

namespace TokenStream

/-- The stream of some tokens and what is behind them. -/
def before (own : List Token) (t : TokenStream) : TokenStream := ⟨own ++ t.ahead, t.last⟩

theorem before_append (own more : List Token) (t : TokenStream) :
    before (own ++ more) t = before own (before more t) := by
  simp [before]

theorem before_cons (o : Token) (own : List Token) (t : TokenStream) :
    before (o :: own) t = ⟨o :: (before own t).ahead, (before own t).last⟩ := rfl

theorem Reads.eq_before {s t : TokenStream} {own : List Token} (h : s.Reads own t) :
    s = before own t := by
  cases s
  simpa [before, eq_comm] using And.intro h.ahead h.last

end TokenStream

namespace Derives

open TokenStream (before)

variable {phrase : Phrase} {b : Bool} {own : List Token}

/-- A repetition starts with a token of its level, and any other phrase as a factor does. -/
theorem level_head (h : Derives phrase b own) :
    own = [] ∧ phrase.isRepetition ∧ b = false ∨
      ∃ t rest, own = t :: rest ∧
        t.kind.level = if phrase.isRepetition then phrase.level else 2 := by
  induction h with
  | noElements | noOperations | noArguments | noMembers | noSegments => exact .inl ⟨rfl, rfl, rfl⟩
  | expression _ _ ih | binary _ _ ih | factor _ _ ih | application _ _ _ ih | arguments _ _ ih =>
    obtain ⟨-, ⟨⟩, -⟩ | ⟨t, rest, rfl, ht⟩ := ih
    exact .inr ⟨t, _, rfl, ht⟩
  | factorAlone _ ih => exact ih
  | elements ht | members ht | emptyTuple ht | brackets ht | emptyList ht | list ht | segments ht =>
    exact .inr ⟨_, _, rfl, by rw [ht]; rfl⟩
  | operations ht => exact .inr ⟨_, _, rfl, TokenKind.level_of_isOperator ht⟩
  | identifier ht => exact .inr ⟨_, _, rfl, TokenKind.level_of_isIdentifier ht⟩
  | text ht => exact .inr ⟨_, _, rfl, TokenKind.level_of_isText ht⟩
  | number ht | character ht =>
    obtain ⟨_, ht⟩ := ht
    exact .inr ⟨_, _, rfl, by rw [ht]; rfl⟩

/-- A repetition behind a phrase does not go on with the tighter phrases before it. -/
theorem level_lt_current {t : TokenStream} {n : Nat} (h : Derives phrase b own)
    (hphrase : phrase.isRepetition) (hn : n < phrase.level)
    (ht : phrase.level < t.current.kind.level) :
    n < (before own t).current.kind.level := by
  obtain ⟨rfl, -, -⟩ | ⟨u, rest, rfl, hu⟩ := h.level_head
  · exact Nat.lt_trans hn ht
  · rw [if_pos hphrase] at hu
    exact hu ▸ hn

/-- The first token of a phrase that is no repetition. -/
theorem level_current (h : Derives phrase b own) (hphrase : phrase.isRepetition = false)
    (t : TokenStream) : (before own t).current.kind.level = 2 := by
  obtain ⟨-, hrepetition, -⟩ | ⟨u, rest, rfl, hu⟩ := h.level_head
  · simp [hphrase] at hrepetition
  · rwa [hphrase, if_neg Bool.false_ne_true] at hu

end Derives

/-! ### Phrases that stop -/

namespace TokenStream

variable {s : TokenStream} {n : Nat}

theorem ne_lineBreak_of_level (h : n < s.current.kind.level) : s.current.kind ≠ .lineBreak :=
  TokenKind.ne_lineBreak_of_level (Nat.zero_lt_of_lt h)

theorem ne_symbol_of_level {symbol : Symbol} (h : n < s.current.kind.level)
    (hsymbol : (TokenKind.symbol symbol).level ≤ n) : s.current.kind ≠ .symbol symbol := by
  intro hk
  rw [hk] at h
  omega

end TokenStream

namespace Parser

section Stop

open TokenStream (ne_lineBreak_of_level ne_symbol_of_level)

variable {fixities : FixityTable} {P : Expression → Prop} {s t : TokenStream}

/-- A primary expression before a token that no factor goes on with. -/
theorem accepts_factor_alone (hs : s.current.kind ≠ .lineBreak) (ht : 1 < t.current.kind.level)
    (h : Accepts (primaryWithin fixities) s (Gives fun e u => P e ∧ u = t)) :
    Accepts (factorWithin fixities) s (Gives fun e u => P e ∧ u = t) := by
  refine accepts_factor hs (h.imp ?_)
  rintro e _ ⟨he, rfl⟩
  exact accepts_members_end (ne_symbol_of_level ht (by decide)) ⟨he, rfl⟩

/-- A factor before a token that no application goes on with. -/
theorem accepts_application_alone (ht : 2 < t.current.kind.level)
    (h : Accepts (factorWithin fixities) s (Gives fun e u => P e ∧ u = t)) :
    Accepts (applicationWithin fixities) s (Gives fun e u => P e ∧ u = t) := by
  refine accepts_application (h.imp ?_)
  rintro e _ ⟨he, rfl⟩
  exact accepts_arguments_end (fun _ => ⟨ne_lineBreak_of_level ht,
    TokenKind.startsFactor_eq_false_of_level (Nat.ne_of_gt ht)⟩) ⟨he, rfl⟩

/-- An application before a token that no binary expression goes on with. -/
theorem accepts_binary_alone (ht : 3 < t.current.kind.level)
    (h : Accepts (applicationWithin fixities) s (Gives fun e u => P e ∧ u = t)) :
    Accepts (binaryWithin fixities · 0) s (Gives fun e u => P e ∧ u = t) := by
  have hchain : Chain fixities [] t t :=
    .nil (ne_lineBreak_of_level ht) (TokenKind.isOperator_eq_false_of_level (Nat.ne_of_gt ht))
  refine (accepts_binary h hchain (.inl rfl)).imp ?_
  rintro e _ ⟨he, rfl⟩
  exact ⟨he.of_nil, rfl⟩

/-- A binary expression before a token that no expression goes on with. -/
theorem accepts_expression_alone (ht : 4 < t.current.kind.level)
    (h : Accepts (binaryWithin fixities · 0) s (Gives fun e u => P e ∧ u = t)) :
    Accepts (expressionWithin fixities) s (Gives fun e u => P e ∧ u = t) := by
  refine accepts_expression (h.imp ?_)
  rintro e _ ⟨he, rfl⟩
  exact ⟨ne_lineBreak_of_level ht, ne_symbol_of_level ht (by decide), he, rfl⟩

end Stop

end Parser

/-! ### What the grammar derives is accepted -/

/-- No operator among the tokens is non-associative. -/
def FixityTable.Associates (fixities : FixityTable) (tokens : List Token) : Prop :=
  ∀ t ∈ tokens, (fixities.ofToken t).associativity ≠ .none

namespace Parser

open TokenStream (before before_append before_cons ne_lineBreak_of_level ne_symbol_of_level)

variable {fixities : FixityTable}

/-- The reader of a phrase accepts what is ahead, as callable or not, and reads up to a place. -/
def ReadsUpTo (fixities : FixityTable) (b : Bool) (s t : TokenStream) : Phrase → Prop
  | .expression  =>
    Accepts (expressionWithin fixities) s (Gives fun e u => e.isCallable = b ∧ u = t)
  | .elements    => Accepts (elementsWithin fixities) s fun _ u => u = t
  | .binary      =>
    Accepts (binaryWithin fixities · 0) s (Gives fun e u => e.isCallable = b ∧ u = t)
  | .operations  => ∃ links, Chain fixities links s t ∧ (links ≠ [] ↔ b = true) ∧
    ∀ link ∈ links, (fixities.ofToken link.operator).associativity ≠ .none
  | .application =>
    Accepts (applicationWithin fixities) s (Gives fun e u => e.isCallable = b ∧ u = t)
  | .arguments   => ∀ e : Expression, e.isCallable →
    Accepts (argumentsWithin fixities · e) s fun e' u => e'.isCallable = true ∧ u = t
  | .factor      => Accepts (factorWithin fixities) s (Gives fun e u => e.isCallable = b ∧ u = t)
  | .members     => ∀ e : Expression, Accepts (membersWithin fixities · e) s fun e' u =>
    e'.isCallable = (e.isCallable || b) ∧ u = t
  | .primary     => Accepts (primaryWithin fixities) s (Gives fun e u => e.isCallable = b ∧ u = t)
  | .segments    => Accepts (segmentsWithin fixities) s fun _ u => u = t

/-- The tokens are accepted as a phrase before any token that the phrase does not go on with. -/
def Accepted (fixities : FixityTable) (phrase : Phrase) (b : Bool) (own : List Token) : Prop :=
  fixities.Associates own → ∀ t : TokenStream, phrase.level < t.current.kind.level →
    ReadsUpTo fixities b (before own t) t phrase

namespace Accepted

variable {b c : Bool} {ts us : List Token} {o x : Token}

theorem lt_level {n : Nat} {k : TokenKind} (hx : x.kind = k) (hk : n < k.level) (us : List Token)
    (t : TokenStream) : n < (before (x :: us) t).current.kind.level := by
  rw [← hx] at hk
  exact hk

theorem expression (hus : Derives .elements c us) (hfirst : Accepted fixities .binary b ts)
    (hrest : Accepted fixities .elements c us) :
    Accepted fixities .expression (b && !c) (ts ++ us) := by
  intro hassoc t ht
  have hmid : 3 < (before us t).current.kind.level := hus.level_lt_current rfl (by decide) ht
  have hbinary := hfirst (fun u hu => hassoc u (by simp [hu])) _ hmid
  rw [before_append]
  cases hus with
  | noElements =>
    refine accepts_expression (hbinary.imp ?_)
    rintro e _ ⟨he, rfl⟩
    exact ⟨ne_lineBreak_of_level ht, ne_symbol_of_level ht (by decide), by simpa using he, rfl⟩
  | elements hcomma _ _ =>
    refine accepts_expression_tuple (hbinary.imp ?_)
    rintro e _ ⟨-, rfl⟩
    refine ⟨hcomma, (hrest (fun u hu => hassoc u (by simp [hu])) t ht).mono ?_⟩
    rintro es _ rfl
    exact ⟨(Bool.and_false b).symm, rfl⟩

theorem elements (ho : o.kind = .symbol .comma) (hus : Derives .elements c us)
    (hfirst : Accepted fixities .binary b ts) (hrest : Accepted fixities .elements c us) :
    Accepted fixities .elements true (o :: (ts ++ us)) := by
  intro hassoc t ht
  have hmid : 3 < (before us t).current.kind.level := hus.level_lt_current rfl (by decide) ht
  have hbinary := hfirst (fun u hu => hassoc u (by simp [hu])) _ hmid
  rw [before_cons, before_append]
  refine accepts_elements ho (hbinary.imp ?_)
  rintro e _ ⟨-, rfl⟩
  exact ⟨ne_lineBreak_of_level hmid, hrest (fun u hu => hassoc u (by simp [hu])) t ht⟩

theorem binary (hus : Derives .operations c us) (hfirst : Accepted fixities .application b ts)
    (hrest : Accepted fixities .operations c us) :
    Accepted fixities .binary (b || c) (ts ++ us) := by
  intro hassoc t ht
  have hmid : 2 < (before us t).current.kind.level := hus.level_lt_current rfl (by decide) ht
  have happlication := hfirst (fun u hu => hassoc u (by simp [hu])) _ hmid
  obtain ⟨links, hlinks, hc, hoperators⟩ := hrest (fun u hu => hassoc u (by simp [hu])) t ht
  rw [before_append]
  refine (accepts_binary happlication hlinks (.of_associative hoperators)).imp ?_
  rintro e _ ⟨he, rfl⟩
  refine ⟨?_, rfl⟩
  cases c with
  | false =>
    have hnil : links = [] := by simpa using hc
    subst hnil
    simpa using he.of_nil
  | true => simpa using he.isCallable (hc.mpr rfl)

theorem operations (ho : o.kind.isOperator) (hus : Derives .operations c us)
    (hfirst : Accepted fixities .application b ts) (hrest : Accepted fixities .operations c us) :
    Accepted fixities .operations true (o :: (ts ++ us)) := by
  intro hassoc t ht
  have hmid : 2 < (before us t).current.kind.level := hus.level_lt_current rfl (by decide) ht
  have happlication := hfirst (fun u hu => hassoc u (by simp [hu])) _ hmid
  obtain ⟨links, hlinks, -, hoperators⟩ := hrest (fun u hu => hassoc u (by simp [hu])) t ht
  rw [before_cons, before_append]
  refine ⟨_, .cons ho happlication hlinks, by simp, ?_⟩
  exact List.forall_mem_cons.mpr ⟨hassoc o List.mem_cons_self, hoperators⟩

theorem factorAlone (hfirst : Accepted fixities .factor b ts) :
    Accepted fixities .application b ts :=
  fun hassoc t ht => accepts_application_alone ht (hfirst hassoc t (Nat.lt_of_succ_lt ht))

theorem noArguments : Accepted fixities .arguments false [] := by
  intro _ t ht e he
  refine accepts_arguments_end (fun _ => ?_) ⟨he, rfl⟩
  exact ⟨ne_lineBreak_of_level ht, TokenKind.startsFactor_eq_false_of_level (Nat.ne_of_gt ht)⟩

theorem arguments (hus : Derives .arguments c us) (hfirst : Accepted fixities .factor b ts)
    (hrest : Accepted fixities .arguments c us) : Accepted fixities .arguments true (ts ++ us) := by
  intro hassoc t ht e he
  have hmid : 1 < (before us t).current.kind.level := hus.level_lt_current rfl (by decide) ht
  rw [before_append]
  refine accepts_arguments he ((hfirst (fun u hu => hassoc u (by simp [hu])) _ hmid).imp ?_)
  rintro a _ ⟨-, rfl⟩ span
  exact hrest (fun u hu => hassoc u (by simp [hu])) t ht _ rfl

theorem application {vs : List Token} (hus : Derives .factor b us) (hvs : Derives .arguments c vs)
    (hcallee : Accepted fixities .factor true ts) (hfirst : Accepted fixities .factor b us)
    (hrest : Accepted fixities .arguments c vs) :
    Accepted fixities .application true (ts ++ (us ++ vs)) := by
  intro hassoc t ht
  have hmid : 1 < (before (us ++ vs) t).current.kind.level := by
    rw [before_append]
    exact (hus.level_current rfl _).symm ▸ by decide
  rw [before_append]
  refine accepts_application ((hcallee (fun u hu => hassoc u (by simp [hu])) _ hmid).imp ?_)
  rintro e _ ⟨he, rfl⟩
  exact arguments hvs hfirst hrest (fun u hu => hassoc u (by simp [hu])) t ht e he

theorem factor (hts : Derives .primary b ts) (hus : Derives .members c us)
    (hfirst : Accepted fixities .primary b ts) (hrest : Accepted fixities .members c us) :
    Accepted fixities .factor (b || c) (ts ++ us) := by
  intro hassoc t ht
  have hmid : 0 < (before us t).current.kind.level := hus.level_lt_current rfl (by decide) ht
  rw [before_append]
  refine accepts_factor (TokenKind.ne_lineBreak_of_level ?_) ?_
  · exact (hts.level_current rfl _).symm ▸ by decide
  refine (hfirst (fun u hu => hassoc u (by simp [hu])) _ hmid).imp ?_
  rintro e _ ⟨rfl, rfl⟩
  exact hrest (fun u hu => hassoc u (by simp [hu])) t ht e

theorem noMembers : Accepted fixities .members false [] := by
  intro _ t ht e
  exact accepts_members_end (ne_symbol_of_level ht (by decide)) ⟨by simp, rfl⟩

theorem members (ho : o.kind = .symbol .dotAccess) (hx : x.kind.isIdentifier)
    (hrest : Accepted fixities .members c us) :
    Accepted fixities .members true (o :: x :: us) := by
  intro hassoc t ht e
  have hmore := hrest (fun u hu => hassoc u (by simp [hu])) t ht
  refine accepts_members ho hx fun span => (hmore _).mono ?_
  rintro e' _ ⟨he', rfl⟩
  exact ⟨by simpa [Expression.isCallable] using he', rfl⟩

theorem text (hx : x.kind.isText) (hts : Derives .segments b ts)
    (hrest : Accepted fixities .segments b ts) : Accepted fixities .primary false (x :: ts) := by
  intro hassoc t ht
  refine accepts_primary_text hx ?_
  cases hts with
  | noSegments =>
    refine accepts_text_end (ne_symbol_of_level ht (by decide)) ⟨?_, rfl⟩
    obtain ⟨content, hx⟩ := TokenKind.isText_iff.mp hx
    simp [Expression.isCallable, hx, TokenKind.isIdentifier]
  | segments ho _ _ _ _ =>
    refine accepts_text ho ((hrest (fun u hu => hassoc u (by simp [hu])) t ht).mono ?_)
    rintro es _ rfl span
    exact ⟨rfl, rfl⟩

theorem brackets (ho : o.kind = .symbol .openRound) (hts : Derives .expression b ts)
    (h : Accepted fixities .expression b ts) (hx : x.kind = .symbol .closeRound) :
    Accepted fixities .primary b (o :: (ts ++ [x])) := by
  intro hassoc t _
  have hinner := h (fun u hu => hassoc u (by simp [hu])) _ (lt_level hx (by decide) [] t)
  rw [before_cons, before_append]
  refine accepts_primary_round ho (accepts_round ?_ (hinner.imp ?_))
  · intro hk
    have hlevel := hts.level_current rfl (before [x] t)
    exact absurd (hlevel.symm.trans (congrArg TokenKind.level hk)) (by decide)
  · rintro e _ ⟨he, rfl⟩
    exact ⟨x, t.ahead, t.last, rfl, hx, by rwa [Expression.isCallable_withSpan], rfl⟩

theorem list {a : Bool} (ho : o.kind = .symbol .openCurly) (hus : Derives .elements c us)
    (hfirst : Accepted fixities .binary a ts) (hrest : Accepted fixities .elements c us)
    (hx : x.kind = .symbol .closeCurly) :
    Accepted fixities .primary false (o :: (ts ++ (us ++ [x]))) := by
  intro hassoc t _
  have hlast : 4 < (before [x] t).current.kind.level := lt_level hx (by decide) [] t
  have hmid : 3 < (before us (before [x] t)).current.kind.level :=
    hus.level_lt_current rfl (by decide) hlast
  have hbinary := hfirst (fun u hu => hassoc u (by simp [hu])) _ hmid
  rw [before_cons, before_append, before_append]
  refine accepts_primary_curly ho (accepts_curly (hbinary.imp ?_))
  rintro e _ ⟨-, rfl⟩
  refine (hrest (fun u hu => hassoc u (by simp [hu])) _ hlast).mono ?_
  rintro es _ rfl
  exact ⟨x, t.ahead, t.last, rfl, hx, rfl, rfl⟩

theorem segments {y : Token} (ho : o.kind = .symbol .interpolationOpen)
    (h : Accepted fixities .expression b ts) (hx : x.kind = .symbol .interpolationClose)
    (hy : y.kind.isText) (hrest : Accepted fixities .segments c us) :
    Accepted fixities .segments true (o :: (ts ++ x :: y :: us)) := by
  intro hassoc t ht
  have hinner := h (fun u hu => hassoc u (by simp [hu])) _ (lt_level hx (by decide) (y :: us) t)
  have hmore := hrest (fun u hu => hassoc u (by simp [hu])) t ht
  rw [before_cons, before_append]
  refine accepts_segments ho (hinner.imp ?_)
  rintro e _ ⟨-, rfl⟩
  exact ⟨x, y, (before us t).ahead, rfl, hx, hy, hmore⟩

/-- A phrase of one token. -/
theorem leaf {b : Bool} (hx : x.kind.isIdentifier ∨ (∃ digits, x.kind = .number digits) ∨
      ∃ content, x.kind = .character content) (hb : x.kind.isIdentifier = b) :
    Accepted fixities .primary b [x] :=
  fun _ _ _ => accepts_primary_leaf hx ⟨hb, rfl⟩

end Accepted

/-- What the grammar derives is accepted. -/
theorem accepted_of_derives {phrase : Phrase} {b : Bool} {own : List Token}
    (h : Derives phrase b own) : Accepted fixities phrase b own := by
  induction h with
  | expression _ hus ih ih' => exact .expression hus ih ih'
  | noElements => exact fun _ t ht => accepts_elements_end (ne_symbol_of_level ht (by decide)) rfl
  | elements ho _ hus ih ih' => exact .elements ho hus ih ih'
  | binary _ hus ih ih' => exact .binary hus ih ih'
  | noOperations =>
    intro _ t ht
    refine ⟨[], .nil (ne_lineBreak_of_level ht) ?_, by simp, by simp⟩
    exact TokenKind.isOperator_eq_false_of_level (Nat.ne_of_gt ht)
  | operations ho _ hus ih ih' => exact .operations ho hus ih ih'
  | factorAlone _ ih => exact .factorAlone ih
  | application _ hus hvs ihc ih ih' => exact .application hus hvs ihc ih ih'
  | noArguments => exact .noArguments
  | arguments _ hus ih ih' => exact .arguments hus ih ih'
  | factor hts hus ih ih' => exact .factor hts hus ih ih'
  | noMembers => exact .noMembers
  | members ho hx _ ih => exact .members ho hx ih
  | identifier hx => exact .leaf (.inl hx) hx
  | number hx =>
    obtain ⟨digits, hx⟩ := hx
    exact .leaf (.inr (.inl ⟨digits, hx⟩)) (by simp [hx, TokenKind.isIdentifier])
  | character hx =>
    obtain ⟨content, hx⟩ := hx
    exact .leaf (.inr (.inr ⟨content, hx⟩)) (by simp [hx, TokenKind.isIdentifier])
  | text hx hts ih => exact .text hx hts ih
  | emptyTuple ho hc =>
    exact fun _ _ _ => accepts_primary_round ho (accepts_round_empty hc fun _ => ⟨rfl, rfl⟩)
  | brackets ho hts hc ih => exact .brackets ho hts ih hc
  | emptyList ho hc =>
    exact fun _ _ _ => accepts_primary_curly ho (accepts_curly_empty hc fun _ => ⟨rfl, rfl⟩)
  | list ho _ hus hc ih ih' => exact .list ho hus ih ih' hc
  | noSegments => exact fun _ t ht => accepts_segments_end (ne_symbol_of_level ht (by decide)) rfl
  | segments ho _ hclose hx _ ih ih' => exact .segments ho ih hclose hx ih'

/-! ### The theorem -/

open TokenStream (LayoutFree)

/-- Without line breaks, a whole expression is what is read by the reader of expressions up to the
end of input. -/
theorem ensures_wholeExpression {s : TokenStream} {R : Expression → TokenStream → Prop}
    (h : (expressionWithin fixities s.fuel).Ensures
      (fun e? t => ∀ e ∈ e?, t.LayoutFree ∧ R e t) Fails s) :
    (wholeExpression fixities).Ensures
      (fun e t => t.Ends ∧ t.current.kind = .endOfInput ∧ R e t) Fails s := by
  rw [wholeExpression, expression]
  simp only [ensures_bind, ensures_repeated]
  refine h.mono ?_ fun _ _ => id
  intro e? t ht
  simp only [ensures_expect]
  refine ⟨?_, fun _ => trivial⟩
  rintro e rfl
  obtain ⟨htfree, he⟩ := ht e rfl
  refine (lineBreaks_reads _ htfree.ends).mono ?_ fun _ _ _ => trivial
  rintro _ u ⟨breaks, hbreaks, hkind⟩
  have hnil : breaks = [] := by
    refine List.eq_nil_iff_forall_not_mem.mpr fun v hv => ?_
    exact htfree.noBreak v (hbreaks.ahead ▸ List.mem_append_left _ hv) (hkind v hv)
  subst hnil
  obtain rfl := hbreaks.eq_of_nil
  simp only [ensures_current, ensures_require]
  exact ⟨fun hend => ⟨htfree.ends, by simpa using hend, he⟩, fun _ => trivial⟩

/-- A whole expression is derived by the tokens up to the end of input. -/
theorem wholeExpression_derives (fixities : FixityTable) {s : TokenStream} (hs : s.LayoutFree) :
    (wholeExpression fixities).Ensures
      (fun e t => t.Ends ∧ t.current.kind = .endOfInput ∧
        ∃ own, s.Reads own t ∧ Derives .expression e.isCallable own) Fails s := by
  have hexpression := (derivingWithin fixities s.fuel).expression s hs
  refine ensures_wholeExpression (hexpression.mono ?_ fun _ _ => id)
  rintro _ t ht e rfl
  obtain ⟨own, hown, he⟩ := ht
  exact ⟨hown.layoutFree hs, own, hown, he⟩

end Parser

/-- Tokens without line breaks, and with operators that may be chained, spell an expression if and
only if the grammar derives an expression from them. -/
theorem exists_parseExpression_iff_derives {tokens : List Token} {stop : Token}
    {fixities : FixityTable} (hstop : stop.kind = .endOfInput)
    (htokens : ∀ t ∈ tokens, t.kind ≠ .endOfInput ∧ t.kind ≠ .lineBreak)
    (horder : Token.InOrder (tokens ++ [stop]))
    (hchain : ∀ t ∈ tokens, ∀ name, t.kind = .operator name →
      (fixities.get name).associativity ≠ .none) :
    (∃ e, parseExpression (tokens ++ [stop]) fixities = .ok e) ↔
      ∃ callable, Derives .expression callable tokens := by
  constructor
  · rintro ⟨e, he⟩
    have hs := TokenStream.layoutFree_concat hstop fun t ht => (htokens t ht).2
    obtain ⟨t, hends, hk, own, hown, hderives⟩ :=
      (Parser.wholeExpression_derives fixities hs).exists_of_run' he
    rw [TokenStream.ofList_concat] at hown
    obtain ⟨rfl, -⟩ := hown.eq_of_concat hends hk hstop fun t ht => (htokens t ht).1
    exact ⟨_, hderives⟩
  · rintro ⟨callable, h⟩
    have hassoc : fixities.Associates tokens := by
      intro t ht
      rw [FixityTable.ofToken]
      split
      · next name hname => exact hchain t ht name hname
      · decide
    have haccepts := Parser.accepted_of_derives h hassoc ⟨[stop], stop⟩ (by
      change 4 < stop.kind.level
      rw [hstop]
      decide)
    obtain ⟨e, he, -⟩ := Parser.exists_parseExpression hstop horder haccepts
    exact ⟨e, he⟩

/-- A call with two arguments and a text with an interpolation in it are an expression, and a number
with an argument is none. -/
theorem exists_parseExpression_iff_derives_calls :
    let kinds : List TokenKind :=
      [.identifier "f", .symbol .openRound, .identifier "x", .symbol .dotAccess, .identifier "y",
        .operator "+", .number "1", .symbol .closeRound, .symbol .openCurly, .symbol .closeCurly,
        .symbol .comma, .text "a", .symbol .interpolationOpen, .identifier "z",
        .symbol .interpolationClose, .text ""]
    let others : List TokenKind := [.number "1", .identifier "x"]
    (∃ callable, Derives .expression callable (Token.row 0 kinds)) ∧
      ∀ callable, ¬ Derives .expression callable (Token.row 0 others) := by
  intro kinds others
  let stop (n : Nat) : Token := ⟨.endOfInput, ⟨n, 0, n⟩, ⟨n + 1, 0, n + 1⟩⟩
  have hok : (parseExpression (Token.row 0 kinds ++ [stop 16]) .standard).isOk := by decide +kernel
  have hfail : (parseExpression (Token.row 0 others ++ [stop 2]) .standard).isOk = false := by
    decide +kernel
  constructor
  · have hiff : (∃ e, parseExpression (Token.row 0 kinds ++ [stop 16]) .standard = .ok e) ↔ _ :=
      exists_parseExpression_iff_derives rfl (by decide)
        (Token.row_inOrder 0 (kinds ++ [TokenKind.endOfInput])) (by simp [kinds, Token.row]; decide)
    exact hiff.mp (Except.exists_ok_of_isOk hok)
  · intro callable h
    have hiff : (∃ e, parseExpression (Token.row 0 others ++ [stop 2]) .standard = .ok e) ↔ _ :=
      exists_parseExpression_iff_derives rfl (by decide)
        (Token.row_inOrder 0 (others ++ [TokenKind.endOfInput])) (by simp [others, Token.row])
    obtain ⟨e, he⟩ := hiff.mpr ⟨callable, h⟩
    simp [he, Except.isOk, Except.toBool] at hfail

end Frontend
