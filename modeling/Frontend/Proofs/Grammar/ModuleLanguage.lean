import Frontend.Proofs.Grammar.ModuleGrammar

/-!
# The language of modules

Each place of a module has one way to go on: blank lines and separators are read as far as they go,
and what may be left out is told from what is there by its first token. So the readers of modules
read every module of the grammar, with the values that the grammar gives it.
-/

namespace Frontend.Parser

open ModuleGrammar Relation

variable {α β : Type} {p : Parser α} {s t u : TokenStream} {fault : SyntaxFault}
  {fixities : FixityTable}

/-! ### Steps -/

theorem bind_of_ok {a : α} (h : p s = .ok a t) (f : α → Parser β) : (p >>= f) s = f a t := by
  simp only [Bind.bind, EStateM.bind, h]

theorem take_of_reads {x : Token} {symbol : Symbol} (h : s.Reads [x] t)
    (hx : x.kind = .symbol symbol) : take (·.isSymbol symbol) fault s = .ok x t := by
  simp [take, h.current_eq, h.advance_eq, hx, TokenKind.isSymbol]

theorem consume_of_reads {x : Token} {symbol : Symbol} (h : s.Reads [x] t)
    (hx : x.kind = .symbol symbol) : consume symbol s = .ok true t := by
  simp [consume, h.current_eq, h.advance_eq, hx, TokenKind.isSymbol]

theorem consume_of_ne {symbol : Symbol} (h : s.current.kind ≠ .symbol symbol) :
    consume symbol s = .ok false s := by
  simp [consume, TokenKind.isSymbol, h]

theorem identifier_of_reads {x : Token} {i : Identifier} (h : s.Reads [x] t)
    (hx : Identifier.ofToken? x = some i) : identifier fault s = .ok i t := by
  simp [identifier, h.current_eq, h.advance_eq, hx]

theorem kind_of_ofToken? {x : Token} {i : Identifier} (h : Identifier.ofToken? x = some i) :
    x.kind.isIdentifier := by
  rw [Identifier.ofToken?] at h
  split at h
  · next hk => simp [hk, TokenKind.isIdentifier]
  · cases h

/-! ### Layout -/

theorem separator_advance (h : Separator s t) : s.advance = t := by
  rcases h with (⟨h, -⟩ | ⟨h, -, -⟩) | ⟨h, -⟩
  all_goals exact h.advance_eq

/-- Steps that advance come to one place only where they cannot go on. -/
theorem eq_of_stuck {r : TokenStream → TokenStream → Prop}
    (hr : ∀ {s t}, r s t → s.advance = t) (ht : ReflTransGen r s t) (hu : ReflTransGen r s u)
    (hstuck : ∀ v, ¬ r t v) (hstuck' : ∀ v, ¬ r u v) : t = u := by
  have hunique : Relator.RightUnique r := fun _ _ _ h h' => (hr h).symm.trans (hr h')
  rcases ht.total_of_right_unique hunique hu with h | h
  · rcases h.cases_head with heq | ⟨v, hv, -⟩
    · exact heq
    · exact absurd hv (hstuck v)
  · rcases h.cases_head with heq | ⟨v, hv, -⟩
    · exact heq.symm
    · exact absurd hv (hstuck' v)

theorem blankLines_of_reflTransGen (hs : s.Ends) (h : ReflTransGen Blank s t)
    (hstuck : ∀ u, ¬ Blank t u) : repeated blankLinesWithin s = .ok () t := by
  have hreads := (ensures_repeated blankLinesWithin).mpr
    (blankLines_reads s.fuel hs s.length_le_fuel)
  cases hp : repeated blankLinesWithin s with
  | ok a u =>
    obtain ⟨hu, hstuck'⟩ := hreads.of_ok hp
    rw [eq_of_stuck (fun h => separator_advance (.blank h)) h hu hstuck hstuck']
  | error e u => exact (hreads.of_error hp).elim

theorem separators_of_reflTransGen (hs : s.Ends) (h : ReflTransGen Separator s t)
    (hrest : AtRest t) : separators s = .ok () t := by
  have hreads := separators_reads hs
  cases hp : separators s with
  | ok a u =>
    obtain ⟨hu, hrest'⟩ := hreads.of_ok hp
    rw [eq_of_stuck separator_advance h hu hrest.stuck hrest'.stuck]
  | error e u =>
    obtain ⟨hu, hstuck, hi⟩ := hreads.of_error hp
    obtain rfl := eq_of_stuck separator_advance h hu hrest.stuck hstuck
    simp [hrest.noIndentation] at hi

theorem terminator_of_terminator (h : Terminator s t) : terminator s = .ok () t := by
  rcases h with ⟨h, hb⟩ | ⟨h, hx⟩ | ⟨rfl, hk⟩
  · simp [terminator, Bind.bind, EStateM.bind, current, advance, h.current_eq, h.advance_eq, hb]
  · simp [terminator, Bind.bind, EStateM.bind, current, advance, h.current_eq, h.advance_eq, hx,
      TokenKind.isSymbol]
  · simp [terminator, Bind.bind, EStateM.bind, current, require, hk, TokenKind.isSymbol]

theorem terminator_reads_own (h : Terminator s t) : ∃ own, s.Reads own t := by
  rcases h with ⟨h, -⟩ | ⟨h, -⟩ | ⟨rfl, -⟩
  · exact ⟨_, h⟩
  · exact ⟨_, h⟩
  · exact ⟨[], .refl t⟩

theorem separators_reads_own (h : ReflTransGen Separator s t) : ∃ own, s.Reads own t := by
  induction h with
  | refl => exact ⟨[], .refl s⟩
  | tail _ hstep ih =>
    obtain ⟨own, hr⟩ := ih
    rcases hstep with (⟨h, -⟩ | ⟨h, -, -⟩) | ⟨h, -⟩
    all_goals exact ⟨_, hr.trans h⟩

/-- What a terminator starts with. -/
theorem terminator_current (h : Terminator s t) :
    s.current.kind = .lineBreak ∨ s.current.kind = .symbol .semicolon ∨
      s.current.kind = .endOfInput := by
  rcases h with ⟨h, hb⟩ | ⟨h, hx⟩ | ⟨-, hk⟩
  · exact .inl (h.current_eq ▸ hb)
  · exact .inr (.inl (h.current_eq ▸ hx))
  · exact .inr (.inr hk)

/-! ### Header and imports -/

theorem bindingsWithin_of_names {is : List Identifier} (h : Names is s t) (n : Nat)
    (hn : s.ahead.length ≤ n) : bindingsWithin fault n s = .ok is t := by
  induction h generalizing n with
  | @last i x c s t h hx hc =>
    have hlen := h.length
    obtain ⟨h₁, h₂⟩ := h.uncons
    cases n with
    | zero => simp at hlen; omega
    | succ n =>
      rw [bindingsWithin, bind_of_ok (identifier_of_reads h₁ hx),
        bind_of_ok (consume_of_reads h₂ hc)]
      rfl
  | @cons i is x c s t u h hx hc hrest ih =>
    have hlen := h.length
    obtain ⟨h₁, h₂⟩ := h.uncons
    cases n with
    | zero => simp at hlen; omega
    | succ n =>
      have hne : s.advance.current.kind ≠ .symbol .closeRound := by simp [h₂.current_eq, hc]
      simp only [List.length_cons, List.length_nil] at hlen
      rw [bindingsWithin, bind_of_ok (identifier_of_reads h₁ hx), bind_of_ok (consume_of_ne hne),
        if_neg Bool.false_ne_true, bind_of_ok (take_of_reads h₂ hc), bind_of_ok (ih n (by omega))]
      rfl

/-- Bindings are told by their bracket, which nothing that follows them starts with. -/
theorem bindings?_of_optional {names? : Option (List Identifier)} (h : Optional Bindings names? s t)
    (ht : t.current.kind ≠ .symbol .openRound) : bindings? fault s = .ok names? t := by
  rw [bindings?]
  cases h with
  | none =>
    rw [bind_of_ok (consume_of_ne ht)]
    rfl
  | some h =>
    cases h with
    | empty h ho hc =>
      obtain ⟨h₁, h₂⟩ := h.uncons
      rw [bind_of_ok (consume_of_reads h₁ ho), if_pos rfl, bind_of_ok (consume_of_reads h₂ hc)]
      rfl
    | @names _ _ _ t₁ _ h ho hnames =>
      have hne : t₁.current.kind ≠ .symbol .closeRound := by
        have hidentifier : t₁.current.kind.isIdentifier := by
          cases hnames with
          | last h hx _ => exact h.current_eq ▸ kind_of_ofToken? hx
          | cons h hx _ _ => exact h.current_eq ▸ kind_of_ofToken? hx
        intro hk
        simp [hk, TokenKind.isIdentifier] at hidentifier
      have hrepeated : repeated (bindingsWithin fault) t₁ = .ok _ t :=
        bindingsWithin_of_names hnames t₁.fuel t₁.length_le_fuel
      rw [bind_of_ok (consume_of_reads h ho), if_pos rfl, bind_of_ok (consume_of_ne hne),
        if_neg Bool.false_ne_true, bind_of_ok hrepeated]
      rfl

theorem header_of_header {name : Identifier} {exports : Option (List Identifier)}
    (h : Header name exports s t) (hend : Terminator t u) : header s = .ok (name, exports) u := by
  obtain ⟨h, hm, hx, hexports⟩ := h
  obtain ⟨h₁, h₂⟩ := h.uncons
  have hne : t.current.kind ≠ .symbol .openRound := by
    rcases terminator_current hend with hk | hk | hk <;> simp [hk]
  rw [header, bind_of_ok (take_of_reads h₁ hm), bind_of_ok (identifier_of_reads h₂ hx),
    bind_of_ok (bindings?_of_optional hexports hne), bind_of_ok (terminator_of_terminator hend)]
  rfl

theorem localName?_of_optional {i? : Option Identifier} (h : Optional LocalName i? s t)
    (ht : t.current.kind ≠ .symbol .asWord) : localName? s = .ok i? t := by
  rw [localName?]
  cases h with
  | none =>
    rw [bind_of_ok (consume_of_ne ht)]
    rfl
  | some h =>
    obtain ⟨h, ha, hx⟩ := h
    obtain ⟨h₁, h₂⟩ := h.uncons
    rw [bind_of_ok (consume_of_reads h₁ ha), if_pos rfl, bind_of_ok (identifier_of_reads h₂ hx)]
    rfl

theorem importRest_of_importLine {i : Import} (h : ImportLine i s t) (hend : Terminator t u) :
    (∃ w, s.Reads [w] s.advance ∧ w.kind = .symbol .importWord) ∧
      importRest s.advance = .ok i u := by
  have hround : t.current.kind ≠ .symbol .openRound := by
    rcases terminator_current hend with hk | hk | hk <;> simp [hk]
  cases h with
  | @mk w x source localName? names? _ _ v _ h hw hx hlocal hnames =>
    obtain ⟨h₁, h₂⟩ := h.uncons
    have has : v.current.kind ≠ .symbol .asWord := by
      cases hnames with
      | none => rcases terminator_current hend with hk | hk | hk <;> simp [hk]
      | some h =>
        cases h with
        | empty h ho _ => simp [h.current_eq, ho]
        | names h ho _ => simp [h.current_eq, ho]
    refine ⟨⟨w, h₁, hw⟩, ?_⟩
    rw [importRest, bind_of_ok (identifier_of_reads h₂ hx),
      bind_of_ok (localName?_of_optional hlocal has),
      bind_of_ok (bindings?_of_optional hnames hround),
      bind_of_ok (terminator_of_terminator hend)]
    rfl

/-- Imports are read up to a place that no import starts at. -/
theorem importsWithin_of_lines {imports : List Import} (h : Lines ImportLine imports s t) (n : Nat)
    (hu : u.Ends) (hseparators : ReflTransGen Separator u s) (hn : u.ahead.length < n)
    (hrest : AtRest t) (ht : t.current.kind ≠ .symbol .importWord) :
    importsWithin n u = .ok imports t := by
  induction h generalizing n u with
  | nil =>
    obtain ⟨n, rfl⟩ := Nat.exists_eq_succ_of_ne_zero (Nat.ne_zero_of_lt hn)
    rw [importsWithin, bind_of_ok (separators_of_reflTransGen hu hseparators hrest),
      bind_of_ok (consume_of_ne ht)]
    rfl
  | @cons i imports s v w x t h hend hseparators' hlines ih =>
    obtain ⟨n, rfl⟩ := Nat.exists_eq_succ_of_ne_zero (Nat.ne_zero_of_lt hn)
    obtain ⟨⟨word, hword, hk⟩, himport⟩ := importRest_of_importLine h hend
    have hs : AtRest s := by
      constructor <;> simp [hword.current_eq, hk, TokenKind.isIndentation]
    have hok := separators_of_reflTransGen hu hseparators hs
    obtain ⟨read, hr⟩ := (separators_advances hu).of_ok hok
    have hends := hword.ends (hr.ends hu)
    obtain ⟨read', hr'⟩ := (importRest_advances hends).of_ok himport
    have hlen := hr.length_le
    have hlen' := hword.length_succ
    have hlen'' := hr'.length_le
    rw [importsWithin, bind_of_ok hok, bind_of_ok (consume_of_reads hword hk), if_pos rfl,
      bind_of_ok himport, bind_of_ok (ih n (hr'.ends hends) hseparators' (by omega) hrest ht)]
    rfl

/-! ### Items -/

theorem merge_of_le {a b : Span} (h : a.start ≤ b.stop) :
    merge a b s = .ok ⟨a.start, b.stop⟩ s := by
  simp [merge, Span.merge, Span.between, h]

/-- A line is read within as many steps as there are tokens ahead. -/
theorem lineWithin_of_line {content : List Token} (h : Line content s t) (n : Nat) (span : Span)
    (hs : s.Ends) (hn : s.ahead.length ≤ n) (hspan : ∀ x ∈ s.ahead, span.start ≤ x.span.stop) :
    lineWithin n span s = .ok (lineSpan span content) t := by
  have hpos := hs.length_pos
  induction h generalizing n span with
  | @stop s hend =>
    obtain ⟨n, rfl⟩ := Nat.exists_eq_succ_of_ne_zero (n := n) (by omega)
    simp [lineWithin, hend, lineSpan_nil]
  | @lineBreak s hb hblank =>
    obtain ⟨n, rfl⟩ := Nat.exists_eq_succ_of_ne_zero (n := n) (by omega)
    have hcontinues : s.continues (fun _ => true) = false := by
      cases hi : (s.peek 1).kind.isIndentation <;> simp [TokenStream.continues, hi, hblank]
    simp [lineWithin, hb, hcontinues, lineSpan_nil]
  | @continuation b i content s t u h hb hi ht hrest ih =>
    obtain ⟨n, rfl⟩ := Nat.exists_eq_succ_of_ne_zero (n := n) (by omega)
    obtain ⟨h₁, h₂⟩ := h.uncons
    have hk : s.current.kind = .lineBreak := h.current_eq ▸ hb
    have hpeek₁ : s.peek 1 = i := by
      rw [show s.peek 1 = s.advance.current from h₁.current, h₂.current_eq]
    have hpeek₂ : s.peek 2 = t.current := h.current
    have hcontinues : s.continues (fun _ => true) = true := by
      simp [TokenStream.continues, hk, hpeek₁, hpeek₂, hi, ht]
    have hlen := h.length
    simp only [List.length_cons, List.length_nil] at hlen
    have hline := ih n span (h.ends hs) (by omega)
      (fun x hx => hspan x (h.ahead ▸ List.mem_append_right _ hx)) (h.ends hs).length_pos
    simpa [lineWithin, hk, hcontinues, TokenStream.skipContinuation, h₂.advance_eq] using hline
  | @token x content s t u h hx hb hrest ih =>
    obtain ⟨n, rfl⟩ := Nat.exists_eq_succ_of_ne_zero (n := n) (by omega)
    have hxend := h.noEnd x List.mem_cons_self
    have hlen := h.length_succ
    have hmem : x ∈ s.ahead := h.ahead ▸ List.mem_cons_self
    have hline := ih n ⟨span.start, x.span.stop⟩ (h.ends hs) (by omega)
      (fun y hy => hspan y (h.ahead ▸ List.mem_append_right _ hy)) (h.ends hs).length_pos
    rw [lineWithin_succ n span (by simp [h.current_eq, hx, hxend]) (by simp [h.current_eq, hb]),
      h.current_eq, bind_of_ok (merge_of_le (hspan x hmem)), lineSpan_cons, ← hline]
    simp only [Bind.bind, EStateM.bind, advance, h.advance_eq]

/-- A line that is not read, behind its first token. -/
theorem deferred_of_line {x : Token} {content : List Token} (kind : DeferredKind) (hs : s.Orderly)
    (h : s.Reads [x] t) (hx : x.kind ≠ .symbol .semicolon) (hb : x.kind ≠ .lineBreak)
    (hline : Line content t u) {v : TokenStream} (hend : Terminator u v) :
    deferred kind s = .ok ⟨kind, lineSpan x.span content⟩ v := by
  have hahead : s.ahead = x :: t.ahead := h.ahead
  have hspan : ∀ y ∈ s.ahead, x.span.start ≤ y.span.stop := by
    intro y hy
    exact Position.le_trans ((hahead ▸ hs.inOrder).start_le (hahead ▸ hy)) (hs.inOrder.spans y hy)
  have hok := lineWithin_of_line (.token h hx hb hline) s.fuel x.span hs.ends s.length_le_fuel hspan
  rw [lineSpan_cons] at hok
  have hrepeated : repeated (fun n => do lineWithin n (← current).span) s =
      .ok (lineSpan x.span content) u := by
    rw [← hok, ← h.current_eq]
    rfl
  rw [deferred, bind_of_ok hrepeated, bind_of_ok (terminator_of_terminator hend)]
  rfl

theorem line_reads_own {content : List Token} (h : Line content s t) :
    ∃ own, s.Reads own t := by
  induction h with
  | stop _ | lineBreak _ _ => exact ⟨[], .refl _⟩
  | continuation h _ _ _ _ ih | token h _ _ _ ih =>
    obtain ⟨own, hr⟩ := ih
    exact ⟨_, h.trans hr⟩

/-- An item starts with an identifier or with the word for data types. -/
theorem itemLine_current {i : Item} (h : ItemLine fixities i s t) :
    s.current.kind.isIdentifier ∨ s.current.kind = .symbol .dataWord := by
  cases h with
  | declaration h hx _ _ => exact .inl (h.current_eq ▸ kind_of_ofToken? hx)
  | data h hx _ => exact .inr (h.current_eq ▸ hx)
  | signature h hx _ _ => exact .inl (h.current_eq ▸ hx)

/-- An item has a first token. -/
theorem itemLine_reads_own {i : Item} (h : ItemLine fixities i s t) (hs : s.Ends) :
    ∃ x own, s.Reads (x :: own) t := by
  cases h with
  | declaration h _ _ hbody =>
    obtain ⟨own, hr⟩ := (expression_advances fixities (h.ends hs)).of_ok hbody
    exact ⟨_, _, h.trans hr⟩
  | data h _ hline | signature h _ _ hline =>
    obtain ⟨own, hr⟩ := line_reads_own hline
    exact ⟨_, _, h.trans hr⟩

theorem item_of_itemLine {i : Item} (h : ItemLine fixities i s t) (hend : Terminator t u)
    (hs : s.Orderly) : item fixities s = .ok i u := by
  rw [item, bind_of_ok (show current s = .ok s.current s from rfl)]
  cases h with
  | @declaration x o binder body _ v _ h hx ho hbody =>
    obtain ⟨h₁, h₂⟩ := h.uncons
    obtain ⟨name, hname⟩ := TokenKind.isIdentifier_iff.mp (kind_of_ofToken? hx)
    have hpeek : s.peek 1 = o := by
      rw [show s.peek 1 = s.advance.current from h₁.current, h₂.current_eq]
    have hok : declaration fixities s = .ok ⟨binder, body⟩ u := by
      rw [declaration, bind_of_ok (identifier_of_reads h₁ hx), bind_of_ok (take_of_reads h₂ ho),
        bind_of_ok hbody]
      simp only [expect]
      rw [bind_of_ok (show (pure body : Parser Expression) t = .ok body t from rfl),
        bind_of_ok (terminator_of_terminator hend)]
      rfl
    rw [h.current_eq, if_neg (by simp [hname, TokenKind.isSymbol]),
      if_pos (by simp [hname, TokenKind.isIdentifier]),
      bind_of_ok (show peek 1 s = .ok o s from by rw [peek, hpeek]),
      if_neg (by simp [ho, TokenKind.isSymbol]), bind_of_ok hok]
    rfl
  | @data x content _ v _ h hx hline =>
    rw [h.current_eq, if_pos (by simp [hx, TokenKind.isSymbol]),
      bind_of_ok (deferred_of_line .data hs h (by simp [hx]) (by simp [hx]) hline hend)]
    rfl
  | @signature x c content _ v _ h hx hc hline =>
    obtain ⟨h₁, h₂⟩ := h.uncons
    obtain ⟨name, hname⟩ := TokenKind.isIdentifier_iff.mp hx
    have hpeek : s.peek 1 = c := by
      rw [show s.peek 1 = s.advance.current from h₁.current, h₂.current_eq]
    have hcolon : Line (c :: content) s.advance t := .token h₂ (by simp [hc]) (by simp [hc]) hline
    have hok := deferred_of_line .signature hs h₁ (by simp [hname]) (by simp [hname]) hcolon hend
    rw [h.current_eq, if_neg (by simp [hname, TokenKind.isSymbol]),
      if_pos (by simp [hname, TokenKind.isIdentifier]),
      bind_of_ok (show peek 1 s = .ok c s from by rw [peek, hpeek]),
      if_pos (by simp [hc, TokenKind.isSymbol]), bind_of_ok hok]
    rfl

/-- No separator is ahead of an item, and no import. -/
theorem atRest_of_lines {items : List Item} (h : Lines (ItemLine fixities) items s t)
    (ht : t.current.kind = .endOfInput) : AtRest s ∧ s.current.kind ≠ .symbol .importWord := by
  cases h with
  | nil =>
    refine ⟨?_, by simp [ht]⟩
    constructor <;> simp [ht, TokenKind.isIndentation]
  | cons h _ _ _ =>
    rcases itemLine_current h with hx | hx
    · obtain ⟨name, hname⟩ := TokenKind.isIdentifier_iff.mp hx
      refine ⟨?_, by simp [hname]⟩
      constructor <;> simp [hname, TokenKind.isIndentation]
    · refine ⟨?_, by simp [hx]⟩
      constructor <;> simp [hx, TokenKind.isIndentation]

/-- Items are read up to the end of input. -/
theorem itemsWithin_of_lines {items : List Item} (h : Lines (ItemLine fixities) items s t) (n : Nat)
    (hu : u.Orderly) (hseparators : ReflTransGen Separator u s) (hn : u.ahead.length < n)
    (ht : t.current.kind = .endOfInput) : itemsWithin fixities n u = .ok items t := by
  induction h generalizing n u with
  | nil =>
    obtain ⟨n, rfl⟩ := Nat.exists_eq_succ_of_ne_zero (Nat.ne_zero_of_lt hn)
    obtain ⟨read, hr⟩ := separators_reads_own hseparators
    have hrest : AtRest _ := (atRest_of_lines (.nil : Lines (ItemLine fixities) [] _ _) ht).1
    rw [itemsWithin, bind_of_ok (separators_of_reflTransGen hu.ends hseparators hrest),
      bind_of_ok (show current _ = .ok _ _ from rfl), if_pos (by simp [ht])]
    rfl
  | @cons i items s v w x t h hend hseparators' hlines ih =>
    obtain ⟨n, rfl⟩ := Nat.exists_eq_succ_of_ne_zero (Nat.ne_zero_of_lt hn)
    obtain ⟨read, hr⟩ := separators_reads_own hseparators
    have hs := hr.orderly hu
    obtain ⟨y, own, hown⟩ := itemLine_reads_own h hs.ends
    obtain ⟨own', hown'⟩ := terminator_reads_own hend
    have hw := hown.trans hown'
    have hlen := hr.length_le
    have hlen' := hw.length
    simp only [List.cons_append, List.length_cons] at hlen'
    have hrest := (atRest_of_lines (.cons h hend hseparators' hlines) ht).1
    have hne : s.current.kind ≠ .endOfInput := by
      rw [hown.current_eq]
      exact hown.noEnd y List.mem_cons_self
    rw [itemsWithin, bind_of_ok (separators_of_reflTransGen hu.ends hseparators hrest),
      bind_of_ok (show current _ = .ok _ _ from rfl), if_neg (by simpa using hne),
      bind_of_ok (item_of_itemLine h hend hs),
      bind_of_ok (ih n (hw.orderly hs) hseparators' (by omega) ht)]
    rfl

/-! ### The theorem -/

/-- The reader of modules reads each module of the grammar. -/
theorem module_of_isModule {m : Module} (h : IsModule fixities m s t) (hs : s.Orderly) :
    module fixities s = .ok m t := by
  cases h with
  | @mk name exports imports items s s₂ s₃ s₄ s₅ s₆ t hblanks hheader hend hseparators himports
      hitems hstop =>
    obtain ⟨read₂, hr₂⟩ := separators_reads_own
      (ReflTransGen.mono (fun _ _ h => Separator.blank h) _ _ hblanks)
    have hs₂ := hr₂.orderly hs
    have hmodule : s₂.current.kind = .symbol .moduleWord := by
      obtain ⟨h, hm, -, -⟩ := hheader
      exact h.current_eq ▸ hm
    have hstuck (u : TokenStream) : ¬ Blank s₂ u := by
      rintro (⟨h, hb⟩ | ⟨h, hi, -⟩)
      · simp [← h.current_eq, hmodule] at hb
      · simp [← h.current_eq, hmodule, TokenKind.isIndentation] at hi
    have hheaderOk := header_of_header hheader hend
    obtain ⟨read₄, hr₄⟩ := (header_advances hs₂.ends).of_ok hheaderOk
    have hs₄ := hr₄.orderly hs₂
    obtain ⟨hrest, hnoImport⟩ := atRest_of_lines hitems hstop
    have himportsOk := importsWithin_of_lines himports s₄.fuel hs₄.ends hseparators
      s₄.length_lt_fuel hrest hnoImport
    obtain ⟨read₆, hr₆⟩ := (importsWithin_advances _ hs₄.ends).of_ok himportsOk
    have hs₆ := hr₆.orderly hs₄
    have hitemsOk := itemsWithin_of_lines hitems s₆.fuel hs₆ .refl s₆.length_lt_fuel hstop
    have hindentation : (!s₂.current.kind.isIndentation) = true := by
      simp [hmodule, TokenKind.isIndentation]
    rw [module, bind_of_ok (blankLines_of_reflTransGen hs.ends hblanks hstuck),
      bind_of_ok (show current s₂ = .ok s₂.current s₂ from rfl), hindentation,
      bind_of_ok (show require true _ s₂ = .ok () s₂ from rfl), bind_of_ok hheaderOk]
    dsimp only
    rw [bind_of_ok (show repeated importsWithin s₄ = .ok imports s₆ from himportsOk),
      bind_of_ok (show repeated (itemsWithin fixities) s₆ = .ok items t from hitemsOk)]
    rfl

end Frontend.Parser

namespace Frontend

/-- Tokens spell a module if and only if they are one by the grammar, with the same values: its
name, its exports, its imports, and its declarations and deferred items in their order. -/
theorem parseModule_eq_ok_iff_isModule {tokens : List Token} {stop : Token}
    {fixities : FixityTable} {m : Module} (hstop : stop.kind = .endOfInput)
    (htokens : ∀ t ∈ tokens, t.kind ≠ .endOfInput) (horder : Token.InOrder (tokens ++ [stop])) :
    parseModule (tokens ++ [stop]) fixities = .ok m ↔
      ModuleGrammar.IsModule fixities m ⟨tokens ++ [stop], stop⟩ ⟨[stop], stop⟩ := by
  have hs : (⟨tokens ++ [stop], stop⟩ : TokenStream).Orderly :=
    ⟨⟨stop, List.mem_append_right tokens List.mem_cons_self, hstop⟩, horder⟩
  rw [parseModule, Parser.run', TokenStream.ofList_concat]
  constructor
  · intro h
    split at h
    · next t hp =>
      cases h
      have hmodule := (Parser.module_reads fixities hs.ends).of_ok hp
      obtain ⟨read, hr⟩ := (Parser.module_advances fixities hs.ends).of_ok hp
      obtain ⟨-, rfl⟩ := hr.eq_of_concat (hr.ends hs.ends) hmodule.current hstop htokens
      exact hmodule
    · cases h
  · intro h
    rw [Parser.module_of_isModule h hs]

/-- A module with an export, an import, a signature of two lines and a declaration. -/
theorem parseModule_eq_ok_iff_isModule_signature :
    let tokens := Token.row 0
      [.lineBreak, .symbol .moduleWord, .identifier "Main", .symbol .openRound, .identifier "f",
        .symbol .closeRound, .lineBreak, .symbol .importWord, .identifier "List", .symbol .asWord,
        .identifier "L", .symbol .semicolon, .indentation " ", .lineBreak, .identifier "f",
        .symbol .colon, .identifier "a", .lineBreak, .indentation "  ", .identifier "b",
        .lineBreak, .identifier "f", .symbol .equals, .number "1"]
    let stop : Token := ⟨.endOfInput, ⟨24, 0, 24⟩, ⟨25, 0, 25⟩⟩
    ∃ m, ModuleGrammar.IsModule .standard m ⟨tokens ++ [stop], stop⟩ ⟨[stop], stop⟩ ∧
      m.exports = some [⟨"f", ⟨4, 0, 4⟩, ⟨5, 0, 5⟩⟩] ∧
      m.deferred = [⟨.signature, ⟨14, 0, 14⟩, ⟨20, 0, 20⟩⟩] := by
  intro tokens stop
  have hfields : (parseModule (tokens ++ [stop]) .standard).toOption.map
      (fun m => (m.exports, m.deferred)) =
      some (some [⟨"f", ⟨4, 0, 4⟩, ⟨5, 0, 5⟩⟩],
        [⟨.signature, ⟨14, 0, 14⟩, ⟨20, 0, 20⟩⟩]) := by
    decide +kernel
  have horder : Token.InOrder (tokens ++ [stop]) :=
    Token.row_inOrder 0 (tokens.map (·.kind) ++ [TokenKind.endOfInput])
  cases h : parseModule (tokens ++ [stop]) .standard with
  | error x => simp [h, Except.toOption] at hfields
  | ok m =>
    simp only [h, Except.toOption, Option.map_some, Option.some.injEq, Prod.mk.injEq] at hfields
    exact ⟨m, (parseModule_eq_ok_iff_isModule rfl (by decide) horder).mp h, hfields⟩

end Frontend
