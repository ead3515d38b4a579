import Frontend.Proofs.Grammar.Finishing
import Frontend.Proofs.Grammar.ModuleReading
import Mathlib.Logic.Relation

/-!
# The grammar of modules

The grammar of modules as relations between the places of a token stream, each with the value that
is read between them:

    Module     ::= Blank* Header Terminator Separator*
                     (Import Terminator Separator*)* (Item Terminator Separator*)* #EndOfInput
    Blank      ::= #LineBreak | #Indentation before a line break or the end of input
    Separator  ::= Blank | ";"
    Terminator ::= #LineBreak | ";" | nothing before the end of input
    Header     ::= "module" #Identifier Bindings?
    Import     ::= "import" #Identifier ("as" #Identifier)? Bindings?
    Bindings   ::= "(" (#Identifier ("," #Identifier)*)? ")"
    Item       ::= #Identifier "=" Expression | "data" Line | #Identifier ":" Line

A line reaches up to a semicolon, the end of input, or a line break that no indented line follows.
The readers of modules read what the grammar says (`module_reads`).
-/

namespace Frontend

namespace TokenStream

variable {s t u : TokenStream} {x y : Token} {own : List Token}

theorem Reads.current_eq (h : s.Reads (x :: own) t) : s.current = x := by
  simp [TokenStream.current, TokenStream.peek, h.ahead]

theorem Reads.advance_eq (h : s.Reads [x] t) : s.advance = t := by
  have hx := h.noEnd x List.mem_cons_self
  have hlast := h.last
  cases t
  simp_all [advance, h.ahead]

/-- The first of the tokens that are read. -/
theorem Reads.uncons (h : s.Reads (x :: own) t) :
    s.Reads [x] s.advance ∧ s.advance.Reads own t := by
  have hx := h.noEnd x List.mem_cons_self
  have hadvance : s.advance = ⟨own ++ t.ahead, s.last⟩ := by
    simp [advance, h.ahead, hx]
  rw [hadvance]
  exact ⟨⟨h.ahead, rfl, fun u hu => List.mem_singleton.mp hu ▸ hx⟩, rfl, h.last,
    fun u hu => h.noEnd u (List.mem_cons_of_mem x hu)⟩

theorem length_lt_fuel (s : TokenStream) : s.ahead.length < s.fuel := by
  unfold fuel
  omega

theorem length_le_fuel (s : TokenStream) : s.ahead.length ≤ s.fuel := s.length_lt_fuel.le

end TokenStream

namespace ModuleGrammar

open Relation (ReflTransGen)

/-! ### Layout -/

/-- A line break, or an indentation directly before a line break or the end of input. -/
inductive Blank (s t : TokenStream) : Prop
  | lineBreak {b : Token} (h : s.Reads [b] t) (hb : b.kind = .lineBreak)
  | indentation {i : Token} (h : s.Reads [i] t) (hi : i.kind.isIndentation)
      (ht : t.current.kind.isBlank)

/-- A blank or a semicolon. -/
inductive Separator (s t : TokenStream) : Prop
  | blank (h : Blank s t)
  | semicolon {x : Token} (h : s.Reads [x] t) (hx : x.kind = .symbol .semicolon)

/-- A line break, a semicolon, or nothing directly before the end of input. -/
inductive Terminator (s t : TokenStream) : Prop
  | lineBreak {b : Token} (h : s.Reads [b] t) (hb : b.kind = .lineBreak)
  | semicolon {x : Token} (h : s.Reads [x] t) (hx : x.kind = .symbol .semicolon)
  | endOfInput (h : t = s) (hs : s.current.kind = .endOfInput)

/-- Values that are read one behind the other, each with its terminator and separators. -/
inductive Lines {α : Type} (R : α → TokenStream → TokenStream → Prop) :
    List α → TokenStream → TokenStream → Prop
  | nil {s : TokenStream} : Lines R [] s s
  | cons {a : α} {as : List α} {s t u v w : TokenStream} (h : R a s t) (hend : Terminator t u)
      (hseparators : ReflTransGen Separator u v) (hrest : Lines R as v w) : Lines R (a :: as) s w

/-! ### Header and imports -/

/-- Identifiers with commas between them, and the closing bracket. -/
inductive Names : List Identifier → TokenStream → TokenStream → Prop
  | last {i : Identifier} {x c : Token} {s t : TokenStream} (h : s.Reads [x, c] t)
      (hx : Identifier.ofToken? x = some i) (hc : c.kind = .symbol .closeRound) : Names [i] s t
  | cons {i : Identifier} {is : List Identifier} {x c : Token} {s t u : TokenStream}
      (h : s.Reads [x, c] t) (hx : Identifier.ofToken? x = some i) (hc : c.kind = .symbol .comma)
      (hrest : Names is t u) : Names (i :: is) s u

/-- Identifiers in round brackets. -/
inductive Bindings : List Identifier → TokenStream → TokenStream → Prop
  | empty {o c : Token} {s t : TokenStream} (h : s.Reads [o, c] t)
      (ho : o.kind = .symbol .openRound) (hc : c.kind = .symbol .closeRound) : Bindings [] s t
  | names {is : List Identifier} {o : Token} {s t u : TokenStream} (h : s.Reads [o] t)
      (ho : o.kind = .symbol .openRound) (hnames : Names is t u) : Bindings is s u

/-- Something that may be left out. -/
inductive Optional {α : Type} (R : α → TokenStream → TokenStream → Prop) :
    Option α → TokenStream → TokenStream → Prop
  | none {s : TokenStream} : Optional R none s s
  | some {a : α} {s t : TokenStream} (h : R a s t) : Optional R (some a) s t

/-- The name of a module and its exports. -/
inductive Header (name : Identifier) (exports : Option (List Identifier)) (s t : TokenStream) : Prop
  | mk {m x : Token} {u : TokenStream} (h : s.Reads [m, x] u) (hm : m.kind = .symbol .moduleWord)
      (hx : Identifier.ofToken? x = some name) (hexports : Optional Bindings exports u t)

/-- The name under which a module is imported. -/
inductive LocalName (i : Identifier) (s t : TokenStream) : Prop
  | mk {a x : Token} (h : s.Reads [a, x] t) (ha : a.kind = .symbol .asWord)
      (hx : Identifier.ofToken? x = some i)

/-- An import. Without a name of its own the module is imported under its name, and without
bindings there are none in the import. -/
inductive ImportLine : Import → TokenStream → TokenStream → Prop
  | mk {w x : Token} {source : Identifier} {localName? : Option Identifier}
      {names? : Option (List Identifier)} {s t u v : TokenStream} (h : s.Reads [w, x] t)
      (hw : w.kind = .symbol .importWord) (hx : Identifier.ofToken? x = some source)
      (hlocal : Optional LocalName localName? t u) (hnames : Optional Bindings names? u v) :
      ImportLine ⟨source, localName?.getD source, names?.getD []⟩ s v

/-! ### Items -/

/-- The rest of a line and the lines that continue it, with its tokens but for the line breaks and
indentations of the continuations. -/
inductive Line : List Token → TokenStream → TokenStream → Prop
  | stop {s : TokenStream}
      (h : s.current.kind = .endOfInput ∨ s.current.kind = .symbol .semicolon) : Line [] s s
  | lineBreak {s : TokenStream} (hb : s.current.kind = .lineBreak)
      (h : (s.peek 1).kind.isIndentation → (s.peek 2).kind.isBlank) : Line [] s s
  | continuation {b i : Token} {content : List Token} {s t u : TokenStream} (h : s.Reads [b, i] t)
      (hb : b.kind = .lineBreak) (hi : i.kind.isIndentation) (ht : t.current.kind.isBlank = false)
      (hrest : Line content t u) : Line content s u
  | token {x : Token} {content : List Token} {s t u : TokenStream} (h : s.Reads [x] t)
      (hx : x.kind ≠ .symbol .semicolon) (hb : x.kind ≠ .lineBreak) (hrest : Line content t u) :
      Line (x :: content) s u

/-- From the start of a span to the end of the last one of the tokens behind it. -/
def lineSpan (span : Span) (content : List Token) : Span :=
  ⟨span.start, (content.getLast?.map (·.span.stop)).getD span.stop⟩

theorem lineSpan_nil (span : Span) : lineSpan span [] = span := rfl

theorem lineSpan_cons (span : Span) (x : Token) (content : List Token) :
    lineSpan span (x :: content) = lineSpan ⟨span.start, x.span.stop⟩ content := by
  simp only [lineSpan, List.getLast?_cons]
  cases content.getLast? <;> rfl

/-- An item: a declaration, whose body is what the reader of expressions reads there, or a line that
is not read. -/
inductive ItemLine (fixities : FixityTable) : Parser.Item → TokenStream → TokenStream → Prop
  | declaration {x o : Token} {binder : Identifier} {body : Expression} {s t u : TokenStream}
      (h : s.Reads [x, o] t) (hx : Identifier.ofToken? x = some binder)
      (ho : o.kind = .symbol .equals)
      (hbody : Parser.expression fixities t = .ok (some body) u) :
      ItemLine fixities (.declared ⟨binder, body⟩) s u
  | data {x : Token} {content : List Token} {s t u : TokenStream} (h : s.Reads [x] t)
      (hx : x.kind = .symbol .dataWord) (hline : Line content t u) :
      ItemLine fixities (.deferred ⟨.data, lineSpan x.span content⟩) s u
  | signature {x c : Token} {content : List Token} {s t u : TokenStream} (h : s.Reads [x, c] t)
      (hx : x.kind.isIdentifier) (hc : c.kind = .symbol .colon) (hline : Line content t u) :
      ItemLine fixities (.deferred ⟨.signature, lineSpan x.span (c :: content)⟩) s u

/-! ### Modules -/

/-- A module: what is read in its header, its imports and its items, up to the end of input. -/
inductive IsModule (fixities : FixityTable) : Module → TokenStream → TokenStream → Prop
  | mk {name : Identifier} {exports : Option (List Identifier)} {imports : List Import}
      {items : List Parser.Item} {s₁ s₂ s₃ s₄ s₅ s₆ t : TokenStream}
      (hblanks : ReflTransGen Blank s₁ s₂) (hheader : Header name exports s₂ s₃)
      (hend : Terminator s₃ s₄) (hseparators : ReflTransGen Separator s₄ s₅)
      (himports : Lines ImportLine imports s₅ s₆) (hitems : Lines (ItemLine fixities) items s₆ t)
      (hstop : t.current.kind = .endOfInput) :
      IsModule fixities ⟨name, exports, imports, items.filterMap Parser.Item.declaration?,
        items.filterMap Parser.Item.deferred?⟩ s₁ t

theorem IsModule.current {fixities : FixityTable} {m : Module} {s t : TokenStream}
    (h : IsModule fixities m s t) : t.current.kind = .endOfInput := by
  cases h with
  | mk _ _ _ _ _ _ hstop => exact hstop

end ModuleGrammar

namespace Parser

open ModuleGrammar Relation

variable {s t : TokenStream} {fault : SyntaxFault} {fixities : FixityTable}

/-! ### Steps -/

theorem take_reads (hs : s.Ends) (symbol : Symbol) :
    (take (·.isSymbol symbol) fault).Ensures
      (fun x t => s.Reads [x] t ∧ x.kind = .symbol symbol) Fails s := by
  refine (ensures_take _ fault).mpr ⟨fun hk => ?_, fun _ => trivial⟩
  rw [TokenKind.isSymbol_iff] at hk
  exact ⟨hs.reads_advance (by simp [hk]), hk⟩

theorem identifier_reads (hs : s.Ends) :
    (identifier fault).Ensures
      (fun i t => ∃ x, s.Reads [x] t ∧ Identifier.ofToken? x = some i) Fails s := by
  rw [Ensures, identifier]
  cases hi : Identifier.ofToken? s.current with
  | none => trivial
  | some i => exact ⟨_, hs.reads_advance fun hk => by simp [Identifier.ofToken?, hk] at hi, hi⟩

/-! ### Layout -/

/-- Blank lines are read up to a token that does not start one. -/
theorem blankLines_reads (n : Nat) (hs : s.Ends) (hn : s.ahead.length ≤ n) :
    (blankLinesWithin n).Ensures (fun _ t => ReflTransGen Blank s t ∧ ∀ u, ¬ Blank t u)
      (fun _ _ => False) s := by
  induction n generalizing s with
  | zero => exact absurd hs.length_pos (by omega)
  | succ n ih =>
    rw [blankLinesWithin]
    simp only [ensures_bind, ensures_current, ensures_peek, ensures_ite, ensures_advance,
      Bool.or_eq_true, beq_iff_eq, Bool.and_eq_true]
    constructor
    · intro hk
      have hend : s.current.kind ≠ .endOfInput := by
        rintro he
        simp [he, TokenKind.isIndentation] at hk
      have hx := hs.reads_advance hend
      have hblank : Blank s s.advance := by
        rcases hk with hk | ⟨hk, hnext⟩
        · exact .lineBreak hx hk
        · exact .indentation hx hk (hx.current ▸ hnext)
      have hlen := hx.length_succ
      refine (ih (hx.ends hs) (by omega)).mono ?_ fun _ _ => id
      rintro _ t ⟨ht, hstuck⟩
      exact ⟨.head hblank ht, hstuck⟩
    · intro hk
      refine ⟨.refl, ?_⟩
      rintro u (⟨h, hb⟩ | ⟨h, hi, hu⟩)
      · exact hk (.inl (h.current_eq ▸ hb))
      · exact hk (.inr ⟨h.current_eq ▸ hi, h.current ▸ hu⟩)

/-- No separator is ahead, and no indentation. -/
structure AtRest (s : TokenStream) : Prop where
  noBreak : s.current.kind ≠ .lineBreak
  noSemicolon : s.current.kind ≠ .symbol .semicolon
  noIndentation : s.current.kind.isIndentation = false

theorem AtRest.stuck (h : AtRest s) (t : TokenStream) : ¬ Separator s t := by
  rintro ((⟨hr, hb⟩ | ⟨hr, hi, -⟩) | ⟨hr, hx⟩)
  · exact h.noBreak (hr.current_eq ▸ hb)
  · simpa [hr.current_eq, hi] using h.noIndentation
  · exact h.noSemicolon (hr.current_eq ▸ hx)

theorem AtRest.eq_of_reflTransGen (h : AtRest s) (ht : ReflTransGen Separator s t) : s = t := by
  rcases ht.cases_head with heq | ⟨u, hu, -⟩
  · exact heq
  · exact absurd hu (h.stuck u)

/-- Separators are read up to a token that is none, unless it is an indentation. -/
theorem separatorsWithin_reads (n : Nat) (hs : s.Ends) (hn : s.ahead.length ≤ n) :
    (separatorsWithin n).Ensures (fun _ t => ReflTransGen Separator s t ∧ AtRest t)
      (fun _ t => ReflTransGen Separator s t ∧ (∀ u, ¬ Separator t u) ∧
        t.current.kind.isIndentation) s := by
  induction n generalizing s with
  | zero => exact absurd hs.length_pos (by omega)
  | succ n ih =>
    rw [separatorsWithin, ensures_bind, ensures_repeated]
    have hblank := blankLines_reads _ hs s.length_le_fuel
    refine (hblank.and (blankLinesWithin_advances s.fuel hs)).mono ?_ fun _ _ he => he.1.elim
    rintro _ t ⟨⟨hblanks, hstuck⟩, read, hr⟩
    have hseparators : ReflTransGen Separator s t :=
      ReflTransGen.mono (fun _ _ h => Separator.blank h) _ _ hblanks
    have ht := hr.ends hs
    rw [ensures_bind, ensures_consume]
    constructor
    · intro hk
      have hx := ht.reads_advance (by simp [hk])
      have hlen := hx.length_succ
      have hle := hr.length_le
      rw [if_pos rfl]
      refine (ih (hx.ends ht) (by omega)).mono ?_ ?_
      · rintro _ u ⟨hu, hrest⟩
        exact ⟨hseparators.trans (.head (.semicolon hx hk) hu), hrest⟩
      · rintro _ u ⟨hu, hrest⟩
        exact ⟨hseparators.trans (.head (.semicolon hx hk) hu), hrest⟩
    · intro hk
      rw [if_neg Bool.false_ne_true]
      simp only [ensures_bind, ensures_current, ensures_require]
      have hnone (u : TokenStream) : ¬ Separator t u := by
        rintro (hblank | ⟨hx, hsemicolon⟩)
        · exact hstuck u hblank
        · exact hk (hx.current_eq ▸ hsemicolon)
      refine ⟨fun hi => ⟨hseparators, ?_, hk, by simpa using hi⟩,
        fun hi => ⟨hseparators, hnone, by simpa using hi⟩⟩
      intro hb
      exact hstuck _ (.lineBreak (ht.reads_advance (by simp [hb])) hb)

theorem separators_reads (hs : s.Ends) :
    separators.Ensures (fun _ t => ReflTransGen Separator s t ∧ AtRest t)
      (fun _ t => ReflTransGen Separator s t ∧ (∀ u, ¬ Separator t u) ∧
        t.current.kind.isIndentation) s := by
  rw [separators, ensures_repeated]
  exact separatorsWithin_reads _ hs s.length_le_fuel

theorem terminator_reads (hs : s.Ends) :
    terminator.Ensures (fun _ t => Terminator s t) Fails s := by
  rw [terminator]
  simp only [ensures_bind, ensures_current, ensures_ite, ensures_advance, ensures_require,
    Bool.or_eq_true, beq_iff_eq, TokenKind.isSymbol_iff]
  refine ⟨?_, fun _ => ⟨fun hk => .endOfInput rfl hk, fun _ => trivial⟩⟩
  rintro (hk | hk)
  · exact .lineBreak (hs.reads_advance (by simp [hk])) hk
  · exact .semicolon (hs.reads_advance (by simp [hk])) hk

/-! ### Header and imports -/

theorem names_reads (n : Nat) (hs : s.Ends) :
    (bindingsWithin fault n).Ensures (fun is t => Names is s t) Fails s := by
  induction n generalizing s with
  | zero => trivial
  | succ n ih =>
    rw [bindingsWithin, ensures_bind]
    refine (identifier_reads hs).mono ?_ fun _ _ => id
    rintro i t ⟨x, hx, hi⟩
    have ht := hx.ends hs
    rw [ensures_bind, ensures_consume]
    constructor
    · intro hk
      exact .last (hx.trans (ht.reads_advance (by simp [hk]))) hi hk
    · intro _
      rw [if_neg Bool.false_ne_true, ensures_bind]
      refine (take_reads ht .comma).mono ?_ fun _ _ => id
      rintro c u ⟨hc, hck⟩
      rw [ensures_bind]
      refine (ih (hc.ends ht)).mono ?_ fun _ _ => id
      intro is v hrest
      exact .cons (hx.trans hc) hi hck hrest

theorem bindings_reads (hs : s.Ends) :
    (bindings? fault).Ensures (fun names? t => Optional Bindings names? s t) Fails s := by
  rw [bindings?, ensures_bind, ensures_consume]
  refine ⟨fun ho => ?_, fun _ => .none⟩
  have hopen := hs.reads_advance (by simp [ho])
  have ht := hopen.ends hs
  rw [if_pos rfl, ensures_bind, ensures_consume]
  constructor
  · intro hc
    exact .some (.empty (hopen.trans (ht.reads_advance (by simp [hc]))) ho hc)
  · intro _
    rw [if_neg Bool.false_ne_true, ensures_bind, ensures_repeated]
    refine (names_reads _ ht).mono ?_ fun _ _ => id
    intro is u hnames
    exact .some (.names hopen ho hnames)

theorem header_reads (hs : s.Ends) :
    header.Ensures (fun h u => ∃ t, Header h.1 h.2 s t ∧ Terminator t u) Fails s := by
  rw [header, ensures_bind]
  refine (take_reads hs .moduleWord).mono ?_ fun _ _ => id
  rintro m t ⟨hm, hmk⟩
  have ht := hm.ends hs
  rw [ensures_bind]
  refine (identifier_reads ht).mono ?_ fun _ _ => id
  rintro name u ⟨x, hx, hname⟩
  have hu := hx.ends ht
  rw [ensures_bind]
  refine ((bindings_reads hu).and (bindings?_advances hu (by decide))).mono ?_ fun _ _ _ => trivial
  rintro exports v ⟨hexports, read, hr⟩
  rw [ensures_bind]
  refine (terminator_reads (hr.ends hu)).mono ?_ fun _ _ => id
  intro _ w hw
  exact ⟨v, .mk (hm.trans hx) hmk hname hexports, hw⟩

theorem localName_reads (hs : s.Ends) :
    localName?.Ensures (fun i? t => Optional LocalName i? s t) Fails s := by
  rw [localName?, ensures_bind, ensures_consume]
  refine ⟨fun ha => ?_, fun _ => .none⟩
  have has := hs.reads_advance (by simp [ha])
  rw [if_pos rfl, ensures_bind]
  refine (identifier_reads (has.ends hs)).mono ?_ fun _ _ => id
  rintro i t ⟨x, hx, hi⟩
  exact .some (.mk (has.trans hx) ha hi)

theorem importRest_reads {w : Token} (hw : s.Reads [w] t) (hwk : w.kind = .symbol .importWord)
    (hs : s.Ends) :
    importRest.Ensures (fun i v => ∃ u, ImportLine i s u ∧ Terminator u v) Fails t := by
  have ht := hw.ends hs
  rw [importRest, ensures_bind]
  refine (identifier_reads ht).mono ?_ fun _ _ => id
  rintro source u ⟨x, hx, hsource⟩
  have hu := hx.ends ht
  rw [ensures_bind]
  refine ((localName_reads hu).and (localName?_advances hu)).mono ?_ fun _ _ _ => trivial
  rintro localName? v ⟨hlocal, read, hr⟩
  have hv := hr.ends hu
  rw [ensures_bind]
  refine ((bindings_reads hv).and (bindings?_advances hv (by decide))).mono ?_ fun _ _ _ => trivial
  rintro names? v' ⟨hnames, read', hr'⟩
  rw [ensures_bind]
  refine (terminator_reads (hr'.ends hv)).mono ?_ fun _ _ => id
  intro _ w' hw'
  exact ⟨v', .mk (hw.trans hx) hwk hsource hlocal hnames, hw'⟩

theorem imports_reads (n : Nat) (hs : s.Ends) :
    (importsWithin n).Ensures
      (fun imports u => ∃ t, ReflTransGen Separator s t ∧ Lines ImportLine imports t u ∧ AtRest u)
      Fails s := by
  induction n generalizing s with
  | zero => trivial
  | succ n ih =>
    rw [importsWithin, ensures_bind]
    refine ((separators_reads hs).and (separators_advances hs)).mono ?_ fun _ _ _ => trivial
    rintro _ t ⟨⟨hseparators, hrest⟩, read, hr⟩
    have ht := hr.ends hs
    rw [ensures_bind, ensures_consume]
    refine ⟨fun hk => ?_, fun _ => ⟨t, hseparators, .nil, hrest⟩⟩
    have hw := ht.reads_advance (by simp [hk])
    have hu := hw.ends ht
    rw [if_pos rfl, ensures_bind]
    refine ((importRest_reads hw hk ht).and (importRest_advances hu)).mono ?_ fun _ _ _ => trivial
    rintro first v ⟨⟨u, hfirst, hend⟩, read', hr'⟩
    rw [ensures_bind]
    refine (ih (hr'.ends hu)).mono ?_ fun _ _ => id
    rintro rest w ⟨v', hseparators', hlines, hw⟩
    exact ⟨t, hseparators, .cons hfirst hend hseparators' hlines, hw⟩

/-! ### Items -/

theorem line_reads (n : Nat) (span : Span) (hs : s.Ends) :
    (lineWithin n span).Ensures
      (fun span' t => ∃ content, Line content s t ∧ span' = lineSpan span content) Fails s := by
  induction n generalizing s span with
  | zero => trivial
  | succ n ih =>
    by_cases hend : s.current.kind = .endOfInput ∨ s.current.kind = .symbol .semicolon
    · simp only [Ensures, lineWithin, if_pos hend]
      exact ⟨[], .stop hend, rfl⟩
    by_cases hbreak : s.current.kind = .lineBreak
    · simp only [Ensures, lineWithin, if_neg hend, if_pos hbreak]
      have hb := hs.reads_advance (by simp [hbreak])
      by_cases hi : (s.peek 1).kind.isIndentation
      · have hi' := hi
        rw [show s.peek 1 = s.advance.current from hb.current] at hi'
        have hbi := hb.trans ((hb.ends hs).reads_advance fun hk => by
          simp [hk, TokenKind.isIndentation] at hi')
        have hnext : s.peek 2 = s.advance.advance.current := hbi.current
        cases hblank : (s.peek 2).kind.isBlank with
        | true =>
          simp only [TokenStream.continues, hblank, Bool.not_true, Bool.and_false, Bool.false_and]
          exact ⟨[], .lineBreak hbreak fun _ => hblank, rfl⟩
        | false =>
          have hcontinues : s.continues (fun _ => true) = true := by
            simp [TokenStream.continues, hbreak, hi, hblank]
          simp only [TokenStream.skipContinuation, hcontinues, if_true]
          refine (ih span (hbi.ends hs)).mono ?_ fun _ _ => id
          rintro span' t ⟨content, hline, rfl⟩
          exact ⟨content, .continuation hbi hbreak hi' (hnext ▸ hblank) hline, rfl⟩
      · have hcontinues : s.continues (fun _ => true) = false := by
          simp [TokenStream.continues, hi]
        simp only [hcontinues]
        exact ⟨[], .lineBreak hbreak fun h => absurd h hi, rfl⟩
    · apply (ensures_congr (lineWithin_succ n span hend hbreak)).mpr
      have hx := hs.reads_advance fun hk => hend (.inl hk)
      rw [ensures_bind, ensures_merge]
      refine ⟨fun _ => ?_, fun _ => trivial⟩
      simp only [ensures_bind, ensures_advance]
      refine (ih _ (hx.ends hs)).mono ?_ fun _ _ => id
      rintro span' t ⟨content, hline, rfl⟩
      exact ⟨_, .token hx (fun hk => hend (.inr hk)) hbreak hline, (lineSpan_cons _ _ _).symm⟩

/-- The first token of a line that is not read is neither its end nor a line break. -/
theorem deferred_reads (kind : DeferredKind) (hs : s.Ends)
    (hend : ¬ (s.current.kind = .endOfInput ∨ s.current.kind = .symbol .semicolon))
    (hbreak : s.current.kind ≠ .lineBreak) :
    (deferred kind).Ensures
      (fun d u => ∃ content t, Line content s.advance t ∧ Terminator t u ∧
        d = ⟨kind, lineSpan s.current.span content⟩) Fails s := by
  have hx := hs.reads_advance fun hk => hend (.inl hk)
  rw [deferred]
  simp only [ensures_bind, ensures_repeated, ensures_current]
  refine ((line_reads _ s.current.span hs).and (lineWithin_advances _ s.current.span hs)).mono ?_
    fun _ _ _ => trivial
  rintro span t ⟨⟨content, hline, rfl⟩, read, hr⟩
  refine (terminator_reads (hr.ends hs)).mono ?_ fun _ _ => id
  intro _ u hterminator
  cases hline with
  | stop h => exact absurd h hend
  | lineBreak hb _ => exact absurd hb hbreak
  | continuation h hb _ _ _ => exact absurd (h.current_eq ▸ hb) hbreak
  | @token x content _ t' _ h hx' hb hrest =>
    obtain rfl := h.advance_eq
    obtain rfl := h.current_eq
    exact ⟨content, t, hrest, hterminator, by rw [lineSpan_cons]⟩

theorem declaration_reads (hs : s.Ends) :
    (declaration fixities).Ensures
      (fun d u => ∃ t, ItemLine fixities (.declared d) s t ∧ Terminator t u) Fails s := by
  rw [declaration, ensures_bind]
  refine (identifier_reads hs).mono ?_ fun _ _ => id
  rintro binder t ⟨x, hx, hbinder⟩
  have ht := hx.ends hs
  rw [ensures_bind]
  refine (take_reads ht .equals).mono ?_ fun _ _ => id
  rintro o u ⟨ho, hok⟩
  have hu := ho.ends ht
  rw [ensures_bind]
  have hself :
      (expression fixities).Ensures (fun e? v => expression fixities u = .ok e? v) Fails u := by
    rw [Ensures]
    split
    · next h => exact h
    · trivial
  refine (hself.and (expression_advances fixities hu)).mono ?_ fun _ _ _ => trivial
  rintro body? v ⟨hbody, read, hr⟩
  simp only [ensures_bind, ensures_expect]
  refine ⟨?_, fun _ => trivial⟩
  rintro body rfl
  refine (terminator_reads (hr.ends hu)).mono ?_ fun _ _ => id
  intro _ w hw
  exact ⟨v, .declaration (hx.trans ho) hbinder hok hbody, hw⟩

theorem item_reads (hs : s.Ends) :
    (item fixities).Ensures (fun i u => ∃ t, ItemLine fixities i s t ∧ Terminator t u) Fails s := by
  rw [item]
  simp only [ensures_bind, ensures_current, ensures_peek, ensures_ite, TokenKind.isSymbol_iff,
    ensures_fail]
  refine ⟨fun hdata => ?_, fun _ => ⟨fun hname => ?_, fun _ => trivial⟩⟩
  · refine (deferred_reads .data hs (by simp [hdata]) (by simp [hdata])).mono ?_ fun _ _ => id
    rintro _ u ⟨content, t, hline, hend, rfl⟩
    exact ⟨t, .data (hs.reads_advance (by simp [hdata])) hdata hline, hend⟩
  refine ⟨fun hcolon => ?_, fun _ => declaration_reads hs⟩
  obtain ⟨name, hk⟩ := TokenKind.isIdentifier_iff.mp hname
  refine (deferred_reads .signature hs (by simp [hk]) (by simp [hk])).mono ?_ fun _ _ => id
  rintro _ u ⟨content, t, hline, hend, rfl⟩
  have hx := hs.reads_advance (by simp [hk])
  rw [show s.peek 1 = s.advance.current from hx.current] at hcolon
  have hc := (hx.ends hs).reads_advance (by simp [hcolon])
  cases hline with
  | stop h => simp [hcolon] at h
  | lineBreak hb _ => simp [hcolon] at hb
  | continuation h hb _ _ _ => simp [← h.current_eq, hcolon] at hb
  | token h hx' hb hrest =>
    obtain rfl := h.advance_eq
    obtain rfl := h.current_eq
    exact ⟨t, .signature (hx.trans hc) hname hcolon hrest, hend⟩

theorem items_reads (n : Nat) (hs : s.Ends) :
    (itemsWithin fixities n).Ensures
      (fun items u => ∃ t, ReflTransGen Separator s t ∧ Lines (ItemLine fixities) items t u ∧
        u.current.kind = .endOfInput) Fails s := by
  induction n generalizing s with
  | zero => trivial
  | succ n ih =>
    rw [itemsWithin, ensures_bind]
    refine ((separators_reads hs).and (separators_advances hs)).mono ?_ fun _ _ _ => trivial
    rintro _ t ⟨⟨hseparators, -⟩, read, hr⟩
    have ht := hr.ends hs
    simp only [ensures_bind, ensures_current, ensures_ite, beq_iff_eq]
    refine ⟨fun hk => ⟨t, hseparators, .nil, hk⟩, fun _ => ?_⟩
    refine ((item_reads ht).and (item_advances fixities ht)).mono ?_ fun _ _ _ => trivial
    rintro first v ⟨⟨u, hfirst, hend⟩, read', hr'⟩
    refine (ih (hr'.ends ht)).mono ?_ fun _ _ => id
    rintro rest w ⟨v', hseparators', hrest, hstop⟩
    exact ⟨t, hseparators, .cons hfirst hend hseparators' hrest, hstop⟩

/-! ### Modules -/

/-- What the reader of modules reads is a module of the grammar. -/
theorem module_reads (fixities : FixityTable) (hs : s.Ends) :
    (module fixities).Ensures (fun m t => IsModule fixities m s t) Fails s := by
  rw [module, ensures_bind, ensures_repeated]
  refine ((blankLines_reads _ hs s.length_le_fuel).and (blankLinesWithin_advances _ hs)).mono ?_
    fun _ _ _ => trivial
  rintro _ s₂ ⟨⟨hblanks, -⟩, read, hr⟩
  have hs₂ := hr.ends hs
  simp only [ensures_bind, ensures_current, ensures_require]
  refine ⟨fun _ => ?_, fun _ => trivial⟩
  refine ((header_reads hs₂).and (header_advances hs₂)).mono ?_ fun _ _ _ => trivial
  rintro ⟨name, exports⟩ s₄ ⟨⟨s₃, hheader, hend⟩, read', hr'⟩
  have hs₄ := hr'.ends hs₂
  simp only [ensures_repeated]
  refine ((imports_reads _ hs₄).and (importsWithin_advances _ hs₄)).mono ?_ fun _ _ _ => trivial
  rintro imports s₆ ⟨⟨s₅, hseparators, himports, hrest⟩, read'', hr''⟩
  refine (items_reads _ (hr''.ends hs₄)).mono ?_ fun _ _ => id
  rintro items t ⟨s₇, hseparators', hitems, hstop⟩
  obtain rfl := hrest.eq_of_reflTransGen hseparators'
  exact .mk hblanks hheader hend hseparators himports hitems hstop

end Parser

end Frontend
