import Frontend.Proofs.Grammar.Shape
import Frontend.Proofs.Token.Legible

/-!
# Expressions that are displayed

The display of an expression is a source text, and `Expression.kinds` lists the tokens in it. It
says what the expression is if the tokens can be read from their text again: they have to be
legible, literals must not need what the display does not write, and only a name may stand before
the dot of a member access (`Rereadable`). All of that holds of printable expressions that are
read from a source text.
-/

namespace Frontend

/-! ### Spans -/

namespace Expression

mutual

/-- The expression without its spans. -/
def bare : Expression → Expression
  | factor t _                => factor ⟨t.kind, .origin⟩ .origin
  | application f a _         => application f.bare a.bare .origin
  | operation o left right _  => operation ⟨o.kind, .origin⟩ left.bare right.bare .origin
  | tuple elements _          => tuple (bareAll elements) .origin
  | list elements _           => list (bareAll elements) .origin
  | interpolation parts _     => interpolation (bareAll parts) .origin

/-- The expressions without their spans. -/
def bareAll : List Expression → List Expression
  | []      => []
  | e :: es => e.bare :: bareAll es

end

@[simp] theorem bare_withSpan (e : Expression) (s : Span) : (e.withSpan s).bare = e.bare := by
  cases e <;> rfl

theorem bareAll_eq_map (es : List Expression) : bareAll es = es.map bare := by
  induction es with
  | nil => rfl
  | cons e es ih => rw [bareAll, ih, List.map_cons]

theorem isCallable_bare (e : Expression) : e.bare.isCallable = e.isCallable := by
  cases e <;> rfl

/-! ### What can be printed -/

mutual

/-- No member access has another one as its left operand. -/
def membersApart : Expression → Bool
  | factor _ _               => true
  | application f a _        => f.membersApart && a.membersApart
  | operation o left right _ =>
    !(o.kind.isSymbol .dotAccess && left.isMember) && left.membersApart && right.membersApart
  | tuple elements _         => membersApartInAll elements
  | list elements _          => membersApartInAll elements
  | interpolation parts _    => membersApartInAll parts

/-- No member access in the expressions has another one as its left operand. -/
def membersApartInAll : List Expression → Bool
  | []      => true
  | e :: es => e.membersApart && membersApartInAll es

end

theorem membersApartInAll_iff {es : List Expression} :
    membersApartInAll es ↔ ∀ e ∈ es, e.membersApart := by
  induction es with
  | nil => simp [membersApartInAll]
  | cons e es ih => simp [membersApartInAll, ih]

end Expression

/-- The literal is written in a form that stands for its content. -/
def TokenKind.Printable : TokenKind → Prop
  | character content => CharacterBody.isPlain content.toList
  | text content      => Text.IsPlain content.toList
  | _                 => True

/-- The display of the expression can be read again: no member access has another one as its left
operand, and all literals are written in a form that stands for their content. -/
structure Expression.Printable (e : Expression) : Prop where
  members : e.membersApart
  literals : ∀ t ∈ e.tokens, t.kind.Printable

/-! ### The tokens of a display -/

namespace Expression

mutual

/-- The kinds of the tokens in the display of an expression. -/
def kinds : Expression → List TokenKind
  | factor t _                => [t.kind]
  | application f a _         =>
    f.kinds ++
      (if a.isApplication then .symbol .openRound :: a.kinds ++ [.symbol .closeRound] else a.kinds)
  | operation o left right _  =>
    .symbol .openRound :: left.kinds ++ o.kind :: right.kinds ++ [.symbol .closeRound]
  | tuple elements _          =>
    .symbol .openRound :: [.symbol .comma].intercalate (kindsOfAll elements) ++
      [.symbol .closeRound]
  | list elements _           =>
    .symbol .openCurly :: [.symbol .comma].intercalate (kindsOfAll elements) ++
      [.symbol .closeCurly]
  | interpolation parts _     => (kindsOfSegments true parts).flatten

/-- The kinds of the tokens in the displays of several expressions. -/
def kindsOfAll : List Expression → List (List TokenKind)
  | []      => []
  | e :: es => e.kinds :: kindsOfAll es

/-- The kinds of the tokens in the segments of a text literal. -/
def kindsOfSegments : (textExpected : Bool) → List Expression → List (List TokenKind)
  | _, []                 => []
  | textExpected, e :: es =>
    (match textExpected, e with
      | true, factor ⟨.text content, _⟩ _ => [.text content]
      | _, _ => .symbol .interpolationOpen :: e.kinds ++ [.symbol .interpolationClose])
      :: kindsOfSegments (!textExpected) es

end

/-! ### Sequences in a display -/

theorem intercalate_map_cons {α β : Type} (separator : List α) (f : β → List α) (x : β)
    (xs : List β) : separator.intercalate ((x :: xs).map f) =
      f x ++ xs.flatMap fun y => separator ++ f y := by
  induction xs generalizing x with
  | nil => simp
  | cons y xs ih =>
    rw [List.map_cons, List.map_cons, List.intercalate_cons_cons, ← List.map_cons, ih]
    simp

theorem kindsOfAll_eq_map (es : List Expression) : kindsOfAll es = es.map kinds := by
  induction es with
  | nil => rfl
  | cons e es ih => rw [kindsOfAll, ih, List.map_cons]

theorem displayAll_eq_map (es : List Expression) : displayAll es = es.map display := by
  induction es with
  | nil => rfl
  | cons e es ih => rw [displayAll, ih, List.map_cons]

/-- Elements behind the first one, each with the comma before it. -/
theorem intercalate_kindsOfAll_cons (e : Expression) (es : List Expression) :
    [TokenKind.symbol .comma].intercalate (kindsOfAll (e :: es)) =
      e.kinds ++ es.flatMap fun e => .symbol .comma :: e.kinds := by
  rw [kindsOfAll_eq_map, intercalate_map_cons]
  rfl

theorem toList_intercalate_displayAll_cons (e : Expression) (es : List Expression) :
    (String.intercalate ", " (displayAll (e :: es))).toList =
      e.display.toList ++ es.flatMap fun e => ',' :: ' ' :: e.display.toList := by
  rw [displayAll_eq_map, String.toList_intercalate, List.map_map, intercalate_map_cons]
  rfl

/-- A segment of a text literal as it is written. -/
def segmentText (t : Token) : List Char := (Text.escapeLiteral (t.kind.payload?.getD "")).toList

/-- An expression in a text literal and the segment behind it, as they are written. -/
def partText (p : Expression × Token) : List Char :=
  '$' :: '\x7b' :: p.1.display.toList ++ '\x7d' :: segmentText p.2

/-- An expression in a text literal and the segment behind it, as tokens. -/
def partKinds (p : Expression × Token) : List TokenKind :=
  .symbol .interpolationOpen :: p.1.kinds ++ [.symbol .interpolationClose, p.2.kind]

theorem segments_cons (x : Token) (p : Expression × Token) (parts : List (Expression × Token)) :
    segments x (p :: parts) = .factor x x.span :: p.1 :: segments p.2 parts := rfl

theorem kindsOfSegments_text {x : Token} (hx : x.kind.isText) (es : List Expression) :
    kindsOfSegments true (.factor x x.span :: es) = [x.kind] :: kindsOfSegments false es := by
  obtain ⟨content, hkind⟩ := TokenKind.isText_iff.mp hx
  obtain ⟨_, span⟩ := x
  obtain rfl := hkind
  simp [kindsOfSegments]

theorem displaySegments_text {x : Token} (hx : x.kind.isText) (es : List Expression) :
    displaySegments true (.factor x x.span :: es) =
      String.ofList (segmentText x) :: displaySegments false es := by
  obtain ⟨content, hkind⟩ := TokenKind.isText_iff.mp hx
  obtain ⟨_, span⟩ := x
  obtain rfl := hkind
  simp [displaySegments, segmentText, TokenKind.payload?]

theorem kindsOfSegments_parts {parts : List (Expression × Token)}
    (hparts : ∀ p ∈ parts, p.2.kind.isText) {x : Token} (hx : x.kind.isText) :
    (kindsOfSegments true (segments x parts)).flatten = x.kind :: parts.flatMap partKinds := by
  induction parts generalizing x with
  | nil =>
    rw [segments, kindsOfSegments_text hx]
    rfl
  | cons p parts ih =>
    obtain ⟨hp, hparts⟩ := List.forall_mem_cons.mp hparts
    have hvalue (es : List Expression) : kindsOfSegments false (p.1 :: es) =
        (.symbol .interpolationOpen :: p.1.kinds ++ [.symbol .interpolationClose]) ::
          kindsOfSegments true es := by simp [kindsOfSegments]
    rw [segments_cons, kindsOfSegments_text hx, hvalue, List.flatten_cons, List.flatten_cons,
      ih hparts hp]
    simp [partKinds]

theorem toList_join_displaySegments {parts : List (Expression × Token)}
    (hparts : ∀ p ∈ parts, p.2.kind.isText) {x : Token} (hx : x.kind.isText) :
    (String.join (displaySegments true (segments x parts))).toList =
      segmentText x ++ parts.flatMap partText := by
  induction parts generalizing x with
  | nil =>
    rw [segments, displaySegments_text hx]
    simp [displaySegments]
  | cons p parts ih =>
    obtain ⟨hp, hparts⟩ := List.forall_mem_cons.mp hparts
    have hvalue (es : List Expression) : displaySegments false (p.1 :: es) =
        ("$\x7b" ++ p.1.display ++ "\x7d") :: displaySegments true es := by
      simp [displaySegments]
    have htail := ih hparts hp
    rw [String.toList_join] at htail
    rw [segments_cons, displaySegments_text hx, hvalue, String.toList_join, List.flatMap_cons,
      List.flatMap_cons, htail]
    simp [partText]

/-! ### Expressions whose display can be read again -/

/-- The tree is one that its display stands for: its shape is one that the parser gives, its tokens
are legible and printable, and there are names around the dots of its member accesses. -/
inductive Rereadable (named? : String → Option Char) : Expression → Prop
  | factor {t : Token} {span : Span} (ht : t.kind.isLeaf) (hlegible : t.kind.Legible named?)
      (hprintable : t.kind.Printable) : Rereadable named? (.factor t span)
  | application {callee argument : Expression} {span : Span} (hcallable : callee.isCallable)
      (hcallee : Rereadable named? callee) (hargument : Rereadable named? argument) :
      Rereadable named? (.application callee argument span)
  | operation {o : Token} {left right : Expression} {span : Span} (ho : o.kind.isOperator)
      (hlegible : o.kind.Legible named?) (hleft : Rereadable named? left)
      (hright : Rereadable named? right) : Rereadable named? (.operation o left right span)
  | member {o x y : Token} {xspan yspan span : Span} (ho : o.kind = .symbol .dotAccess)
      (hx : x.kind.isIdentifier) (hxlegible : x.kind.Legible named?)
      (hy : y.kind.isIdentifier) (hylegible : y.kind.Legible named?)
      (hletter : y.kind.startsWithLetter) :
      Rereadable named? (.operation o (.factor x xspan) (.factor y yspan) span)
  | tuple {elements : List Expression} {span : Span} (hlength : elements.length ≠ 1)
      (h : ∀ e ∈ elements, Rereadable named? e) : Rereadable named? (.tuple elements span)
  | list {elements : List Expression} {span : Span} (h : ∀ e ∈ elements, Rereadable named? e) :
      Rereadable named? (.list elements span)
  | interpolation {first : Token} {parts : List (Expression × Token)} {span : Span}
      (hfirst : first.kind.isText) (hprintable : first.kind.Printable) (hparts : parts ≠ [])
      (hvalues : ∀ p ∈ parts, Rereadable named? p.1) (htexts : ∀ p ∈ parts, p.2.kind.isText)
      (hprintables : ∀ p ∈ parts, p.2.kind.Printable) :
      Rereadable named? (.interpolation (segments first parts) span)

theorem forall_mem_tokensOfAll {es : List Expression} {P : Token → Prop} :
    (∀ t ∈ tokensOfAll es, P t) ↔ ∀ e ∈ es, ∀ t ∈ e.tokens, P t := by
  induction es with
  | nil => simp [tokensOfAll]
  | cons e es ih => rw [tokensOfAll, List.forall_mem_append, List.forall_mem_cons, ih]

theorem mem_segments_of_mem (first : Token) {parts : List (Expression × Token)}
    {p : Expression × Token} (hp : p ∈ parts) :
    p.1 ∈ segments first parts ∧ .factor p.2 p.2.span ∈ segments first parts := by
  have hmem (e : Expression) (he : e ∈ [p.1, .factor p.2 p.2.span]) : e ∈ segments first parts :=
    List.mem_cons_of_mem _ (List.mem_flatMap.mpr ⟨p, hp, he⟩)
  exact ⟨hmem _ (by simp), hmem _ (by simp)⟩

/-- Behind another token a dot shows that the token is a word, and so no other token that a factor
may end with. -/
theorem endsFactor_eq_false_of_follows {o u : TokenKind} (h : o.Follows u)
    (ho : o = .symbol .dotAccess) : u.endsFactor = false := by
  have hwords : ∀ s ∈ Symbol.words, (TokenKind.symbol s).endsFactor = false := by decide
  obtain ⟨k, word, rfl⟩ := h.word ho
  rcases TokenKind.wordKind_cases k word with ⟨s, hs, -, hk⟩ | hk | hk
  · rw [hk]
    exact hwords s hs
  · rw [hk]
    rfl
  · rw [hk]
    rfl

/-- A printable tree of the shape that the parser gives, over legible tokens. -/
theorem Shaped.rereadable {named? : String → Option Char} {own : List Token} {e : Expression}
    (h : e.Shaped own) (hfollows : own.IsChain fun t u => u.kind.Follows t.kind)
    (hmembers : e.membersApart)
    (htokens : ∀ t ∈ e.tokens, t.kind.Legible named? ∧ t.kind.Printable) :
    e.Rereadable named? := by
  induction h with
  | factor ht =>
    obtain ⟨hlegible, hprintable⟩ := htokens _ List.mem_cons_self
    exact .factor ht hlegible hprintable
  | application hcallable _ _ ihcallee ihargument =>
    simp only [tokens, List.forall_mem_append] at htokens
    simp only [membersApart, Bool.and_eq_true] at hmembers
    exact .application hcallable (ihcallee hmembers.1 htokens.1)
      (ihargument hmembers.2 htokens.2)
  | operation ho _ _ ihleft ihright =>
    simp only [tokens, List.forall_mem_append, List.forall_mem_cons] at htokens
    simp only [membersApart, Bool.and_eq_true] at hmembers
    exact .operation ho htokens.2.1.1 (ihleft hmembers.1.2 htokens.1)
      (ihright hmembers.2 htokens.2.2)
  | @member u o x value span ho hx hadjacent hu _ _ =>
    simp only [tokens, List.forall_mem_append, List.forall_mem_cons] at htokens
    obtain ⟨hvalue, -, ⟨hxlegible, -⟩, -⟩ := htokens
    have hchain := hfollows.infix hadjacent
    simp only [List.isChain_cons_cons] at hchain
    obtain ⟨hou, hxo, -⟩ := hchain
    have hpath : value.isName ∨ value.isMember := by
      rw [endsFactor_eq_false_of_follows hou ho] at hu
      simpa [isPath] using hu
    have hmember : value.isMember = false := by
      simp [membersApart, TokenKind.isSymbol, ho] at hmembers
      exact hmembers.1
    rw [hmember, Bool.false_eq_true, or_false] at hpath
    cases value with
    | factor y yspan =>
      exact .member ho hpath (hvalue y List.mem_cons_self).1 hx hxlegible
        (hxo.letter ho)
    | _ => cases hpath
  | tuple hlength _ ih =>
    simp only [membersApart, membersApartInAll_iff] at hmembers
    simp only [tokens, forall_mem_tokensOfAll] at htokens
    exact .tuple hlength fun e he => ih e he (hmembers e he) (htokens e he)
  | list _ ih =>
    simp only [membersApart, membersApartInAll_iff] at hmembers
    simp only [tokens, forall_mem_tokensOfAll] at htokens
    exact .list fun e he => ih e he (hmembers e he) (htokens e he)
  | @interpolation first parts span hfirst hparts _ htexts ih =>
    simp only [membersApart, membersApartInAll_iff] at hmembers
    simp only [tokens, forall_mem_tokensOfAll] at htokens
    have hfactor {t : Token} (ht : .factor t t.span ∈ segments first parts) :
        t.kind.Printable := (htokens _ ht t List.mem_cons_self).2
    refine .interpolation hfirst (hfactor List.mem_cons_self) hparts (fun p hp => ?_) htexts
      fun p hp => hfactor (mem_segments_of_mem first hp).2
    have hvalue := (mem_segments_of_mem first hp).1
    exact ih p hp (hmembers _ hvalue) (htokens _ hvalue)

end Expression

end Frontend
