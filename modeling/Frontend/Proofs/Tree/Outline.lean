import Frontend.Proofs.Paint.Plain
import Frontend.Proofs.Text.Form
import Frontend.Proofs.Tree.Nodes
import Frontend.Tree.Outline

/-!
# Reading outlines

An outline can be read again: where a part of it ends is seen from the indentation of the line
behind it (`Leaves`), what kind of node it is from its title, and everything else of a line from the
forms of spans, names and literals. So what stands in a part is known from any text that begins with
it (`TellsApart`), and from an outline everything but the spans of the tokens that are factors.
-/

namespace Frontend

/-! ### What is shown -/

namespace Expression

mutual

/-- The expression with the tokens of its factors moved to the start of the text. All other spans
are kept. -/
def withoutTokenSpans : Expression → Expression
  | factor t span                => factor ⟨t.kind, .origin⟩ span
  | application f a span         => application f.withoutTokenSpans a.withoutTokenSpans span
  | operation o left right span  =>
    operation o left.withoutTokenSpans right.withoutTokenSpans span
  | tuple elements span          => tuple (withoutTokenSpansAll elements) span
  | list elements span           => list (withoutTokenSpansAll elements) span
  | interpolation parts span     => interpolation (withoutTokenSpansAll parts) span

/-- The expressions with the tokens of their factors moved to the start of the text. -/
def withoutTokenSpansAll : List Expression → List Expression
  | []      => []
  | e :: es => e.withoutTokenSpans :: withoutTokenSpansAll es

end

theorem withoutTokenSpansAll_eq_map (es : List Expression) :
    withoutTokenSpansAll es = es.map withoutTokenSpans := by
  induction es with
  | nil => rfl
  | cons e es ih => rw [withoutTokenSpansAll, ih, List.map_cons]

end Expression

namespace Outline

open Painting

/-! ### Lines and parts -/

/-- The characters of a painting, styles aside. -/
def characters (p : Painting) : List Char := p.plain.toList

@[simp] theorem characters_append (p q : Painting) :
    characters (p ++ q) = characters p ++ characters q := by
  simp [characters]

@[simp] theorem characters_text (t : String) : characters (text t) = t.toList := by
  simp [characters]

@[simp] theorem characters_name (title : String) : characters (name title) = title.toList := by
  simp [characters, name]

@[simp] theorem characters_special (word : String) :
    characters (special word) = word.toList := by
  simp [characters, special]

@[simp] theorem characters_verbatim (t : String) : characters (verbatim t) = ' ' :: t.toList := by
  simp [characters, verbatim]

@[simp] theorem characters_ofSpan (s : Span) : characters (ofSpan s) = s.inspect.toList := by
  simp [characters, ofSpan]

theorem characters_field (depth : Nat) (title : String) (body : Painting) :
    characters (field depth title body) = '\n' :: (List.replicate depth ' ' ++
      (title.toList ++ ':' :: ' ' :: characters body)) := by
  simp [characters, field]

theorem blanks_isPrefix {m n : Nat} (h : m ≤ n) :
    List.replicate m ' ' <+: List.replicate n ' ' := by
  refine ⟨List.replicate (n - m) ' ', ?_⟩
  rw [← List.replicate_add, Nat.add_sub_cancel' h]

/-- The text does not go on with parts of a node at the depth: it is at its end, or at the end of a
line behind which no line is that is deeper. -/
structure Leaves (depth : Nat) (rest : List Char) : Prop where
  lineFeed : ∀ c ∈ rest.head?, c = '\n'
  notDeeper : ¬ '\n' :: List.replicate (depth + 1) ' ' <+: rest

theorem leaves_nil (depth : Nat) : Leaves depth [] := ⟨by simp, by simp⟩

theorem Leaves.mono {depth depth' : Nat} {rest : List Char} (h : Leaves depth rest)
    (hle : depth ≤ depth') : Leaves depth' rest where
  lineFeed := h.lineFeed
  notDeeper := by
    intro hprefix
    have hblanks := blanks_isPrefix (Nat.succ_le_succ hle)
    exact h.notDeeper (((List.prefix_cons_inj '\n').mpr hblanks).trans hprefix)

/-- The next part at the depth. -/
theorem leaves_field {title : String} (htitle : title.toList.head? ≠ some ' ') (depth : Nat)
    (body : Painting) (rest : List Char) :
    Leaves depth (characters (field depth title body) ++ rest) where
  lineFeed := by simp [characters_field]
  notDeeper := by
    rw [characters_field, List.replicate_succ', List.cons_append, List.cons_prefix_cons,
      List.append_assoc, List.prefix_append_right_inj]
    rintro ⟨-, hblank⟩
    cases hchars : title.toList with
    | nil => simp [hchars] at hblank
    | cons c chars =>
      simp only [hchars, List.head?_cons, ne_eq, Option.some_inj] at htitle
      simp only [hchars, List.cons_append, List.cons_prefix_cons] at hblank
      exact htitle hblank.1.symm

/-- Nothing behind a part at a depth is a deeper part. -/
theorem Leaves.ne_field {depth : Nat} {rest : List Char} (h : Leaves depth rest) (title : String)
    (body : Painting) (more : List Char) :
    rest ≠ characters (field (deeper depth) title body) ++ more := by
  rintro rfl
  apply h.notDeeper
  rw [characters_field, List.cons_append, List.prefix_cons_inj, List.append_assoc]
  exact (blanks_isPrefix (by unfold deeper; omega)).trans (List.prefix_append _ _)

theorem characters_field_append_inj {depth : Nat} {title : String} {p q : Painting}
    {r s : List Char} :
    characters (field depth title p) ++ r = characters (field depth title q) ++ s ↔
      characters p ++ r = characters q ++ s := by
  simp [characters_field]

/-! ### Telling outlines apart -/

/-- If texts begin with the two paintings and then leave the depth, they are equal only if the
condition holds and they go on in the same way. -/
def TellsApart (depth : Nat) (p q : Painting) (P : Prop) : Prop :=
  ∀ r s, Leaves depth r → Leaves depth s → characters p ++ r = characters q ++ s → P ∧ r = s

namespace TellsApart

variable {depth : Nat} {p q p' q' : Painting} {P Q : Prop}

theorem imp (h : TellsApart depth p q P) (himp : P → Q) : TellsApart depth p q Q :=
  fun r s hr hs heq => (h r s hr hs heq).imp_left himp

theorem of_le {inner : Nat} (h : TellsApart inner p q P) (hle : depth ≤ inner) :
    TellsApart depth p q P :=
  fun r s hr hs => h r s (hr.mono hle) (hs.mono hle)

/-- Paintings of the same text. -/
theorem of_plain_eq (h : TellsApart depth p q P) (heq : p.plain = q.plain) : P := by
  have hcharacters : characters p = characters q := congrArg String.toList heq
  exact (h [] [] (leaves_nil depth) (leaves_nil depth) (by rw [hcharacters])).1

/-- A line ends where the line feed is. -/
theorem line (hp : '\n' ∉ characters p) (hq : '\n' ∉ characters q) :
    TellsApart depth p q (characters p = characters q) :=
  fun _ _ hr hs => Text.append_inj_of_head? '\n' hp hq hr.lineFeed hs.lineFeed

/-- One more part, behind a title. -/
theorem field (h : TellsApart depth p q P) {title : String}
    (htitle : title.toList.head? ≠ some ' ') (hbody : TellsApart depth p' q' Q) :
    TellsApart depth (p ++ Outline.field depth title p') (q ++ Outline.field depth title q')
      (P ∧ Q) := by
  intro r s hr hs heq
  rw [characters_append, characters_append, List.append_assoc, List.append_assoc] at heq
  obtain ⟨hP, heq⟩ := h _ _ (leaves_field htitle _ _ _) (leaves_field htitle _ _ _) heq
  obtain ⟨hQ, heq⟩ := hbody r s hr hs (characters_field_append_inj.mp heq)
  exact ⟨⟨hP, hQ⟩, heq⟩

end TellsApart

/-! ### Lists -/

section Lists

variable {α β : Type} {depth : Nat} {body : Nat → α → Painting} {f : α → β} {as bs : List α}

theorem head?_toString_ne (i : Nat) : (toString i).toList.head? ≠ some ' ' := by
  intro hblank
  have hmem := List.mem_of_head? hblank
  rw [Text.toList_toString] at hmem
  exact Text.not_mem_toDigits (by decide) i hmem

theorem leaves_numbered (body : α → Painting) (i : Nat) (as : List α) {rest : List Char}
    (h : Leaves depth rest) :
    Leaves (deeper depth) (characters (numbered body (deeper depth) i as) ++ rest) := by
  cases as with
  | nil => exact h.mono (Nat.le_add_right depth 4)
  | cons a as =>
    rw [numbered, characters_append, List.append_assoc]
    exact leaves_field (head?_toString_ne i) _ _ _

/-- The items of lists are told apart if items are. -/
theorem tellsApart_numbered (i : Nat) (h : ∀ a ∈ as, ∀ b ∈ bs,
    TellsApart (deeper depth) (body (deeper depth) a) (body (deeper depth) b) (f a = f b)) :
    TellsApart depth (numbered (body (deeper depth)) (deeper depth) i as)
      (numbered (body (deeper depth)) (deeper depth) i bs) (as.map f = bs.map f) := by
  induction as generalizing bs i with
  | nil =>
    cases bs with
    | nil => exact fun r s _ _ heq => ⟨rfl, heq⟩
    | cons b bs =>
      intro r s hr _ heq
      rw [numbered, numbered, characters_append, List.append_assoc] at heq
      exact absurd heq (hr.ne_field _ _ _)
  | cons a as ih =>
    cases bs with
    | nil =>
      intro r s _ hs heq
      rw [numbered, numbered, characters_append, List.append_assoc] at heq
      exact absurd heq.symm (hs.ne_field _ _ _)
    | cons b bs =>
      intro r s hr hs heq
      rw [numbered, numbered, characters_append, characters_append, List.append_assoc,
        List.append_assoc, characters_field_append_inj] at heq
      obtain ⟨hab, heq⟩ := h a List.mem_cons_self b List.mem_cons_self _ _
        (leaves_numbered _ _ _ hr) (leaves_numbered _ _ _ hs) heq
      obtain ⟨hrest, heq⟩ := ih (i + 1)
        (fun a' ha' b' hb' => h a' (List.mem_cons_of_mem a ha') b' (List.mem_cons_of_mem b hb'))
        r s hr hs heq
      exact ⟨by rw [List.map_cons, List.map_cons, hab, hrest], heq⟩

theorem tellsApart_ofList (body : Nat → α → Painting) (f : α → β) (h : ∀ a ∈ as, ∀ b ∈ bs,
    TellsApart (deeper depth) (body (deeper depth) a) (body (deeper depth) b) (f a = f b)) :
    TellsApart depth (ofList body depth as) (ofList body depth bs) (as.map f = bs.map f) := by
  cases as with
  | nil =>
    cases bs with
    | nil => exact fun r s _ _ heq => ⟨rfl, List.append_cancel_left heq⟩
    | cons b bs =>
      intro r s _ _ heq
      simp [ofList, numbered, characters_field] at heq
  | cons a as =>
    cases bs with
    | nil =>
      intro r s _ _ heq
      simp [ofList, numbered, characters_field] at heq
    | cons b bs => exact tellsApart_numbered 0 h

/-- Lists whose items are told apart entirely. -/
theorem tellsApart_ofList_eq (body : Nat → α → Painting) (h : ∀ a ∈ as, ∀ b ∈ bs,
    TellsApart (deeper depth) (body (deeper depth) a) (body (deeper depth) b) (a = b)) :
    TellsApart depth (ofList body depth as) (ofList body depth bs) (as = bs) := by
  have hid := tellsApart_ofList body id h
  rwa [List.map_id, List.map_id] at hid

end Lists

/-! ### Tokens -/

end Outline

theorem Symbol.name_injective : Function.Injective Symbol.name := by
  intro s t h
  have hname : ∀ s, Symbol.ofName? s.name = some s := by
    intro s
    cases s <;> decide
  rw [← Option.some_inj, ← hname s, h, hname t]

namespace TokenKind

/-- The title of a kind in outlines. -/
def title : TokenKind → String
  | symbol _      => "Symbol"
  | identifier _  => "Identifier"
  | operator _    => "Operator"
  | text _        => "Text"
  | character _   => "Character"
  | number _      => "Number"
  | indentation _ => "Indent"
  | lineBreak     => "NewLine"
  | endOfInput    => "EndOfFile"

theorem isAlpha_of_mem_title (k : TokenKind) : ∀ c ∈ k.title.toList, c.isAlpha := by
  cases k <;> simp [title]

/-- What is written behind the title of a kind in outlines. -/
def detail : TokenKind → List Char
  | symbol s           => ' ' :: s.name.toList
  | identifier name    => ' ' :: name.toList
  | operator name      => ' ' :: name.toList
  | text content       => ' ' :: (Text.quoted content).toList
  | character content  => ' ' :: (Text.quoted content).toList
  | number digits      => ' ' :: digits.toList
  | indentation blanks => ' ' :: (Text.quoted blanks).toList
  | lineBreak          => []
  | endOfInput         => []

theorem characters_ofKind (k : TokenKind) :
    Outline.characters (Outline.ofKind k) = k.title.toList ++ k.detail := by
  cases k <;> simp [Outline.ofKind, title, detail]

/-- A kind is known from its title and what is written behind it. -/
theorem eq_of_title_eq {k l : TokenKind} (htitle : k.title = l.title)
    (hdetail : k.detail = l.detail) : k = l := by
  cases k <;> cases l <;> simp_all [title, detail, String.toList_inj, Symbol.name_injective.eq_iff,
    Text.quoted_injective.eq_iff]

/-- What is written for the kind has no line feed in it. -/
def OnOneLine (k : TokenKind) : Prop := '\n' ∉ k.detail

end TokenKind

/-! ### Expressions -/

namespace Expression

/-- What is written for the tokens of the outermost node has no line feed in it. -/
def OnOneLine (e : Expression) : Prop := ∀ t ∈ e.nodeTokens, t.kind.OnOneLine

/-- The title of the outermost node in outlines. -/
def title : Expression → String
  | factor t _        => t.kind.title
  | application _ _ _ => "Application"
  | operation _ _ _ _ => "BinaryOperation"
  | tuple _ _         => "Tuple"
  | list _ _          => "List"
  | interpolation _ _ => "Interpolation"

/-- What is written behind the title of the outermost node in outlines. -/
def detail : Expression → List Char
  | factor t _ => t.kind.detail
  | _          => []

/-- The first line of the outline. -/
def headline (e : Expression) : List Char :=
  e.span.inspect.toList ++ ' ' :: (e.title.toList ++ e.detail)

theorem title_factor_ne {t : Token} {span : Span} {e : Expression}
    (he : ∀ t span, e ≠ factor t span) : (factor t span).title ≠ e.title := by
  obtain ⟨kind, place⟩ := t
  cases e with
  | factor t span => exact absurd rfl (he t span)
  | _ => cases kind <;> simp [title, TokenKind.title]

/-- The kinds of nodes with a list of elements below them, each with its title and the name of the
list. -/
inductive IsCollection : (List Expression → Span → Expression) → String → String → Prop
  | tuple : IsCollection tuple "Tuple" "elements"
  | list : IsCollection list "List" "elements"
  | interpolation : IsCollection interpolation "Interpolation" "segments"

/-- The outermost nodes are of one kind. -/
inductive SameNode : Expression → Expression → Prop
  | factor (t t' : Token) (span span' : Span) : SameNode (factor t span) (factor t' span')
  | application (f f' a a' : Expression) (span span' : Span) :
      SameNode (application f a span) (application f' a' span')
  | operation (o o' : Token) (l l' r r' : Expression) (span span' : Span) :
      SameNode (operation o l r span) (operation o' l' r' span')
  | collection {node : List Expression → Span → Expression} {title part : String}
      (h : IsCollection node title part) (es es' : List Expression) (span span' : Span) :
      SameNode (node es span) (node es' span')

/-- The kind of a node is known from its title. -/
theorem SameNode.of_title_eq {e f : Expression} (h : e.title = f.title) : SameNode e f := by
  cases e with
  | factor t span =>
    cases f with
    | factor t' span' => exact .factor t t' span span'
    | _ => exact absurd h (title_factor_ne (by simp))
  | _ =>
    cases f with
    | factor t' span' => exact absurd h.symm (title_factor_ne (by simp))
    | _ =>
      -- All other titles are words of their own.
      first
        | exact .application ..
        | exact .operation ..
        | exact .collection .tuple ..
        | exact .collection .list ..
        | exact .collection .interpolation ..
        | exact absurd h (by simp [title])

theorem not_mem_title {c : Char} (hc : c.isAlpha = false) (e : Expression) :
    c ∉ e.title.toList := by
  have hletters : ∀ c ∈ e.title.toList, c.isAlpha := by
    cases e with
    | factor t span => exact t.kind.isAlpha_of_mem_title
    | _ => simp [title]
  intro hmem
  rw [hletters c hmem] at hc
  cases hc

theorem lineFeed_not_mem_headline {e : Expression} (he : e.OnOneLine) : '\n' ∉ e.headline := by
  have hdetail : '\n' ∉ e.detail := by
    cases e with
    | factor t span => exact he t List.mem_cons_self
    | _ => exact List.not_mem_nil
  have htitle : '\n' ∉ e.title.toList := not_mem_title (by decide) e
  have hspan : '\n' ∉ e.span.inspect.toList := Span.not_mem_inspect (by decide) (by decide) _
  simp [headline, hspan, htitle, hdetail]

/-- The span, the title and what is behind it are known from the headline. -/
theorem headline_inj {e f : Expression} (h : e.headline = f.headline) :
    e.span = f.span ∧ e.title = f.title ∧ e.detail = f.detail := by
  have hdetail (e : Expression) : ∀ c ∈ e.detail.head?, c = ' ' := by
    cases e with
    | factor t span =>
      obtain ⟨kind, place⟩ := t
      cases kind <;> simp [detail, TokenKind.detail]
    | _ => simp [detail]
  obtain ⟨hspan, h⟩ := Text.append_inj_of_head? ' '
    (Span.not_mem_inspect (by decide) (by decide) _)
    (Span.not_mem_inspect (by decide) (by decide) _) (by simp) (by simp) h
  obtain ⟨htitle, hdetail⟩ := Text.append_inj_of_head? ' ' (not_mem_title (by decide) _)
    (not_mem_title (by decide) _) (hdetail e) (hdetail f) (List.cons.inj h).2
  exact ⟨Span.inspect_injective (String.toList_inj.mp hspan), String.toList_inj.mp htitle, hdetail⟩

end Expression

namespace Outline

open Painting (text)

variable {depth : Nat} {e f : Expression}

/-- Behind the headline of an expression is the end of its line. -/
theorem exists_characters_ofExpression (depth : Nat) (e : Expression) :
    ∃ parts, characters (ofExpression depth e) = e.headline ++ parts ∧
      ∀ c ∈ parts.head?, c = '\n' := by
  cases e with
  | factor t span =>
    exact ⟨[], by simp [ofExpression, Expression.headline, Expression.title, Expression.detail,
      TokenKind.characters_ofKind], by simp⟩
  | _ =>
    simp only [ofExpression, Expression.headline, Expression.title, Expression.detail,
      Expression.span, characters_append, characters_ofSpan, characters_text, characters_name,
      characters_field, List.append_assoc]
    exact ⟨_, by simp; rfl, by simp⟩

/-- What the first line says of an expression is known from any text that begins with its
outline. -/
theorem headline_of_append_eq {r s : List Char} (he : e.OnOneLine) (hf : f.OnOneLine)
    (hr : ∀ c ∈ r.head?, c = '\n') (hs : ∀ c ∈ s.head?, c = '\n')
    (h : characters (ofExpression depth e) ++ r = characters (ofExpression depth f) ++ s) :
    e.span = f.span ∧ e.title = f.title ∧ e.detail = f.detail := by
  have hends {parts rest : List Char} (hparts : ∀ c ∈ parts.head?, c = '\n')
      (hrest : ∀ c ∈ rest.head?, c = '\n') : ∀ c ∈ (parts ++ rest).head?, c = '\n' := by
    cases parts with
    | nil => exact hrest
    | cons c parts => simpa using hparts
  obtain ⟨parts, heq, hparts⟩ := exists_characters_ofExpression depth e
  obtain ⟨parts', heq', hparts'⟩ := exists_characters_ofExpression depth f
  rw [heq, heq', List.append_assoc, List.append_assoc] at h
  exact Expression.headline_inj (Text.append_inj_of_head? '\n'
    (Expression.lineFeed_not_mem_headline he) (Expression.lineFeed_not_mem_headline hf)
    (hends hparts hr) (hends hparts' hs) h).1

theorem numberedExpressions_eq (depth i : Nat) (es : List Expression) :
    numberedExpressions depth i es = numbered (ofExpression depth) depth i es := by
  induction es generalizing i with
  | nil => rfl
  | cons e es ih => rw [numberedExpressions, numbered, ih]

theorem ofExpressions_eq_ofList (depth : Nat) (es : List Expression) :
    ofExpressions depth es = ofList ofExpression depth es := by
  cases es with
  | nil => rfl
  | cons e es =>
    rw [ofExpressions, numberedExpressions_eq]
    rfl

/-- The line of a node that has parts. -/
theorem lineFeed_not_mem_line (span : Span) (title : String) (htitle : '\n' ∉ title.toList) :
    '\n' ∉ characters (ofSpan span ++ text " " ++ name title) := by
  have hspan : '\n' ∉ span.inspect.toList := Span.not_mem_inspect (by decide) (by decide) _
  simp [hspan, htitle]

theorem tellsApart_ofToken (depth : Nat) {t u : Token} (ht : t.kind.OnOneLine)
    (hu : u.kind.OnOneLine) : TellsApart depth (ofToken t) (ofToken u) (t = u) := by
  have hcharacters (t : Token) :
      characters (ofToken t) = (Expression.factor t t.span).headline := by
    simp [ofToken, TokenKind.characters_ofKind, Expression.headline, Expression.title,
      Expression.detail]
  have hline {t : Token} (ht : t.kind.OnOneLine) : '\n' ∉ characters (ofToken t) := by
    rw [hcharacters]
    exact Expression.lineFeed_not_mem_headline (List.forall_mem_singleton.mpr ht)
  refine (TellsApart.line (hline ht) (hline hu)).imp ?_
  intro h
  rw [hcharacters, hcharacters] at h
  obtain ⟨hspan, htitle, hdetail⟩ := Expression.headline_inj h
  obtain ⟨kind, span⟩ := t
  obtain ⟨kind', span'⟩ := u
  obtain rfl : kind = kind' := TokenKind.eq_of_title_eq htitle hdetail
  obtain rfl : span = span' := hspan
  rfl

/-- The expressions are told apart by their outlines, but for the spans of the tokens that are
factors. -/
def ToldApart (e f : Expression) : Prop :=
  ∀ depth, TellsApart (deeper depth) (ofExpression depth e) (ofExpression depth f)
    (e.withoutTokenSpans = f.withoutTokenSpans)

/-- The body of a part of a node, one level deeper than the node. -/
theorem ToldApart.body (h : ToldApart e f) (depth : Nat) :
    TellsApart (deeper depth) (ofExpression (deeper depth) e) (ofExpression (deeper depth) f)
      (e.withoutTokenSpans = f.withoutTokenSpans) :=
  (h (deeper depth)).of_le (Nat.le_add_right _ 4)

theorem toldApart_application {callee callee' argument argument' : Expression} (span : Span)
    (hcallee : ToldApart callee callee') (hargument : ToldApart argument argument') :
    ToldApart (.application callee argument span) (.application callee' argument' span) := by
  intro depth
  have hline := lineFeed_not_mem_line span "Application" (by decide)
  refine (((TellsApart.line hline hline).field (by decide) (hcallee.body depth)).field (by decide)
    (hargument.body depth)).imp ?_
  rintro ⟨⟨-, hcallee⟩, hargument⟩
  rw [Expression.withoutTokenSpans, Expression.withoutTokenSpans, hcallee, hargument]

theorem toldApart_operation {o o' : Token} {left left' right right' : Expression} (span : Span)
    (ho : o.kind.OnOneLine) (ho' : o'.kind.OnOneLine) (hleft : ToldApart left left')
    (hright : ToldApart right right') :
    ToldApart (.operation o left right span) (.operation o' left' right' span) := by
  intro depth
  have hline := lineFeed_not_mem_line span "BinaryOperation" (by decide)
  refine ((((TellsApart.line hline hline).field (by decide)
    (tellsApart_ofToken (deeper depth) ho ho')).field (by decide) (hleft.body depth)).field
      (by decide) (hright.body depth)).imp ?_
  rintro ⟨⟨⟨-, rfl⟩, hleft⟩, hright⟩
  rw [Expression.withoutTokenSpans, Expression.withoutTokenSpans, hleft, hright]

/-- Nodes of one kind with lists of elements below them. -/
theorem toldApart_collection {node : List Expression → Span → Expression} {title part : String}
    (h : Expression.IsCollection node title part) {es fs : List Expression} (span : Span)
    (helements : ∀ e ∈ es, ∀ f ∈ fs, ToldApart e f) : ToldApart (node es span) (node fs span) := by
  have hshown (depth : Nat) (es : List Expression) : ofExpression depth (node es span) =
      ofSpan span ++ text " " ++ name title ++
        field (deeper depth) part (ofExpressions (deeper depth) es) := by
    cases h <;> rfl
  have hbare (es : List Expression) : (node es span).withoutTokenSpans =
      node (es.map Expression.withoutTokenSpans) span := by
    rw [← Expression.withoutTokenSpansAll_eq_map]
    cases h <;> rfl
  have htitle : '\n' ∉ title.toList := by cases h <;> decide
  have hpart : part.toList.head? ≠ some ' ' := by cases h <;> decide
  intro depth
  have hitems : TellsApart (deeper depth) (ofExpressions (deeper depth) es)
      (ofExpressions (deeper depth) fs)
      (es.map Expression.withoutTokenSpans = fs.map Expression.withoutTokenSpans) := by
    rw [ofExpressions_eq_ofList, ofExpressions_eq_ofList]
    exact tellsApart_ofList _ _ fun e he f hf => (helements e he f hf).body _
  have hline := lineFeed_not_mem_line span title htitle
  rw [hshown, hshown, hbare, hbare]
  refine ((TellsApart.line hline hline).field hpart hitems).imp ?_
  rintro ⟨-, hmap⟩
  rw [hmap]

/-- Expressions are told apart by their outlines, but for the spans of the tokens that are
factors. -/
theorem toldApart (he : e.Everywhere Expression.OnOneLine)
    (hf : f.Everywhere Expression.OnOneLine) : ToldApart e f := by
  induction he generalizing f with
  | @node e here inside ih =>
    intro depth r s hr hs heq
    -- The first line gives the kind of node and its span, and all that there is of a factor.
    obtain ⟨hspan, htitle, hdetail⟩ :=
      headline_of_append_eq here hf.here hr.lineFeed hs.lineFeed heq
    have hparts : ∀ x ∈ e.children, ∀ y ∈ f.children, ToldApart x y :=
      fun x hx y hy => ih x hx (hf.inside y hy)
    cases Expression.SameNode.of_title_eq htitle with
    | factor t t' span span' =>
      obtain ⟨kind, place⟩ := t
      obtain ⟨kind', place'⟩ := t'
      obtain rfl : span = span' := hspan
      obtain rfl : kind = kind' := TokenKind.eq_of_title_eq htitle hdetail
      exact ⟨rfl, List.append_cancel_left heq⟩
    | application callee callee' argument argument' span span' =>
      obtain rfl : span = span' := hspan
      have hcallee := hparts callee (by simp [Expression.children]) callee'
        (by simp [Expression.children])
      have hargument := hparts argument (by simp [Expression.children]) argument'
        (by simp [Expression.children])
      exact toldApart_application span hcallee hargument depth r s hr hs heq
    | operation o o' left left' right right' span span' =>
      obtain rfl : span = span' := hspan
      have hleft := hparts left (by simp [Expression.children]) left'
        (by simp [Expression.children])
      have hright := hparts right (by simp [Expression.children]) right'
        (by simp [Expression.children])
      exact toldApart_operation span (here o List.mem_cons_self) (hf.here o' List.mem_cons_self)
        hleft hright depth r s hr hs heq
    | @collection node title part h es fs span span' =>
      obtain rfl : span = span' := by cases h <;> exact hspan
      have helements : ∀ e ∈ es, ∀ f ∈ fs, ToldApart e f := by cases h <;> exact hparts
      exact toldApart_collection h span helements depth r s hr hs heq

/-! ### What is not shown -/

mutual

/-- Where the tokens that are factors were read is not shown. -/
theorem ofExpression_withoutTokenSpans (depth : Nat) (e : Expression) :
    ofExpression depth e.withoutTokenSpans = ofExpression depth e := by
  cases e with
  | factor t span => rfl
  | application f a span =>
    simp only [Expression.withoutTokenSpans, ofExpression, ofExpression_withoutTokenSpans _ f,
      ofExpression_withoutTokenSpans _ a]
  | operation o left right span =>
    simp only [Expression.withoutTokenSpans, ofExpression, ofExpression_withoutTokenSpans _ left,
      ofExpression_withoutTokenSpans _ right]
  | tuple elements span =>
    simp only [Expression.withoutTokenSpans, ofExpression, ofExpressions_withoutTokenSpans]
  | list elements span =>
    simp only [Expression.withoutTokenSpans, ofExpression, ofExpressions_withoutTokenSpans]
  | interpolation parts span =>
    simp only [Expression.withoutTokenSpans, ofExpression, ofExpressions_withoutTokenSpans]

theorem ofExpressions_withoutTokenSpans (depth : Nat) (es : List Expression) :
    ofExpressions depth (Expression.withoutTokenSpansAll es) = ofExpressions depth es := by
  cases es with
  | nil => rfl
  | cons e es =>
    simp only [Expression.withoutTokenSpansAll, ofExpressions, ofExpression_withoutTokenSpans _ e,
      numberedExpressions_withoutTokenSpans]

theorem numberedExpressions_withoutTokenSpans (depth i : Nat) (es : List Expression) :
    numberedExpressions depth i (Expression.withoutTokenSpansAll es) =
      numberedExpressions depth i es := by
  cases es with
  | nil => rfl
  | cons e es =>
    simp only [Expression.withoutTokenSpansAll, numberedExpressions,
      ofExpression_withoutTokenSpans _ e, numberedExpressions_withoutTokenSpans _ _ es]

end

end Outline

end Frontend
