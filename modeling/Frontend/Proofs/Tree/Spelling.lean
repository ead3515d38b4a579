import Frontend.Proofs.Token.Kind
import Frontend.Tree.Expression

/-!
# The tokens of expressions

`Expression.tokens` is the traversal of an expression from left to right, and `Covers` says that a
stretch of tokens is what an expression was read from: the tokens of the expression in their order,
with nothing but brackets, commas and layout between them, under the span of the expression.
-/

namespace Frontend

/-! ### Traversal -/

namespace Expression

mutual

/-- The tokens of an expression from left to right. -/
def tokens : Expression → List Token
  | factor t _            => [t]
  | application f a _     => f.tokens ++ a.tokens
  | operation o l r _     => l.tokens ++ o :: r.tokens
  | tuple elements _      => tokensOfAll elements
  | list elements _       => tokensOfAll elements
  | interpolation parts _ => tokensOfAll parts

/-- The tokens of several expressions from left to right. -/
def tokensOfAll : List Expression → List Token
  | []      => []
  | e :: es => e.tokens ++ tokensOfAll es

end

@[simp] theorem tokens_withSpan (e : Expression) (s : Span) :
    (e.withSpan s).tokens = e.tokens := by
  cases e <;> simp [withSpan, tokens]

/-- The span from the first to the last of a sequence of expressions. -/
def extent (first : Expression) (rest : List Expression) : Span :=
  ⟨first.span.start, (rest.getLast?.getD first).span.stop⟩

theorem extent_cons (first second : Expression) (rest : List Expression) :
    extent first (second :: rest) = ⟨first.span.start, (extent second rest).stop⟩ := by
  simp [extent, List.getLast?_cons]

end Expression

/-! ### Stretches of tokens -/

/-- Among the tokens `own`, `content` are those that become parts of an expression, and all others
are punctuation. -/
structure Spells (own content : List Token) : Prop where
  content_eq : own.filter (·.kind.isContent) = content
  others : ∀ t ∈ own, t.kind.isContent = false → t.kind.isPunctuation

namespace Spells

variable {own own' content content' : List Token}

theorem nil : Spells [] [] := ⟨rfl, by simp⟩

theorem append (h : Spells own content) (h' : Spells own' content') :
    Spells (own ++ own') (content ++ content') where
  content_eq := by rw [List.filter_append, h.content_eq, h'.content_eq]
  others t ht := (List.mem_append.mp ht).elim (h.others t) (h'.others t)

theorem singleton {t : Token} (h : t.kind.isContent) : Spells [t] [t] where
  content_eq := by simp [h]
  others u hu hc := by
    rw [List.mem_singleton.mp hu, h] at hc
    cases hc

theorem punctuation (h : ∀ t ∈ own, t.kind.isPunctuation) : Spells own [] where
  content_eq := by
    rw [List.filter_eq_nil_iff]
    intro t ht
    simp [TokenKind.isContent_eq_false_of_isPunctuation (h t ht)]
  others t ht _ := h t ht

end Spells

/-- A stretch of tokens with its content, the span that it takes up, and a last token that does not
lead over to the rest of a text literal. -/
structure Covers (own content : List Token) (span : Span) : Prop extends Spells own content where
  start_eq : own.head?.map (·.span.start) = some span.start
  stop_eq : own.getLast?.map (·.span.stop) = some span.stop
  closed : ∀ t ∈ own.getLast?, t.kind ≠ .symbol .interpolationClose

namespace Covers

variable {own own' mid content content' content'' : List Token} {span span' : Span}

theorem content_token {t : Token} (h : t.kind.isContent) : Covers [t] [t] t.span where
  toSpells := .singleton h
  start_eq := rfl
  stop_eq := rfl
  closed u hu hk := by
    obtain rfl : t = u := by simpa using hu
    rw [hk] at h
    exact absurd h (by decide)

theorem bracket {t : Token} (h : t.kind.isBracket) : Covers [t] [] t.span where
  toSpells := .punctuation fun u hu =>
    List.mem_singleton.mp hu ▸ TokenKind.isPunctuation_of_isBracket h
  start_eq := rfl
  stop_eq := rfl
  closed u hu hk := by
    obtain rfl : t = u := by simpa using hu
    rw [hk] at h
    exact absurd h (by decide)

theorem ne_nil (h : Covers own content span) : own ≠ [] := by
  rintro rfl
  simpa using h.start_eq

theorem exists_last (h : Covers own content span) :
    ∃ t, own.getLast? = some t ∧ t.span.stop = span.stop ∧
      t.kind ≠ .symbol .interpolationClose := by
  obtain ⟨t, ht, hs⟩ := Option.map_eq_some_iff.mp h.stop_eq
  exact ⟨t, ht, hs, h.closed t ht⟩

/-- Two stretches with more tokens between them make up one stretch. -/
theorem append (h : Covers own content span) (hm : Spells mid content')
    (h' : Covers own' content'' span') :
    Covers (own ++ (mid ++ own')) (content ++ (content' ++ content''))
      ⟨span.start, span'.stop⟩ where
  toSpells := h.toSpells.append (hm.append h'.toSpells)
  start_eq := by
    obtain ⟨t, rest, rfl⟩ := List.exists_cons_of_ne_nil h.ne_nil
    exact h.start_eq
  stop_eq := by
    obtain ⟨t, ht, hs, _⟩ := h'.exists_last
    simp [List.getLast?_append, ht, hs]
  closed u hu := by
    obtain ⟨t, ht, _, hk⟩ := h'.exists_last
    obtain rfl : t = u := by simpa [List.getLast?_append, ht] using hu
    exact hk

end Covers

end Frontend
