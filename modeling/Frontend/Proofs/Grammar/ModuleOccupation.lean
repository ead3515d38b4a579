import Frontend.Proofs.Grammar.ModuleGrammar
import Frontend.Proofs.Grammar.Occupation
import Frontend.Proofs.Token.Matching

/-!
# The tokens that modules occupy

The tokens of a module are those of its header and imports, whose brackets are matched, and the
stretches of its items, with layout and semicolons between them (`ItemsOccupy`). The stretch of a
declaration is its name, an equals sign and the stretch of its body. The stretch of an item that is
not read starts with a word and frames the span of the item, and nothing else is known of it.
-/

namespace Frontend

open Frontend.Parser (Item)

/-- Line breaks, indentations and semicolons. -/
def Gap (tokens : List Token) : Prop :=
  ∀ t ∈ tokens, t.kind = .lineBreak ∨ t.kind.isIndentation ∨ t.kind = .symbol .semicolon

theorem Gap.append {tokens more : List Token} (h : Gap tokens) (h' : Gap more) :
    Gap (tokens ++ more) :=
  fun t ht => (List.mem_append.mp ht).elim (h t) (h' t)

theorem Gap.matched {tokens : List Token} (h : Gap tokens) : Matched tokens := by
  refine .of_forall fun t ht => ?_
  rcases h t ht with hk | hk | hk
  · exact ⟨by rw [hk]; rfl, by rw [hk]; rfl⟩
  · obtain ⟨blanks, hk⟩ := TokenKind.isIndentation_iff.mp hk
    exact ⟨by rw [hk]; rfl, by rw [hk]; rfl⟩
  · exact ⟨by rw [hk]; rfl, by rw [hk]; rfl⟩

theorem Layout.gap {tokens : List Token} (h : Layout tokens) : Gap tokens :=
  fun t ht => (h t ht).imp_right .inl

/-- A token that an item starts with which is not read. -/
def TokenKind.StartsDeferred (k : TokenKind) : Prop := k = .symbol .dataWord ∨ k.isIdentifier

/-- The item takes up a stretch of tokens. -/
inductive ItemOccupies : Item → List Token → Prop
  | declared {x o : Token} {binder : Identifier} {body : Expression} {before own : List Token}
      (hx : Identifier.ofToken? x = some binder) (ho : o.kind = .symbol .equals)
      (hbefore : Layout before) (hbody : body.Occupies own) :
      ItemOccupies (.declared ⟨binder, body⟩) (x :: o :: (before ++ own))
  | deferred {d : Deferred} {x : Token} {own : List Token} (hx : x.kind.StartsDeferred)
      (h : Frames (x :: own) d.span) : ItemOccupies (.deferred d) (x :: own)

/-- The items take up stretches of tokens, each with what separates it from the next one. -/
inductive ItemsOccupy : List Item → List Token → Prop
  | nil : ItemsOccupy [] []
  | cons {i : Item} {items : List Item} {own gap more : List Token} (hi : ItemOccupies i own)
      (hgap : Gap gap) (hmore : ItemsOccupy items more) :
      ItemsOccupy (i :: items) (own ++ (gap ++ more))

namespace ModuleGrammar

open Relation (ReflTransGen)

variable {s t : TokenStream} {fixities : FixityTable}

/-! ### Separators -/

theorem Blank.exists_gap (h : Blank s t) : ∃ own, s.Reads own t ∧ Gap own := by
  cases h with
  | lineBreak h hb => exact ⟨_, h, List.forall_mem_singleton.mpr (.inl hb)⟩
  | indentation h hi _ => exact ⟨_, h, List.forall_mem_singleton.mpr (.inr (.inl hi))⟩

theorem Separator.exists_gap (h : Separator s t) : ∃ own, s.Reads own t ∧ Gap own := by
  cases h with
  | blank h => exact h.exists_gap
  | semicolon h hx => exact ⟨_, h, List.forall_mem_singleton.mpr (.inr (.inr hx))⟩

theorem exists_gap_of_reflTransGen {r : TokenStream → TokenStream → Prop}
    (hr : ∀ {s t}, r s t → ∃ own, s.Reads own t ∧ Gap own) (h : ReflTransGen r s t) :
    ∃ own, s.Reads own t ∧ Gap own := by
  induction h with
  | refl => exact ⟨[], .refl s, nofun⟩
  | tail _ hstep ih =>
    obtain ⟨own, hown, hgap⟩ := ih
    obtain ⟨own', hown', hgap'⟩ := hr hstep
    exact ⟨_, hown.trans hown', hgap.append hgap'⟩

theorem Terminator.exists_gap (h : Terminator s t) : ∃ own, s.Reads own t ∧ Gap own := by
  cases h with
  | lineBreak h hb => exact ⟨_, h, List.forall_mem_singleton.mpr (.inl hb)⟩
  | semicolon h hx => exact ⟨_, h, List.forall_mem_singleton.mpr (.inr (.inr hx))⟩
  | endOfInput h _ => exact ⟨[], h ▸ .refl s, nofun⟩

/-! ### Items -/

/-- The tokens of a line end with the last one that is not layout. -/
theorem Line.exists_reads {content : List Token} (h : Line content s t) :
    ∃ own after, s.Reads (own ++ after) t ∧ own.getLast? = content.getLast? ∧ Layout after := by
  induction h with
  | stop _ => exact ⟨[], [], .refl _, rfl, .nil⟩
  | lineBreak _ _ => exact ⟨[], [], .refl _, rfl, .nil⟩
  | @continuation b i content _ _ _ h hb hi _ _ ih =>
    obtain ⟨own, after, hr, hlast, hafter⟩ := ih
    cases own with
    | nil =>
      have hlayout : Layout [b, i] :=
        List.forall_mem_cons.mpr ⟨.inl hb, List.forall_mem_singleton.mpr (.inr hi)⟩
      exact ⟨[], [b, i] ++ after, h.trans hr, hlast, hlayout.append hafter⟩
    | cons x own =>
      refine ⟨b :: i :: x :: own, after, h.trans hr, ?_, hafter⟩
      rw [← hlast, List.getLast?_cons_cons, List.getLast?_cons_cons]
  | @token x content _ _ _ h _ _ _ ih =>
    obtain ⟨own, after, hr, hlast, hafter⟩ := ih
    refine ⟨x :: own, after, h.trans hr, ?_, hafter⟩
    rw [List.getLast?_cons, List.getLast?_cons, hlast]

theorem frames_lineSpan {x : Token} {own content : List Token}
    (h : own.getLast? = content.getLast?) : Frames (x :: own) (lineSpan x.span content) where
  start_eq := rfl
  stop_eq := by
    rw [List.getLast?_cons, h, lineSpan]
    cases content.getLast? <;> rfl

theorem ItemLine.occupies {i : Item} (h : ItemLine fixities i s t) (hs : s.Ends) :
    ∃ own after, s.Reads (own ++ after) t ∧ ItemOccupies i own ∧ Layout after := by
  cases h with
  | declaration h hx ho hbody =>
    have hbuilt := ((Parser.expression_built fixities _).of_ok hbody).1 _ rfl
    obtain ⟨before, own, after, hr, hbefore, hbody, hafter⟩ := hbuilt.lies (h.ends hs)
    exact ⟨_, after, by simpa using h.trans hr, .declared hx ho hbefore hbody, hafter⟩
  | @data x _ _ _ _ h hx hline =>
    obtain ⟨own, after, hr, hlast, hafter⟩ := hline.exists_reads
    exact ⟨x :: own, after, h.trans hr, .deferred (.inl hx) (frames_lineSpan hlast), hafter⟩
  | @signature x c content _ _ _ h hx _ hline =>
    obtain ⟨own, after, hr, hlast, hafter⟩ := hline.exists_reads
    have hlast' : (c :: own).getLast? = (c :: content).getLast? := by
      rw [List.getLast?_cons, List.getLast?_cons, hlast]
    exact ⟨x :: c :: own, after, h.trans hr, .deferred (.inr hx) (frames_lineSpan hlast'), hafter⟩

theorem Lines.occupy {items : List Item} (h : Lines (ItemLine fixities) items s t) (hs : s.Ends) :
    ∃ own, s.Reads own t ∧ ItemsOccupy items own := by
  induction h with
  | nil => exact ⟨[], .refl _, .nil⟩
  | cons h hend hseparators _ ih =>
    obtain ⟨own, after, hr, hi, hafter⟩ := h.occupies hs
    obtain ⟨gap, hr', hgap⟩ := hend.exists_gap
    obtain ⟨gap', hr'', hgap'⟩ := exists_gap_of_reflTransGen Separator.exists_gap hseparators
    have hread := (hr.trans hr').trans hr''
    obtain ⟨more, hmore, hitems⟩ := ih (hread.ends hs)
    exact ⟨own ++ ((after ++ (gap ++ gap')) ++ more), by simpa using hread.trans hmore,
      .cons hi (hafter.gap.append (hgap.append hgap')) hitems⟩

/-! ### Header and imports -/

theorem matched_of_ofToken? {x : Token} {i : Identifier} (h : Identifier.ofToken? x = some i) :
    Matched [x] := by
  rw [Identifier.ofToken?] at h
  split at h
  · next hx => exact .single (by rw [hx]; rfl) (by rw [hx]; rfl)
  · cases h

theorem Names.exists_matched {is : List Identifier} (h : Names is s t) :
    ∃ own c, s.Reads (own ++ [c]) t ∧ Matched own ∧ c.kind = .symbol .closeRound := by
  induction h with
  | @last _ x c _ _ h hx hc => exact ⟨[x], c, h, matched_of_ofToken? hx, hc⟩
  | @cons _ _ x comma _ _ _ h hx hcomma _ ih =>
    obtain ⟨own, c, hr, hown, hc⟩ := ih
    have hcomma' : Matched [comma] := Matched.of_kind hcomma rfl rfl
    exact ⟨[x] ++ ([comma] ++ own), c, h.trans hr,
      (matched_of_ofToken? hx).append (hcomma'.append hown), hc⟩

theorem Bindings.exists_matched {is : List Identifier} (h : Bindings is s t) :
    ∃ own, s.Reads own t ∧ Matched own := by
  cases h with
  | empty h ho hc =>
    have hempty := Matched.nil.enclose ho hc rfl rfl
    exact ⟨_, h, hempty⟩
  | names h ho hnames =>
    obtain ⟨own, c, hr, hown, hc⟩ := hnames.exists_matched
    exact ⟨_, h.trans hr, hown.enclose ho hc rfl rfl⟩

theorem LocalName.exists_matched {i : Identifier} (h : LocalName i s t) :
    ∃ own, s.Reads own t ∧ Matched own := by
  cases h with
  | mk h ha hx => exact ⟨_, h, (Matched.of_kind ha rfl rfl).append (matched_of_ofToken? hx)⟩

theorem Optional.exists_matched {α : Type} {R : α → TokenStream → TokenStream → Prop}
    {a? : Option α} (hr : ∀ {a s t}, R a s t → ∃ own, s.Reads own t ∧ Matched own)
    (h : Optional R a? s t) :
    ∃ own, s.Reads own t ∧ Matched own := by
  cases h with
  | none => exact ⟨[], .refl s, .nil⟩
  | some h => exact hr h

theorem Header.exists_matched {name : Identifier} {exports : Option (List Identifier)}
    (h : Header name exports s t) : ∃ own, s.Reads own t ∧ Matched own := by
  cases h with
  | mk h hm hx hexports =>
    obtain ⟨own, hr, hown⟩ := hexports.exists_matched Bindings.exists_matched
    exact ⟨_, h.trans hr,
      ((Matched.of_kind hm rfl rfl).append (matched_of_ofToken? hx)).append hown⟩

theorem ImportLine.exists_matched {i : Import} (h : ImportLine i s t) :
    ∃ own, s.Reads own t ∧ Matched own := by
  cases h with
  | mk h hw hx hlocal hnames =>
    obtain ⟨own, hr, hown⟩ := hlocal.exists_matched LocalName.exists_matched
    obtain ⟨own', hr', hown'⟩ := hnames.exists_matched Bindings.exists_matched
    exact ⟨_, (h.trans hr).trans hr',
      (((Matched.of_kind hw rfl rfl).append (matched_of_ofToken? hx)).append hown).append hown'⟩

theorem Lines.exists_matched {imports : List Import} (h : Lines ImportLine imports s t) :
    ∃ own, s.Reads own t ∧ Matched own := by
  induction h with
  | nil => exact ⟨[], .refl _, .nil⟩
  | cons h hend hseparators _ ih =>
    obtain ⟨own, hr, hown⟩ := h.exists_matched
    obtain ⟨gap, hr', hgap⟩ := hend.exists_gap
    obtain ⟨gap', hr'', hgap'⟩ := exists_gap_of_reflTransGen Separator.exists_gap hseparators
    obtain ⟨more, hmore, hmatched⟩ := ih
    exact ⟨_, ((hr.trans hr').trans hr'').trans hmore,
      ((hown.append hgap.matched).append hgap'.matched).append hmatched⟩

/-! ### Modules -/

/-- A module is read from the tokens of its header and imports, whose brackets are matched, and
those of its items. -/
theorem IsModule.occupies {m : Module} (h : IsModule fixities m s t) (hs : s.Ends) :
    ∃ items front own, s.Reads (front ++ own) t ∧ Matched front ∧ ItemsOccupy items own ∧
      m.declarations = items.filterMap Item.declaration? ∧
      m.deferred = items.filterMap Item.deferred? := by
  cases h with
  | mk hblanks hheader hend hseparators himports hitems _ =>
    obtain ⟨gap, hr, hgap⟩ := exists_gap_of_reflTransGen Blank.exists_gap hblanks
    obtain ⟨head, hr₁, hhead⟩ := hheader.exists_matched
    obtain ⟨gap', hr₂, hgap'⟩ := hend.exists_gap
    obtain ⟨gap'', hr₃, hgap''⟩ := exists_gap_of_reflTransGen Separator.exists_gap hseparators
    obtain ⟨imports, hr₄, himports⟩ := himports.exists_matched
    have hfront := (((hr.trans hr₁).trans hr₂).trans hr₃).trans hr₄
    obtain ⟨own, hr₅, hown⟩ := hitems.occupy (hfront.ends hs)
    exact ⟨_, _, own, hfront.trans hr₅, (((hgap.matched.append hhead).append hgap'.matched).append
      hgap''.matched).append himports, hown, rfl, rfl⟩

end ModuleGrammar

end Frontend
