import Frontend.Proofs.Grammar.ModuleOccupation

/-!
# The names of modules

The names in the header and in the imports of a module are those of identifiers in the stream that
the module is read from (`IsModule.ahead`).
-/

namespace Frontend

namespace ModuleGrammar

variable {s t : TokenStream} {i : Identifier}

/-- The identifier is one of the tokens ahead. -/
def Ahead (s : TokenStream) (i : Identifier) : Prop :=
  ∃ x ∈ s.ahead, Identifier.ofToken? x = some i

theorem Ahead.of_reads {own : List Token} (hi : Ahead t i) (h : s.Reads own t) : Ahead s i := by
  obtain ⟨x, hx, hname⟩ := hi
  exact ⟨x, h.ahead ▸ List.mem_append_right own hx, hname⟩

theorem ahead_of_reads {own : List Token} (h : s.Reads own t) {x : Token} (hx : x ∈ own)
    (hname : Identifier.ofToken? x = some i) : Ahead s i :=
  ⟨x, h.ahead ▸ List.mem_append_left _ hx, hname⟩

theorem Names.ahead {is : List Identifier} (h : Names is s t) : ∀ i ∈ is, Ahead s i := by
  induction h with
  | last h hx _ => exact List.forall_mem_singleton.mpr (ahead_of_reads h List.mem_cons_self hx)
  | cons h hx _ _ ih =>
    exact List.forall_mem_cons.mpr ⟨ahead_of_reads h List.mem_cons_self hx,
      fun i hi => (ih i hi).of_reads h⟩

theorem Bindings.ahead {is : List Identifier} (h : Bindings is s t) : ∀ i ∈ is, Ahead s i := by
  cases h with
  | empty _ _ _ => nofun
  | names h _ hnames => exact fun i hi => (hnames.ahead i hi).of_reads h

/-- The names in something that may be left out. -/
theorem Optional.ahead {α : Type} {R : α → TokenStream → TokenStream → Prop}
    {P : TokenStream → α → Prop} (hR : ∀ {a s t}, R a s t → P s a) {a? : Option α}
    (h : Optional R a? s t) : ∀ a ∈ a?, P s a := by
  cases h with
  | none => nofun
  | some h =>
    rintro _ ⟨⟩
    exact hR h

theorem LocalName.ahead (h : LocalName i s t) : Ahead s i := by
  cases h with
  | mk h _ hx => exact ahead_of_reads h (List.mem_cons_of_mem _ List.mem_cons_self) hx

theorem Header.ahead {name : Identifier} {exports : Option (List Identifier)}
    (h : Header name exports s t) :
    Ahead s name ∧ ∀ is ∈ exports, ∀ i ∈ is, Ahead s i := by
  cases h with
  | mk h _ hx hexports =>
    have hnames := hexports.ahead (P := fun s is => ∀ i ∈ is, Ahead s i) Bindings.ahead
    exact ⟨ahead_of_reads h (List.mem_cons_of_mem _ List.mem_cons_self) hx,
      fun is his i hi => (hnames is his i hi).of_reads h⟩

/-- The names in an import are those of identifiers ahead. -/
structure ImportAhead (s : TokenStream) (i : Import) : Prop where
  source : Ahead s i.source
  localName : Ahead s i.localName
  bindings : ∀ b ∈ i.bindings, Ahead s b

theorem ImportAhead.of_reads {own : List Token} {i : Import} (hi : ImportAhead t i)
    (h : s.Reads own t) : ImportAhead s i where
  source := hi.source.of_reads h
  localName := hi.localName.of_reads h
  bindings b hb := (hi.bindings b hb).of_reads h

theorem ImportLine.ahead {i : Import} (h : ImportLine i s t) : ImportAhead s i := by
  cases h with
  | @mk w x source localName? names? s t u v h hw hx hlocal hnames =>
    have hsource : Ahead s source :=
      ahead_of_reads h (List.mem_cons_of_mem _ List.mem_cons_self) hx
    have hlocal' := hlocal.ahead (P := Ahead) LocalName.ahead
    have hnames' := hnames.ahead (P := fun s is => ∀ i ∈ is, Ahead s i) Bindings.ahead
    obtain ⟨own, hr, -⟩ := hlocal.exists_matched LocalName.exists_matched
    refine ⟨hsource, ?_, ?_⟩
    · cases localName? with
      | none => exact hsource
      | some i => exact (hlocal' i rfl).of_reads h
    · cases names? with
      | none => nofun
      | some is => exact fun b hb => (hnames' is rfl b hb).of_reads (h.trans hr)

theorem Lines.ahead {imports : List Import} (h : Lines ImportLine imports s t) :
    ∀ i ∈ imports, ImportAhead s i := by
  induction h with
  | nil => nofun
  | cons h hend hseparators _ ih =>
    obtain ⟨own, hr, -⟩ := h.exists_matched
    obtain ⟨gap, hr', -⟩ := hend.exists_gap
    obtain ⟨gap', hr'', -⟩ := exists_gap_of_reflTransGen Separator.exists_gap hseparators
    exact List.forall_mem_cons.mpr
      ⟨h.ahead, fun i hi => (ih i hi).of_reads ((hr.trans hr').trans hr'')⟩

/-- The names in the header and in the imports of a module are those of identifiers ahead. -/
theorem IsModule.ahead {fixities : FixityTable} {m : Module} (h : IsModule fixities m s t) :
    Ahead s m.name ∧ (∀ is ∈ m.exports, ∀ i ∈ is, Ahead s i) ∧
      ∀ i ∈ m.imports, ImportAhead s i := by
  cases h with
  | mk hblanks hheader hend hseparators himports _ _ =>
    obtain ⟨gap, hr, -⟩ := exists_gap_of_reflTransGen Blank.exists_gap hblanks
    obtain ⟨head, hr₁, -⟩ := hheader.exists_matched
    obtain ⟨gap', hr₂, -⟩ := hend.exists_gap
    obtain ⟨gap'', hr₃, -⟩ := exists_gap_of_reflTransGen Separator.exists_gap hseparators
    obtain ⟨hname, hexports⟩ := hheader.ahead
    exact ⟨hname.of_reads hr, fun is his i hi => (hexports is his i hi).of_reads hr,
      fun i hi => (himports.ahead i hi).of_reads (((hr.trans hr₁).trans hr₂).trans hr₃)⟩

end ModuleGrammar

end Frontend
