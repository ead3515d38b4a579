import Frontend.Proofs.Tree.Outline

/-!
# Reading the outlines of modules

Names are not quoted in outlines, and a name that no line feed is in can be read again. So a module
is known from its outline, but for the spans of the tokens that are factors in the bodies of its
declarations (`tellsApart_ofModule`).
-/

namespace Frontend

/-! ### What is shown -/

/-- The declaration with the tokens of all factors moved to the start of the text. -/
def Declaration.withoutTokenSpans (d : Declaration) : Declaration :=
  ⟨d.binder, d.body.withoutTokenSpans⟩

/-- The module with the tokens of all factors moved to the start of the text. -/
def Module.withoutTokenSpans (m : Module) : Module :=
  { m with declarations := m.declarations.map Declaration.withoutTokenSpans }

/-- There is no line feed in the name. -/
def Identifier.OnOneLine (i : Identifier) : Prop := '\n' ∉ i.name.toList

/-- There is no line feed in the names of an import. -/
structure Import.OnOneLine (i : Import) : Prop where
  source : i.source.OnOneLine
  localName : i.localName.OnOneLine
  bindings : ∀ b ∈ i.bindings, b.OnOneLine

/-- There is no line feed in the name and in what is written for the tokens of the body. -/
structure Declaration.OnOneLine (d : Declaration) : Prop where
  binder : d.binder.OnOneLine
  body : d.body.Everywhere Expression.OnOneLine

/-- There is no line feed in the names of a module and in what is written for the tokens of its
expressions. -/
structure Module.OnOneLine (m : Module) : Prop where
  name : m.name.OnOneLine
  exports : ∀ is ∈ m.exports, ∀ i ∈ is, i.OnOneLine
  imports : ∀ i ∈ m.imports, i.OnOneLine
  declarations : ∀ d ∈ m.declarations, d.OnOneLine

namespace Outline

variable {depth : Nat}

/-! ### Lines -/

theorem tellsApart_ofIdentifier (depth : Nat) {i j : Identifier} (hi : i.OnOneLine)
    (hj : j.OnOneLine) : TellsApart depth (ofIdentifier i) (ofIdentifier j) (i = j) := by
  have hline {i : Identifier} (hi : i.OnOneLine) : '\n' ∉ characters (ofIdentifier i) := by
    have hspan : '\n' ∉ i.span.inspect.toList := Span.not_mem_inspect (by decide) (by decide) _
    have hname : '\n' ∉ i.name.toList := hi
    simp [ofIdentifier, hspan, hname]
  refine (TellsApart.line (hline hi) (hline hj)).imp ?_
  intro h
  simp only [ofIdentifier, characters_append, characters_ofSpan, characters_verbatim] at h
  obtain ⟨hspan, hname⟩ := Text.append_inj_of_head? ' '
    (Span.not_mem_inspect (by decide) (by decide) _)
    (Span.not_mem_inspect (by decide) (by decide) _) (by simp) (by simp) h
  obtain ⟨name, span⟩ := i
  obtain ⟨name', span'⟩ := j
  obtain rfl : span = span' := Span.inspect_injective (String.toList_inj.mp hspan)
  obtain rfl : name = name' := String.toList_inj.mp (List.cons.inj hname).2
  rfl

theorem tellsApart_ofDeferred (depth : Nat) (d d' : Deferred) :
    TellsApart depth (ofDeferred d) (ofDeferred d') (d = d') := by
  have hline (d : Deferred) : '\n' ∉ characters (ofDeferred d) := by
    refine lineFeed_not_mem_line d.span _ ?_
    cases d.kind <;> decide
  refine (TellsApart.line (hline d) (hline d')).imp ?_
  intro h
  simp only [ofDeferred, characters_append, characters_ofSpan, characters_text, characters_name,
    List.append_assoc] at h
  obtain ⟨hspan, hkind⟩ := Text.append_inj_of_head? ' '
    (Span.not_mem_inspect (by decide) (by decide) _)
    (Span.not_mem_inspect (by decide) (by decide) _) (by simp) (by simp) h
  obtain ⟨kind, span⟩ := d
  obtain ⟨kind', span'⟩ := d'
  obtain rfl : span = span' := Span.inspect_injective (String.toList_inj.mp hspan)
  obtain rfl : kind = kind' := by
    cases kind <;> cases kind' <;> first | rfl | simp [DeferredKind.label] at hkind
  rfl

/-! ### Lists -/

/-- Lists of identifiers. -/
theorem tellsApart_identifiers {is js : List Identifier} (his : ∀ i ∈ is, i.OnOneLine)
    (hjs : ∀ j ∈ js, j.OnOneLine) :
    TellsApart depth (ofList (fun _ => ofIdentifier) depth is)
      (ofList (fun _ => ofIdentifier) depth js) (is = js) :=
  tellsApart_ofList_eq (fun _ => ofIdentifier) fun i hi j hj =>
    tellsApart_ofIdentifier _ (his i hi) (hjs j hj)

/-- A module that exports everything is told apart from one that exports nothing. -/
theorem tellsApart_ofExports {is? js? : Option (List Identifier)}
    (his : ∀ is ∈ is?, ∀ i ∈ is, i.OnOneLine) (hjs : ∀ js ∈ js?, ∀ j ∈ js, j.OnOneLine) :
    TellsApart depth (ofExports depth is?) (ofExports depth js?) (is? = js?) := by
  cases is? with
  | none =>
    cases js? with
    | none => exact fun r s _ _ heq => ⟨rfl, List.append_cancel_left heq⟩
    | some js =>
      intro r s _ _ heq
      cases js <;> simp [ofExports, ofList, numbered, characters_field] at heq
  | some is =>
    cases js? with
    | none =>
      intro r s _ _ heq
      cases is <;> simp [ofExports, ofList, numbered, characters_field] at heq
    | some js =>
      refine (tellsApart_identifiers (his is rfl) (hjs js rfl)).imp ?_
      rintro rfl
      rfl

/-! ### Modules -/

/-- A title in the place of a line. -/
theorem tellsApart_name {title : String} (htitle : '\n' ∉ title.toList) :
    TellsApart depth (name title) (name title) True := by
  refine (TellsApart.line ?_ ?_).imp fun _ => trivial
  all_goals simpa using htitle

theorem tellsApart_ofImport {i j : Import} (hi : i.OnOneLine) (hj : j.OnOneLine) :
    TellsApart (deeper depth) (ofImport depth i) (ofImport depth j) (i = j) := by
  refine ((((tellsApart_name (by decide)).field (by decide)
    (tellsApart_ofIdentifier _ hi.source hj.source)).field (by decide)
    (tellsApart_ofIdentifier _ hi.localName hj.localName)).field (by decide)
    (tellsApart_identifiers hi.bindings hj.bindings)).imp ?_
  rintro ⟨⟨⟨-, hsource⟩, hlocal⟩, hbindings⟩
  cases i
  cases j
  simp_all

theorem tellsApart_ofDeclaration {d d' : Declaration} (hd : d.OnOneLine) (hd' : d'.OnOneLine) :
    TellsApart (deeper depth) (ofDeclaration depth d) (ofDeclaration depth d')
      (d.withoutTokenSpans = d'.withoutTokenSpans) := by
  refine (((tellsApart_name (by decide)).field (by decide)
    (tellsApart_ofIdentifier _ hd.binder hd'.binder)).field (by decide)
    ((toldApart hd.body hd'.body).body _)).imp ?_
  rintro ⟨⟨-, hbinder⟩, hbody⟩
  rw [Declaration.withoutTokenSpans, Declaration.withoutTokenSpans, hbinder, hbody]

/-- Modules are told apart by their outlines, but for the spans of the tokens that are factors. -/
theorem tellsApart_ofModule {m m' : Module} (hm : m.OnOneLine) (hm' : m'.OnOneLine) :
    TellsApart (deeper depth) (ofModule depth m) (ofModule depth m')
      (m.withoutTokenSpans = m'.withoutTokenSpans) := by
  have himports : TellsApart (deeper depth) (ofList ofImport (deeper depth) m.imports)
      (ofList ofImport (deeper depth) m'.imports) (m.imports = m'.imports) :=
    tellsApart_ofList_eq ofImport fun i hi j hj =>
      (tellsApart_ofImport (hm.imports i hi) (hm'.imports j hj)).of_le (Nat.le_add_right _ 4)
  have hdeclarations : TellsApart (deeper depth)
      (ofList ofDeclaration (deeper depth) m.declarations)
      (ofList ofDeclaration (deeper depth) m'.declarations)
      (m.declarations.map Declaration.withoutTokenSpans =
        m'.declarations.map Declaration.withoutTokenSpans) :=
    tellsApart_ofList ofDeclaration _ fun d hd d' hd' =>
      (tellsApart_ofDeclaration (hm.declarations d hd) (hm'.declarations d' hd')).of_le
        (Nat.le_add_right _ 4)
  have hdeferred : TellsApart (deeper depth)
      (ofList (fun _ => ofDeferred) (deeper depth) m.deferred)
      (ofList (fun _ => ofDeferred) (deeper depth) m'.deferred) (m.deferred = m'.deferred) :=
    tellsApart_ofList_eq (fun _ => ofDeferred) fun d _ d' _ => tellsApart_ofDeferred _ d d'
  refine ((((((tellsApart_name (by decide)).field (by decide)
    (tellsApart_ofIdentifier _ hm.name hm'.name)).field (by decide)
    (tellsApart_ofExports hm.exports hm'.exports)).field (by decide) himports).field (by decide)
    hdeclarations).field (by decide) hdeferred).imp ?_
  rintro ⟨⟨⟨⟨⟨-, hname⟩, hexports⟩, himports⟩, hdeclarations⟩, hdeferred⟩
  simp only [Module.withoutTokenSpans, hname, hexports, himports, hdeclarations, hdeferred]

/-! ### What is not shown -/

theorem numbered_map {α β : Type} (body : β → Painting) (f : α → β) (i : Nat) (as : List α) :
    numbered body depth i (as.map f) = numbered (fun a => body (f a)) depth i as := by
  induction as generalizing i with
  | nil => rfl
  | cons a as ih => rw [List.map_cons, numbered, numbered, ih]

theorem ofList_map {α β : Type} (body : Nat → β → Painting) (f : α → β) (as : List α) :
    ofList body depth (as.map f) = ofList (fun depth a => body depth (f a)) depth as := by
  cases as with
  | nil => rfl
  | cons a as => exact numbered_map _ f 0 (a :: as)

/-- Where the tokens that are factors were read is not shown. -/
theorem ofModule_withoutTokenSpans (depth : Nat) (m : Module) :
    ofModule depth m.withoutTokenSpans = ofModule depth m := by
  have hdeclaration (depth : Nat) (d : Declaration) :
      ofDeclaration depth d.withoutTokenSpans = ofDeclaration depth d := by
    simp only [ofDeclaration, Declaration.withoutTokenSpans, ofExpression_withoutTokenSpans]
  simp only [ofModule, Module.withoutTokenSpans, ofList_map, hdeclaration]

end Outline

end Frontend
