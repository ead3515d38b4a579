import Frontend.Diagnostic.Snippet
import Frontend.Proofs.Paint.Plain
import Frontend.Tree.Outline

/-!
# What is painted in colours

The outlines of expressions and modules and the texts of diagnostics set no style that they do not
unset again. Colours thus make no difference to what they say (`Painting.ColorBlind`).
-/

namespace Frontend

/-! ### Outlines -/

namespace Outline

open Painting (WellNested)

theorem wellNested_name (title : String) : WellNested (name title) := .styledText _ title

theorem wellNested_special (word : String) : WellNested (special word) := .styledText _ word

theorem wellNested_verbatim (t : String) : WellNested (verbatim t) := .styledText _ _

theorem wellNested_ofSpan (s : Span) : WellNested (ofSpan s) := .styledText _ _

theorem wellNested_field (depth : Nat) (title : String) {body : Painting} (h : WellNested body) :
    WellNested (field depth title body) :=
  .append (.append (.append (.text _) (.styledText _ title)) (.text _)) h

theorem wellNested_numbered {α : Type} {body : α → Painting} (depth n : Nat) (as : List α)
    (h : ∀ a, WellNested (body a)) : WellNested (numbered body depth n as) := by
  induction as generalizing n with
  | nil => exact .nil
  | cons a as ih => exact .append (wellNested_field depth _ (h a)) (ih (n + 1))

theorem wellNested_ofList {α : Type} {body : Nat → α → Painting} (depth : Nat) (as : List α)
    (h : ∀ depth a, WellNested (body depth a)) : WellNested (ofList body depth as) := by
  rw [ofList]
  split
  · exact wellNested_special _
  · exact wellNested_numbered _ 0 as (h _)

theorem wellNested_ofKind (k : TokenKind) : WellNested (ofKind k) := by
  cases k with
  | lineBreak | endOfInput => exact wellNested_name _
  | _ => exact .append (wellNested_name _) (wellNested_verbatim _)

/-- A span and what stands behind it. -/
theorem wellNested_behindSpan (s : Span) {body : Painting} (h : WellNested body) :
    WellNested (ofSpan s ++ Painting.text " " ++ body) :=
  .append (.append (wellNested_ofSpan s) (.text _)) h

theorem wellNested_ofToken (t : Token) : WellNested (ofToken t) :=
  wellNested_behindSpan t.span (wellNested_ofKind t.kind)

mutual

theorem wellNested_ofExpression (depth : Nat) (e : Expression) :
    WellNested (ofExpression depth e) := by
  match e with
  | .factor token span =>
    rw [ofExpression]
    exact wellNested_behindSpan span (wellNested_ofKind token.kind)
  | .application callee argument span =>
    rw [ofExpression]
    exact .append (.append (wellNested_behindSpan span (wellNested_name _))
      (wellNested_field _ _ (wellNested_ofExpression _ callee)))
      (wellNested_field _ _ (wellNested_ofExpression _ argument))
  | .operation operator left right span =>
    rw [ofExpression]
    exact .append (.append (.append (wellNested_behindSpan span (wellNested_name _))
      (wellNested_field _ _ (wellNested_ofToken operator)))
      (wellNested_field _ _ (wellNested_ofExpression _ left)))
      (wellNested_field _ _ (wellNested_ofExpression _ right))
  | .tuple elements span | .list elements span | .interpolation elements span =>
    rw [ofExpression]
    exact .append (wellNested_behindSpan span (wellNested_name _))
      (wellNested_field _ _ (wellNested_ofExpressions _ elements))

theorem wellNested_ofExpressions (depth : Nat) (es : List Expression) :
    WellNested (ofExpressions depth es) := by
  match es with
  | [] => exact wellNested_special _
  | e :: es =>
    rw [ofExpressions]
    exact .append (wellNested_field _ _ (wellNested_ofExpression _ e))
      (wellNested_numberedExpressions _ 1 es)

theorem wellNested_numberedExpressions (depth n : Nat) (es : List Expression) :
    WellNested (numberedExpressions depth n es) := by
  match es with
  | [] => exact .nil
  | e :: es =>
    rw [numberedExpressions]
    exact .append (wellNested_field _ _ (wellNested_ofExpression _ e))
      (wellNested_numberedExpressions _ (n + 1) es)

end

theorem wellNested_ofIdentifier (i : Identifier) : WellNested (ofIdentifier i) :=
  .append (wellNested_ofSpan i.span) (wellNested_verbatim i.name)

theorem wellNested_ofImport (depth : Nat) (i : Import) : WellNested (ofImport depth i) :=
  .append (.append (.append (wellNested_name _)
    (wellNested_field _ _ (wellNested_ofIdentifier i.source)))
    (wellNested_field _ _ (wellNested_ofIdentifier i.localName)))
    (wellNested_field _ _ (wellNested_ofList _ i.bindings fun _ => wellNested_ofIdentifier))

theorem wellNested_ofDeclaration (depth : Nat) (d : Declaration) :
    WellNested (ofDeclaration depth d) :=
  .append (.append (wellNested_name _) (wellNested_field _ _ (wellNested_ofIdentifier d.binder)))
    (wellNested_field _ _ (wellNested_ofExpression _ d.body))

theorem wellNested_ofDeferred (d : Deferred) : WellNested (ofDeferred d) :=
  wellNested_behindSpan d.span (wellNested_name _)

theorem wellNested_ofExports (depth : Nat) (exports : Option (List Identifier)) :
    WellNested (ofExports depth exports) := by
  cases exports with
  | none => exact wellNested_special _
  | some names => exact wellNested_ofList _ names fun _ => wellNested_ofIdentifier

theorem wellNested_ofModule (depth : Nat) (m : Module) : WellNested (ofModule depth m) :=
  .append (.append (.append (.append (.append (wellNested_name _)
    (wellNested_field _ _ (wellNested_ofIdentifier m.name)))
    (wellNested_field _ _ (wellNested_ofExports _ m.exports)))
    (wellNested_field _ _ (wellNested_ofList _ m.imports wellNested_ofImport)))
    (wellNested_field _ _ (wellNested_ofList _ m.declarations wellNested_ofDeclaration)))
    (wellNested_field _ _ (wellNested_ofList _ m.deferred fun _ => wellNested_ofDeferred))

end Outline

/-! ### Diagnostics -/

namespace Snippet

open Painting (WellNested)

theorem wellNested_bar (padding : Nat) : WellNested (bar padding) :=
  .append (.text _) (.styledText _ _)

theorem wellNested_painting (padding : Nat) (name : String) (main : Style) (s : Snippet) :
    WellNested (s.painting padding name main) := by
  have hlocation : WellNested (s.location padding name) := .append (.text _) (.styledText _ _)
  have hsource : WellNested (s.source padding) :=
    .append (.append (.text _) (.styledText _ _)) (.text _)
  have hcaret : WellNested (s.caret padding main) :=
    .append (wellNested_bar padding) (.styledText _ _)
  exact .append (.append (.append hlocation (wellNested_bar padding)) hsource) hcaret

end Snippet

namespace Diagnostic

open Painting (WellNested)

theorem wellNested_headline (d : Diagnostic) : WellNested d.headline := by
  have hcode : WellNested ((d.code.map fun c =>
      Painting.styledText d.severity.style ("[" ++ c.label ++ "]")).getD []) := by
    cases d.code with
    | none => exact .nil
    | some c => exact .styledText _ _
  have hmessage : WellNested ((d.message.map fun m =>
      Painting.text ": " ++ Painting.styledText (.ofEffects .boldOnly) m).getD []) := by
    cases d.message with
    | none => exact .nil
    | some m => exact .append (.text _) (.styledText _ _)
  exact .append (.append (.styledText _ _) hcode) hmessage

theorem wellNested_pathRow (padding : Nat) (file : Option SourceFile) (d : Diagnostic) :
    WellNested (d.pathRow padding file) := by
  rw [pathRow]
  split
  · split
    · exact .nil
    · exact .append (.text _) (.styledText _ _)
  · exact .nil

theorem wellNested_remarkRow (padding : Nat) (r : Remark) : WellNested (remarkRow padding r) :=
  .append (.append (.append (.text _) (.styledText _ _)) (.styledText _ _)) (.text _)

theorem wellNested_painting (measure : List Char → Nat) (file : Option SourceFile)
    (d : Diagnostic) : WellNested (d.painting measure file) := by
  rw [painting]
  refine .append (.append (.append (.append (wellNested_headline d) (wellNested_pathRow _ file d))
    (.flatMap _ fun s _ => Snippet.wellNested_painting _ _ _ s)) ?_)
    (.flatMap _ fun r _ => wellNested_remarkRow _ r)
  split
  · exact .nil
  · exact Snippet.wellNested_bar _

end Diagnostic

/-! ### Colours -/

/-- Colours change nothing about the painting but how it looks. -/
structure Painting.ColorBlind (p : Painting) : Prop where
  /-- Every style that is set is unset. -/
  nested : p.WellNested
  /-- Whatever styles a painter has set before, it has set afterwards. -/
  restores : ∀ painter : Painter, (painter.run p).1 = painter
  /-- If no escape character is written in it, then erasing the escape sequences from what a painter
  makes of it gives what it is without colours. -/
  erases : (∀ t, .write t ∈ p → '\x1b' ∉ t.toList) →
    ∀ painter : Painter, Text.eraseSequences (painter.paint p).toList = (p.toText .never).toList

theorem Painting.not_mem_plain {p : Painting} {c : Char} (h : ∀ t, .write t ∈ p → c ∉ t.toList) :
    c ∉ p.plain.toList := by
  induction p with
  | nil => simp [plain]
  | cons i is ih =>
    rw [plain_cons, String.toList_append, List.mem_append, not_or]
    refine ⟨?_, ih fun t ht => h t (List.mem_cons_of_mem i ht)⟩
    cases i with
    | write t => exact h t List.mem_cons_self
    | set _ | unset => simp [Instruction.written]

theorem Painting.WellNested.colorBlind {p : Painting} (h : p.WellNested) : p.ColorBlind where
  nested := h
  restores := h.run_fst
  erases hwrite painter := by
    have hplain : p.toText .never = p.plain := toText_eq_plain (by decide) p
    rw [hplain]
    exact painter.eraseSequences_paint (not_mem_plain hwrite)

/-- Colours change nothing about the outlines of expressions and modules, and nothing about
diagnostics, but how they look. -/
theorem colorBlind_outlines_diagnostics :
    (∀ depth e, (Outline.ofExpression depth e).ColorBlind) ∧
      (∀ depth m, (Outline.ofModule depth m).ColorBlind) ∧
        ∀ measure file d, (Diagnostic.painting measure file d).ColorBlind :=
  ⟨fun depth e => (Outline.wellNested_ofExpression depth e).colorBlind,
    fun depth m => (Outline.wellNested_ofModule depth m).colorBlind,
    fun measure file d => (d.wellNested_painting measure file).colorBlind⟩

/-- An escape character in a text literal is written by its code point. -/
example :
    let element := Expression.factor ⟨.text "\x1b[0m", .origin⟩ .origin
    let outline := Outline.ofExpression 0 (.list [element] .origin)
    let plain := "0@0:0..0@0:0 List\n    elements: \n        0: 0@0:0..0@0:0 Text " ++
      "\"\\u\x7b1b\x7d[0m\""
    outline.toText .never = plain ∧ outline.toText .always ≠ plain ∧
      Text.eraseSequences (outline.toText .always).toList = plain.toList := by
  decide +kernel

end Frontend
