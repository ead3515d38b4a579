import Frontend.Proofs.Check.Fault
import Frontend.Proofs.Token.Legible

/-!
# What a check reports

A file that cannot be read has one diagnostic, an error. A module has a warning for each of its
items that is not read. These items follow one another in the text and none of them is empty, so
that the warnings are in order: none of them is lost, and they are listed as the items are.
-/

namespace Frontend

/-! ### Words take up space -/

/-- The text of a word that starts an item which is not read. -/
theorem TokenKind.StartsDeferred.text_ne_nil {named? : String → Option Char} {k : TokenKind}
    {text : List Char} (h : k.StartsDeferred) (hlegible : k.Legible named?)
    (hspelled : k.SpelledBy text) : text ≠ [] := by
  rcases h with rfl | h
  · rw [show text = _ from hspelled]
    decide
  · obtain ⟨name, rfl⟩ := isIdentifier_iff.mp h
    obtain ⟨k, c, tail, -, hname⟩ := hlegible
    have hword : name = String.ofList (c :: tail) := by
      rcases wordKind_cases k (String.ofList (c :: tail)) with ⟨s, -, -, hk⟩ | hk | hk
      all_goals
        rw [hk] at hname
        cases hname
      rfl
    rw [show text = _ from hspelled, hword, String.toList_ofList]
    exact List.cons_ne_nil c tail

section

variable {named? : String → Option Char} {source : String} {tokens : List Token}
  {fixities : FixityTable} {m : Module}

theorem offset_lt_of_startsDeferred (h : lexWith named? source = .ok tokens) {x : Token}
    (hx : x ∈ tokens) (hk : x.kind.StartsDeferred) :
    x.span.start.offset < x.span.stop.offset := by
  obtain ⟨hcut, -⟩ := cut_of_lexWith h
  obtain ⟨before, after, htokens⟩ := List.append_of_mem hx
  obtain ⟨text, rest, ⟨read, -, hspan⟩, hspelled, -⟩ := hcut.slice htokens
  have htext := hk.text_ne_nil ((legible_of_lexWith h).1 x hx) hspelled
  rw [hspan]
  exact Position.offset_lt_after htext _

/-- An item that is not read is not empty. -/
theorem Deferred.offset_lt_of_lexWith (h : lexWith named? source = .ok tokens)
    (hm : parseModule tokens fixities = .ok m) {d : Deferred} (hd : d ∈ m.deferred) :
    d.span.start.offset < d.span.stop.offset := by
  have hs := orderly_of_lexWith h
  obtain ⟨x, line, hx, hline, hframes⟩ := exists_line_of_parseModule hs hm hd
  have hword := offset_lt_of_startsDeferred h (hline.subset List.mem_cons_self) hx
  have hstart : x.span.start = d.span.start := by simpa using hframes.start_eq
  have hstop := hframes.le_stop (hs.inOrder.of_infix hline) List.mem_cons_self
  have hle := Position.offset_le_of_le hstop
  rw [hstart] at hword
  omega

/-- The items that are not read start one behind the other. -/
theorem Module.deferred_pairwise_of_lexWith (h : lexWith named? source = .ok tokens)
    (hm : parseModule tokens fixities = .ok m) :
    m.deferred.Pairwise fun a b => a.span.start.offset < b.span.start.offset := by
  have happart := (placedIn_of_parseModule (orderly_of_lexWith h) hm).deferredApart
  refine (List.pairwise_map.mp happart).imp_of_mem ?_
  -- Items may touch one another, so that the first of them has to take up space.
  intro a b ha _ hab
  have hlt := Deferred.offset_lt_of_lexWith h hm ha
  have hle := Position.offset_le_of_le hab
  omega

end

/-! ### Warnings -/

/-- Warnings are in the order of the places where their items start. -/
theorem Deferred.compare_diagnostic_lt {a b : Deferred}
    (h : a.span.start.offset < b.span.start.offset) :
    compare a.diagnostic b.diagnostic = .lt :=
  Diagnostic.compare_lt_of_highlights rfl rfl rfl rfl h

theorem Module.increasing_warnings {m : Module}
    (h : m.deferred.Pairwise fun a b => a.span.start.offset < b.span.start.offset) :
    OrderedList.Increasing m.warnings :=
  List.pairwise_map.mpr (h.imp Deferred.compare_diagnostic_lt)

/-- A diagnostic that warns of an item which is not read, and of nothing else. -/
structure Deferred.WarnedBy (item : Deferred) (d : Diagnostic) : Prop where
  severity_eq : d.severity = .warning
  code_eq : d.code = none
  spans_eq : d.highlights.map (·.span) = [item.span]

theorem Deferred.warnedBy_diagnostic (item : Deferred) : item.WarnedBy item.diagnostic :=
  ⟨rfl, rfl, rfl⟩

/-- No diagnostic of a file is lost, and they are found in order. -/
theorem SourceFile.diagnostics_eq_reported (file : SourceFile) (fixities : FixityTable) :
    file.diagnostics fixities = reported (file.check fixities) := by
  rw [diagnostics]
  have hchecks := file.check_checks fixities
  generalize file.check fixities = result at hchecks ⊢
  cases hchecks with
  | lexical _ => rfl
  | syntactic _ _ _ => rfl
  | accepted hlex hparse =>
    exact (Module.increasing_warnings (Module.deferred_pairwise_of_lexWith hlex hparse)).ofList_eq

/-! ### The theorem -/

/-- The diagnostics tell what a check has found: an error, and nothing else, or a warning for each
of the items of the module that are not read, one behind the other as the items are in the text. -/
inductive Tells : List Diagnostic → Except Diagnostic Checked → Prop
  | error {d : Diagnostic} {span : Span} (h : d.IsErrorAt span) : Tells [d] (.error d)
  | warnings {ds : List Diagnostic} {c : Checked}
      (hwarned : List.Forall₂ Deferred.WarnedBy c.module.deferred ds)
      (hlength : ds.length = c.module.deferred.length)
      (horder : c.module.deferred.Pairwise fun a b => a.span.start.offset < b.span.start.offset) :
      Tells ds (.ok c)

/-- The diagnostics of a file tell what its check finds. -/
theorem SourceFile.tells_check (file : SourceFile) (fixities : FixityTable) :
    Tells (file.diagnostics fixities) (file.check fixities) := by
  rw [diagnostics_eq_reported]
  have hchecks := file.check_checks fixities
  generalize file.check fixities = result at hchecks ⊢
  cases hchecks with
  | lexical hlex => exact .error (LexicalError.isErrorAt _)
  | syntactic hlex hparse he => exact .error (SyntaxError.isErrorAt _)
  | @accepted tokens m hlex hparse =>
    have horder := Module.deferred_pairwise_of_lexWith hlex hparse
    rw [reported, Module.warnings]
    refine .warnings ?_ (List.length_map _) horder
    rw [List.forall₂_map_right_iff, List.forall₂_same]
    intro item _
    exact item.warnedBy_diagnostic

end Frontend
