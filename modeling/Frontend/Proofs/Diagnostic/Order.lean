import Frontend.Diagnostic.Basic
import Mathlib.Order.Compare

/-!
# The order of diagnostics

The parts that diagnostics are compared by are told apart by their orders, all but the path: paths
that differ in repeated separators or in single dots compare equal. So diagnostics that compare
equal are identical if their paths are.
-/

namespace Frontend

theorem compareOn_eq_eq {α β : Type} [Ord β] [Std.LawfulEqOrd β] {f : α → β} {a b : α} :
    compareOn f a b = .eq ↔ f a = f b := by
  rw [compareOn, Std.compare_eq_iff_eq]

section

variable {α : Type} {first second : α → α → Ordering} {a b : α}

theorem compareLex_of_lt (h : first a b = .lt) : compareLex first second a b = .lt := by
  rw [compareLex, h, Ordering.lt_then]

theorem compareLex_of_eq (h : first a b = .eq) : compareLex first second a b = second a b := by
  rw [compareLex, h, Ordering.eq_then]

end

/-! ### Ranks -/

/-- Each code is found by its number. -/
theorem ErrorCode.find?_number (c : ErrorCode) : all.find? (·.number == c.number) = some c := by
  cases c <;> rfl

instance : Std.LawfulEqOrd ErrorCode where
  eq_of_compare {c d} h := by
    have hnumber : c.number = d.number := compareOn_eq_eq.mp h
    have hfound := c.find?_number
    rw [hnumber, d.find?_number] at hfound
    exact (Option.some.inj hfound).symm

instance : Std.LawfulEqOrd Severity where
  eq_of_compare {s t} h := by
    have hrank : s.rank = t.rank := compareOn_eq_eq.mp h
    cases s <;> cases t <;> first | rfl | cases hrank

instance : Std.LawfulEqOrd Role where
  eq_of_compare {r s} h := by
    have hrank : r.rank = s.rank := compareOn_eq_eq.mp h
    cases r <;> cases s <;> first | rfl | cases hrank

instance : Std.LawfulEqOrd RemarkKind where
  eq_of_compare {k l} h := by
    have hrank : k.rank = l.rank := compareOn_eq_eq.mp h
    cases k <;> cases l <;> first | rfl | cases hrank

/-! ### Parts -/

instance : Std.LawfulEqOrd Position where
  eq_of_compare {p q} h := by
    obtain ⟨hoffset, h⟩ := compareLex_eq_eq.mp h
    obtain ⟨hline, hcolumn⟩ := compareLex_eq_eq.mp h
    cases p
    cases q
    rw [Position.mk.injEq]
    exact ⟨compareOn_eq_eq.mp hoffset, compareOn_eq_eq.mp hline, compareOn_eq_eq.mp hcolumn⟩

instance : Std.LawfulEqOrd Span where
  eq_of_compare {s t} h := by
    obtain ⟨hstart, hstop⟩ := compareLex_eq_eq.mp h
    cases s
    cases t
    rw [Span.mk.injEq]
    exact ⟨compareOn_eq_eq.mp hstart, compareOn_eq_eq.mp hstop⟩

instance : Std.LawfulEqOrd Highlight where
  eq_of_compare {g h} heq := by
    obtain ⟨hspan, heq⟩ := compareLex_eq_eq.mp heq
    obtain ⟨hrole, hlabel⟩ := compareLex_eq_eq.mp heq
    cases g
    cases h
    rw [Highlight.mk.injEq]
    exact ⟨compareOn_eq_eq.mp hspan, compareOn_eq_eq.mp hrole, compareOn_eq_eq.mp hlabel⟩

instance : Std.LawfulEqOrd Remark where
  eq_of_compare {r s} h := by
    obtain ⟨hkind, hmessage⟩ := compareLex_eq_eq.mp h
    cases r
    cases s
    rw [Remark.mk.injEq]
    exact ⟨compareOn_eq_eq.mp hkind, compareOn_eq_eq.mp hmessage⟩

instance : Std.LawfulEqOrd PathComponent where
  eq_of_compare {p q} h := by
    obtain ⟨hrank, hname⟩ := compareLex_eq_eq.mp h
    have hrank : p.rank = q.rank := compareOn_eq_eq.mp hrank
    have hname : p.name = q.name := compareOn_eq_eq.mp hname
    cases p <;> cases q <;> first | rfl | exact congrArg PathComponent.named hname | cases hrank

theorem Span.compare_lt {s t : Span} (h : s.start.offset < t.start.offset) :
    compare s t = .lt := by
  have hstart : compare s.start t.start = .lt := compareLex_of_lt (Nat.compare_eq_lt.mpr h)
  exact compareLex_of_lt hstart

/-! ### Diagnostics -/

namespace Diagnostic

variable {d e : Diagnostic}

/-- Diagnostics compare equal if their paths have the same parts and all else is the same. -/
theorem compare_eq_eq : compare d e = .eq ↔ d.pathComponents = e.pathComponents ∧
    d.highlights = e.highlights ∧ d.remarks = e.remarks ∧ d.code = e.code ∧
    d.message = e.message ∧ d.severity = e.severity := by
  rw [show compare d e = compareLex (compareOn pathComponents) (compareLex (compareOn highlights)
      (compareLex (compareOn remarks) (compareLex (compareOn code)
        (compareLex (compareOn message) (compareOn severity))))) d e from rfl]
  simp only [compareLex_eq_eq, compareOn_eq_eq]

/-- Diagnostics that name no path are in the order of the first places that they point to. -/
theorem compare_lt_of_highlights {g h : Highlight} {gs hs : List Highlight}
    (hd : d.highlights = g :: gs) (he : e.highlights = h :: hs) (hpath : d.path = none)
    (hpath' : e.path = none) (hlt : g.span.start.offset < h.span.start.offset) :
    compare d e = .lt := by
  have hcomponents : compareOn pathComponents d e = .eq := by
    rw [compareOn_eq_eq, pathComponents, pathComponents, hpath, hpath']
  have hfirst : compare g h = .lt := compareLex_of_lt (Span.compare_lt hlt)
  have hlists : compareOn highlights d e = .lt := by
    rw [compareOn, hd, he]
    change List.compareLex compare (g :: gs) (h :: hs) = .lt
    rw [List.compareLex_cons_cons, hfirst, Ordering.lt_then]
  exact (compareLex_of_eq hcomponents).trans (compareLex_of_lt hlists)

theorem eq_of_compare (h : compare d e = .eq) (hpath : d.path = e.path) : d = e := by
  obtain ⟨-, hhighlights, hremarks, hcode, hmessage, hseverity⟩ := compare_eq_eq.mp h
  cases d
  cases e
  rw [Diagnostic.mk.injEq]
  exact ⟨hseverity, hcode, hmessage, hpath, hhighlights, hremarks⟩

end Diagnostic

end Frontend
