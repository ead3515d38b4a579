/-!
# Ordered lists without duplicates

A list in strictly increasing order stands for a set. Inserting keeps the order, and keeps the
element that is there if an equal one is inserted.
-/

namespace Frontend.OrderedList

variable {α : Type} [Ord α]

/-- Every element comes before all later ones. -/
def Increasing (as : List α) : Prop := as.Pairwise fun a b => compare a b = .lt

/-- Insert an element at its place, unless there is an equal one. -/
def insert (a : α) : List α → List α
  | []      => [a]
  | b :: bs =>
    match compare a b with
    | .lt => a :: b :: bs
    | .eq => b :: bs
    | .gt => b :: insert a bs

/-- Insert elements one after the other. -/
def insertAll (as : List α) (new : List α) : List α := new.foldl (fun as a => insert a as) as

/-- The elements of a list in order. -/
def ofList (as : List α) : List α := insertAll [] as

/-! ### Order -/

/-- Inserting brings in no other element. -/
theorem mem_of_mem_insert {a x : α} {as : List α} (h : x ∈ insert a as) : x = a ∨ x ∈ as := by
  induction as with
  | nil => exact Or.inl (by simpa [insert] using h)
  | cons b bs ih =>
    unfold insert at h
    split at h
    · rcases List.mem_cons.mp h with rfl | h
      · exact Or.inl rfl
      · exact Or.inr h
    · exact Or.inr h
    · rcases List.mem_cons.mp h with rfl | h
      · exact Or.inr (List.mem_cons_self ..)
      · exact (ih h).imp id (List.mem_cons_of_mem b)

variable [Std.TransOrd α]

/-- Inserting keeps the order. -/
theorem increasing_insert {a : α} {as : List α} (h : Increasing as) : Increasing (insert a as) := by
  induction as with
  | nil => exact List.pairwise_singleton _ a
  | cons b bs ih =>
    have hb := List.pairwise_cons.mp h
    unfold insert
    split
    · next hab =>
      refine List.pairwise_cons.mpr ⟨fun x hx => ?_, h⟩
      rcases List.mem_cons.mp hx with rfl | hx
      · exact hab
      · exact Std.TransCmp.lt_trans hab (hb.1 x hx)
    · exact h
    · next hab =>
      refine List.pairwise_cons.mpr ⟨fun x hx => ?_, ih hb.2⟩
      rcases mem_of_mem_insert hx with rfl | hx
      · exact Std.OrientedCmp.lt_of_gt hab
      · exact hb.1 x hx

/-- The elements of any list in order are in order. -/
theorem increasing_ofList (as : List α) : Increasing (ofList as) := by
  unfold ofList insertAll
  suffices ∀ set : List α, Increasing set → Increasing (as.foldl (fun as a => insert a as) set) from
    this [] List.Pairwise.nil
  induction as with
  | nil => exact fun _ h => h
  | cons a as ih => exact fun set h => ih _ (increasing_insert h)

end Frontend.OrderedList
