import Frontend.Text.Split

/-!
# Common subsequences

The longest common subsequence of two lists, by the usual table of the lengths for their initial
parts. Of several longest ones the way back through the table decides.
-/

namespace Frontend.Difference

variable {α : Type} [DecidableEq α]

/-- The row of the table for one more element of the first list. The cells to the left and
diagonally above are given, and the row above. -/
def tableRow (a : α) : (diagonal left : Nat) → (second : List α) → (above : List Nat) → List Nat
  | _, _, [], _                  => []
  | diagonal, left, b :: bs, row =>
    let above := row.headD 0
    let cell := if a = b then diagonal + 1 else max left above
    cell :: tableRow a above cell bs row.tail

/-- The rows of the table below a given one. -/
def tableRows (second : List α) : (above : List Nat) → (first : List α) → List (List Nat)
  | _, []          => []
  | above, a :: as =>
    let row := tableRow a 0 0 second above
    row :: tableRows second row as

/-- The cells of the table, row by row. -/
def table (first second : List α) : Array Nat := (tableRows second [] first).flatten.toArray

/-- The way back through the table from the cell of the first `i` and `j` elements. Where the
elements differ, it goes to the left if the cell there is larger than the one above. In the first
column the cell to the left is the last one of the row above. -/
def walk (first second : Array α) (cells : Array Nat) (i j : Nat) (found : List α) : List α :=
  match i, j with
  | 0, _         => found
  | _, 0         => found
  | i + 1, j + 1 =>
    match first[i]?, second[j]? with
    | some a, some b =>
      if a = b then walk first second cells i j (a :: found)
      else if i = 0 ∧ j = 0 then found
      else if i = 0 ∨ cells.getD (i * second.size + j - 1) 0 >
          cells.getD ((i - 1) * second.size + j) 0 then
        walk first second cells (i + 1) j found
      else walk first second cells i (j + 1) found
    | _, _           => found
termination_by i + j

/-- A longest common subsequence. -/
def common (first second : List α) : List α :=
  walk first.toArray second.toArray (table first second) first.length second.length []

end Frontend.Difference
