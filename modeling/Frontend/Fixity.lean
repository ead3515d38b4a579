/-!
# Fixities

The fixity of an operator says how tightly it binds and how it associates. A table gives the
fixities of operators by name; an operator that it does not name binds tightest and to the left.
-/

namespace Frontend

/-- How operators of one precedence are grouped. -/
inductive Associativity where
  | left
  | right
  /-- The operator cannot be chained without brackets. -/
  | none
deriving DecidableEq, Repr

namespace Associativity

/-- The associativities in the order of their declaration. -/
def all : List Associativity := [.left, .right, .none]

/-- The word for an associativity in exact forms. -/
def label : Associativity → String
  | .left  => "Left"
  | .right => "Right"
  | .none  => "None"

/-- The keyword that declares operators of the associativity. -/
def keyword : Associativity → String
  | .left  => "infixl"
  | .right => "infixr"
  | .none  => "infix"

end Associativity

/-! ### Fixities of operators -/

/-- The precedence, from zero (loosest) to nine (tightest), and the associativity of an operator. -/
structure Fixity where
  precedence : Fin 10
  associativity : Associativity
deriving DecidableEq, Repr

/-- A precedence beyond nine. -/
inductive FixityError where
  | precedenceOutOfRange
deriving DecidableEq, Repr

/-- The wording of an error in a fixity. -/
def FixityError.message : FixityError → String
  | .precedenceOutOfRange => "precedence out of range"

namespace Fixity

/-- The tightest precedence. -/
def maxPrecedence : Nat := 9

/-- The fixity of an operator that is in no table. -/
def fallback : Fixity := ⟨9, .left⟩

/-- The fixity of a precedence, which must not be beyond nine. -/
def ofNat (precedence : Nat) (associativity : Associativity) : Except FixityError Fixity :=
  if h : precedence < 10 then .ok ⟨⟨precedence, h⟩, associativity⟩
  else .error .precedenceOutOfRange

/-- The declaration of a fixity. -/
def display (f : Fixity) : String :=
  f.associativity.keyword ++ " " ++ toString f.precedence.val

end Fixity

/-! ### Tables -/

/-- The fixities of operators by name. -/
structure FixityTable where
  entries : List (String × Fixity)
deriving DecidableEq, Repr

namespace FixityTable

/-- The table that names no operator. -/
def empty : FixityTable := ⟨[]⟩

/-- The fixity of an operator, if the table names it. -/
def find? (t : FixityTable) (operator : String) : Option Fixity :=
  (t.entries.find? (·.1 == operator)).map (·.2)

/-- The fixity of an operator. -/
def get (t : FixityTable) (operator : String) : Fixity := (t.find? operator).getD .fallback

/-- Set the fixity of an operator. -/
def insert (t : FixityTable) (operator : String) (f : Fixity) : FixityTable :=
  ⟨(operator, f) :: t.entries.filter (·.1 != operator)⟩

/-- Set the fixities of several operators in order, later entries over earlier ones. -/
def insertAll (t : FixityTable) :
    List (String × Nat × Associativity) → Except FixityError FixityTable
  | []                                            => .ok t
  | (operator, precedence, associativity) :: rest =>
    match Fixity.ofNat precedence associativity with
    | .ok f    => (t.insert operator f).insertAll rest
    | .error e => .error e

/-- The customary fixities of common operators. -/
def standard : FixityTable :=
  ⟨[("$", ⟨0, .right⟩), ("||", ⟨2, .right⟩), ("&&", ⟨3, .right⟩), ("==", ⟨4, .none⟩),
    ("/=", ⟨4, .none⟩), ("<", ⟨4, .none⟩), ("<=", ⟨4, .none⟩), (">", ⟨4, .none⟩),
    (">=", ⟨4, .none⟩), ("++", ⟨5, .right⟩), ("+", ⟨6, .left⟩), ("-", ⟨6, .left⟩),
    ("*", ⟨7, .left⟩), ("/", ⟨7, .left⟩), ("^", ⟨8, .right⟩), (".", ⟨9, .right⟩)]⟩

/-! ### Looking up -/

theorem get_empty (operator : String) : empty.get operator = .fallback := rfl

/-- What is found of an operator after another one has been inserted is what was found before. -/
theorem find?_insert_of_ne {a b : String} (h : b ≠ a) (t : FixityTable) (f : Fixity) :
    (t.insert a f).find? b = t.find? b := by
  have hskip (p : String × Fixity) :
      decide ((p.1 != a) = true ∧ (p.1 == b) = true) = (p.1 == b) := by
    by_cases hp : p.1 = b
    · simp [hp, h]
    · simp [hp]
  have ha : (a == b) = false := by simpa using Ne.symm h
  unfold find? insert
  rw [List.find?_cons_of_neg (by simp [ha]), List.find?_filter]
  exact congrArg (fun q => (t.entries.find? q).map (·.2)) (funext hskip)

/-- An operator has the fixity that was inserted last. -/
theorem find?_insert_self (t : FixityTable) (a : String) (f : Fixity) :
    (t.insert a f).find? a = some f := by
  simp [find?, insert]

/-- An inserted operator has its new fixity, and all others keep theirs. -/
theorem get_insert (t : FixityTable) (a b : String) (f : Fixity) :
    (t.insert a f).get b = if b = a then f else t.get b := by
  unfold get
  by_cases h : b = a
  · subst h
    rw [find?_insert_self, if_pos rfl, Option.getD_some]
  · rw [find?_insert_of_ne h, if_neg h]

end FixityTable

end Frontend
