/-!
# Durations

A duration is shown in the largest unit that it reaches: seconds, milliseconds, microseconds or
nanoseconds, with the digits of the fraction up to the last one that is not zero.
-/

namespace Frontend

/-- A length of time. -/
structure Duration where
  nanoseconds : Nat
deriving DecidableEq, Repr

namespace Duration

/-- The digits of a fraction with a given number of places, behind a dot. A fraction of zero has
none. -/
def fraction (places value : Nat) : String :=
  let digits := Nat.toDigits 10 value
  let padded := List.replicate (places - digits.length) '0' ++ digits
  let kept := (padded.reverse.dropWhile (· == '0')).reverse
  if kept.isEmpty then "" else "." ++ String.ofList kept

/-- A unit of time: its sign, its length in nanoseconds, and how many places of a fraction of it the
nanoseconds are. -/
structure TimeUnit where
  sign : String
  size : Nat
  places : Nat
deriving DecidableEq, Repr

/-- The units longer than a nanosecond, the longest first. -/
def longUnits : List TimeUnit := [⟨"s", 1000000000, 9⟩, ⟨"ms", 1000000, 6⟩, ⟨"µs", 1000, 3⟩]

/-- A duration in the largest unit that it reaches. -/
def display (d : Duration) : String :=
  match longUnits.find? (·.size ≤ d.nanoseconds) with
  | some u =>
    toString (d.nanoseconds / u.size) ++ fraction u.places (d.nanoseconds % u.size) ++ u.sign
  | none   => toString d.nanoseconds ++ "ns"

end Duration

end Frontend
