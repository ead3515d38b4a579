/-!
# Bytes as text

Bytes are read as UTF-8. `Text.ofBytes?` refuses bytes that are not well formed; `Text.ofBytesLossy`
puts the replacement character in the place of each longest ill-formed stretch that is the
beginning of a character, and of each other byte that has no place in a character.
-/

namespace Frontend.Text

/-- The bounds of the bytes that have to follow a first byte, and the bits that the first byte
contributes, or nothing if no character starts with the byte. -/
private def following (b : Nat) : Option (Nat × List (Nat × Nat)) :=
  if b < 0x80 then some (b, [])
  else if b < 0xC2 then none
  else if b < 0xE0 then some (b - 0xC0, [(0x80, 0xBF)])
  else if b = 0xE0 then some (0, [(0xA0, 0xBF), (0x80, 0xBF)])
  else if b = 0xED then some (0xD, [(0x80, 0x9F), (0x80, 0xBF)])
  else if b < 0xF0 then some (b - 0xE0, [(0x80, 0xBF), (0x80, 0xBF)])
  else if b = 0xF0 then some (0, [(0x90, 0xBF), (0x80, 0xBF), (0x80, 0xBF)])
  else if b < 0xF4 then some (b - 0xF0, [(0x80, 0xBF), (0x80, 0xBF), (0x80, 0xBF)])
  else if b = 0xF4 then some (4, [(0x80, 0x8F), (0x80, 0xBF), (0x80, 0xBF)])
  else none

/-- Read the bytes that follow a first byte as far as they are within their bounds. The code point
is missing if they are not. -/
private def follow (value : Nat) : List (Nat × Nat) → List UInt8 → Option Nat × List UInt8
  | [], bytes                           => (some value, bytes)
  | _ :: _, []                          => (none, [])
  | (low, high) :: bounds, byte :: rest =>
    if low ≤ byte.toNat && byte.toNat ≤ high then
      follow (value * 64 + byte.toNat % 64) bounds rest
    else (none, byte :: rest)

private theorem follow_length_le (value : Nat) (bounds : List (Nat × Nat)) (bytes : List UInt8) :
    (follow value bounds bytes).2.length ≤ bytes.length := by
  induction bounds generalizing value bytes with
  | nil => simp [follow]
  | cons bound bounds ih =>
    cases bytes with
    | nil => simp [follow]
    | cons byte rest =>
      simp only [follow]
      split
      · exact Nat.le_succ_of_le (ih _ _)
      · simp

/-- The characters that the bytes spell, with a gap for each ill-formed stretch. -/
def decode : List UInt8 → List (Option Char)
  | []           => []
  | byte :: rest =>
    match following byte.toNat with
    | none                 => none :: decode rest
    | some (value, bounds) =>
      ((follow value bounds rest).1.map Char.ofNat) :: decode (follow value bounds rest).2
termination_by bytes => bytes.length
decreasing_by
  · simp
  · exact Nat.lt_succ_of_le (follow_length_le _ _ _)

/-- The text that the bytes spell, unless they are ill-formed. -/
def ofBytes? (bytes : List UInt8) : Option String :=
  ((decode bytes).mapM id).map String.ofList

/-- The text that the bytes spell, with a replacement character in each gap. -/
def ofBytesLossy (bytes : List UInt8) : String :=
  String.ofList ((decode bytes).map fun c => c.getD '\ufffd')

end Frontend.Text
