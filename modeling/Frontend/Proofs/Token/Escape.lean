import Frontend.Proofs.Token.Rescanning
import Mathlib.Data.Nat.Digits.Defs

/-!
# What escape sequences stand for

`Escape.Denotes` lists the texts that stand for a character behind a backslash, and `Escape.Decodes`
says what is read behind a backslash: the sequence that stands there and its character, or else a
text that stands for itself. The numbers of code points are small enough for 32 bits at each of
their digits.
-/

namespace Frontend

namespace Escape

variable {named? : String → Option Char}

/-! ### Digits -/

/-- The character is a digit of the base, in the letters of either case. -/
def IsDigitOf (base : Nat) (c : Char) : Prop := ∃ d < base, c.toLower = Nat.digitChar d

/-- The digits are those of the number in the base, the most significant first. -/
def Spells (base : Nat) (digits : List Char) (n : Nat) : Prop :=
  ∃ values : List Nat, (∀ d ∈ values, d < base) ∧
    digits.map Char.toLower = values.map Nat.digitChar ∧ n = Nat.ofDigits base values.reverse

/-- What holds of the first code points, one by one, holds of every character with one of them. -/
theorem forall_of_toNat_lt {P : Char → Prop} {bound : Nat} (h : ∀ n < bound, P (Char.ofNat n))
    {c : Char} (hc : c.toNat < bound) : P c :=
  Char.ofNat_toNat c ▸ h c.toNat hc

theorem toNat_lt_of_toLower {c : Char} {d : Nat} (hd : d < 16) (h : c.toLower = Nat.digitChar d) :
    c.toNat < 128 := by
  have hdigits : ∀ d < 16, (Nat.digitChar d).toNat < 128 := by decide
  delta Char.toLower at h
  split at h
  · next hc =>
    have hle : c.toNat ≤ 90 := hc.2
    omega
  · rw [h]
    exact hdigits d hd

theorem digitValue_of_toLower {c : Char} {d : Nat} (hd : d < 16)
    (h : c.toLower = Nat.digitChar d) : digitValue c = d := by
  have hall : ∀ n < 128, ∀ d < 16, (Char.ofNat n).toLower = Nat.digitChar d →
      digitValue (Char.ofNat n) = d := by decide +kernel
  exact forall_of_toNat_lt (P := fun c => ∀ d < 16, c.toLower = Nat.digitChar d → digitValue c = d)
    hall (toNat_lt_of_toLower hd h) d hd h

theorem isHexDigit_iff {c : Char} : isHexDigit c ↔ IsDigitOf 16 c := by
  have hall : ∀ n < 128, isHexDigit (Char.ofNat n) ↔
      ∃ d < 16, (Char.ofNat n).toLower = Nat.digitChar d := by decide +kernel
  have hascii : c.toNat < 128 → (isHexDigit c ↔ IsDigitOf 16 c) :=
    forall_of_toNat_lt (P := fun c => isHexDigit c ↔ IsDigitOf 16 c) hall
  constructor
  · intro h
    refine (hascii ?_).mp h
    simp only [isHexDigit, Char.isDigit, Bool.or_eq_true, Bool.and_eq_true, decide_eq_true_eq] at h
    obtain ((h | h) | h) := h
    · exact Nat.lt_of_le_of_lt h.2 (by decide)
    · exact Nat.lt_of_le_of_lt h.2 (by decide)
    · exact Nat.lt_of_le_of_lt h.2 (by decide)
  · rintro ⟨d, hd, h⟩
    exact (hascii (toNat_lt_of_toLower hd h)).mpr ⟨d, hd, h⟩

theorem isOctalDigit_iff {c : Char} : isOctalDigit c ↔ IsDigitOf 8 c := by
  have hall : ∀ n < 128, isOctalDigit (Char.ofNat n) ↔
      ∃ d < 8, (Char.ofNat n).toLower = Nat.digitChar d := by decide +kernel
  have hascii : c.toNat < 128 → (isOctalDigit c ↔ IsDigitOf 8 c) :=
    forall_of_toNat_lt (P := fun c => isOctalDigit c ↔ IsDigitOf 8 c) hall
  constructor
  · intro h
    refine (hascii ?_).mp h
    simp only [isOctalDigit, Bool.and_eq_true, decide_eq_true_eq] at h
    exact Nat.lt_of_le_of_lt h.2 (by decide)
  · rintro ⟨d, hd, h⟩
    exact (hascii (toNat_lt_of_toLower (Nat.lt_trans hd (by decide)) h)).mpr ⟨d, hd, h⟩

theorem ofDigits_concat (base : Nat) (digits : List Char) (c : Char) :
    ofDigits base (digits ++ [c]) = base * ofDigits base digits + digitValue c := by
  simp [ofDigits]

theorem ofDigits_eq (base : Nat) (digits : List Char) :
    ofDigits base digits = Nat.ofDigits base (digits.map digitValue).reverse := by
  induction digits using List.reverseRecOn with
  | nil => rfl
  | append_singleton digits c ih =>
    rw [ofDigits_concat, ih, List.map_append, List.reverse_append]
    simp [Nat.ofDigits_cons, Nat.add_comm]

/-- Digits spell the number that is read of them, and no other one. -/
theorem spells_iff {base : Nat} (hbase : base ≤ 16) {digits : List Char} {n : Nat} :
    Spells base digits n ↔ (∀ c ∈ digits, IsDigitOf base c) ∧ ofDigits base digits = n := by
  constructor
  · rintro ⟨values, hvalues, hdigits, rfl⟩
    have hvalue : digits.map digitValue = values := by
      induction digits generalizing values with
      | nil => simpa using hdigits
      | cons c digits ih =>
        obtain ⟨d, values, rfl⟩ := List.exists_cons_of_ne_nil (l := values) (by
          rintro rfl
          simp at hdigits)
        obtain ⟨hc, hdigits⟩ := List.cons.inj hdigits
        obtain ⟨hd, hvalues⟩ := List.forall_mem_cons.mp hvalues
        rw [List.map_cons, ih values hvalues hdigits,
          digitValue_of_toLower (Nat.lt_of_lt_of_le hd hbase) hc]
    refine ⟨fun c hc => ?_, by rw [ofDigits_eq, hvalue]⟩
    have hmem : c.toLower ∈ values.map Nat.digitChar := hdigits ▸ List.mem_map_of_mem hc
    obtain ⟨d, hd, hchar⟩ := List.mem_map.mp hmem
    exact ⟨d, hvalues d hd, hchar.symm⟩
  · rintro ⟨hdigits, rfl⟩
    have hvalue : ∀ c ∈ digits, digitValue c < base ∧ c.toLower = Nat.digitChar (digitValue c) := by
      intro c hc
      obtain ⟨d, hd, hchar⟩ := hdigits c hc
      rw [digitValue_of_toLower (Nat.lt_of_lt_of_le hd hbase) hchar]
      exact ⟨hd, hchar⟩
    refine ⟨digits.map digitValue, ?_, ?_, ofDigits_eq base digits⟩
    · intro d hd
      obtain ⟨c, hc, rfl⟩ := List.mem_map.mp hd
      exact (hvalue c hc).1
    · rw [List.map_map]
      exact List.map_congr_left fun c hc => (hvalue c hc).2

theorem ofDigits_lt {base : Nat} (hbase : base ≤ 16) (hone : 1 < base) {digits : List Char}
    (h : ∀ c ∈ digits, IsDigitOf base c) : ofDigits base digits < base ^ digits.length := by
  rw [ofDigits_eq]
  refine Nat.lt_of_lt_of_eq (Nat.ofDigits_lt_base_pow_length hone ?_) (by simp)
  intro d hd
  obtain ⟨c, hc, rfl⟩ := List.mem_map.mp (List.mem_reverse.mp hd)
  obtain ⟨d, hd, hchar⟩ := h c hc
  rwa [digitValue_of_toLower (Nat.lt_of_lt_of_le hd hbase) hchar]

theorem scalar?_eq_some_iff {n : Nat} {v : Char} : scalar? n = some v ↔ v.toNat = n := by
  rw [scalar?]
  constructor
  · intro h
    split at h
    · next hn =>
      cases h
      rw [Char.ofNat, dif_pos hn]
      rfl
    · cases h
  · rintro rfl
    rw [if_pos (show v.toNat.isValidChar from v.valid), Char.ofNat_toNat]

/-! ### Sequences -/

/-- The sequences of one character and what they stand for. -/
def simpleSequences : List (Char × Char) :=
  [('a', '\x07'), ('b', '\x08'), ('e', '\x1b'), ('f', '\x0c'), ('n', '\n'), ('r', '\r'),
   ('s', ' '), ('t', '\t'), ('v', '\x0b'), ('$', '$'), ('\\', '\\'), ('\'', '\''), ('"', '"')]

/-- The markers of code points in hexadecimal digits, and how many digits each of them takes. -/
def hexMarkers : List (Char × Nat) := [('x', 2), ('u', 4), ('U', 8)]

/-- Before the text `rest`, the text behind a backslash stands for a character. -/
inductive Denotes (named? : String → Option Char) : List Char → List Char → Char → Prop
  | simple {c v : Char} {rest : List Char} (h : (c, v) ∈ simpleSequences) :
      Denotes named? [c] rest v
  | hex {marker v : Char} {size : Nat} {digits rest : List Char}
      (hmarker : (marker, size) ∈ hexMarkers) (hsize : digits.length = size)
      (hspells : Spells 16 digits v.toNat) : Denotes named? (marker :: digits) rest v
  /-- One to three octal digits, and fewer than three only where no further one follows. -/
  | octal {v : Char} {digits rest : List Char} (hne : digits ≠ []) (hsize : digits.length ≤ 3)
      (hend : digits.length = 3 ∨ ∀ c ∈ rest.head?, ¬ IsDigitOf 8 c)
      (hspells : Spells 8 digits v.toNat) : Denotes named? digits rest v
  | named {v : Char} {name rest : List Char}
      (hname : ∀ c ∈ name, c ≠ '\x7d' ∧ c ≠ '"' ∧ c ≠ '\'' ∧ c ≠ '\n')
      (hv : named? (String.ofList name) = some v) :
      Denotes named? ('N' :: '\x7b' :: name ++ ['\x7d']) rest v

theorem simple?_eq_some_iff {c v : Char} : simple? c = some v ↔ (c, v) ∈ simpleSequences := by
  constructor
  · intro h
    unfold simple? at h
    split at h
    all_goals first
      | cases h
        decide
      | cases h
  · intro h
    simp only [simpleSequences, List.mem_cons, List.not_mem_nil, or_false, Prod.mk.injEq] at h
    rcases h with h | h | h | h | h | h | h | h | h | h | h | h | h <;> rw [h.1, h.2] <;> rfl

theorem read_of_simple {c v : Char} (h : simple? c = some v) (rest : List Char) :
    read named? (c :: rest) = ⟨[c], some v⟩ := by
  simp only [read, h]

theorem read_of_hexMarker {marker : Char} {size : Nat} (h : (marker, size) ∈ hexMarkers)
    (rest : List Char) : read named? (marker :: rest) = readHex marker size rest := by
  simp only [hexMarkers, List.mem_cons, List.not_mem_nil, or_false, Prod.mk.injEq] at h
  rcases h with h | h | h <;> rw [h.1, h.2] <;> rfl

theorem read_of_isOctalDigit {c : Char} (h : isOctalDigit c) (rest : List Char) :
    read named? (c :: rest) = readOctal (c :: rest) := by
  have hascii : ∀ n < 128, isOctalDigit (Char.ofNat n) → simple? (Char.ofNat n) = none ∧
      Char.ofNat n ≠ 'N' ∧ Char.ofNat n ≠ 'x' ∧ Char.ofNat n ≠ 'u' ∧ Char.ofNat n ≠ 'U' := by
    decide +kernel
  obtain ⟨d, hd, hchar⟩ := isOctalDigit_iff.mp h
  obtain ⟨hsimple, hnamed, hx, hu, hU⟩ := forall_of_toNat_lt (P := fun c => isOctalDigit c →
    simple? c = none ∧ c ≠ 'N' ∧ c ≠ 'x' ∧ c ≠ 'u' ∧ c ≠ 'U') hascii
    (toNat_lt_of_toLower (Nat.lt_trans hd (by decide)) hchar) h
  simp only [read, hsimple, if_neg hnamed, if_neg hx, if_neg hu, if_neg hU, if_pos h]

/-- What is read behind a backslash, by what stands there. -/
theorem read_cases (named? : String → Option Char) (c : Char) (rest : List Char) :
    (∃ v, (c, v) ∈ simpleSequences ∧ read named? (c :: rest) = ⟨[c], some v⟩) ∨
      c = 'N' ∧ read named? (c :: rest) = readNamed named? rest ∨
      (∃ size, (c, size) ∈ hexMarkers ∧ read named? (c :: rest) = readHex c size rest) ∨
      isOctalDigit c ∧ read named? (c :: rest) = readOctal (c :: rest) ∨
      (read named? (c :: rest)).value? = none := by
  rw [read]
  cases hsimple : simple? c with
  | some v => exact .inl ⟨v, simple?_eq_some_iff.mp hsimple, rfl⟩
  | none =>
    right
    dsimp only
    split
    · next hc => exact .inl ⟨hc, rfl⟩
    split
    · next hc => exact .inr (.inl ⟨2, by simp [hexMarkers, hc], rfl⟩)
    split
    · next hc => exact .inr (.inl ⟨4, by simp [hexMarkers, hc], rfl⟩)
    split
    · next hc => exact .inr (.inl ⟨8, by simp [hexMarkers, hc], rfl⟩)
    split
    · next hc => exact .inr (.inr (.inl ⟨hc, rfl⟩))
    split <;> exact .inr (.inr (.inr rfl))

/-! ### Stretches of digits -/

/-- A stretch of at most `n` characters is read up to the `n`-th or up to another character. -/
theorem length_takeWhile_take {p : Char → Bool} (n : Nat) (ahead : List Char) :
    ((ahead.take n).takeWhile p).length = n ∨
      ∀ c ∈ (ahead.drop ((ahead.take n).takeWhile p).length).head?, p c = false := by
  induction n generalizing ahead with
  | zero => exact .inl (by simp)
  | succ n ih =>
    cases ahead with
    | nil => exact .inr (by simp)
    | cons c rest =>
      rw [List.take_succ_cons, List.takeWhile_cons]
      split
      · next hc => simpa using ih rest
      · next hc => exact .inr (by simpa using hc)

theorem takeWhile_take_append {p : Char → Bool} {n : Nat} {digits rest : List Char}
    (hdigits : ∀ c ∈ digits, p c) (hsize : digits.length ≤ n)
    (hend : digits.length = n ∨ ∀ c ∈ rest.head?, p c = false) :
    ((digits ++ rest).take n).takeWhile p = digits := by
  rw [List.take_append, List.take_of_length_le hsize]
  refine takeWhile_append_of_head? hdigits fun c hc => ?_
  rw [List.head?_take] at hc
  split at hc
  · cases hc
  · next hne => exact hend.resolve_left (by omega) c hc

theorem forall_mem_takeWhile_take {p : Char → Bool} (n : Nat) (ahead : List Char) :
    ∀ c ∈ (ahead.take n).takeWhile p, p c :=
  List.all_eq_true.mp List.all_takeWhile

/-! ### Reading a sequence -/

/-- A sequence that is read stands for its character. -/
theorem denotes_of_read {ahead : List Char} {v : Char}
    (h : (read named? ahead).value? = some v) :
    Denotes named? (read named? ahead).text (ahead.drop (read named? ahead).text.length) v := by
  cases ahead with
  | nil => cases h
  | cons c rest =>
    obtain ⟨w, hw, hread⟩ | ⟨rfl, hread⟩ | ⟨size, hmarker, hread⟩ | ⟨hc, hread⟩ | hnone :=
      read_cases named? c rest
    · rw [hread] at h ⊢
      cases h
      exact .simple hw
    · rw [hread] at h ⊢
      obtain hN | ⟨name, hname, hnamed⟩ := readNamed_cases named? rest
      · rw [hN] at h
        cases h
      · rw [hnamed] at h ⊢
        refine .named (fun c hc => ?_) h
        simpa [isNameChar, and_assoc] using hname c hc
    · rw [hread] at h ⊢
      rw [readHex] at h
      split at h
      · next hsize =>
        refine .hex hmarker hsize ((spells_iff (by decide)).mpr ⟨fun d hd => ?_, ?_⟩)
        · exact isHexDigit_iff.mp (forall_mem_takeWhile_take size rest d hd)
        · exact (scalar?_eq_some_iff.mp h).symm
      · cases h
    · rw [hread] at h ⊢
      have hdigits := forall_mem_takeWhile_take (p := isOctalDigit) 3 (c :: rest)
      refine .octal (by simp [readOctal, hc]) ?_ ?_ ((spells_iff (by decide)).mpr ⟨?_, ?_⟩)
      · exact Nat.le_trans (List.takeWhile_prefix _).length_le (List.length_take_le 3 _)
      · refine (length_takeWhile_take 3 (c :: rest)).imp id fun hend d hd => ?_
        rw [← isOctalDigit_iff, hend d hd]
        decide
      · exact fun d hd => isOctalDigit_iff.mp (hdigits d hd)
      · exact (scalar?_eq_some_iff.mp h).symm
    · rw [hnone] at h
      cases h

/-- A sequence that stands for a character is read where it stands. -/
theorem Denotes.read_eq {text rest : List Char} {v : Char} (h : Denotes named? text rest v) :
    read named? (text ++ rest) = ⟨text, some v⟩ := by
  cases h with
  | simple h => exact read_of_simple (simple?_eq_some_iff.mpr h) rest
  | @hex marker _ size digits _ hmarker hsize hspells =>
    obtain ⟨hdigits, hvalue⟩ := (spells_iff (by decide)).mp hspells
    have htake : ((digits ++ rest).take size).takeWhile isHexDigit = digits :=
      takeWhile_take_append (fun c hc => isHexDigit_iff.mpr (hdigits c hc)) (by omega) (.inl hsize)
    rw [List.cons_append, read_of_hexMarker hmarker, readHex, htake, if_pos hsize,
      scalar?_eq_some_iff.mpr hvalue.symm]
  | octal hne hsize hend hspells =>
    obtain ⟨hdigits, hvalue⟩ := (spells_iff (by decide)).mp hspells
    have htake : ((text ++ rest).take 3).takeWhile isOctalDigit = text := by
      refine takeWhile_take_append (fun c hc => isOctalDigit_iff.mpr (hdigits c hc)) hsize ?_
      refine hend.imp id fun hend c hc => ?_
      rw [← Bool.not_eq_true, isOctalDigit_iff]
      exact hend c hc
    obtain ⟨c, digits, rfl⟩ := List.exists_cons_of_ne_nil hne
    have hc : isOctalDigit c := isOctalDigit_iff.mpr (hdigits c List.mem_cons_self)
    rw [List.cons_append] at htake ⊢
    rw [read_of_isOctalDigit hc, readOctal, htake, scalar?_eq_some_iff.mpr hvalue.symm]
  | @named _ name _ hname hv =>
    have htake : (name ++ '\x7d' :: rest).takeWhile isNameChar = name := by
      refine takeWhile_append_of_head? (fun c hc => ?_) (by simp [isNameChar])
      simpa [isNameChar, and_assoc] using hname c hc
    have hread : read named? ('N' :: '\x7b' :: (name ++ '\x7d' :: rest)) =
        readNamed named? ('\x7b' :: (name ++ '\x7d' :: rest)) := rfl
    simp [hread, readNamed, htake, hv]

/-! ### Code points -/

/-- The digits of a sequence that is written by a code point, and their base. -/
inductive Numeral : List Char → Nat → List Char → Prop
  | hex {marker : Char} {size : Nat} {digits : List Char} (hmarker : (marker, size) ∈ hexMarkers) :
      Numeral (marker :: digits) 16 digits
  | octal {c : Char} {digits : List Char} (hc : IsDigitOf 8 c) :
      Numeral (c :: digits) 8 (c :: digits)

/-- The digits that are read are digits of their base, and they are few. -/
theorem Numeral.of_read {ahead digits : List Char} {base : Nat}
    (h : Numeral (read named? ahead).text base digits) :
    (∀ c ∈ digits, IsDigitOf base c) ∧
      (base = 16 ∧ digits.length ≤ 8 ∨ base = 8 ∧ digits.length ≤ 3) := by
  have hlies : Lies ahead (read named? ahead).text := lies_read ahead
  obtain ⟨rest, hrest⟩ := hlies.1
  generalize htext : (read named? ahead).text = text at h hrest
  subst hrest
  cases h with
  | @hex marker size digits hmarker =>
    have hsize : size ≤ 8 := by
      have hall : ∀ m ∈ hexMarkers, m.2 ≤ 8 := by decide
      exact hall _ hmarker
    rw [List.cons_append, read_of_hexMarker hmarker] at htext
    obtain ⟨-, hdigits⟩ := List.cons.inj htext
    rw [← hdigits]
    refine ⟨fun c hc => isHexDigit_iff.mp (forall_mem_takeWhile_take size _ c hc), .inl ⟨rfl, ?_⟩⟩
    have hlength := (List.takeWhile_prefix (p := isHexDigit)
      (l := (digits ++ rest).take size)).length_le
    exact Nat.le_trans hlength (Nat.le_trans (List.length_take_le size _) hsize)
  | @octal c digits hc =>
    rw [List.cons_append, read_of_isOctalDigit (isOctalDigit_iff.mpr hc)] at htext
    rw [← htext]
    refine ⟨fun d hd => isOctalDigit_iff.mp (forall_mem_takeWhile_take 3 _ d hd), .inr ⟨rfl, ?_⟩⟩
    have hlength := (List.takeWhile_prefix (p := isOctalDigit)
      (l := (c :: (digits ++ rest)).take 3)).length_le
    exact Nat.le_trans hlength (List.length_take_le 3 _)

/-- No part of the digits that are read spells a number beyond 32 bits. -/
theorem Numeral.ofDigits_lt {ahead digits part : List Char} {base : Nat}
    (h : Numeral (read named? ahead).text base digits) (hpart : part <+: digits) :
    ofDigits base part < 2 ^ 32 := by
  obtain ⟨hdigits, hsize⟩ := h.of_read
  have hparts : ∀ c ∈ part, IsDigitOf base c := fun c hc => hdigits c (hpart.subset hc)
  have hlength := hpart.length_le
  obtain ⟨rfl, hsize⟩ | ⟨rfl, hsize⟩ := hsize
  · have hlt := Escape.ofDigits_lt (by decide) (by decide) hparts
    have hpow := Nat.pow_le_pow_right (show 0 < 16 by decide) (Nat.le_trans hlength hsize)
    exact Nat.lt_of_lt_of_le hlt hpow
  · have hlt := Escape.ofDigits_lt (by decide) (by decide) hparts
    have hpow := Nat.pow_le_pow_right (show 0 < 8 by decide) (Nat.le_trans hlength hsize)
    exact Nat.lt_of_lt_of_le hlt (Nat.le_trans hpow (by decide))

/-- The octal digits that are read always spell the code point of a character. -/
theorem Numeral.exists_char {ahead digits : List Char}
    (h : Numeral (read named? ahead).text 8 digits) : ∃ v : Char, v.toNat = ofDigits 8 digits := by
  obtain ⟨hdigits, ⟨hbase, -⟩ | ⟨-, hsize⟩⟩ := h.of_read
  · cases hbase
  · have hlt := Escape.ofDigits_lt (by decide) (by decide) hdigits
    have hpow := Nat.pow_le_pow_right (show 0 < 8 by decide) hsize
    have hvalid : (ofDigits 8 digits).isValidChar := .inl (Nat.lt_of_lt_of_le hlt
      (Nat.le_trans hpow (by decide)))
    exact ⟨Char.ofNat _, scalar?_eq_some_iff.mp (if_pos hvalid)⟩

/-! ### Decoding -/

/-- What is read of a text that starts with a backslash: the sequence `sequence`, for which a
literal holds `content`. -/
structure Decodes (named? : String → Option Char) (text sequence rest content : List Char) :
    Prop where
  text_eq : text = sequence ++ rest
  backslash : sequence.head? = some '\\'
  line : '\n' ∉ sequence
  /-- A sequence that stands for a character is decoded. -/
  decoded : ∀ v, Denotes named? sequence.tail rest v → content = [v]
  /-- All others are kept as they are written. -/
  verbatim : (∀ v, ¬ Denotes named? sequence.tail rest v) → content = sequence
  /-- What stands for a character behind the backslash is read to its end. -/
  whole : ∀ tail rest' v, text = '\\' :: (tail ++ rest') → Denotes named? tail rest' v →
    sequence = '\\' :: tail
  /-- Reading code points digit by digit never exceeds 32 bits, -/
  small : ∀ base digits part, Numeral sequence.tail base digits → part <+: digits →
    ofDigits base part < 2 ^ 32
  /-- and octal code points are always those of characters. -/
  scalar : ∀ digits, Numeral sequence.tail 8 digits → ∃ v : Char, v.toNat = ofDigits 8 digits

/-- What is read behind a backslash is decoded if it stands for a character, and kept otherwise. -/
theorem decodes_read (named? : String → Option Char) (ahead : List Char) :
    Decodes named? ('\\' :: ahead) ('\\' :: (read named? ahead).text)
      (ahead.drop (read named? ahead).text.length) (read named? ahead).content := by
  obtain ⟨hlies, hline⟩ : Lies ahead (read named? ahead).text := lies_read ahead
  have hahead : ahead = (read named? ahead).text ++ ahead.drop (read named? ahead).text.length :=
    (List.prefix_iff_eq_append.mp hlies).symm
  exact
    { text_eq := congrArg ('\\' :: ·) hahead
      backslash := rfl
      line := List.not_mem_cons_of_ne_of_not_mem (by decide) hline
      decoded := fun v h => by
        have hread := h.read_eq
        rw [List.tail_cons, ← hahead] at hread
        rw [content, congrArg Escape.value? hread]
      verbatim := fun h => by
        cases hvalue : (read named? ahead).value? with
        | none => rw [content, hvalue]
        | some v => exact absurd (denotes_of_read hvalue) (h v)
      whole := fun tail rest' v htext h => by
        obtain ⟨-, rfl⟩ := List.cons.inj htext
        rw [h.read_eq]
      small := fun _ _ _ h hpart => h.ofDigits_lt hpart
      scalar := fun _ h => h.exists_char }

end Escape

/-- At every backslash in a text or a character literal a sequence is read on one line. The literal
holds the character that the sequence stands for, or else the sequence as it is written. -/
theorem exists_escape_decodes (named? : String → Option Char) (ahead : List Char) :
    ∃ sequence rest content, Escape.Decodes named? ('\\' :: ahead) sequence rest content ∧
      Segment.read named? ('\\' :: ahead) =
        ⟨sequence ++ (Segment.read named? rest).text, content ++ (Segment.read named? rest).content,
          (Segment.read named? rest).ending⟩ ∧
      CharacterBody.read? named? ('\\' :: ahead) = some ⟨sequence, content⟩ := by
  refine ⟨_, _, _, Escape.decodes_read named? ahead, ?_, ?_⟩
  · rw [Segment.read, if_neg (by decide), if_neg (by decide), if_pos rfl]
  · rw [CharacterBody.read?, if_pos rfl]

end Frontend
