import Mathlib.Data.List.TakeWhile
import Mathlib.Data.Nat.Digits.Defs
import Mathlib.Data.Rat.Defs
import Mathlib.Algebra.Order.Field.Rat
import Mathlib.Data.List.Induction
import Mathlib.Tactic.Ring

/-!
# Unsigned decimal numerals

A decimal numeral with an optional fraction and an optional exponent,
`(?:[0-9]+(?:\.[0-9]*)?|\.[0-9]+)(?:[eE][+-]?[0-9]+)?`: its parts, its text, the
number it denotes, and a reader.

`Numeral.read_text` says that the reader returns the numeral whose text it was
given, so the text of a numeral denotes one number.
-/

namespace HandLab.Lib

/-- A run of ASCII digits. -/
@[ext] structure Digits where
  chars : List Char
  isDigit : ∀ c ∈ chars, c.isDigit = true

namespace Digits

/-- The number that digits denote, the last of them the ones. -/
def value (digits : Digits) : ℕ :=
  Nat.ofDigits 10 (digits.chars.reverse.map fun c => c.toNat - 48)

/-- The digits at the front of a text. -/
def front (text : List Char) : Digits :=
  ⟨text.takeWhile Char.isDigit, fun _ => List.mem_takeWhile_imp⟩

/-- What follows the digits at the front of a text. -/
def behind (text : List Char) : List Char := text.dropWhile Char.isDigit

/-- A text that does not go on with a digit. -/
def NoDigit (text : List Char) : Prop := ∀ c ∈ text.head?, c.isDigit = false

theorem front_append_behind (text : List Char) : (front text).chars ++ behind text = text :=
  List.takeWhile_append_dropWhile

/-- A run of digits is all of the digits at the front, if no digit follows. -/
theorem front_append (digits : Digits) {rest : List Char} (h : NoDigit rest) :
    front (digits.chars ++ rest) = digits ∧ behind (digits.chars ++ rest) = rest := by
  have hfront : rest.takeWhile Char.isDigit = [] ∧ rest.dropWhile Char.isDigit = rest := by
    cases rest with
    | nil => exact ⟨rfl, rfl⟩
    | cons c rest =>
      have hc := h c rfl
      exact ⟨List.takeWhile_cons_of_neg (by simp [hc]), List.dropWhile_cons_of_neg (by simp [hc])⟩
  constructor
  · ext1
    show (digits.chars ++ rest).takeWhile Char.isDigit = digits.chars
    rw [List.takeWhile_append_of_pos digits.isDigit, hfront.1, List.append_nil]
  · unfold behind
    rw [List.dropWhile_append_of_pos digits.isDigit, hfront.2]

/-- The digits read from the left, as `int` reads them. -/
theorem foldl_eq_value (digits : Digits) :
    digits.chars.foldl (fun n c => n * 10 + (c.toNat - 48)) 0 = digits.value := by
  unfold value
  induction digits.chars using List.reverseRecOn with
  | nil => rfl
  | append_singleton chars c ih =>
    rw [List.foldl_append, List.foldl_cons, List.foldl_nil, ih, List.reverse_append,
      List.reverse_singleton, List.singleton_append, List.map_cons, Nat.ofDigits_cons]
    ring

/-- Zeros before the digits. -/
def padded (zeros : ℕ) (digits : Digits) : Digits where
  chars := List.replicate zeros '0' ++ digits.chars
  isDigit c hc := by
    rcases List.mem_append.mp hc with h | h
    · rw [List.eq_of_mem_replicate h]
      rfl
    · exact digits.isDigit c h

theorem padded_value (zeros : ℕ) (digits : Digits) : (padded zeros digits).value = digits.value := by
  have hzeros : ∀ n : ℕ,
      (List.replicate n '0').foldl (fun n c => n * 10 + (c.toNat - 48)) 0 = 0 := by
    intro n
    induction n with
    | zero => rfl
    | succ n ih => exact ih
  rw [← foldl_eq_value, ← foldl_eq_value]
  show (List.replicate zeros '0' ++ digits.chars).foldl _ 0 = _
  rw [List.foldl_append, hzeros]

end Digits

/-! ## The exponent -/

/-- The sign of an exponent. -/
inductive Sign
  | absent | plus | minus
  deriving DecidableEq, Repr

namespace Sign

/-- The text of a sign. -/
def text : Sign → List Char
  | absent => []
  | plus => ['+']
  | minus => ['-']

/-- The number of a sign and digits. -/
def apply : Sign → ℕ → ℤ
  | absent, n => n
  | plus, n => n
  | minus, n => -n

/-- The sign at the front of a text, and what follows. -/
def read : List Char → Sign × List Char
  | '+' :: rest => (plus, rest)
  | '-' :: rest => (minus, rest)
  | rest => (absent, rest)

theorem read_text (text : List Char) : (read text).1.text ++ (read text).2 = text := by
  unfold read
  split <;> rfl

theorem read_append (sign : Sign) (digits : Digits) :
    read (sign.text ++ digits.chars) = (sign, digits.chars) := by
  cases sign with
  | plus => rfl
  | minus => rfl
  | absent =>
    unfold read
    split
    · next rest h =>
      have hplus := digits.isDigit '+' (by rw [show digits.chars = _ from h]; exact .head _)
      exact absurd hplus (by decide)
    · next rest h =>
      have hminus := digits.isDigit '-' (by rw [show digits.chars = _ from h]; exact .head _)
      exact absurd hminus (by decide)
    · rfl

end Sign

/-- `[eE][+-]?[0-9]+` -/
@[ext] structure Exponent where
  letter : Char
  sign : Sign
  digits : Digits
  isLetter : letter = 'e' ∨ letter = 'E'
  nonempty : digits.chars ≠ []

namespace Exponent

/-- The text of an exponent. -/
def text (exponent : Exponent) : List Char :=
  exponent.letter :: (exponent.sign.text ++ exponent.digits.chars)

/-- The power of ten. -/
def value (exponent : Exponent) : ℤ := exponent.sign.apply exponent.digits.value

/-- The exponent of a letter and the text after it. -/
def ofLetter? (letter : Char) (rest : List Char) : Option Exponent :=
  if h : (letter = 'e' ∨ letter = 'E') ∧ (Digits.front (Sign.read rest).2).chars ≠ [] ∧
      Digits.behind (Sign.read rest).2 = [] then
    some ⟨letter, (Sign.read rest).1, Digits.front (Sign.read rest).2, h.1, h.2.1⟩
  else none

/-- An exponent, or the end of the text; `none` for anything else. -/
def read? : List Char → Option (Option Exponent)
  | [] => some none
  | letter :: rest => (ofLetter? letter rest).map some

/-- The text of what may be absent. -/
def textOf (exponent : Option Exponent) : List Char := exponent.elim [] text

theorem noDigit_textOf (exponent : Option Exponent) : Digits.NoDigit (textOf exponent) := by
  rintro c hc
  cases exponent with
  | none => exact absurd hc nofun
  | some exponent =>
    obtain rfl := Option.some.inj hc
    rcases exponent.isLetter with h | h <;> rw [h] <;> rfl

theorem text_of_letter {letter : Char} {rest : List Char} {exponent : Exponent}
    (h : ofLetter? letter rest = some exponent) : exponent.text = letter :: rest := by
  unfold ofLetter? at h
  by_cases hread : (letter = 'e' ∨ letter = 'E') ∧
      (Digits.front (Sign.read rest).2).chars ≠ [] ∧ Digits.behind (Sign.read rest).2 = []
  · rw [dif_pos hread] at h
    obtain rfl := Option.some.inj h
    have hrest := Digits.front_append_behind (Sign.read rest).2
    rw [hread.2.2, List.append_nil] at hrest
    show letter :: ((Sign.read rest).1.text ++ (Digits.front (Sign.read rest).2).chars) = _
    rw [hrest, Sign.read_text]
  · rw [dif_neg hread] at h
    exact absurd h nofun

theorem textOf_of_read {rest : List Char} {exponent : Option Exponent}
    (h : read? rest = some exponent) : textOf exponent = rest := by
  cases rest with
  | nil =>
    obtain rfl := Option.some.inj h
    rfl
  | cons letter rest =>
    obtain ⟨read, hread, rfl⟩ := Option.map_eq_some_iff.mp h
    exact text_of_letter hread

theorem read_textOf (exponent : Option Exponent) : read? (textOf exponent) = some exponent := by
  cases exponent with
  | none => rfl
  | some exponent =>
    have hread := Sign.read_append exponent.sign exponent.digits
    have hfront := @Digits.front_append exponent.digits [] nofun
    rw [List.append_nil] at hfront
    show (ofLetter? exponent.letter (exponent.sign.text ++ exponent.digits.chars)).map some = _
    unfold ofLetter?
    simp only [hread, hfront.1, hfront.2]
    rw [dif_pos ⟨exponent.isLetter, exponent.nonempty, trivial⟩]
    rfl

end Exponent

/-! ## The numeral -/

/-- `(?:[0-9]+(?:\.[0-9]*)?|\.[0-9]+)(?:[eE][+-]?[0-9]+)?`: digits, the digits
    after a point if there is one, and an exponent if there is one. -/
@[ext] structure Numeral where
  whole : Digits
  fraction : Option Digits
  exponent : Option Exponent
  nonempty : whole.chars ≠ [] ∨ ∃ digits ∈ fraction, digits.chars ≠ []

namespace Numeral

/-- The point and the digits after it. -/
def fractionText (fraction : Option Digits) : List Char :=
  fraction.elim [] fun digits => '.' :: digits.chars

/-- The text of a numeral. -/
def text (numeral : Numeral) : List Char :=
  numeral.whole.chars ++ (fractionText numeral.fraction ++ Exponent.textOf numeral.exponent)

/-- The number of a numeral. -/
def value (numeral : Numeral) : ℚ :=
  (numeral.whole.value +
      numeral.fraction.elim 0 fun digits => (digits.value : ℚ) / 10 ^ digits.chars.length) *
    10 ^ numeral.exponent.elim 0 Exponent.value

/-- The point and the digits after it at the front of a text, and what follows. -/
def readFraction : List Char → Option Digits × List Char
  | '.' :: rest => (some (Digits.front rest), Digits.behind rest)
  | rest => (none, rest)

/-- The numeral of a text. -/
def read? (text : List Char) : Option Numeral :=
  let fraction := readFraction (Digits.behind text)
  if h : (Digits.front text).chars ≠ [] ∨ ∃ digits ∈ fraction.1, digits.chars ≠ [] then
    match Exponent.read? fraction.2 with
    | none => none
    | some exponent => some ⟨Digits.front text, fraction.1, exponent, h⟩
  else none

theorem readFraction_text (text : List Char) :
    fractionText (readFraction text).1 ++ (readFraction text).2 = text := by
  unfold readFraction
  split
  · exact congrArg ('.' :: ·) (Digits.front_append_behind _)
  · rfl

theorem readFraction_append (fraction : Option Digits) (exponent : Option Exponent) :
    readFraction (fractionText fraction ++ Exponent.textOf exponent) =
      (fraction, Exponent.textOf exponent) := by
  cases fraction with
  | some digits =>
    obtain ⟨hfront, hbehind⟩ := digits.front_append (Exponent.noDigit_textOf exponent)
    show (some (Digits.front (digits.chars ++ _)), Digits.behind (digits.chars ++ _)) = _
    rw [hfront, hbehind]
  | none =>
    show readFraction (Exponent.textOf exponent) = _
    cases exponent with
    | none => rfl
    | some exponent =>
      unfold readFraction
      split
      · next rest h =>
        have hpoint := (List.cons.inj h).1
        rcases exponent.isLetter with he | he <;> exact absurd (he.symm.trans hpoint) (by decide)
      · rfl

theorem noDigit_fractionText (fraction : Option Digits) {rest : List Char}
    (h : Digits.NoDigit rest) : Digits.NoDigit (fractionText fraction ++ rest) := by
  cases fraction with
  | none => exact h
  | some digits =>
    intro c hc
    obtain rfl := Option.some.inj hc
    rfl

theorem text_of_read {text : List Char} {numeral : Numeral} (h : read? text = some numeral) :
    numeral.text = text := by
  unfold read? at h
  dsimp only at h
  by_cases hdigits : (Digits.front text).chars ≠ [] ∨
      ∃ digits ∈ (readFraction (Digits.behind text)).1, digits.chars ≠ []
  · rw [dif_pos hdigits] at h
    cases hexponent : Exponent.read? (readFraction (Digits.behind text)).2 with
    | none =>
      rw [hexponent] at h
      exact absurd h nofun
    | some exponent =>
      rw [hexponent] at h
      obtain rfl := Option.some.inj h
      unfold Numeral.text
      rw [Exponent.textOf_of_read hexponent, readFraction_text, Digits.front_append_behind]
  · rw [dif_neg hdigits] at h
    exact absurd h nofun

theorem read_text (numeral : Numeral) : read? numeral.text = some numeral := by
  obtain ⟨hfront, hbehind⟩ := numeral.whole.front_append
    (noDigit_fractionText numeral.fraction (Exponent.noDigit_textOf numeral.exponent))
  unfold read? text
  simp only [hfront, hbehind, readFraction_append, Exponent.read_textOf]
  rw [dif_pos numeral.nonempty]

end Numeral

end HandLab.Lib
