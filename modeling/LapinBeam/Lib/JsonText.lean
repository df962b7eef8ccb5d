import Mathlib.Data.List.TakeWhile
import Mathlib.Data.Nat.Digits.Defs

/-!
# JSON text: strings and numbers

The lexical half of JSON, over lists of characters: what a compact writer makes of a string or a
number, and what a reader makes of a text that begins with one. Each reader gives back what it has
read and the text behind it, and undoes its writer (`parseString_writeString`, `parseDecimal_text`).
-/

namespace Json

def isSpace (c : Char) : Bool := c = ' ' || c = '\n' || c = '\t' || c = '\r'

def skipSpace (text : List Char) : List Char := text.dropWhile isSpace

theorem skipSpace_cons {c : Char} (hc : isSpace c = false) (rest : List Char) :
    skipSpace (c :: rest) = c :: rest := by
  simp [skipSpace, hc]

def quote : Char := '\x22'

def backslash : Char := '\x5c'

/-- The characters with an escape of two characters, and the second of these. -/
def shortEscapes : List (Char × Char) :=
  [(quote, quote), (backslash, backslash), ('\x08', 'b'), ('\x0c', 'f'), ('\n', 'n'), ('\r', 'r'),
    ('\t', 't')]

def escapeChar (c : Char) : List Char :=
  match shortEscapes.find? fun escape => escape.1 = c with
  | some escape => [backslash, escape.2]
  | none =>
      if c.toNat < 32 then
        [backslash, 'u', '0', '0', Nat.digitChar (c.toNat / 16), Nat.digitChar (c.toNat % 16)]
      else [c]

def writeString (s : String) : List Char :=
  quote :: (s.toList.flatMap escapeChar ++ [quote])

def hexValue (c : Char) : Option Nat :=
  if '0' ≤ c ∧ c ≤ '9' then some (c.toNat - '0'.toNat)
  else if 'a' ≤ c ∧ c ≤ 'f' then some (c.toNat - 'a'.toNat + 10)
  else if 'A' ≤ c ∧ c ≤ 'F' then some (c.toNat - 'A'.toNat + 10)
  else none

def parseUnit : List Char → Option (Nat × List Char)
  | a :: b :: c :: d :: rest => do
      let a ← hexValue a
      let b ← hexValue b
      let c ← hexValue c
      let d ← hexValue d
      return (((a * 16 + b) * 16 + c) * 16 + d, rest)
  | _ => none

def isHighSurrogate (unit : Nat) : Bool := 0xd800 ≤ unit && unit < 0xdc00

def isLowSurrogate (unit : Nat) : Bool := 0xdc00 ≤ unit && unit < 0xe000

def parseLow (high : Nat) (text : List Char) : Option (Char × List Char) :=
  match text with
  | slash :: u :: rest =>
      if slash = backslash ∧ u = 'u' then do
        let (low, rest) ← parseUnit rest
        if isLowSurrogate low then
          return (Char.ofNat (0x10000 + (high - 0xd800) * 0x400 + (low - 0xdc00)), rest)
        else none
      else none
  | _ => none

def parseEscape : List Char → Option (Char × List Char)
  | [] => none
  | e :: rest =>
      if e = 'u' then do
        let (unit, rest) ← parseUnit rest
        if isHighSurrogate unit then parseLow unit rest
        else if isLowSurrogate unit then none
        else return (Char.ofNat unit, rest)
      else if e = '/' then some ('/', rest)
      else (shortEscapes.find? fun escape => escape.2 = e).map fun escape => (escape.1, rest)

def parseChars : Nat → List Char → Option (List Char × List Char)
  | 0, _ | _, [] => none
  | fuel + 1, c :: rest =>
      if c = quote then some ([], rest)
      else if c = backslash then do
        let (read, rest) ← parseEscape rest
        let (chars, rest) ← parseChars fuel rest
        return (read :: chars, rest)
      else if c.toNat < 32 then none
      else do
        let (chars, rest) ← parseChars fuel rest
        return (c :: chars, rest)

/-- A string whose opening quote has been read. Every round reads a character. -/
def parseString (text : List Char) : Option (String × List Char) := do
  let (chars, rest) ← parseChars (text.length + 1) text
  return (String.ofList chars, rest)

theorem hexValue_digitChar : ∀ n < 16, hexValue (Nat.digitChar n) = some n := by
  decide

theorem parseEscape_shortEscape : ∀ escape ∈ shortEscapes, ∀ rest,
    parseEscape (escape.2 :: rest) = some (escape.1, rest) := by
  simp [shortEscapes, parseEscape, quote, backslash]

theorem parseEscape_control {n : Nat} (hn : n < 32) (rest : List Char) :
    parseEscape ('u' :: '0' :: '0' :: Nat.digitChar (n / 16) :: Nat.digitChar (n % 16) :: rest) =
      some (Char.ofNat n, rest) := by
  have hzero : hexValue '0' = some 0 := by decide
  have hhigh := hexValue_digitChar (n / 16) (by omega)
  have hlow := hexValue_digitChar (n % 16) (by omega)
  have hvalue : n / 16 * 16 + n % 16 = n := by omega
  have hplain : isHighSurrogate n = false ∧ isLowSurrogate n = false := by
    simp only [isHighSurrogate, isLowSurrogate, Bool.and_eq_false_iff, decide_eq_false_iff_not]
    omega
  simp [parseEscape, parseUnit, hzero, hhigh, hlow, hvalue, hplain]

theorem parseChars_escapeChar (fuel : Nat) (c : Char) (rest : List Char) :
    parseChars (fuel + 1) (escapeChar c ++ rest) =
      (parseChars fuel rest).map fun read => (c :: read.1, read.2) := by
  have hslash : backslash ≠ quote := by decide
  unfold escapeChar
  split
  · rename_i escape hfind
    have hread := parseEscape_shortEscape escape (List.mem_of_find?_eq_some hfind) rest
    obtain rfl : escape.1 = c := by simpa using List.find?_some hfind
    cases hchars : parseChars fuel rest <;> simp [parseChars, hslash, hread, hchars]
  · rename_i hfind
    have hplain : c ≠ quote ∧ c ≠ backslash := by
      rw [List.find?_eq_none] at hfind
      constructor
      · rintro rfl
        exact hfind (quote, quote) (by simp [shortEscapes]) (by simp)
      · rintro rfl
        exact hfind (backslash, backslash) (by simp [shortEscapes]) (by simp)
    split
    · rename_i hcontrol
      have hread := parseEscape_control hcontrol rest
      rw [Char.ofNat_toNat] at hread
      cases hchars : parseChars fuel rest <;> simp [parseChars, hslash, hread, hchars]
    · rename_i hprintable
      cases hchars : parseChars fuel rest <;>
        simp [parseChars, hplain, hprintable, hchars]

theorem parseChars_escaped {fuel : Nat} (chars rest : List Char) (hfuel : chars.length < fuel) :
    parseChars fuel (chars.flatMap escapeChar ++ quote :: rest) = some (chars, rest) := by
  induction chars generalizing fuel with
  | nil =>
      obtain ⟨fuel, rfl⟩ := Nat.exists_eq_add_of_lt hfuel
      simp [parseChars]
  | cons c chars ih =>
      obtain ⟨fuel, rfl⟩ : ∃ more, fuel = more + 1 := ⟨fuel - 1, by simp at hfuel; omega⟩
      rw [List.flatMap_cons, List.append_assoc, parseChars_escapeChar, ih (by simpa using hfuel)]
      rfl

theorem length_le_flatMap_escapeChar (chars : List Char) :
    chars.length ≤ (chars.flatMap escapeChar).length := by
  induction chars with
  | nil => simp
  | cons c chars ih =>
      have hone : 1 ≤ (escapeChar c).length := by
        unfold escapeChar
        split
        · simp
        · split <;> simp
      simp only [List.length_cons, List.flatMap_cons, List.length_append]
      omega

theorem parseString_writeString (s : String) (rest : List Char) :
    parseString (s.toList.flatMap escapeChar ++ quote :: rest) = some (s, rest) := by
  have hlength := length_le_flatMap_escapeChar s.toList
  rw [parseString, parseChars_escaped s.toList rest ?_]
  · simp
  · rw [List.length_append, List.length_cons]
    omega

/-- A number as it is written: digits before the point, behind it, and in the exponent. -/
structure Decimal where
  negative : Bool
  integer : List Char
  fraction : Option (List Char)
  exponent : Option (Bool × List Char)
deriving DecidableEq

def Digits (digits : List Char) : Prop := digits ≠ [] ∧ ∀ c ∈ digits, c.isDigit = true

namespace Decimal

def minusText (negative : Bool) : List Char := if negative then ['-'] else []

def fractionText : Option (List Char) → List Char
  | none => []
  | some digits => '.' :: digits

def exponentText : Option (Bool × List Char) → List Char
  | none => []
  | some (negative, digits) => 'e' :: (minusText negative ++ digits)

def text (decimal : Decimal) : List Char :=
  minusText decimal.negative ++ (decimal.integer ++
    (fractionText decimal.fraction ++ exponentText decimal.exponent))

structure Valid (decimal : Decimal) : Prop where
  integer : Digits decimal.integer
  leading : decimal.integer.head? = some '0' → decimal.integer = ['0']
  fraction : ∀ digits ∈ decimal.fraction, Digits digits
  exponent : ∀ exponent ∈ decimal.exponent, Digits exponent.2

def fractional (decimal : Decimal) : Bool := decimal.fraction.isSome || decimal.exponent.isSome

def ofInt (n : Int) : Decimal := ⟨n < 0, Nat.toDigits 10 n.natAbs, none, none⟩

def whole (decimal : Decimal) : Int :=
  let magnitude : Int := Nat.ofDigitChars 10 decimal.integer 0
  if decimal.negative then -magnitude else magnitude

end Decimal

def parseDigits (text : List Char) : Option (List Char × List Char) :=
  let digits := text.takeWhile Char.isDigit
  if digits = [] then none else some (digits, text.dropWhile Char.isDigit)

def parseInteger (text : List Char) : Option (List Char × List Char) := do
  let (digits, rest) ← parseDigits text
  if digits.head? = some '0' ∧ digits ≠ ['0'] then none else return (digits, rest)

def parseFraction : List Char → Option (Option (List Char) × List Char)
  | [] => some (none, [])
  | c :: rest =>
      if c = '.' then do
        let (digits, rest) ← parseDigits rest
        return (some digits, rest)
      else some (none, c :: rest)

def parseSign : List Char → Bool × List Char
  | [] => (false, [])
  | c :: rest => if c = '-' then (true, rest) else if c = '+' then (false, rest) else (false, c :: rest)

def parseExponent : List Char → Option (Option (Bool × List Char) × List Char)
  | [] => some (none, [])
  | c :: rest =>
      if c = 'e' ∨ c = 'E' then do
        let (negative, rest) := parseSign rest
        let (digits, rest) ← parseDigits rest
        return (some (negative, digits), rest)
      else some (none, c :: rest)

def parseMinus : List Char → Bool × List Char
  | [] => (false, [])
  | c :: rest => if c = '-' then (true, rest) else (false, c :: rest)

def parseDecimal (text : List Char) : Option (Decimal × List Char) := do
  let (negative, rest) := parseMinus text
  let (integer, rest) ← parseInteger rest
  let (fraction, rest) ← parseFraction rest
  let (exponent, rest) ← parseExponent rest
  return (⟨negative, integer, fraction, exponent⟩, rest)

def Ends (rest : List Char) : Prop :=
  ∀ c ∈ rest.head?, c.isDigit = false ∧ c ≠ '.' ∧ c ≠ 'e' ∧ c ≠ 'E'

theorem parseDigits_append {digits rest : List Char} (hdigits : Digits digits)
    (hrest : ∀ c ∈ rest.head?, c.isDigit = false) :
    parseDigits (digits ++ rest) = some (digits, rest) := by
  have htake : rest.takeWhile Char.isDigit = [] ∧ rest.dropWhile Char.isDigit = rest := by
    cases rest with
    | nil => simp
    | cons c rest => simp [hrest c rfl]
  rw [parseDigits, List.takeWhile_append_of_pos hdigits.2, List.dropWhile_append_of_pos hdigits.2,
    htake.1, htake.2, List.append_nil]
  simp [hdigits.1]

section Reading

open Decimal

variable {rest : List Char}

theorem head_exponentText (exponent : Option (Bool × List Char)) (hrest : Ends rest) :
    ∀ c ∈ (exponentText exponent ++ rest).head?, c.isDigit = false ∧ c ≠ '.' := by
  cases exponent with
  | none => exact fun c hc => ⟨(hrest c hc).1, (hrest c hc).2.1⟩
  | some written =>
      rintro c ⟨⟩
      decide

theorem head_fractionText (fraction : Option (List Char))
    (hrest : ∀ c ∈ rest.head?, c.isDigit = false ∧ c ≠ '.') :
    ∀ c ∈ (fractionText fraction ++ rest).head?, c.isDigit = false := by
  cases fraction with
  | none => exact fun c hc => (hrest c hc).1
  | some digits =>
      rintro c ⟨⟩
      decide

theorem parseExponent_text {exponent : Option (Bool × List Char)}
    (hexponent : ∀ written ∈ exponent, Digits written.2) (hrest : Ends rest) :
    parseExponent (exponentText exponent ++ rest) = some (exponent, rest) := by
  cases exponent with
  | none =>
      cases rest with
      | nil => rfl
      | cons c rest =>
          obtain ⟨-, -, hlower, hupper⟩ := hrest c rfl
          simp [exponentText, parseExponent, hlower, hupper]
  | some written =>
      obtain ⟨negative, digits⟩ := written
      have hdigits : Digits digits := hexponent _ rfl
      have hread := parseDigits_append hdigits fun c hc => (hrest c hc).1
      have hsign : parseSign (minusText negative ++ (digits ++ rest)) =
          (negative, digits ++ rest) := by
        cases negative with
        | true => rfl
        | false =>
            obtain ⟨c, digits, rfl⟩ := List.exists_cons_of_ne_nil hdigits.1
            have hc := hdigits.2 c List.mem_cons_self
            have hne : c ≠ '-' ∧ c ≠ '+' := by
              constructor <;> rintro rfl <;> cases hc
            simp [minusText, parseSign, hne]
      simp [exponentText, parseExponent, hsign, hread]

theorem parseFraction_text {fraction : Option (List Char)}
    (hfraction : ∀ digits ∈ fraction, Digits digits)
    (hrest : ∀ c ∈ rest.head?, c.isDigit = false ∧ c ≠ '.') :
    parseFraction (fractionText fraction ++ rest) = some (fraction, rest) := by
  cases fraction with
  | none =>
      cases rest with
      | nil => rfl
      | cons c rest => simp [fractionText, parseFraction, (hrest c rfl).2]
  | some digits =>
      have hread := parseDigits_append (hfraction digits rfl) fun c hc => (hrest c hc).1
      simp [fractionText, parseFraction, hread]

theorem parseMinus_text {digits : List Char} (negative : Bool) (hdigits : Digits digits)
    (behind : List Char) :
    parseMinus (minusText negative ++ (digits ++ behind)) = (negative, digits ++ behind) := by
  cases negative with
  | true => rfl
  | false =>
      obtain ⟨c, digits, rfl⟩ := List.exists_cons_of_ne_nil hdigits.1
      have hne : c ≠ '-' := by
        rintro rfl
        cases hdigits.2 '-' List.mem_cons_self
      simp [minusText, parseMinus, hne]

theorem parseDecimal_text {decimal : Decimal} (hvalid : decimal.Valid) (hrest : Ends rest) :
    parseDecimal (decimal.text ++ rest) = some (decimal, rest) := by
  have hexponent := parseExponent_text hvalid.exponent hrest
  have hbehind := head_exponentText decimal.exponent hrest
  have hfraction := parseFraction_text hvalid.fraction hbehind
  have hdigits := parseDigits_append hvalid.integer (head_fractionText decimal.fraction hbehind)
  have hinteger : parseInteger (decimal.integer ++
      (fractionText decimal.fraction ++ (exponentText decimal.exponent ++ rest))) =
      some (decimal.integer,
        fractionText decimal.fraction ++ (exponentText decimal.exponent ++ rest)) := by
    have hleading : ¬ (decimal.integer.head? = some '0' ∧ decimal.integer ≠ ['0']) :=
      fun hzero => hzero.2 (hvalid.leading hzero.1)
    simp [parseInteger, hdigits, hleading]
  have hminus := parseMinus_text decimal.negative hvalid.integer
    (fractionText decimal.fraction ++ (exponentText decimal.exponent ++ rest))
  simp only [parseDecimal, Decimal.text, List.append_assoc, hminus, hinteger, hfraction, hexponent,
    Option.bind_eq_bind, Option.bind_some, Option.pure_def]

end Reading

theorem digitChar_eq_zero : ∀ n < 10, Nat.digitChar n = '0' → n = 0 := by
  decide

theorem head?_toDigits {n : Nat} (hzero : (Nat.toDigits 10 n).head? = some '0') : n = 0 := by
  induction n using Nat.strongRecOn with
  | ind n ih =>
      rcases Nat.lt_or_ge n 10 with hlt | hge
      · rw [Nat.toDigits_of_lt_base hlt] at hzero
        exact digitChar_eq_zero n hlt (Option.some.inj hzero)
      · have hpos : n / 10 = 0 := by
          refine ih (n / 10) (by omega) ?_
          rw [Nat.toDigits_of_base_le (by decide) hge] at hzero
          obtain ⟨c, digits, hdigits⟩ := List.exists_cons_of_ne_nil
            (Nat.toDigits_ne_nil (b := 10) (n := n / 10))
          rw [hdigits] at hzero ⊢
          exact hzero
        omega

theorem digits_toDigits (n : Nat) : Digits (Nat.toDigits 10 n) :=
  ⟨Nat.toDigits_ne_nil, fun _ hc => Nat.isDigit_of_mem_toDigits (by decide) (by decide) hc⟩

namespace Decimal

theorem valid_ofInt (n : Int) : (ofInt n).Valid where
  integer := digits_toDigits _
  leading := by
    intro hzero
    show Nat.toDigits 10 n.natAbs = ['0']
    rw [head?_toDigits hzero]
    rfl
  fraction := nofun
  exponent := nofun

theorem whole_ofInt (n : Int) : (ofInt n).whole = n := by
  simp only [whole, ofInt, Nat.ofDigitChars_ten_toDigits, decide_eq_true_eq]
  split <;> omega

end Decimal

end Json
