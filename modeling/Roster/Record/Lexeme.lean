import Roster.Record.Fault
import Roster.Record.Sign
import Roster.Decimal.Shortest

/-!
# Strings, words and numbers of a record

Each reader takes the bytes that are still to be read and answers what it read and the bytes that
are left. The readers named `skip` only look for the end: they let pass numbers that are too
large, halves of surrogate pairs, and bytes that are not UTF-8.
-/

namespace Roster.Record

open Decimal (Binary64)

/-- A reader's answer: a value and the bytes that are left. -/
abbrev Reading (α : Type) := Except Fault (α × Bytes)

/-! ## Strings -/

/-- The byte that an escape of one letter stands for. -/
def shortEscape? (c : UInt8) : Option UInt8 :=
  if c = Sign.quote then some Sign.quote
  else if c = Sign.backslash then some Sign.backslash
  else if c = Sign.slash then some Sign.slash
  else if c = Sign.letterB then some 0x08
  else if c = Sign.letterF then some 0x0C
  else if c = Sign.letterN then some 0x0A
  else if c = Sign.letterR then some 0x0D
  else if c = Sign.letterT then some 0x09
  else none

/-- The number in four hexadecimal digits. -/
def fourHex? (a b c d : UInt8) : Option Nat := do
  let a ← hexValue? a
  let b ← hexValue? b
  let c ← hexValue? c
  let d ← hexValue? d
  return ((a * 16 + b) * 16 + c) * 16 + d

/-- Reads the four digits of an escape by number. -/
def readHex : Bytes → Reading Nat
  | a :: b :: c :: d :: rest =>
    match fourHex? a b c d with
    | some n => .ok (n, rest)
    | none => .error (.here .badEscape rest)
  | _ => .error ⟨.endInString, 0⟩

/-- A number that opens a surrogate pair. -/
def isLeading (n : Nat) : Bool := 0xD800 ≤ n && n ≤ 0xDBFF

/-- A number that closes a surrogate pair. -/
def isTrailing (n : Nat) : Bool := 0xDC00 ≤ n && n ≤ 0xDFFF

/-- The bytes of the character with a given number. -/
def codePoint (n : Nat) : Bytes := String.utf8EncodeChar (Char.ofNat n)

/-- The character of a surrogate pair. -/
def joinSurrogates (high low : Nat) : Nat := (high - 0xD800) * 0x400 + (low - 0xDC00) + 0x10000

/-- Reads an escape by number, after its letter; a surrogate must come with its partner. -/
def readNumbered (s : Bytes) : Except Fault (Bytes × Bytes) := do
  let (n, rest) ← readHex s
  if isTrailing n then .error (.here .loneSurrogate rest)
  else if !isLeading n then .ok (codePoint n, rest)
  else
    match rest with
    | [] => .error (.here .endInString rest)
    | b :: rest =>
      if b ≠ Sign.backslash then .error (.here .endOfHexEscape rest)
      else
        match rest with
        | [] => .error (.here .endInString rest)
        | b :: rest =>
          if b ≠ Sign.letterU then .error (.here .endOfHexEscape rest)
          else do
            let (low, rest) ← readHex rest
            if isTrailing low then .ok (codePoint (joinSurrogates n low), rest)
            else .error (.here .loneSurrogate rest)

/-- Reads an escape, after its backslash. -/
def readEscape : Bytes → Reading Bytes
  | [] => .error (.here .endInString [])
  | c :: rest =>
    if c = Sign.letterU then readNumbered rest
    else
      match shortEscape? c with
      | some b => .ok ([b], rest)
      | none => .error (.here .badEscape rest)

theorem readHex_length {s rest : Bytes} {n : Nat} (h : readHex s = .ok (n, rest)) :
    rest.length ≤ s.length := by
  unfold readHex at h
  split at h
  · split at h
    · simp only [Except.ok.injEq, Prod.mk.injEq] at h
      simp only [← h.2, List.length_cons]
      omega
    · cases h
  · cases h

theorem readNumbered_length {s t rest : Bytes} (h : readNumbered s = .ok (t, rest)) :
    rest.length ≤ s.length := by
  unfold readNumbered at h
  simp only [bind, Except.bind] at h
  split at h
  · cases h
  · rename_i p hp
    have hl := readHex_length hp
    split at h
    · cases h
    · split at h
      · simp only [Except.ok.injEq, Prod.mk.injEq] at h
        rw [← h.2]; exact hl
      · split at h
        · cases h
        · rename_i b r hr
          split at h
          · cases h
          · split at h
            · cases h
            · split at h
              · cases h
              · split at h
                · cases h
                · rename_i q hq
                  have hl' := readHex_length hq
                  split at h
                  · simp only [Except.ok.injEq, Prod.mk.injEq] at h
                    rw [← h.2]
                    simp_all
                    omega
                  · cases h

theorem readEscape_length {s t rest : Bytes} (h : readEscape s = .ok (t, rest)) :
    rest.length ≤ s.length := by
  unfold readEscape at h
  split at h
  · cases h
  · split at h
    · exact Nat.le_succ_of_le (readNumbered_length h)
    · split at h
      · simp only [Except.ok.injEq, Prod.mk.injEq] at h
        rw [← h.2]; simp
      · cases h

/-- Reads a string's bytes, after its opening quote. -/
def readChars (s : Bytes) : Reading Bytes :=
  match s with
  | [] => .error (.here .endInString [])
  | b :: rest =>
    if b = Sign.quote then .ok ([], rest)
    else if b = Sign.backslash then
      match h : readEscape rest with
      | .error f => .error f
      | .ok (t, rest') =>
        have := readEscape_length h
        match readChars rest' with
        | .error f => .error f
        | .ok (u, rest'') => .ok (t ++ u, rest'')
    else if Sign.isControl b then .error (.here .controlCharacter rest)
    else
      match readChars rest with
      | .error f => .error f
      | .ok (u, rest') => .ok (b :: u, rest')
termination_by s.length
decreasing_by all_goals simp; try omega

/-- Reads a string, after its opening quote. Bytes that are no text are refused just after the first
of them; it is not part of an escape, because an escape stands for whole characters. -/
def readText (s : Bytes) : Reading String :=
  match readChars s with
  | .error f => .error f
  | .ok (b, rest) =>
    match ofUtf8? b with
    | some t => .ok (t, rest)
    | none => .error ⟨.badCodePoint, s.length - (wellFormedLength s + 1)⟩

/-- Passes over an escape, after its backslash. -/
def skipEscape : Bytes → Except Fault Bytes
  | [] => .error (.here .endInString [])
  | c :: rest =>
    if c = Sign.letterU then (readHex rest).map (·.2)
    else if (shortEscape? c).isSome then .ok rest
    else .error (.here .badEscape rest)

theorem skipEscape_length {s rest : Bytes} (h : skipEscape s = .ok rest) :
    rest.length ≤ s.length := by
  unfold skipEscape at h
  split at h
  · cases h
  · split at h
    · rename_i t _
      cases hr : readHex t with
      | error f => rw [hr] at h; cases h
      | ok p =>
        rw [hr] at h
        simp only [Except.map, Except.ok.injEq] at h
        have := readHex_length hr
        rw [h] at this
        exact Nat.le_succ_of_le this
    · split at h
      · simp only [Except.ok.injEq] at h
        rw [← h]; simp
      · cases h

/-- Passes over a string, after its opening quote. -/
def skipText (s : Bytes) : Except Fault Bytes :=
  match s with
  | [] => .error (.here .endInString [])
  | b :: rest =>
    if b = Sign.quote then .ok rest
    else if b = Sign.backslash then
      match h : skipEscape rest with
      | .error f => .error f
      | .ok rest' =>
        have := skipEscape_length h
        skipText rest'
    else if Sign.isControl b then .error (.here .controlCharacter (b :: rest))
    else skipText rest
termination_by s.length
decreasing_by all_goals simp; try omega

/-! ## Words -/

/-- Passes over the bytes `word`, which must come next. -/
def skipWord (word s : Bytes) : Except Fault Bytes :=
  match word, s with
  | [], s => .ok s
  | _ :: _, [] => .error (.here .endInValue [])
  | w :: word, b :: rest => if b = w then skipWord word rest else .error (.here .wordExpected rest)

/-- What follows the first letter of `null`. -/
def nullTail : Bytes := [Sign.letterU, 0x6C, 0x6C]

/-- What follows the first letter of `true`. -/
def trueTail : Bytes := [Sign.letterR, Sign.letterU, Sign.letterE]

/-- What follows the first letter of `false`. -/
def falseTail : Bytes := [0x61, 0x6C, 0x73, Sign.letterE]

/-! ## Numbers -/

/-- The bytes after the digits that come next. -/
def skipDigits (s : Bytes) : Bytes := s.dropWhile Sign.isDigit

/-- The next byte is a digit. -/
def startsWithDigit : Bytes → Bool
  | [] => false
  | b :: _ => Sign.isDigit b

/-- Passes over an exponent, after its letter. -/
def skipExponent (s : Bytes) : Except Fault Bytes :=
  let s :=
    match s with
    | b :: rest => if b = Sign.plus ∨ b = Sign.minus then rest else s
    | [] => s
  match s with
  | [] => .error (.here .badNumber [])
  | b :: rest =>
    if Sign.isDigit b then .ok (skipDigits rest) else .error (.here .badNumber rest)

/-- Passes over an exponent, if one comes next. -/
def skipExponent? : Bytes → Except Fault Bytes
  | b :: rest => if b = Sign.letterE ∨ b = Sign.capitalE then skipExponent rest else .ok (b :: rest)
  | [] => .ok []

/-- Passes over what may follow the whole part of a number. -/
def skipFraction : Bytes → Except Fault Bytes
  | b :: rest =>
    if b = Sign.point then
      if startsWithDigit rest then skipExponent? (skipDigits rest)
      else .error (.onNext .badNumber rest)
    else skipExponent? (b :: rest)
  | [] => .ok []

/-- Passes over a number, after its sign. -/
def skipNumber : Bytes → Except Fault Bytes
  | [] => .error (.here .badNumber [])
  | b :: rest =>
    if b = Sign.zero then
      if startsWithDigit rest then .error (.onNext .badNumber rest) else skipFraction rest
    else if Sign.isDigit b then skipFraction (skipDigits rest)
    else .error (.here .badNumber rest)

/-- A number of a record: a whole one that fits 64 bits, or a rounded one. -/
inductive Number where
  | natural (n : Nat)
  | negative (n : Nat)
  | real (minus : Bool) (x : Binary64)

/-- The form of a number, as messages show it. -/
def Number.found : Number → Found
  | natural n => .integer (Nat.repr n)
  | negative n => .integer ("-" ++ Nat.repr n)
  | real minus x => .real ((if minus then "-" else "") ++ x.render)

/-- The largest whole number that is kept exactly. -/
def wholeLimit : Nat := Nat.pow 2 64 - 1

/-- The largest exponent that is taken digit by digit. -/
def exponentLimit : Nat := Nat.pow 2 31 - 1

/-- The largest power of ten that is a number. -/
def powerLimit : Nat := 308

/-- Divides by the largest power of ten `steps` times, unless nothing is left before, and then by
the power of ten with the exponent that remains. -/
def scaleDown : (steps : Nat) → Binary64 → (exponent : Nat) → Option Binary64
  | 0, x, exponent => (Binary64.powerOfTen exponent).bind x.div
  | steps + 1, x, exponent =>
    if x.isZero then some x
    else
      ((Binary64.powerOfTen powerLimit).bind x.div).bind fun y =>
        scaleDown steps y (exponent - powerLimit)

/-- The number with the digits `significand` and a power of ten, rounded after the digits and after
each scaling; none if it is too large. -/
def scaled? (significand : Nat) (exponent : Int) : Option Binary64 :=
  (Binary64.ofNat significand).bind fun x =>
    if 0 ≤ exponent then
      if exponent.toNat ≤ powerLimit then (Binary64.powerOfTen exponent.toNat).bind x.mul
      else if x.isZero then some x
      else none
    else scaleDown ((exponent.natAbs - 1) / powerLimit) x exponent.natAbs

/-- Ends a number with digits and exponent. -/
def finishReal (minus : Bool) (significand : Nat) (exponent : Int) (rest : Bytes) : Reading Number :=
  match scaled? significand exponent with
  | some x => .ok (.real minus x, rest)
  | none => .error (.here .numberTooLarge rest)

/-- Reads the digits of an exponent after the first; `e` is its value so far. -/
def readExponentDigits (minus : Bool) (significand : Nat) (start : Int) (up : Bool) (e : Nat) :
    Bytes → Reading Number
  | b :: rest =>
    if Sign.isDigit b then
      let e' := e * 10 + (b - Sign.zero).toNat
      if e' > exponentLimit then
        if significand ≠ 0 ∧ up then .error (.here .numberTooLarge rest)
        else .ok (.real minus .zero, skipDigits rest)
      else readExponentDigits minus significand start up e' rest
    else finishReal minus significand (if up then start + e else start - e) (b :: rest)
  | [] => finishReal minus significand (if up then start + e else start - e) []

/-- Reads an exponent, after its letter. -/
def readExponent (minus : Bool) (significand : Nat) (start : Int) (s : Bytes) : Reading Number :=
  let (up, s) :=
    match s with
    | b :: rest =>
      if b = Sign.plus then (true, rest) else if b = Sign.minus then (false, rest) else (true, s)
    | [] => (true, s)
  match s with
  | [] => .error (.here .endInValue [])
  | b :: rest =>
    if Sign.isDigit b then
      readExponentDigits minus significand start up (b - Sign.zero).toNat rest
    else .error (.here .badNumber rest)

/-- Reads an exponent if one comes next, and ends the number. -/
def readExponent? (minus : Bool) (significand : Nat) (start : Int) : Bytes → Reading Number
  | b :: rest =>
    if b = Sign.letterE ∨ b = Sign.capitalE then readExponent minus significand start rest
    else finishReal minus significand start (b :: rest)
  | [] => finishReal minus significand start []

/-- Reads the digits after the point: those that still fit 64 bits together with the digits before
them count, the others are passed over. -/
def readFractionDigits (minus : Bool) (significand : Nat) (start : Int) (any : Bool) :
    Bytes → Reading Number
  | b :: rest =>
    if Sign.isDigit b then
      let n := significand * 10 + (b - Sign.zero).toNat
      if n > wholeLimit then readExponent? minus significand start (skipDigits (b :: rest))
      else readFractionDigits minus n (start - 1) true rest
    else if any then readExponent? minus significand start (b :: rest)
    else .error (.onNext .badNumber (b :: rest))
  | [] => if any then readExponent? minus significand start [] else .error (.onNext .endInValue [])

/-- Reads the rest of a whole part that does not fit 64 bits; each digit raises the power of ten. -/
def readLongWhole (minus : Bool) (significand : Nat) (exponent : Nat) : Bytes → Reading Number
  | b :: rest =>
    if Sign.isDigit b then readLongWhole minus significand (exponent + 1) rest
    else if b = Sign.point then readFractionDigits minus significand exponent false rest
    else readExponent? minus significand exponent (b :: rest)
  | [] => finishReal minus significand exponent []

/-- Ends a whole part that fits 64 bits. -/
def readAfterWhole (minus : Bool) (significand : Nat) (s : Bytes) : Reading Number :=
  let whole : Reading Number :=
    if !minus then .ok (.natural significand, s)
    else if significand = 0 ∨ significand > Nat.pow 2 63 then finishReal true significand 0 s
    else .ok (.negative significand, s)
  match s with
  | b :: rest =>
    if b = Sign.point then readFractionDigits minus significand 0 false rest
    else if b = Sign.letterE ∨ b = Sign.capitalE then readExponent minus significand 0 rest
    else whole
  | [] => whole

/-- Reads the digits of a whole part after the first. -/
def readWhole (minus : Bool) (significand : Nat) : Bytes → Reading Number
  | b :: rest =>
    if Sign.isDigit b then
      let n := significand * 10 + (b - Sign.zero).toNat
      if n > wholeLimit then readLongWhole minus significand 0 (b :: rest)
      else readWhole minus n rest
    else readAfterWhole minus significand (b :: rest)
  | [] => readAfterWhole minus significand []

/-- Reads a number, after its sign. -/
def readNumber (minus : Bool) : Bytes → Reading Number
  | [] => .error (.here .endInValue [])
  | b :: rest =>
    if b = Sign.zero then
      if startsWithDigit rest then .error (.onNext .badNumber rest)
      else readAfterWhole minus 0 rest
    else if Sign.isDigit b then readWhole minus (b - Sign.zero).toNat rest
    else .error (.here .badNumber rest)

end Roster.Record
