import Roster.Record.Lexeme

/-!
# Passing over values

A record may have members that mean nothing to a user. Their values are passed over, however deep
they are nested: the reader keeps the brackets that are still open on a stack and needs no memory
of anything else.
-/

namespace Roster.Record

/-- An open bracket. -/
inductive Frame where
  | list
  | object
  deriving DecidableEq, Repr

namespace Frame

/-- The byte that closes the bracket. -/
def close : Frame → UInt8
  | list => Sign.listClose
  | object => Sign.objectClose

/-- The trouble when the record ends inside the bracket. -/
def ended : Frame → Trouble
  | list => .endInList
  | object => .endInObject

/-- The trouble when something else than a comma or the closing byte follows a value. -/
def commaExpected : Frame → Trouble
  | list => .listCommaExpected
  | object => .objectCommaExpected

end Frame

/-- Passes over a value without brackets, whose first byte is given. -/
def skipScalar (b : UInt8) (rest : Bytes) : Except Fault Bytes :=
  if b = Sign.letterN then skipWord nullTail rest
  else if b = Sign.letterT then skipWord trueTail rest
  else if b = Sign.letterF then skipWord falseTail rest
  else if b = Sign.minus then skipNumber rest
  else if Sign.isDigit b then skipNumber (b :: rest)
  else if b = Sign.quote then skipText rest
  else .error (.onNext .valueExpected (b :: rest))

/-- Passes over the key of a member and its colon, up to the value. -/
def skipKey (s : Bytes) : Except Fault Bytes :=
  match Sign.skipSpace s with
  | [] => .error (.onNext .endInObject [])
  | b :: rest =>
    if b = Sign.quote then
      match skipText rest with
      | .error f => .error f
      | .ok rest =>
        match Sign.skipSpace rest with
        | [] => .error (.onNext .endInObject [])
        | b :: rest =>
          if b = Sign.colon then .ok rest else .error (.onNext .colonExpected (b :: rest))
    else .error (.onNext .keyNotString (b :: rest))

/-- What comes next inside the innermost open bracket. -/
inductive Ahead where
  /-- A value. -/
  | value
  /-- A comma, or the closing byte; right after the opening byte no comma but a first item. -/
  | item (first : Bool)
  deriving DecidableEq, Repr

/-- How many more steps a state may take without passing a byte. -/
def Ahead.rank : Ahead → Nat
  | value => 0
  | item _ => 1

theorem skipSpace_length (s : Bytes) : (Sign.skipSpace s).length ≤ s.length :=
  (List.dropWhile_sublist _).length_le

theorem skipDigits_length (s : Bytes) : (skipDigits s).length ≤ s.length :=
  (List.dropWhile_sublist _).length_le

theorem skipText_length {s rest : Bytes} (h : skipText s = .ok rest) : rest.length < s.length := by
  fun_induction skipText s with
  | case1 => cases h
  | case2 r => simp_all
  | case3 => cases h
  | case4 r r' he hl hn ih => have := ih h; simp; omega
  | case5 => cases h
  | case6 b r hq hb hc ih => have := ih h; simp; omega

theorem skipWord_length {w s rest : Bytes} (h : skipWord w s = .ok rest) :
    rest.length ≤ s.length := by
  fun_induction skipWord w s with
  | case1 s => simp_all
  | case2 => cases h
  | case3 w ws r ih => have := ih h; simp; omega
  | case4 => cases h

theorem skipExponent_length {s rest : Bytes} (h : skipExponent s = .ok rest) :
    rest.length ≤ s.length := by
  unfold skipExponent at h
  have key : ∀ t : Bytes, t.length ≤ s.length →
      (match t with
        | [] => (.error (.here .badNumber []) : Except Fault Bytes)
        | b :: r => if Sign.isDigit b then .ok (skipDigits r) else .error (.here .badNumber r)) =
        .ok rest → rest.length ≤ s.length := by
    intro t ht he
    split at he
    · cases he
    · rename_i b r
      split at he
      · simp only [Except.ok.injEq] at he
        have := skipDigits_length r
        rw [he] at this
        simp only [List.length_cons] at ht
        omega
      · cases he
  refine key _ ?_ h
  cases s with
  | nil => simp
  | cons b r => by_cases hb : b = Sign.plus ∨ b = Sign.minus <;> simp [hb]

theorem skipExponent?_length {s rest : Bytes} (h : skipExponent? s = .ok rest) :
    rest.length ≤ s.length := by
  unfold skipExponent? at h
  split at h
  · split at h
    · exact Nat.le_succ_of_le (skipExponent_length h)
    · simp only [Except.ok.injEq] at h
      exact Nat.le_of_eq (congrArg List.length h.symm)
  · simp only [Except.ok.injEq] at h
    exact Nat.le_of_eq (congrArg List.length h.symm)

theorem skipFraction_length {s rest : Bytes} (h : skipFraction s = .ok rest) :
    rest.length ≤ s.length := by
  unfold skipFraction at h
  split at h
  · rename_i b r
    split at h
    · split at h
      · have := skipExponent?_length h
        have := skipDigits_length r
        simp only [List.length_cons]
        omega
      · cases h
    · exact skipExponent?_length h
  · simp only [Except.ok.injEq] at h
    exact Nat.le_of_eq (congrArg List.length h.symm)

theorem skipNumber_length {s rest : Bytes} (h : skipNumber s = .ok rest) :
    rest.length < s.length := by
  unfold skipNumber at h
  split at h
  · cases h
  · rename_i b r
    split at h
    · split at h
      · cases h
      · have := skipFraction_length h
        simp only [List.length_cons]
        omega
    · split at h
      · have := skipFraction_length h
        have := skipDigits_length r
        simp only [List.length_cons]
        omega
      · cases h

theorem skipScalar_length {b : UInt8} {s rest : Bytes} (h : skipScalar b s = .ok rest) :
    rest.length ≤ s.length := by
  unfold skipScalar at h
  split at h
  · exact skipWord_length h
  · split at h
    · exact skipWord_length h
    · split at h
      · exact skipWord_length h
      · split at h
        · exact Nat.le_of_lt (skipNumber_length h)
        · split at h
          · have := skipNumber_length h
            simp only [List.length_cons] at this
            omega
          · split at h
            · exact Nat.le_of_lt (skipText_length h)
            · cases h

theorem skipKey_length {s rest : Bytes} (h : skipKey s = .ok rest) : rest.length < s.length := by
  unfold skipKey at h
  have hs := skipSpace_length s
  split at h
  · cases h
  · rename_i b r hr
    rw [hr] at hs
    simp only [List.length_cons] at hs
    split at h
    · split at h
      · cases h
      · rename_i r1 hr1
        have h1 := skipText_length hr1
        have h2 := skipSpace_length r1
        split at h
        · cases h
        · rename_i b2 r2 hr2
          rw [hr2] at h2
          simp only [List.length_cons] at h2
          split at h
          · simp only [Except.ok.injEq] at h
            rw [← h]
            omega
          · cases h
    · cases h

/-- Passes over what is left of a value, inside the open brackets `open_`. -/
def skipWithin (ahead : Ahead) (frames : List Frame) (s : Bytes) : Except Fault Bytes :=
  match ahead, frames with
  | .value, frames =>
    match hs : Sign.skipSpace s with
    | [] => .error (.onNext .endInValue [])
    | b :: rest =>
      have hl : rest.length < s.length := by
        have := skipSpace_length s
        rw [hs] at this
        exact this
      if b = Sign.listOpen then skipWithin (.item true) (.list :: frames) rest
      else if b = Sign.objectOpen then skipWithin (.item true) (.object :: frames) rest
      else
        match hr : skipScalar b rest with
        | .error f => .error f
        | .ok rest' =>
          have := skipScalar_length hr
          skipWithin (.item false) frames rest'
  | .item _, [] => .ok s
  | .item first, frame :: frames =>
    match hs : Sign.skipSpace s with
    | [] => .error (.onNext frame.ended [])
    | b :: rest =>
      have hl : rest.length < s.length := by
        have := skipSpace_length s
        rw [hs] at this
        exact this
      if b = Sign.comma ∧ first = false then
        match frame with
        | .list => skipWithin .value (.list :: frames) rest
        | .object =>
          match hk : skipKey rest with
          | .error f => .error f
          | .ok rest' =>
            have := skipKey_length hk
            skipWithin .value (.object :: frames) rest'
      else if b = frame.close then skipWithin (.item false) frames rest
      else if first = false then .error (.onNext frame.commaExpected (b :: rest))
      else
        match frame with
        | .list => skipWithin .value (.list :: frames) (b :: rest)
        | .object =>
          match hk : skipKey (b :: rest) with
          | .error f => .error f
          | .ok rest' =>
            have := skipKey_length hk
            skipWithin .value (.object :: frames) rest'
termination_by (s.length, ahead.rank)
decreasing_by
  all_goals
    simp_wf
    simp only [Prod.lex_def, Ahead.rank, List.length_cons] at *
    omega

/-- Passes over a value. -/
def skipValue (s : Bytes) : Except Fault Bytes := skipWithin .value [] s

end Roster.Record
