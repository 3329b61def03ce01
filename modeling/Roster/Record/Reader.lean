import Roster.Record.Skip
import Roster.User

/-!
# Reading a user's record

A record is an object whose members may come in any order, among others that are passed over, or a
list of the three values in their order. The email has to be there; an absent name is empty and
absent roles are none. A member that occurs twice, or a value of another form, is refused.

`decode` answers the user, or the fault with its place.
-/

namespace Roster.Record

/-- The fault of a value that has another form than the wanted one. Scalars are read to name them,
brackets are not. -/
def unwanted (wanted : Wanted) (b : UInt8) (rest : Bytes) : Fault :=
  let word (tail : Bytes) (found : Found) : Fault :=
    match skipWord tail rest with
    | .error f => f
    | .ok rest => .here (.wrongType found wanted) rest
  let number (minus : Bool) (s : Bytes) : Fault :=
    match readNumber minus s with
    | .error f => f
    | .ok (n, rest) => .here (.wrongType n.found wanted) rest
  if b = Sign.letterN then word nullTail .null
  else if b = Sign.letterT then word trueTail (.boolean true)
  else if b = Sign.letterF then word falseTail (.boolean false)
  else if b = Sign.minus then number true rest
  else if Sign.isDigit b then number false (b :: rest)
  else if b = Sign.quote then
    match readText rest with
    | .error f => f
    | .ok (t, rest) => .here (.wrongType (.text t) wanted) rest
  else if b = Sign.listOpen then .here (.wrongType .list wanted) (b :: rest)
  else if b = Sign.objectOpen then .here (.wrongType .object wanted) (b :: rest)
  else .onNext .valueExpected (b :: rest)

/-- Reads a string value. -/
def readString (s : Bytes) : Reading String :=
  match Sign.skipSpace s with
  | [] => .error (.onNext .endInValue [])
  | b :: rest => if b = Sign.quote then readText rest else .error (unwanted .text b rest)

/-- Looks for the next item of a list: `none` stands for the closing byte, which is left in place. -/
def nextItem (first : Bool) (s : Bytes) : Except Fault (Option Bytes) :=
  match Sign.skipSpace s with
  | [] => .error (.onNext .endInList [])
  | b :: rest =>
    if b = Sign.listClose then .ok none
    else if first then .ok (some (b :: rest))
    else if b = Sign.comma then
      match Sign.skipSpace rest with
      | [] => .error (.onNext .endInValue [])
      | b :: rest =>
        if b = Sign.listClose then .error (.onNext .trailingComma (b :: rest))
        else .ok (some (b :: rest))
    else .error (.onNext .listCommaExpected (b :: rest))

/-- Closes a list. -/
def closeList (s : Bytes) : Except Fault Bytes :=
  match Sign.skipSpace s with
  | [] => .error (.onNext .endInList [])
  | b :: rest =>
    if b = Sign.listClose then .ok rest
    else if b = Sign.comma then
      match Sign.skipSpace rest with
      | b :: rest' =>
        if b = Sign.listClose then .error (.onNext .trailingComma (b :: rest'))
        else .error (.onNext .trailingCharacters (b :: rest'))
      | [] => .error (.onNext .trailingCharacters [])
    else .error (.onNext .trailingCharacters (b :: rest))

theorem readChars_length {s t rest : Bytes} (h : readChars s = .ok (t, rest)) :
    rest.length < s.length := by
  fun_induction readChars s generalizing t rest with
  | case1 => cases h
  | case2 => simp_all
  | case3 => cases h
  | case4 => cases h
  | case5 r t1 r1 he hl u r2 hu hq ih =>
    have := ih hu
    simp only [Except.ok.injEq, Prod.mk.injEq] at h
    rw [← h.2]
    simp only [List.length_cons]
    omega
  | case6 => cases h
  | case7 => cases h
  | case8 b r hq hb hc u r2 hu ih =>
    have := ih hu
    simp only [Except.ok.injEq, Prod.mk.injEq] at h
    rw [← h.2]
    simp only [List.length_cons]
    omega

theorem readText_length {s rest : Bytes} {t : String} (h : readText s = .ok (t, rest)) :
    rest.length < s.length := by
  unfold readText at h
  split at h
  · cases h
  · rename_i b r hr
    have := readChars_length hr
    split at h
    · simp only [Except.ok.injEq, Prod.mk.injEq] at h
      rw [← h.2]; exact this
    · cases h

theorem readString_length {s rest : Bytes} {t : String} (h : readString s = .ok (t, rest)) :
    rest.length < s.length := by
  unfold readString at h
  have hs := skipSpace_length s
  split at h
  · cases h
  · rename_i b r hr
    rw [hr] at hs
    simp only [List.length_cons] at hs
    split at h
    · have := readText_length h
      omega
    · cases h

theorem nextItem_length {first : Bool} {s rest : Bytes} (h : nextItem first s = .ok (some rest)) :
    rest.length ≤ s.length := by
  unfold nextItem at h
  have hs := skipSpace_length s
  split at h
  · cases h
  · rename_i b r hr
    rw [hr] at hs
    simp only [List.length_cons] at hs
    split at h
    · cases h
    · split at h
      · simp only [Except.ok.injEq, Option.some.injEq] at h
        rw [← h]; simpa using hs
      · split at h
        · have h2 := skipSpace_length r
          split at h
          · cases h
          · rename_i b2 r2 hr2
            rw [hr2] at h2
            simp only [List.length_cons] at h2
            split at h
            · cases h
            · simp only [Except.ok.injEq, Option.some.injEq] at h
              rw [← h]
              simp only [List.length_cons]
              omega
        · cases h

/-- Reads the strings of a list up to its closing byte, which is left in place. -/
def readItems (first : Bool) (s : Bytes) : Reading (List String) :=
  match hn : nextItem first s with
  | .error f => .error f
  | .ok none => .ok ([], s)
  | .ok (some rest) =>
    match hr : readString rest with
    | .error f => .error f
    | .ok (t, rest') =>
      have := nextItem_length hn
      have := readString_length hr
      match readItems false rest' with
      | .error f => .error f
      | .ok (ts, rest'') => .ok (t :: ts, rest'')
termination_by s.length
decreasing_by omega

/-- Reads a list of strings. -/
def readStrings (s : Bytes) : Reading (List String) :=
  match Sign.skipSpace s with
  | [] => .error (.onNext .endInValue [])
  | b :: rest =>
    if b = Sign.listOpen then
      match readItems true rest with
      | .error f => .error f
      | .ok (ts, rest) => (closeList rest).map (ts, ·)
    else .error (unwanted .list b rest)

/-! ## The members of an object -/

/-- The values read so far. -/
structure Members where
  email : Option String
  fullName : Option String
  roles : Option (List String)

/-- No value has been read. -/
def Members.none : Members := ⟨.none, .none, .none⟩

/-- The member has been read. -/
def Members.has (m : Members) : Field → Bool
  | .email => m.email.isSome
  | .fullName => m.fullName.isSome
  | .roles => m.roles.isSome

/-- The member with a given key, if it means something to a user. -/
def field? (key : String) : Option Field :=
  if key = Field.email.name then some .email
  else if key = Field.fullName.name then some .fullName
  else if key = Field.roles.name then some .roles
  else none

/-- Looks for the next key of an object: `none` stands for the closing byte, which is left in place. -/
def nextKey (first : Bool) (s : Bytes) : Except Fault (Option (String × Bytes)) :=
  match Sign.skipSpace s with
  | [] => .error (.onNext .endInObject [])
  | b :: rest =>
    if b = Sign.objectClose then .ok none
    else if first then
      if b = Sign.quote then (readText rest).map some
      else .error (.onNext .keyNotString (b :: rest))
    else if b = Sign.comma then
      match Sign.skipSpace rest with
      | [] => .error (.onNext .endInValue [])
      | b :: rest =>
        if b = Sign.quote then (readText rest).map some
        else if b = Sign.objectClose then .error (.onNext .trailingComma (b :: rest))
        else .error (.onNext .keyNotString (b :: rest))
    else .error (.onNext .objectCommaExpected (b :: rest))

/-- Passes over the colon between key and value. -/
def skipColon (s : Bytes) : Except Fault Bytes :=
  match Sign.skipSpace s with
  | [] => .error (.onNext .endInObject [])
  | b :: rest => if b = Sign.colon then .ok rest else .error (.onNext .colonExpected (b :: rest))

/-- Reads the value of a member. -/
def readMember (m : Members) (key : Option Field) (s : Bytes) : Reading Members :=
  match key with
  | some .email => (readString s).map fun (t, rest) => ({ m with email := some t }, rest)
  | some .fullName => (readString s).map fun (t, rest) => ({ m with fullName := some t }, rest)
  | some .roles => (readStrings s).map fun (ts, rest) => ({ m with roles := some ts }, rest)
  | none => (skipValue s).map fun rest => (m, rest)

/-- The bytes after an attempt to close an object: trouble that has no place of its own is
reported there. -/
def pastObject (s : Bytes) : Bytes :=
  match Sign.skipSpace s with
  | [] => []
  | b :: rest => if b = Sign.objectClose then rest else b :: rest

/-- Reads the members of an object up to its closing byte, which is left in place. The first
argument bounds their number. -/
def readMembers : (fuel : Nat) → (first : Bool) → Members → Bytes → Reading Members
  | 0, _, m, s => .ok (m, s)
  | fuel + 1, first, m, s =>
    match nextKey first s with
    | .error f => .error f
    | .ok none => .ok (m, s)
    | .ok (some (key, rest)) =>
      if (field? key).any m.has then
        .error (.here (.duplicateField ((field? key).getD .email)) (pastObject rest))
      else
        match skipColon rest with
        | .error f => .error f
        | .ok rest =>
          match readMember m (field? key) rest with
          | .error f => .error f
          | .ok (m, rest) => readMembers fuel false m rest

/-- Reads a user from an object, after its opening byte. -/
def readObject (s : Bytes) : Reading User :=
  match readMembers (s.length + 1) true .none s with
  | .error f => .error f
  | .ok (m, rest) =>
    match m.email with
    | none => .error (.here (.missingField .email) (pastObject rest))
    | some email => .ok (⟨email, m.fullName.getD "", m.roles.getD []⟩, pastObject rest)

/-! ## The values of a list -/

/-- Reads the user's values from a list, after its opening byte: the email, and the name and the
roles if they are there. -/
def readList (s : Bytes) : Except Fault (User × Bytes) := do
  match ← nextItem true s with
  | none => .error (.here (.wrongLength 0) ((Sign.skipSpace s).drop 1))
  | some rest =>
    let (email, rest) ← readString rest
    match ← nextItem false rest with
    | none => return (⟨email, "", []⟩, ← closeList rest)
    | some rest =>
      let (fullName, rest) ← readString rest
      match ← nextItem false rest with
      | none => return (⟨email, fullName, []⟩, ← closeList rest)
      | some rest =>
        let (roles, rest) ← readStrings rest
        return (⟨email, fullName, roles⟩, ← closeList rest)

/-- Reads a user. -/
def readUser (s : Bytes) : Reading User :=
  match Sign.skipSpace s with
  | [] => .error (.onNext .endInValue [])
  | b :: rest =>
    if b = Sign.listOpen then readList rest
    else if b = Sign.objectOpen then readObject rest
    else .error (unwanted .user b rest)

/-- The user whose record this is. -/
def decode (record : Bytes) : Except Fault User :=
  match readUser record with
  | .error f => .error f
  | .ok (u, rest) =>
    match Sign.skipSpace rest with
    | [] => .ok u
    | b :: rest => .error (.onNext .trailingCharacters (b :: rest))

end Roster.Record
