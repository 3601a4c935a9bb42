/-
# What data passes through

Scalars are read from received data, and data is sent, by means that are not laid down
here: which spellings a scalar has, what cannot be sent, and how many brackets are
followed. All that is built on them takes them as they are given (`Platform`). The
platform at hand is one with all the spellings of a scalar that have one meaning.

Key definitions: `Platform`, `Platform.standard`.
-/
import RareSats.Json.Sending
import RareSats.Wire.Lax

namespace RareSats

/-- What data passes through when it is received and when it is sent. -/
class Platform where
  /-- The integer that a value is taken for. -/
  integer : Json → Checked Int
  /-- The boolean that a value is taken for. -/
  boolean : Json → Checked Bool
  /-- The identifier that a value is taken for. -/
  requestId : Json → Checked (Option RequestId)
  /-- The name that is sent for the name of a member. -/
  sentName : Text → Text
  /-- The value that is sent for a value of any kind, if it can be. -/
  sentValue : Json → Except Error Json
  /-- A value can be part of a response. -/
  encodes : Json → Bool
  /-- The number of levels up to which values without surrogates can be sent. A value without a part
  has one level. -/
  sendDepth : Nat
  /-- The number of brackets around brackets that are followed in the text of a file. -/
  fileDepth : Nat
  /-- The number of brackets around brackets that are followed in a call. -/
  callDepth : Nat

/-- A value as it is sent, with null for every number that is not finite. -/
def Json.toSent (j : Json) : Except Error Json :=
  match j.fault? levelLimit with
  | some e => .error e
  | none => .ok j.finiteOnly

/-- The platform at hand. -/
instance Platform.standard : Platform where
  integer := checkInteger
  boolean := checkBoolean
  requestId := checkRequestId
  sentName name := .ofString name.repaired
  sentValue := Json.toSent
  encodes := Json.hasEncoding
  sendDepth := Json.levelLimit
  fileDepth := 989
  -- Taking the call in has used up some of the brackets of a file.
  callDepth := 966

end RareSats
