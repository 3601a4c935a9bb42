/-
# Outpoints

An output of a transaction is referred to by the identifier of the transaction,
64 hexadecimal digits, and the index of the output, a decimal of at most 32 bits
without leading zeros, with a colon between them. Letters of either case are
accepted and kept in lower case. A line end after the identifier is accepted and
kept.

Key definitions: `OutPoint`, `OutPoint.parse`, `OutPoint.text`.
-/
import RareSats.Decimal
import RareSats.Error

namespace RareSats

/-- An output of a transaction. -/
structure OutPoint where
  txid : String
  vout : Nat
deriving DecidableEq, Repr

/-- A hexadecimal digit of either case. -/
def isHexDigit (c : Char) : Bool :=
  c.isDigit || ('a' ≤ c && c ≤ 'f') || ('A' ≤ c && c ≤ 'F')

/-- The parts of a text before and after its first colon. -/
def splitAtColon (s : List Char) : Option (List Char × List Char) :=
  match s.dropWhile (· ≠ ':') with
  | [] => none
  | _ :: after => some (s.takeWhile (· ≠ ':'), after)

namespace OutPoint

/-- The greatest index of an output. -/
def maxVout : Nat := 4294967295

/-- The identifier of a transaction: 64 hexadecimal digits, and possibly a line end. -/
def isTransaction (s : List Char) : Bool :=
  let hex := if s.getLast? = some '\n' then s.dropLast else s
  hex.length = 64 && hex.all isHexDigit

/-- The index of an output. -/
def parseVout (s : List Char) : Except (ReferenceFault ⊕ Nat) Nat :=
  if s.isEmpty || !s.all Char.isDigit then .error (.inl .outputIndex)
  else if 1 < s.length && s.head? = some '0' then .error (.inl .leadingZero)
  else if Error.digitLimit < s.length then .error (.inr s.length)
  else if maxVout < ofDigits s then .error (.inl .outOfRange)
  else .ok (ofDigits s)

/-- The outpoint that a reference denotes. A surrogate is at fault wherever it stands, as its
replacement is. An index of too many digits is not a fault of the reference but a failure to read
it. -/
def parse (reference : Text) : Except Error OutPoint :=
  match splitAtColon reference.repaired.toList with
  | none => .error (.malformedReference reference .missingSeparator)
  | some (txid, vout) =>
    if !isTransaction txid then .error (.malformedReference reference .transaction)
    else
      match parseVout vout with
      | .ok index => .ok ⟨String.ofList (txid.map Char.toLower), index⟩
      | .error (.inl fault) => .error (.malformedReference reference fault)
      | .error (.inr count) => .error (.tooManyDigits count)

/-- The reference to an outpoint. -/
def text (o : OutPoint) : String :=
  o.txid ++ ":" ++ String.ofList (digits o.vout)

end OutPoint

end RareSats
