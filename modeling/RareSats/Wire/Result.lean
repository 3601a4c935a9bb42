/-
# Results in transit

How the results of a batch are sent.

Key definitions: `Metadata.toJson`, `ReferenceResult.toJson`, `resultsToJson`.
-/
import RareSats.Query.Resolve

namespace RareSats

/-- The metadata of a sat as it is sent. -/
def Metadata.toJson (m : Metadata) : Json :=
  .ofMembers [
    ("decimal", .ofString m.decimal),
    ("degree", .ofString m.degree),
    ("name", .ofString m.name),
    ("height", .ofNat m.height),
    ("cycle", .ofNat m.cycle),
    ("epoch", .ofNat m.epoch),
    ("period", .ofNat m.period),
    ("offset", .ofNat m.offset),
    ("rarity", .ofString m.rarity.token)]

/-- A named sat as it is sent. -/
def DescribedSat.toJson (d : DescribedSat) : Json :=
  .ofMembers [
    ("offset", .int d.named.offset),
    ("rarity", .ofString d.named.rarity.token),
    ("sat_index", .int d.named.sat),
    ("metadata", d.metadata.toJson)]

/-- What is found for a reference as it is sent. -/
def ReferenceResult.toJson (r : ReferenceResult) : Json :=
  .ofMembers [
    ("reference", .str r.reference),
    ("ranges", .arr (r.ranges.map RangeReport.toJson)),
    ("named_sats", .arr (r.namedSats.map DescribedSat.toJson))]

/-- The results of a batch as they are sent. -/
def resultsToJson (results : List ReferenceResult) : Json :=
  .ofMembers [("results", .arr (results.map ReferenceResult.toJson))]

end RareSats
