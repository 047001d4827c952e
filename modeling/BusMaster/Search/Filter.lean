import BusMaster.Address.Basic

/-!
# Family filters

Which devices an enumeration reports, by the family code of their addresses.
-/

namespace BusMaster

/-- The families that an enumeration reports. -/
inductive FamilyFilter where
  /-- Every family. -/
  | all
  /-- The families listed. -/
  | only (codes : List UInt8)
  /-- Every family but those listed. -/
  | excluding (codes : List UInt8)
deriving DecidableEq, Repr

/-- The filter lets the address through. -/
def FamilyFilter.accepts (filter : FamilyFilter) (a : Address) : Bool :=
  match filter with
  | all => true
  | only codes => codes.contains a.family
  | excluding codes => !codes.contains a.family

end BusMaster
