import BusMaster.Transport.Basic

/-!
# The descent of a search pass

A search pass walks the 64 address positions in wire order and keeps, at each, the devices that sent
the bit it chose. Where the devices left agree, that bit is the choice. Where they disagree, the
pass replays its seed before the last discrepancy, takes the ones at it, and the zeros after it.

The address found is written over the seed, in one buffer.

* `SearchPass.overwrite`: the walk, with the deepest position where it took the zeros of a
  disagreement.
* `SearchPass.answer`: the answer of the pass on the devices that take part.
-/

namespace BusMaster

/-- The address with bit `k` set to `value`. -/
def Address.setBit (a : Address) (k : Nat) (value : Bool) : Address :=
  ⟨if value then a.raw ||| BitVec.twoPow 64 k else a.raw &&& ~~~BitVec.twoPow 64 k⟩

/-- Where a walk stands: what its buffer holds, and the deepest position so far where it took the
zeros of a disagreement (0 if there was none). -/
structure Descent where
  address : Address
  lastZero : Nat := 0
deriving DecidableEq, Repr

namespace SearchPass

/-- The bit to take at a position where the devices disagree. -/
def choice (pass : SearchPass) (position : Nat) : Bool :=
  if position < pass.lastDiscrepancy then pass.seed.bit (position - 1)
  else position = pass.lastDiscrepancy

/-- Walks the `remaining` positions after the first `index` ones. The seed of each position is what
the buffer holds by then, and the bit taken is written over it. If no device is left the walk ends
there, and the error is the buffer as it is. -/
def overwrite (pass : SearchPass) (index : Nat) :
    (remaining : Nat) → (candidates : List Address) → Descent → Except Address Descent
  | 0, _, walked => .ok walked
  | remaining + 1, candidates, walked =>
    let position := index + 1
    let take (bit : Bool) (lastZero : Nat) :=
      pass.overwrite position remaining (candidates.filter (·.bit index == bit))
        ⟨walked.address.setBit index bit, lastZero⟩
    match candidates.any (!·.bit index), candidates.any (·.bit index) with
    | false, false => .error walked.address
    | true, false => take false walked.lastZero
    | false, true => take true walked.lastZero
    | true, true =>
      if { pass with seed := walked.address }.choice position then take true walked.lastZero
      else take false position

/-- The answer of the pass when exactly `candidates` take part, with what its buffer holds in the
end. -/
def answer (pass : SearchPass) (candidates : List Address) : SearchAnswer :=
  if candidates.isEmpty then ⟨noDevice, pass.seed⟩
  else match pass.overwrite 0 addressBits candidates { address := pass.seed } with
    | .error address => ⟨noDevice, address⟩
    | .ok walked =>
      ⟨if walked.lastZero = 0 then pass.lastDiscrepancy else walked.lastZero, walked.address⟩

end SearchPass

end BusMaster
