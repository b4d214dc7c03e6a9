import InstructionSet.Yaml.Value

/-!
# The order of sets

A set of numbers lists its members by their places in a table that is more than
twice as long. A number stands where its residue points, or at the first free place
behind; equal numbers of different types have equal residues. Sets with members of
other types keep the order of the document.

`placeAll` puts members into a table one by one and `arrangeSet` reads them off.
-/

set_option autoImplicit false

namespace InstructionSet.Yaml

namespace SetOrder

def modulus : Nat := 0x1fffffffffffffff

/-- A residue with its sign. Minus one is no residue; minus two stands for it. -/
def signed (negative : Bool) (size : Nat) : Int :=
  let residue : Int := if negative then -size else size
  if residue = -1 then -2 else residue

/-- The residue of a floating-point number. As two to the power of 61 leaves one,
powers of two count by their exponents modulo 61. -/
def ofFloat (value : Float) : Int :=
  let bits := value.toBits
  let negative := bits >>> 63 != 0
  if value.isInf then if negative then -314159 else 314159
  else
    let binary := Number.Binary.ofBits (bits &&& 0x7fffffffffffffff)
    signed negative (binary.significand * Nat.pow 2 (binary.exponent % 61).toNat % modulus)

def residue? : Value → Option Int
  | .float value => some (ofFloat value)
  | value => value.wholeNumber?.map fun number => signed (number < 0) (number.natAbs % modulus)

/-- The length of the table for a number of members. -/
def tableSize (count : Nat) : Nat :=
  if count ≤ 4 then 8 else Nat.pow 2 (Nat.log2 (2 * count) + 1)

/-- The places that are looked at from a place on: nine more, unless they would pass
the end of the table. -/
def run (size place : Nat) : List Nat :=
  if place + 9 < size then List.range' place 10 else [place]

/-- The first free place. When a run is taken the next one begins at a place that
still depends on the residue; the bound limits the number of runs. -/
def freePlace (size : Nat) (taken : List Nat) : Nat → Nat → Nat → Nat
  | 0, _, place => place
  | bound + 1, perturbation, place =>
      match (run size place).find? fun place => !taken.contains place with
      | some place => place
      | none =>
          let perturbation := perturbation / 32
          freePlace size taken bound perturbation ((place * 5 + 1 + perturbation) % size)

/-- The place of a residue in a table of which some places are taken. -/
def placeOf (size : Nat) (taken : List Nat) (residue : Int) : Nat :=
  let word := (residue % 0x10000000000000000).toNat
  freePlace size taken (size + 13) word (word % size)

def placeAll (size : Nat) (taken : List Nat) : List Int → List Nat
  | [] => []
  | residue :: rest =>
      let place := placeOf size taken residue
      place :: placeAll size (place :: taken) rest

end SetOrder

/-- The members of a set in the order in which the set lists them. -/
def arrangeSet (members : List Value) : List Value :=
  match members.mapM SetOrder.residue? with
  | none => members
  | some residues =>
      let places := SetOrder.placeAll (SetOrder.tableSize members.length) [] residues
      ((places.zip members).mergeSort fun a b => a.1 ≤ b.1).map Prod.snd

end InstructionSet.Yaml
