import ClauseFlow.Number.Numeral

/-!
# Name supplies

A name supply hands out names that are not taken yet, and takes each name it hands out.
-/

namespace ClauseFlow

structure NameSupply where
  taken : List String

namespace NameSupply

/-- A base with a number after it. -/
def candidate (base : String) (number : Nat) : String :=
  base ++ Numeral.natText number

/-- The first number from `number` on that makes a name free, among `fuel` many. -/
def freeNumber (taken : List String) (base : String) : (fuel number : Nat) → Nat
  | 0, number => number
  | fuel + 1, number =>
      if taken.contains (candidate base number) then freeNumber taken base fuel (number + 1)
      else number

/-- Takes a name. -/
def take (supply : NameSupply) (name : String) : String × NameSupply :=
  (name, ⟨name :: supply.taken⟩)

/-- The base with the smallest positive number that makes the name free. As the numbered names are
distinct, one of the first `taken.length + 1` is free. -/
def numbered (supply : NameSupply) (base : String) : String × NameSupply :=
  supply.take (candidate base (freeNumber supply.taken base supply.taken.length 1))

/-- The base itself if it is free, else the base with a number. -/
def fresh (supply : NameSupply) (base : String) : String × NameSupply :=
  if supply.taken.contains base then supply.numbered base else supply.take base

end NameSupply
end ClauseFlow
