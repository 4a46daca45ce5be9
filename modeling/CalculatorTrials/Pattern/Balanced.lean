/-!
# Combining lists in halves

The elements of a list are combined by an operation in such a way that the
operations nest no deeper than the logarithm of the number of elements.
-/

namespace CalculatorTrials
namespace Pattern

/-- Combine a number of elements, first those of each half, and give back the
rest of the list. -/
def combineHalves
    (combine : Element → Element → Element)
    (fallback : Element)
    (count : Nat)
    (elements : List Element) : Element × List Element :=
  match elements with
  | [] => (fallback, [])
  | element :: rest =>
      if count ≤ 1 then (element, rest)
      else
        let (left, rest) :=
          combineHalves combine fallback (count / 2) (element :: rest)
        let (right, rest) :=
          combineHalves combine fallback (count - count / 2) rest
        (combine left right, rest)
  termination_by count

/-- Combine all elements of a list. -/
def combineAll
    (combine : Element → Element → Element)
    (fallback : Element)
    (elements : List Element) : Element :=
  (combineHalves combine fallback elements.length elements).1

end Pattern
end CalculatorTrials
