/-!
# Parts of a text

* `partsBetween`: what stands between the marks of a text.
-/

namespace DepositGateway

/-- The parts of a text between its marks; there is always at least one. -/
def partsBetween (mark : Char) : List Char → List (List Char)
  | [] => [[]]
  | c :: rest =>
    if c == mark then [] :: partsBetween mark rest
    else match partsBetween mark rest with
      | [] => [[c]]
      | part :: parts => (c :: part) :: parts

end DepositGateway
