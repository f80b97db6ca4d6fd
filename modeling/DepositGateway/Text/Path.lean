import DepositGateway.Text.Parts

/-!
# Paths

A path is parts between slashes. A slash in front makes it absolute; any other path begins in the
present directory. A single dot names the directory it stands in, two dots the one above.

* `Path.ofText`: the path without empty parts and dots, and without double dots where they can be
  spared.
* `Path.parent`: the directory that a path lies in.
* `Path.obstacle?`: what keeps a path from being that of a file.
-/

namespace DepositGateway

/-- A path with its last part first. -/
structure Path where
  isAbsolute : Bool
  /-- The parts, none of them empty or a single dot. -/
  parts : List String
  deriving DecidableEq

namespace Path

/-- Goes on from a path by one part; nothing is above the root. -/
def step (path : Path) (part : String) : Path :=
  if part.isEmpty || part = "." then path
  else if part = ".." then
    match path.parts with
    | [] => if path.isAbsolute then path else { path with parts := [part] }
    | last :: others =>
      if last = ".." then { path with parts := part :: path.parts }
      else { path with parts := others }
  else { path with parts := part :: path.parts }

/-- The path of a text. -/
def ofText (text : String) : Path :=
  ((partsBetween '/' text.toList).map String.ofList).foldl step
    { isAbsolute := text.toList.head? = some '/', parts := [] }

/-- The directory that a path lies in. -/
def parent (path : Path) : Path := path.step ".."

/-- The text of a path; the present directory is a dot. -/
def text (path : Path) : String :=
  let joined := "/".intercalate path.parts.reverse
  if path.isAbsolute then "/" ++ joined
  else if joined.isEmpty then "."
  else joined

/-! ## Files -/

/-- What keeps a path from being that of a file. -/
inductive Obstacle where
  /-- The directory that it lies in does not exist. -/
  | noDirectory
  /-- It is a directory itself. -/
  | directory
  deriving DecidableEq

/-- What keeps a path from being that of a file; `isDirectory` tells which directories there are. -/
def obstacle? (isDirectory : Path → Bool) (path : Path) : Option Obstacle :=
  if isDirectory path then some .directory
  else if isDirectory path.parent then none
  else some .noDirectory

end Path

end DepositGateway
