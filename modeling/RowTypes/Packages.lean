/-!
Package sets: the packages that generated code needs, each once and in ascending order.
-/

namespace RowTypes

/-- Packages in ascending order. -/
abbrev Packages := List String

namespace Packages

/-- Add a package at its place, unless it is there. -/
def insert (package : String) : Packages → Packages
  | [] => [package]
  | head :: rest =>
    if package = head then head :: rest
    else if package < head then package :: head :: rest
    else head :: insert package rest

def ofList (packages : List String) : Packages :=
  packages.foldl (fun set package => insert package set) []

end Packages

end RowTypes
