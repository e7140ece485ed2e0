import ApiDescription.Entries
import ApiDescription.Yaml.Tree

namespace ApiDescription.Yaml.Tree

-- Names become numbers: a node gets the count of the names known before it. A name that is given
-- again does not add to them, so the node that comes after it can get the same number.

def takeNumber (name : String) (known : Entries Nat) : Nat × Entries Nat :=
  (known.length, known.insert name known.length)

def numberProperties (p : Properties String) (known : Entries Nat) : Properties Nat × Entries Nat :=
  match p.anchor with
  | none => (⟨none, p.tag⟩, known)
  | some name =>
    let (number, known) := takeNumber name known
    (⟨some number, p.tag⟩, known)

mutual

-- A reference to a name that is not known before it has no number.
def numbered : Tree String → Entries Nat → Option (Tree Nat × Entries Nat)
  | reference name, known => do
    let number ← known.get? name
    return (reference number, known)
  | scalar p style text, known =>
    let (p, known) := numberProperties p known
    some (scalar p style text, known)
  | list p items, known => do
    let (p, known) := numberProperties p known
    let (items, known) ← numberedItems items known
    return (list p items, known)
  | map p entries, known => do
    let (p, known) := numberProperties p known
    let (entries, known) ← numberedEntries entries known
    return (map p entries, known)

def numberedItems : List (Tree String) → Entries Nat → Option (List (Tree Nat) × Entries Nat)
  | [], known => some ([], known)
  | item :: rest, known => do
    let (item, known) ← numbered item known
    let (rest, known) ← numberedItems rest known
    return (item :: rest, known)

def numberedEntries :
    List (Tree String × Tree String) → Entries Nat →
      Option (List (Tree Nat × Tree Nat) × Entries Nat)
  | [], known => some ([], known)
  | (key, value) :: rest, known => do
    let (key, known) ← numbered key known
    let (value, known) ← numbered value known
    let (rest, known) ← numberedEntries rest known
    return ((key, value) :: rest, known)

end

def own (tree : Tree Nat) (p : Properties Nat) : List (Nat × Tree Nat) :=
  (p.anchor.map fun number => (number, tree)).toList

mutual

-- The nodes that have a number, in the order in which they begin.
def anchored : Tree Nat → List (Nat × Tree Nat)
  | reference _ => []
  | scalar p style text => own (scalar p style text) p
  | list p items => own (list p items) p ++ anchoredItems items
  | map p entries => own (map p entries) p ++ anchoredEntries entries

def anchoredItems : List (Tree Nat) → List (Nat × Tree Nat)
  | [] => []
  | item :: rest => anchored item ++ anchoredItems rest

def anchoredEntries : List (Tree Nat × Tree Nat) → List (Nat × Tree Nat)
  | [] => []
  | (key, value) :: rest => anchored key ++ anchored value ++ anchoredEntries rest

end

mutual

-- How many marks the tree consists of: containers have one at either end.
def size : Tree ν → Nat
  | reference _ | scalar .. => 1
  | list _ items => sizeItems items + 2
  | map _ entries => sizeEntries entries + 2

def sizeItems : List (Tree ν) → Nat
  | [] => 0
  | item :: rest => size item + sizeItems rest

def sizeEntries : List (Tree ν × Tree ν) → Nat
  | [] => 0
  | (key, value) :: rest => size key + size value + sizeEntries rest

end

end ApiDescription.Yaml.Tree
