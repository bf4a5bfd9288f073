import ActionGateway.Text.Utf8

/-!
# Code charts

A code chart gives characters by row and column, the way the standards print them. A row is a text
with one character for each cell; in a cell that no character is assigned to stands a space, and
such cells at the end of a row are left out.
-/

namespace ActionGateway

/-- The rows of a code chart, each an array of its cells. -/
abbrev Chart := Array (Array Char)

namespace Chart

/-- The chart with the given texts as rows. -/
def ofRows (rows : Array String) : Chart :=
  rows.map fun cells => cells.toList.toArray

/-- The character in a cell, if one is assigned to it. -/
def at? (chart : Chart) (row column : Nat) : Option Char :=
  match chart[row]?.bind fun cells => cells[column]? with
  | some ' ' => none
  | cell => cell

/-- For each of the `count` code points from `first` on, whether the chart has its character. -/
def holds (chart : Chart) (first count : Nat) : Array Bool :=
  chart.foldl
    (fun marks cells =>
      cells.foldl
        (fun marks c =>
          if first ≤ c.toNat then marks.setIfInBounds (c.toNat - first) true else marks)
        marks)
    (Array.replicate count false)

/-- The characters with the `count` code points from `first` on that the chart lacks, in order. -/
def others (chart : Chart) (first count : Nat) : Array Char :=
  ((chart.holds first count).toList.zipIdx.filterMap fun (held, i) =>
    if held then none else some (Char.ofNat (first + i))).toArray

end Chart

end ActionGateway
