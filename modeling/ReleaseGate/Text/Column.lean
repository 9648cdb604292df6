import ReleaseGate.Unicode.Upper

/-!
# Titles and columns — how labels stand in a report

A label is padded with spaces to the width of its column, counted in characters; one that is wider
than the column is written out in full and pushes the rest of its row.
-/

namespace ReleaseGate.Text

/-- A text followed by spaces up to `width` characters. -/
def padRight (width : Nat) (s : String) : String :=
  s ++ String.ofList (List.replicate (width - s.toList.length) ' ')

/-- A name with its first character in upper case. -/
def capitalised (s : String) : String :=
  match s.toList with
  | [] => ""
  | c :: rest => String.ofList (Unicode.Upper.upper c ++ rest)

/-- The texts with a separator between each two. -/
def joined (separator : String) : List String → String
  | [] => ""
  | [s] => s
  | s :: rest => s ++ separator ++ joined separator rest

end ReleaseGate.Text
