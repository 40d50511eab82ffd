import LogHarvest.Text.Basic

/-!
# Text files

A text file is UTF-8. Its line ends, a line feed, a carriage return or both, all read as a line feed.
-/

namespace LogHarvest

/-- The bytes of a file or of an archived object. -/
abbrev Bytes := List UInt8

namespace Text

/-- The characters with every line end as a line feed. -/
def unifyLineEnds : List Char → List Char
  | '\r' :: '\n' :: r => '\n' :: unifyLineEnds r
  | '\r' :: r => '\n' :: unifyLineEnds r
  | c :: r => c :: unifyLineEnds r
  | [] => []

/-- The characters of a text file, if its bytes are UTF-8. -/
def ofFile? (bytes : Bytes) : Option (List Char) :=
  (String.fromUTF8? ⟨bytes.toArray⟩).map fun s => unifyLineEnds s.toList

/-- The bytes of a string in UTF-8. -/
def utf8 (s : String) : Bytes := s.toUTF8.toList

end Text

end LogHarvest
