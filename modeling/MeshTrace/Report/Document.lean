import MeshTrace.Number.Shortest

namespace MeshTrace

/-- A value of a JSON document. The fields of a record keep their order. -/
inductive Document
  | bool (value : Bool)
  | int (value : Int)
  /-- Floats that are not finite are written as null. -/
  | float (value : Float)
  | text (value : String)
  | list (items : List Document)
  | record (fields : List (String × Document))

namespace Document

def nat (n : Nat) : Document := int n

/-- The four hexadecimal digits of a control character. -/
def hexCode (n : Nat) : List Char :=
  [Nat.digitChar (n / 4096 % 16), Nat.digitChar (n / 256 % 16), Nat.digitChar (n / 16 % 16),
    Nat.digitChar (n % 16)]

/-- A character inside quotes. -/
def escape (c : Char) : List Char :=
  if c = '"' then ['\\', '"']
  else if c = '\\' then ['\\', '\\']
  else if c = '\n' then ['\\', 'n']
  else if c = '\r' then ['\\', 'r']
  else if c = '\t' then ['\\', 't']
  else if c.toNat = 0x08 then ['\\', 'b']
  else if c.toNat = 0x0C then ['\\', 'f']
  else if c.toNat < 0x20 then '\\' :: 'u' :: hexCode c.toNat
  else [c]

def quoted (s : String) : List Char := '"' :: s.toList.flatMap escape ++ ['"']

/-- A line feed and the blanks in front of what is nested `depth` times. -/
def newline (depth : Nat) : List Char := '\n' :: List.replicate (2 * depth) ' '

mutual

/-- Writes a value that is nested `depth` times, one item or field a line. -/
def write (depth : Nat) : Document → List Char
  | bool value => (if value then "true" else "false").toList
  | int value =>
    if value < 0 then '-' :: Nat.toDigits 10 value.natAbs else Nat.toDigits 10 value.natAbs
  | float value => (Number.documentText? value).getD "null".toList
  | text value => quoted value
  | list [] => ['[', ']']
  | list (item :: items) =>
    '[' :: newline (depth + 1) ++ write (depth + 1) item ++ writeItems (depth + 1) items ++
      newline depth ++ [']']
  | record [] => ['\x7b', '\x7d']
  | record ((name, value) :: fields) =>
    '\x7b' :: newline (depth + 1) ++ quoted name ++ ':' :: ' ' :: write (depth + 1) value ++
      writeFields (depth + 1) fields ++ newline depth ++ ['\x7d']

/-- Writes the items after the first. -/
def writeItems (depth : Nat) : List Document → List Char
  | [] => []
  | item :: items => ',' :: newline depth ++ write depth item ++ writeItems depth items

/-- Writes the fields after the first. -/
def writeFields (depth : Nat) : List (String × Document) → List Char
  | [] => []
  | (name, value) :: fields =>
    ',' :: newline depth ++ quoted name ++ ':' :: ' ' :: write depth value ++
      writeFields depth fields

end

/-- The text of a document, without a final line feed. -/
def toText (d : Document) : List Char := d.write 0

end Document

end MeshTrace
