namespace MeshTrace

/-- The characters with the White_Space property: they separate words and are trimmed from the
ends of a line. -/
def isBlank (c : Char) : Bool :=
  let n := c.toNat
  (0x09 ≤ n && n ≤ 0x0D) || n = 0x20 || n = 0x85 || n = 0xA0 || n = 0x1680 ||
    (0x2000 ≤ n && n ≤ 0x200A) || n = 0x2028 || n = 0x2029 || n = 0x202F || n = 0x205F || n = 0x3000

namespace Text

/-- Drops the blanks at the front. -/
def trimStart (cs : List Char) : List Char := cs.dropWhile isBlank

/-- Drops the blanks at the end. -/
def trimEnd (cs : List Char) : List Char := (trimStart cs.reverse).reverse

/-- Drops the blanks at both ends. -/
def trim (cs : List Char) : List Char := trimEnd (trimStart cs)

/-- The first word, and what follows it from the next word on; none if all is blank. -/
def nextWord? (cs : List Char) : Option (List Char × List Char) :=
  match trimStart cs with
  | [] => none
  | start => some (start.takeWhile (!isBlank ·), trimStart (start.dropWhile (!isBlank ·)))

/-- Puts a character in front of the first piece, or a new piece in front of all if the character
is a cut. -/
def addToPieces (cut : Char → Bool) (c : Char) : List (List Char) → List (List Char)
  | [] => [[c]]
  | piece :: pieces => if cut c then [] :: piece :: pieces else (c :: piece) :: pieces

/-- Splits at every character that `cut` accepts; the pieces may be empty and there is at least
one. -/
def splitAt (cut : Char → Bool) (cs : List Char) : List (List Char) :=
  cs.foldr (addToPieces cut) [[]]

/-- The maximal runs of characters that are not blank. -/
def words (cs : List Char) : List (List Char) := (splitAt isBlank cs).filter (!·.isEmpty)

/-- The parts of `cs` between occurrences of `cut`, but with all that follows the first `limit - 1`
occurrences in one part. -/
def columns (cut : Char) : Nat → List Char → List (List Char)
  | 0, _ => []
  | 1, cs => [cs]
  | n + 2, cs =>
    match cs.dropWhile (· != cut) with
    | [] => [cs]
    | _ :: rest => cs.takeWhile (· != cut) :: columns cut (n + 1) rest

/-- A line without the carriage return before its line feed. -/
def dropReturn (line : List Char) : List Char :=
  match line.reverse with
  | '\r' :: front => front.reverse
  | _ => line

/-- The lines of a text: each ends with a line feed, with or without a carriage return before it;
the last may end with the text. -/
def lines (cs : List Char) : List (List Char) :=
  let pieces := splitAt (· == '\n') cs
  match pieces.getLast? with
  | none => []
  | some last => pieces.dropLast.map dropReturn ++ (if last.isEmpty then [] else [last])

end Text

end MeshTrace
