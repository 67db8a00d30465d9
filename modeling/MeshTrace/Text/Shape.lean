import MeshTrace.Text.Blank
import MeshTrace.Text.Digit

namespace MeshTrace.Text

/-- One part of the shape of a line. -/
inductive Piece
  /-- One of the given words, the first that fits. -/
  | oneOf (words : List String) (kept : Bool)
  /-- A run of accepted characters, as long as possible and no shorter than `least`. -/
  | run (accepts : Char → Bool) (least : Nat) (kept : Bool)

/-- What a line looks like from some place on. -/
abbrev Shape := List Piece

namespace Piece

/-- Exactly this text. -/
def text (s : String) : Piece := oneOf [s] false

/-- Blanks, or nothing. -/
def blanks : Piece := run isBlank 0 false

/-- A word: it is kept. -/
def word : Piece := run (!isBlank ·) 1 true

/-- Decimal digits: they are kept. -/
def digits : Piece := run isDecimal 1 true

/-- Reads the piece from the front of a text: the kept characters and the rest. -/
def read (piece : Piece) (cs : List Char) : Option (List (List Char) × List Char) :=
  match piece with
  | oneOf words kept =>
    words.findSome? fun w =>
      (w.toList.isPrefixOf? cs).map fun rest => (if kept then [w.toList] else [], rest)
  | run accepts least kept =>
    let front := cs.takeWhile accepts
    if front.length < least then none
    else some (if kept then [front] else [], cs.dropWhile accepts)

end Piece

namespace Shape

/-- Reads the pieces one after the other: all kept characters, in order, and the rest. -/
def read : Shape → List Char → Option (List (List Char) × List Char)
  | [], cs => some ([], cs)
  | piece :: shape, cs =>
    match piece.read cs with
    | none => none
    | some (kept, rest) => (read shape rest).map fun (more, rest) => (kept ++ more, rest)

/-- Reads a text that has the shape from its front to its end. -/
def readAll (shape : Shape) (cs : List Char) : Option (List (List Char)) :=
  match shape.read cs with
  | some (kept, []) => some kept
  | _ => none

end Shape

end MeshTrace.Text
