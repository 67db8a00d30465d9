import MeshTrace.Yaml.Scalar
import MeshTrace.Yaml.Token

namespace MeshTrace.Yaml

/-- A place that turns out to be a mapping key if a colon follows on the same line. -/
structure KeyPlace where
  /-- Whether nothing but a key may stand there. -/
  required : Bool
  /-- How many tokens stand before it. -/
  tokens : Nat
  index : Nat
  line : Nat
  column : Nat

/-- The tokens of a text up to some place. -/
structure Scanner where
  cursor : Cursor
  tokens : Array Token
  /-- The column of the innermost block collection, -1 outside of all. -/
  indent : Int
  /-- The columns of the outer block collections. -/
  outer : List Int
  /-- Whether a mapping key may start here. -/
  keyAllowed : Bool
  /-- The last possible key of the innermost flow collection. -/
  key : Option KeyPlace
  /-- Those of the outer flow collections. -/
  outerKeys : List (Option KeyPlace)

namespace Scanner

def start (cs : List Char) : Scanner := ⟨.atStart cs, #[], -1, [], true, none, []⟩

/-- Whether a flow collection is open. -/
def inFlow (s : Scanner) : Bool := !s.outerKeys.isEmpty

def emit (s : Scanner) (t : Token) : Scanner := { s with tokens := s.tokens.push t }

/-- Passes `n` characters, which make up a token. -/
def emitMany (s : Scanner) (n : Nat) (t : Token) : Scanner :=
  { s with tokens := s.tokens.push t, cursor := s.cursor.skipMany n }

/-- Puts a token at an earlier place. -/
def insertAt (s : Scanner) (place : Nat) (t : Token) : Scanner :=
  { s with
    tokens := ((s.tokens.toList.take place) ++ t :: (s.tokens.toList.drop place)).toArray }

/-- Gives up a possible key; it must not have been required. -/
def dropKey? (s : Scanner) : Option Scanner :=
  if s.key.any (·.required) then none else some { s with key := none }

/-- Notes that a key may start here. -/
def saveKey? (s : Scanner) : Option Scanner :=
  if s.keyAllowed then
    s.dropKey?.map fun s =>
      { s with
        key := some
          { required := !s.inFlow && s.indent = s.cursor.column
            tokens := s.tokens.size
            index := s.cursor.index
            line := s.cursor.line
            column := s.cursor.column } }
  else some s

/-- Whether a place cannot be a key any more: keys stay on one line and are short. -/
def isStale (c : Cursor) (k : KeyPlace) : Bool := k.line < c.line || k.index + 1024 < c.index

/-- Gives up the possible keys that are too far back. -/
def dropStaleKeys? (s : Scanner) : Option Scanner :=
  let stale := isStale s.cursor
  if (s.key :: s.outerKeys).any (·.any fun k => stale k && k.required) then none
  else
    some { s with
      key := s.key.filter (!stale ·)
      outerKeys := s.outerKeys.map (·.filter (!stale ·)) }

/-- Opens a block collection at a column that is further in, with its token at the given place. -/
def indentTo (s : Scanner) (column : Nat) (place : Nat) (t : Token) : Scanner :=
  if !s.inFlow && s.indent < column then
    { s with indent := column, outer := s.indent :: s.outer }.insertAt place t
  else s

/-- Opens a block collection here. -/
def indentHere (s : Scanner) (t : Token) : Scanner :=
  s.indentTo s.cursor.column s.tokens.size t

/-- Closes the block collections that are further in than `column`. -/
def closeBlocks (column : Int) : Int → List Int → Array Token → Int × List Int × Array Token
  | indent, [], tokens => (indent, [], tokens)
  | indent, next :: outer, tokens =>
    if column < indent then closeBlocks column next outer (tokens.push .blockEnd)
    else (indent, next :: outer, tokens)

/-- Goes back to a column; inside a flow collection, columns do not count. -/
def unindentTo (s : Scanner) (column : Int) : Scanner :=
  if s.inFlow then s
  else
    let (indent, outer, tokens) := closeBlocks column s.indent s.outer s.tokens
    { s with indent, outer, tokens }

/-- Passes blanks, comments and line breaks. Tabs do not count as blanks where a key may start in a
block. -/
def toNextToken (s : Scanner) : Nat → Scanner
  | 0 => s
  | fuel + 1 =>
    let c := s.cursor
    let c := if c.column = 0 && (c.peek 0).any isMark then c.skip else c
    let c := c.skipWhile fun x => x = ' ' || (x = '\t' && (s.inFlow || !s.keyAllowed))
    let c := c.skipComment
    if c.onBreak then
      toNextToken { s with cursor := c.skipBreak, keyAllowed := s.keyAllowed || !s.inFlow } fuel
    else { s with cursor := c }

/-- The digits of a version number, at most nine. -/
def versionNumber? (c : Cursor) : Option (Nat × Cursor) :=
  let digits := c.front Char.isDigit
  if digits.isEmpty || 9 < digits.length then none
  else some (digits.foldl (fun n x => n * 10 + (x.toNat - 0x30)) 0, c.skipMany digits.length)

/-- Reads the handle of a tag: a sign, or a name between two signs. Only a directive must have the
second sign. -/
def tagHandle? (directive : Bool) (c : Cursor) : Option (List Char × Cursor) :=
  if c.has 0 '!' then
    let name := c.skip.front isNameChar
    let c := c.skip.skipMany name.length
    if c.has 0 '!' then some ('!' :: name ++ ['!'], c.skip)
    else if directive && !name.isEmpty then none
    else some ('!' :: name, c)
  else none

/-- The characters of tags; those that are signs of flow collections only inside angle brackets. -/
def isTagChar (bracketed : Bool) (c : Char) : Bool :=
  isNameChar c || ";/?:@&=+$.%!~*'()".toList.contains c ||
    (bracketed && (c = ',' || c = '[' || c = ']'))

/-- A byte written as a percent sign and two hexadecimal digits. -/
def percentByte? (c : Cursor) : Option (UInt8 × Cursor) :=
  if c.has 0 '%' && 3 ≤ c.rest.length then
    (Scalar.hexNumber? (c.skip.rest.take 2)).map fun n => (n.toUInt8, c.skipMany 3)
  else none

/-- The number of bytes of a character by its first byte. -/
def byteWidth? (b : UInt8) : Option Nat :=
  if b &&& 0x80 = 0x00 then some 1
  else if b &&& 0xE0 = 0xC0 then some 2
  else if b &&& 0xF0 = 0xE0 then some 3
  else if b &&& 0xF8 = 0xF0 then some 4
  else none

/-- Reads the further bytes of a character. -/
def moreBytes? : Nat → List UInt8 → Cursor → Option (List UInt8 × Cursor)
  | 0, bytes, c => some (bytes, c)
  | n + 1, bytes, c =>
    match percentByte? c with
    | some (b, c) => if b &&& 0xC0 = 0x80 then moreBytes? n (bytes ++ [b]) c else none
    | none => none

/-- Reads a character whose bytes are written with percent signs. -/
def percentChar? (c : Cursor) : Option (List Char × Cursor) := do
  let (first, c) ← percentByte? c
  let width ← byteWidth? first
  let (bytes, c) ← moreBytes? (width - 1) [first] c
  let text ← String.fromUTF8? ⟨bytes.toArray⟩
  return (text.toList, c)

/-- Reads the text of a tag, which may be empty only if `head` stands before it. -/
def tagText? (bracketed : Bool) : Nat → List Char → Cursor → Option (List Char × Cursor)
  | 0, _, _ => none
  | fuel + 1, text, c =>
    match c.peek 0 with
    | none => some (text.reverse, c)
    | some x =>
      if isTagChar bracketed x then
        if x = '%' then
          match percentChar? c with
          | some (more, c) => tagText? bracketed fuel (more.reverse ++ text) c
          | none => none
        else tagText? bracketed fuel (x :: text) c.skip
      else some (text.reverse, c)

/-- Reads a directive whose sign is here. -/
def directive? (c : Cursor) : Option (Token × Cursor) := do
  let c := c.skip
  let name := c.front isNameChar
  let c := c.skipMany name.length
  if name.isEmpty || !c.wordEndsAt 0 then none
  else if name = "YAML".toList then do
    let (major, c) ← versionNumber? c.skipSpaces
    if !c.has 0 '.' then none
    else
      let (minor, c) ← versionNumber? c.skip
      let c ← c.endOfLine?
      return (.version major minor, c)
  else if name = "TAG".toList then do
    let (handle, c) ← tagHandle? true c.skipSpaces
    if !c.onSpace then none
    else
      let c := c.skipSpaces
      let (expansion, c) ← tagText? true (c.rest.length + 1) [] c
      if expansion.isEmpty || !c.wordEndsAt 0 then none
      else
        let c ← c.endOfLine?
        return (.tagHandle handle expansion, c)
  else none

/-- Reads the name of an anchor or reference whose sign is here. -/
def name? (c : Cursor) : Option (List Char × Cursor) :=
  let name := c.skip.front isNameChar
  let c := c.skip.skipMany name.length
  if !name.isEmpty && (c.wordEndsAt 0 || (c.peek 0).any "?:,]\x7d%@\x60".toList.contains) then
    some (name, c)
  else none

/-- Reads a tag whose sign is here. -/
def tag? (inFlow : Bool) (c : Cursor) : Option (Token × Cursor) := do
  let (token, c) ←
    (if c.has 1 '<' then do
      let start := c.skipMany 2
      let (suffix, c) ← tagText? true (start.rest.length + 1) [] start
      if suffix.isEmpty || !c.has 0 '>' then none else some (Token.tag [] suffix, c.skip)
    else do
      let (handle, c) ← tagHandle? false c
      let (suffix, c) ← tagText? false (c.rest.length + 1) [] c
      if 2 ≤ handle.length && handle.getLast? = some '!' then
        if suffix.isEmpty then none else some (Token.tag handle suffix, c)
      else
        let suffix := handle.drop 1 ++ suffix
        some (if suffix.isEmpty then Token.tag [] ['!'] else Token.tag ['!'] suffix, c))
  if c.wordEndsAt 0 || (inFlow && c.has 0 ',') then some (token, c) else none

/-- Takes a block entry sign. -/
def blockEntry? (s : Scanner) : Option Scanner :=
  if !s.inFlow && !s.keyAllowed then none
  else do
    let s ← (s.indentHere .blockSequenceStart).dropKey?
    return { s with keyAllowed := true }.emitMany 1 .blockEntry

/-- Takes a key sign. -/
def keySign? (s : Scanner) : Option Scanner :=
  if !s.inFlow && !s.keyAllowed then none
  else do
    let s ← (s.indentHere .blockMappingStart).dropKey?
    return { s with keyAllowed := !s.inFlow }.emitMany 1 .key

/-- Takes a value sign. If a possible key stands before it, that was a key. -/
def valueSign? (s : Scanner) : Option Scanner :=
  match s.key with
  | some k =>
    let s := (s.insertAt k.tokens .key).indentTo k.column k.tokens .blockMappingStart
    some ({ s with key := none, keyAllowed := false }.emitMany 1 .value)
  | none =>
    if !s.inFlow && !s.keyAllowed then none
    else
      let s := s.indentHere .blockMappingStart
      some ({ s with keyAllowed := !s.inFlow }.emitMany 1 .value)

/-- Opens a flow collection. -/
def openFlow? (s : Scanner) (t : Token) : Option Scanner :=
  s.saveKey?.map fun s =>
    { s with key := none, outerKeys := s.key :: s.outerKeys, keyAllowed := true }.emitMany 1 t

/-- Closes a flow collection. -/
def closeFlow? (s : Scanner) (t : Token) : Option Scanner :=
  s.dropKey?.map fun s =>
    match s.outerKeys with
    | key :: outerKeys => { s with key, outerKeys, keyAllowed := false }.emitMany 1 t
    | [] => { s with keyAllowed := false }.emitMany 1 t

/-- Takes a token that may start a key. -/
def startKey? (s : Scanner) (read : Cursor → Option (Token × Cursor)) : Option Scanner := do
  let s ← s.saveKey?
  let (t, cursor) ← read s.cursor
  return { s with cursor, keyAllowed := false }.emit t

/-- Takes a plain scalar. -/
def plain? (s : Scanner) : Option Scanner := do
  let s ← s.saveKey?
  let scanned ← Scalar.plain? s.inFlow (s.indent + 1) s.cursor
  return { s with cursor := scanned.cursor, keyAllowed := scanned.brokeLine }.emit
    (.scalar .plain scanned.text)

/-- Takes a block scalar. -/
def block? (s : Scanner) (literal : Bool) : Option Scanner := do
  let s ← s.dropKey?
  let (text, cursor) ← Scalar.block? literal s.indent s.cursor
  return { s with cursor, keyAllowed := true }.emit
    (.scalar (if literal then .literal else .folded) text)

/-- Leaves all block collections for a sign of the document. -/
def documentSign? (s : Scanner) : Option Scanner :=
  (s.unindentTo (-1)).dropKey?.map fun s => { s with keyAllowed := false }

/-- Signs that cannot start a plain scalar. -/
def reserved : List Char := "-?:,[]\x7b\x7d#&*!|>'\"%@\x60".toList

/-- Whether a plain scalar starts here. -/
def onPlain (s : Scanner) : Bool :=
  match s.cursor.peek 0 with
  | none => false
  | some x =>
    !(s.cursor.wordEndsAt 0 || reserved.contains x) ||
      (x = '-' && !(s.cursor.peek 1).any isSpace) ||
      (!s.inFlow && (x = '?' || x = ':') && !s.cursor.wordEndsAt 1)

/-- Takes the token that starts here. -/
def token? (s : Scanner) : Option Scanner :=
  let c := s.cursor
  let blockSign := s.inFlow || c.wordEndsAt 1
  if c.column = 0 && c.has 0 '%' then do
    let s ← s.documentSign?
    let (t, cursor) ← directive? s.cursor
    return { s with cursor }.emit t
  else if c.onDocumentMark then
    s.documentSign?.map (·.emitMany 3 (if c.has 0 '-' then .documentStart else .documentEnd))
  else if c.has 0 '[' then s.openFlow? .flowSequenceStart
  else if c.has 0 '\x7b' then s.openFlow? .flowMappingStart
  else if c.has 0 ']' then s.closeFlow? .flowSequenceEnd
  else if c.has 0 '\x7d' then s.closeFlow? .flowMappingEnd
  else if c.has 0 ',' then
    s.dropKey?.map fun s => { s with keyAllowed := true }.emitMany 1 .flowEntry
  else if c.has 0 '-' && c.wordEndsAt 1 then s.blockEntry?
  else if c.has 0 '?' && blockSign then s.keySign?
  else if c.has 0 ':' && blockSign then s.valueSign?
  else if c.has 0 '*' then
    s.startKey? fun c => (name? c).map fun (name, c) => (.reference name, c)
  else if c.has 0 '&' then
    s.startKey? fun c => (name? c).map fun (name, c) => (.anchor name, c)
  else if c.has 0 '!' then s.startKey? (tag? s.inFlow)
  else if c.has 0 '|' && !s.inFlow then s.block? true
  else if c.has 0 '>' && !s.inFlow then s.block? false
  else if c.has 0 '\'' || c.has 0 '"' then
    s.startKey? fun c =>
      (Scalar.quoted? ((c.peek 0).getD '"') c).map fun (text, c) => (.scalar .quoted text, c)
  else if s.onPlain then s.plain?
  else none

/-- Takes all tokens up to the end of the text. -/
def run? : Nat → Scanner → Option (List Token)
  | 0, _ => none
  | fuel + 1, s => do
    let s ← (s.toNextToken (s.cursor.rest.length + 1)).dropStaleKeys?
    let s := s.unindentTo s.cursor.column
    if s.cursor.atEnd then
      let s ← s.documentSign?
      return s.tokens.toList
    else
      let s ← s.token?
      run? fuel s

end Scanner

/-- The tokens of a text, none if it is not well-formed. -/
def tokens? (cs : List Char) : Option (List Token) :=
  let cs :=
    match cs with
    | c :: rest => if isMark c then rest else cs
    | [] => []
  if cs.all isAllowed then Scanner.run? (cs.length + 2) (.start cs) else none

end MeshTrace.Yaml
