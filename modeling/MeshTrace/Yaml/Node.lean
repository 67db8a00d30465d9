import MeshTrace.Table
import MeshTrace.Yaml.Scanner

namespace MeshTrace.Yaml

/-- A value in a document. -/
inductive Node
  | reference (anchor : Nat)
  | scalar (tag : Option String) (style : Style) (text : String)
  | sequence (items : List Node)
  | mapping (entries : List (Node × Node))

/-- A document: its value, none if the text holds no document, and the values with anchors. -/
structure Document where
  root : Option Node
  anchored : Table Node

/-- What is left of a text while its values are read. -/
structure Remaining where
  tokens : List Token
  /-- What the handles of tags stand for. -/
  handles : List (List Char × List Char)
  /-- The numbers of the anchors that can be referred to. -/
  names : List (List Char × Nat)
  anchored : Table Node

namespace Remaining

def head (r : Remaining) : Option Token := r.tokens.head?

def advance (r : Remaining) : Remaining := { r with tokens := r.tokens.tail }

/-- Whether the next token is one of these. -/
def at? (r : Remaining) (ts : List Token) : Bool := r.head.any ts.contains

/-- Whether the next token is one of these; it is passed if it is. -/
def pass? (r : Remaining) (t : Token) : Option Remaining :=
  if r.head = some t then some r.advance else none

/-- Gives the number of an anchor: how many names there are. A name that is used again keeps to its
place and takes the new number. -/
def declare (r : Remaining) (name : List Char) : Nat × Remaining :=
  (r.names.length,
    { r with names := (name, r.names.length) :: r.names.filter (·.1 != name) })

/-- The text of a tag. -/
def tagText? (r : Remaining) (handle suffix : List Char) : Option (List Char) :=
  if handle.isEmpty then some suffix else (r.handles.lookup handle).map (· ++ suffix)

end Remaining

/-- What may stand before a value: an anchor and a tag, in either order. -/
structure Properties where
  anchor : Option (List Char)
  tag : Option (List Char × List Char)

namespace Properties

/-- Reads what stands before a value. -/
def read (r : Remaining) : Properties × Remaining :=
  match r.tokens with
  | .anchor a :: .tag h s :: _ => (⟨some a, some (h, s)⟩, r.advance.advance)
  | .anchor a :: _ => (⟨some a, none⟩, r.advance)
  | .tag h s :: .anchor a :: _ => (⟨some a, some (h, s)⟩, r.advance.advance)
  | .tag h s :: _ => (⟨none, some (h, s)⟩, r.advance)
  | _ => (⟨none, none⟩, r)

end Properties

namespace Node

/-- The value where none is written. -/
def empty : Node := scalar none .plain ""

/-- Keeps a value under the number of its anchor. -/
def keep (number : Option Nat) (n : Node) (r : Remaining) : Node × Remaining :=
  match number with
  | none => (n, r)
  | some k => (n, { r with anchored := r.anchored.insert k n })

mutual

/-- Reads a value. Block collections stand only in blocks; the entries of a sequence may stand right
below the key of a mapping. -/
def read? (block indentless : Bool) : Nat → Remaining → Option (Node × Remaining)
  | 0, _ => none
  | fuel + 1, r =>
    match r.head with
    | some (.reference name) => (r.names.lookup name).map fun k => (reference k, r.advance)
    | _ => do
      let (p, r) := Properties.read r
      let tag ←
        (match p.tag with
        | none => some none
        | some (handle, suffix) => (r.tagText? handle suffix).map some)
      let (number, r) :=
        match p.anchor with
        | none => (none, r)
        | some name =>
          let (k, r) := r.declare name
          (some k, r)
      let tagged := (tag.filter (· != ['!'])).map String.ofList
      match r.head with
      | some .blockEntry =>
        if indentless then do
          let (items, r) ← indentlessItems? fuel r
          return keep number (sequence items) r
        else if p.anchor.isSome || tag.isSome then
          return keep number (scalar tagged .plain "") r
        else none
      | some (.scalar style text) =>
        return keep number (scalar tagged style (String.ofList text)) r.advance
      | some .flowSequenceStart => do
        let (items, r) ← flowItems? fuel true r.advance
        return keep number (sequence items) r
      | some .flowMappingStart => do
        let (entries, r) ← flowEntries? fuel true r.advance
        return keep number (mapping entries) r
      | some .blockSequenceStart =>
        if block then do
          let (items, r) ← blockItems? fuel r.advance
          return keep number (sequence items) r
        else if p.anchor.isSome || tag.isSome then
          return keep number (scalar tagged .plain "") r
        else none
      | some .blockMappingStart =>
        if block then do
          let (entries, r) ← blockEntries? fuel r.advance
          return keep number (mapping entries) r
        else if p.anchor.isSome || tag.isSome then
          return keep number (scalar tagged .plain "") r
        else none
      | _ =>
        if p.anchor.isSome || tag.isSome then return keep number (scalar tagged .plain "") r
        else none

/-- Reads a value in a block, or the empty value if one of the given tokens stands there. -/
def readUnless? (stops : List Token) (block indentless : Bool) :
    Nat → Remaining → Option (Node × Remaining)
  | 0, _ => none
  | fuel + 1, r => if r.at? stops then some (empty, r) else read? block indentless fuel r

/-- Reads the items of a block sequence and its end. -/
def blockItems? : Nat → Remaining → Option (List Node × Remaining)
  | 0, _ => none
  | fuel + 1, r =>
    match r.head with
    | some .blockEntry => do
      let (item, r) ← readUnless? [.blockEntry, .blockEnd] true false fuel r.advance
      let (items, r) ← blockItems? fuel r
      return (item :: items, r)
    | some .blockEnd => some ([], r.advance)
    | _ => none

/-- Reads the items of a sequence that is not indented. -/
def indentlessItems? : Nat → Remaining → Option (List Node × Remaining)
  | 0, _ => none
  | fuel + 1, r =>
    match r.head with
    | some .blockEntry => do
      let (item, r) ←
        readUnless? [.blockEntry, .key, .value, .blockEnd] true false fuel r.advance
      let (items, r) ← indentlessItems? fuel r
      return (item :: items, r)
    | _ => some ([], r)

/-- Reads the entries of a block mapping and its end. -/
def blockEntries? : Nat → Remaining → Option (List (Node × Node) × Remaining)
  | 0, _ => none
  | fuel + 1, r =>
    match r.head with
    | some .key => do
      let (key, r) ← readUnless? [.key, .value, .blockEnd] true true fuel r.advance
      let (value, r) ←
        (match r.pass? .value with
        | some r => readUnless? [.key, .value, .blockEnd] true true fuel r
        | none => some (empty, r))
      let (entries, r) ← blockEntries? fuel r
      return ((key, value) :: entries, r)
    | some .blockEnd => some ([], r.advance)
    | _ => none

/-- Reads the items of a flow sequence and its end. An item may be a mapping of one entry. -/
def flowItems? : Nat → Bool → Remaining → Option (List Node × Remaining)
  | 0, _, _ => none
  | fuel + 1, first, r =>
    if r.at? [.flowSequenceEnd] then some ([], r.advance)
    else do
      let r ← if first then some r else r.pass? .flowEntry
      match r.head with
      | some .flowSequenceEnd => some ([], r.advance)
      | some .key =>
        let r := r.advance
        let (key, r) ←
          (if r.at? [.value, .flowEntry, .flowSequenceEnd] then some (empty, r.advance)
          else read? false false fuel r)
        let (value, r) ←
          (match r.pass? .value with
          | some r => readUnless? [.flowEntry, .flowSequenceEnd] false false fuel r
          | none => some (empty, r))
        let (items, r) ← flowItems? fuel false r
        return (mapping [(key, value)] :: items, r)
      | _ =>
        let (item, r) ← read? false false fuel r
        let (items, r) ← flowItems? fuel false r
        return (item :: items, r)

/-- Reads the entries of a flow mapping and its end. -/
def flowEntries? : Nat → Bool → Remaining → Option (List (Node × Node) × Remaining)
  | 0, _, _ => none
  | fuel + 1, first, r =>
    if r.at? [.flowMappingEnd] then some ([], r.advance)
    else do
      let r ← if first then some r else r.pass? .flowEntry
      match r.head with
      | some .flowMappingEnd => some ([], r.advance)
      | some .key =>
        let (key, r) ← readUnless? [.value, .flowEntry, .flowMappingEnd] false false fuel r.advance
        let (value, r) ←
          (match r.pass? .value with
          | some r => readUnless? [.flowEntry, .flowMappingEnd] false false fuel r
          | none => some (empty, r))
        let (entries, r) ← flowEntries? fuel false r
        return ((key, value) :: entries, r)
      | _ =>
        let (key, r) ← read? false false fuel r
        let (entries, r) ← flowEntries? fuel false r
        return ((key, empty) :: entries, r)

end

end Node

namespace Document

/-- The handles that need no directive. -/
def standardHandles : List (List Char × List Char) :=
  [(['!'], ['!']), (['!', '!'], "tag:yaml.org,2002:".toList)]

/-- Reads the directives before a document. A version is given once, and a handle is. -/
def directives? (versioned : Bool) (handles : List (List Char × List Char)) :
    List Token → Option (List (List Char × List Char) × List Token)
  | .version major minor :: rest =>
    if versioned || major ≠ 1 || (minor ≠ 1 && minor ≠ 2) then none
    else directives? true handles rest
  | .tagHandle handle expansion :: rest =>
    if (handles.lookup handle).isSome then none
    else directives? versioned ((handle, expansion) :: handles) rest
  | rest => some (handles ++ standardHandles, rest)

/-- Reads the value of a document, which may be missing. -/
def root? (r : Remaining) : Option (Node × Remaining) :=
  match r.head with
  | none => some (.empty, r)
  | some (.version _ _) => some (.empty, r)
  | some (.tagHandle _ _) => some (.empty, r)
  | some .documentStart => some (.empty, r)
  | some .documentEnd => some (.empty, r)
  | some _ => Node.read? true false (4 * r.tokens.length + 8) r

/-- Reads a text that holds at most one document, none if it is not well-formed. -/
def ofText? (cs : List Char) : Option Document := do
  let tokens ← tokens? cs
  match tokens with
  | [] => return ⟨none, ∅⟩
  | first :: _ =>
    let (handles, tokens) ← directives? false [] tokens
    let explicit := tokens.head? = some .documentStart
    let directed := match first with
      | .version _ _ => true
      | .tagHandle _ _ => true
      | _ => false
    if directed && !explicit then none
    else
      let tokens := if explicit then tokens.tail else tokens
      let r : Remaining := ⟨tokens, handles, [], ∅⟩
      let (root, r) ← if explicit then root? r else Node.read? true false (4 * tokens.length + 8) r
      if (r.tokens.dropWhile (· = .documentEnd)).isEmpty then return ⟨some root, r.anchored⟩
      else none

end Document

end MeshTrace.Yaml
