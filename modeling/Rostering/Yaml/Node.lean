import Rostering.Yaml.Tag
import Rostering.Yaml.Token

/-!
# Yaml.Node — the structure of YAML text

A `Node` is a scalar or a collection of other nodes. An alias stands for the node that was given
its name before, so a node may be part of several others, and a collection even of itself.
Therefore nodes refer to each other by number: a `Graph` is all of them, and a `Document` says
which one is the outermost.

`Document.ofTokens?` reads one document from tokens, by descent over the grammar: block collections
are closed by their own tokens, items of flow collections are separated by commas, and a missing
item is an empty plain scalar. A name may be given once.

Every call of the descent either takes a token or comes right before one that does, so the number
of tokens bounds its depth.
-/

namespace Rostering.Yaml

/-- A tagged scalar, or a tagged collection of nodes. -/
inductive Node where
  | scalar (tag : Tag) (text : String)
  | sequence (tag : Tag) (items : List Nat)
  | mapping (tag : Tag) (entries : List (Nat × Nat))

abbrev Graph := Array Node

namespace Node

def absent : Node := .scalar .null ""

/-- What has been read of a document: the tokens to come, the handles of tags, the nodes, and the
numbers of those that have names. -/
structure Reading where
  tokens : List Token
  handles : List (String × String)
  nodes : Graph
  anchors : List (String × Nat)

namespace Reading

def drop (r : Reading) : Reading := { r with tokens := r.tokens.tail }

def comes (r : Reading) (ts : List Token) : Bool :=
  match r.tokens with
  | [] => false
  | t :: _ => ts.contains t

def expect (r : Reading) (t : Token) : Option Reading :=
  if r.comes [t] then some r.drop else none

/-- Adds a node, under a name if it has one. -/
def add (r : Reading) (anchor : Option String) (n : Node) : Nat × Reading :=
  let number := r.nodes.size
  let anchors := match anchor with
    | some a => (a, number) :: r.anchors
    | none => r.anchors
  (number, { r with nodes := r.nodes.push n, anchors := anchors })

def reserve (r : Reading) (anchor : Option String) : Nat × Reading := r.add anchor absent

def fill (r : Reading) (number : Nat) (n : Node) : Reading :=
  { r with nodes := r.nodes.setIfInBounds number n }

end Reading

/-- The anchor and the tag in front of a node, in either order. -/
def takeProperties (r : Reading) : Option String × Option (Option String × String) × Reading :=
  match r.tokens with
  | .anchor a :: .tag h s :: _ => (some a, some (h, s), r.drop.drop)
  | .tag h s :: .anchor a :: _ => (some a, some (h, s), r.drop.drop)
  | .anchor a :: _ => (some a, none, r.drop)
  | .tag h s :: _ => (none, some (h, s), r.drop)
  | _ => (none, none, r)

/-- The full text of a tag; its handle has to be known. -/
def fullTag? (r : Reading) : Option (Option String × String) → Option (Option String)
  | none => some none
  | some (none, suffix) => some (some suffix)
  | some (some handle, suffix) => (r.handles.lookup handle).map fun stem => some (stem ++ suffix)

/-- The kind of a node with a tag, or of one without. -/
def kindOf (tag : Option String) (other : Tag) : Tag :=
  match tag with
  | none => other
  | some "!" => other
  | some text => Tag.ofText text

/-- The kind of a scalar. A lone exclamation mark reads a quoted scalar like a plain one. -/
def scalarKind (tag : Option String) (text : String) (plain : Bool) : Tag :=
  match tag, plain with
  | none, false => .str
  | tag, _ => kindOf tag (Tag.ofPlain text)

/-- Tokens that end an entry of a block mapping. -/
def blockEntryEnds : List Token := [.key, .value, .blockEnd]

mutual

/-- Reads a node. Block collections are read where `block` allows them, and the items of a list
that is not indented where `indentless` does. -/
def node (block indentless : Bool) : (fuel : Nat) → Reading → Option (Nat × Reading)
  | 0, _ => none
  | fuel + 1, r =>
    match r.tokens with
    | .alias a :: _ => (r.anchors.lookup a).map fun n => (n, r.drop)
    | _ => do
      let (anchor, tag, r) := takeProperties r
      let full ← fullTag? r tag
      guard ((anchor.bind fun a => r.anchors.lookup a).isNone)
      content block indentless anchor full (anchor.isSome || tag.isSome) fuel r

def content (block indentless : Bool) (anchor tag : Option String) (marked : Bool) :
    (fuel : Nat) → Reading → Option (Nat × Reading)
  | 0, _ => none
  | fuel + 1, r =>
    let empty := r.add anchor (.scalar (scalarKind tag "" true) "")
    let list := fun (read : Reading → Option (List Nat × Reading)) (r : Reading) =>
      let (number, r) := r.reserve anchor
      (read r).map fun (items, r) => (number, r.fill number (.sequence (kindOf tag .seq) items))
    let entries := fun (read : Reading → Option (List (Nat × Nat) × Reading)) (r : Reading) =>
      let (number, r) := r.reserve anchor
      (read r).map fun (es, r) => (number, r.fill number (.mapping (kindOf tag .map) es))
    match r.tokens with
    | [] => if marked then some empty else none
    | t :: _ =>
      if t = .blockEntry && indentless then list (indentlessItems fuel) r
      else
        match t with
        | .scalar text plain => some (r.drop.add anchor (.scalar (scalarKind tag text plain) text))
        | .flowSequenceStart => list (flowItems true fuel) r.drop
        | .flowMappingStart => entries (flowEntries true fuel) r.drop
        | _ =>
          if t = .blockSequenceStart && block then list (blockItems fuel) r.drop
          else if t = .blockMappingStart && block then entries (blockEntries fuel) r.drop
          else if marked then some empty
          else none

/-- Reads a node unless one of the tokens that end it comes next. -/
def optionalNode (block indentless : Bool) (ends : List Token) :
    (fuel : Nat) → Reading → Option (Nat × Reading)
  | 0, _ => none
  | fuel + 1, r =>
    if r.comes ends then some (r.add none absent) else node block indentless fuel r

/-- Reads the items of an indented list, and its end. -/
def blockItems : (fuel : Nat) → Reading → Option (List Nat × Reading)
  | 0, _ => none
  | fuel + 1, r =>
    if r.comes [.blockEntry] then do
      let (item, r) ← optionalNode true false [.blockEntry, .blockEnd] fuel r.drop
      let (items, r) ← blockItems fuel r
      some (item :: items, r)
    else (r.expect .blockEnd).map fun r => ([], r)

/-- Reads the items of a list that stands at the indentation of its key. -/
def indentlessItems : (fuel : Nat) → Reading → Option (List Nat × Reading)
  | 0, _ => none
  | fuel + 1, r =>
    if r.comes [.blockEntry] then do
      let (item, r) ← optionalNode true false (.blockEntry :: blockEntryEnds) fuel r.drop
      let (items, r) ← indentlessItems fuel r
      some (item :: items, r)
    else some ([], r)

/-- Reads the entries of an indented mapping, and its end. A value may stand without a key. -/
def blockEntries : (fuel : Nat) → Reading → Option (List (Nat × Nat) × Reading)
  | 0, _ => none
  | fuel + 1, r =>
    if r.comes [.key] then do
      let (key, r) ← optionalNode true true blockEntryEnds fuel r.drop
      let (value, r) ← blockValue fuel r
      let (es, r) ← blockEntries fuel r
      some ((key, value) :: es, r)
    else (r.expect .blockEnd).map fun r => ([], r)

/-- Reads the value of an entry, if there is one. -/
def blockValue : (fuel : Nat) → Reading → Option (Nat × Reading)
  | 0, _ => none
  | fuel + 1, r =>
    if r.comes [.value] then optionalNode true true blockEntryEnds fuel r.drop
    else some (r.add none absent)

/-- Reads the items of a list in brackets, and its end. An item may be a single entry. -/
def flowItems (first : Bool) : (fuel : Nat) → Reading → Option (List Nat × Reading)
  | 0, _ => none
  | fuel + 1, r =>
    if r.comes [.flowSequenceEnd] then some ([], r.drop)
    else do
      let r ← if first then some r else r.expect .flowEntry
      if r.comes [.flowSequenceEnd] then some ([], r.drop)
      else do
        let (item, r) ← flowItem fuel r
        let (items, r) ← flowItems false fuel r
        some (item :: items, r)

def flowItem : (fuel : Nat) → Reading → Option (Nat × Reading)
  | 0, _ => none
  | fuel + 1, r =>
    if r.comes [.key] then do
      let (key, r) ← optionalNode false false [.value, .flowEntry, .flowSequenceEnd] fuel r.drop
      let (value, r) ←
        if r.comes [.value] then
          optionalNode false false [.flowEntry, .flowSequenceEnd] fuel r.drop
        else some (r.add none absent)
      some (r.add none (.mapping .map [(key, value)]))
    else node false false fuel r

/-- Reads the entries of a mapping in braces, and its end. An entry may be a key alone. -/
def flowEntries (first : Bool) : (fuel : Nat) → Reading → Option (List (Nat × Nat) × Reading)
  | 0, _ => none
  | fuel + 1, r =>
    if r.comes [.flowMappingEnd] then some ([], r.drop)
    else do
      let r ← if first then some r else r.expect .flowEntry
      if r.comes [.flowMappingEnd] then some ([], r.drop)
      else do
        let (entry, r) ← flowPair fuel r
        let (es, r) ← flowEntries false fuel r
        some (entry :: es, r)

def flowPair : (fuel : Nat) → Reading → Option ((Nat × Nat) × Reading)
  | 0, _ => none
  | fuel + 1, r =>
    if r.comes [.key] then do
      let (key, r) ← optionalNode false false [.value, .flowEntry, .flowMappingEnd] fuel r.drop
      let (value, r) ←
        if r.comes [.value] then optionalNode false false [.flowEntry, .flowMappingEnd] fuel r.drop
        else some (r.add none absent)
      some ((key, value), r)
    else do
      let (key, r) ← node false false fuel r
      let (value, r) := r.add none absent
      some ((key, value), r)

end

end Node

/-! ## Documents -/

/-- Nodes, and the number of the outermost one. -/
structure Document where
  nodes : Graph
  root : Nat

namespace Document

open Node

/-- The handles that tags may use without a directive. -/
def defaultHandles : List (String × String) := [("!", "!"), ("!!", Tag.stem)]

/-- Takes the directives in front of a document: one version at most, of the first generation, and
each handle once. -/
def takeDirectives : (tokens : List Token) → (version : Bool) → (handles : List (String × String)) →
    Option (List (String × String) × List Token)
  | .version major :: rest, version, handles =>
    if version || major != 1 then none else takeDirectives rest true handles
  | .tagHandle handle stem :: rest, version, handles =>
    if (handles.lookup handle).isSome then none
    else takeDirectives rest version ((handle, stem) :: handles)
  | .otherDirective :: rest, version, handles => takeDirectives rest version handles
  | tokens, _, handles => some (handles, tokens)

def blank : Document := ⟨#[absent], 0⟩

/-- Reads the nodes of a document, up to its end. -/
def ofNodes? (tokens : List Token) (handles : List (String × String)) :
    Option (Document × List Token) :=
  (node true false (6 * tokens.length + 6) ⟨tokens, handles, #[], []⟩).map fun (n, r) =>
    (⟨r.nodes, n⟩, r.tokens)

/-- Reads the document behind its directives and mark, if it has any. -/
def ofStart? (tokens : List Token) : Option (Document × List Token) :=
  match tokens with
  | [] => none
  | .version _ :: _ | .tagHandle _ _ :: _ | .otherDirective :: _ | .documentStart :: _ => do
    let (handles, rest) ← takeDirectives tokens false []
    match rest with
    | .documentStart :: rest =>
      match rest with
      | [] | .version _ :: _ | .tagHandle _ _ :: _ | .otherDirective :: _ | .documentStart :: _
      | .documentEnd :: _ => some (blank, rest)
      | _ => ofNodes? rest (handles ++ defaultHandles)
    | _ => none
  | _ => ofNodes? tokens defaultHandles

/-- The document of a text. `none` inside: there is none. Only one document may stand there. -/
def ofTokens? (tokens : List Token) : Option (Option Document) :=
  if tokens.isEmpty then some none
  else
    match ofStart? tokens with
    | some (d, rest) => if rest.all (· == .documentEnd) then some (some d) else none
    | none => none

end Document

end Rostering.Yaml
