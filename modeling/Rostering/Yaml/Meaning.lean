import Rostering.Failure
import Rostering.Yaml.Node
import Rostering.Yaml.Origin

/-!
# Yaml.Meaning — the value of a document

Scalars are read by their tag, sequences become lists, and mappings become mappings in which the
last of several equal keys counts. Before its entries are read, `flatten` resolves the merge keys
of a mapping: the entries of the mappings that they name come first, so that an own entry with the
same key overrules them.

Collections are read level by level (`Making.run`): what a collection consists of is looked at
after everything that was found before it, so the fault that counts is the one that comes first in
this order. What has been made of a node is part of every collection that the node is part of; a
collection that is part of itself is met again inside of its own value.

`parse` reads a whole text. A text that is not one well-formed document is a fault of the class
`FaultClass.badValue`.
-/

namespace Rostering.Yaml

/-! ## Scalars -/

/-- Takes a sign in front of a number, of which something has to be there. -/
def signedBody (cs : List Char) : Except Fault (Bool × List Char) :=
  if cs.isEmpty then throw .outOfRange else pure (readSign cs)

/-- A result that is missing when the text was malformed. -/
def orMalformed {α : Type} : Option α → Except Fault α
  | some a => pure a
  | none => throw .malformed

/-- The number that parts to the base of sixty make. -/
def sixtieths (parts : List Int) : Int := parts.foldl (fun n part => 60 * n + part) 0

/-- Reads a whole number. Underscores count for nothing. -/
def readInt (text : String) : Except Fault Value := do
  let (negative, cs) ← signedBody (text.toList.filter (· != '_'))
  let n ← match cs with
    | ['0'] => pure 0
    | '0' :: 'b' :: digits => orMalformed (integerOfText? 2 (String.ofList digits))
    | '0' :: 'x' :: digits => orMalformed (integerOfText? 16 (String.ofList digits))
    | '0' :: digits => orMalformed (integerOfText? 8 (String.ofList ('0' :: digits)))
    | [] => throw .outOfRange
    | cs =>
      if cs.contains ':' then
        (((String.ofList cs).splitOn ":").mapM fun part =>
          orMalformed (integerOfText? 10 part)).map sixtieths
      else orMalformed (integerOfText? 10 (String.ofList cs))
  pure (.int (if negative then -n else n))

/-- The float that parts to the base of sixty make, added up from the smallest. -/
def floatSixtieths (parts : List Float) : Float :=
  (parts.reverse.foldl (fun (sum, base) part => (sum + part * base, base * 60)) (0.0, 1.0)).1

/-- Reads a float. Underscores count for nothing. -/
def readFloat (text : String) : Except Fault Value := do
  let (negative, cs) ← signedBody ((Text.lower text).toList.filter (· != '_'))
  let body := String.ofList cs
  let x ←
    if body == ".inf" then pure (1.0 / 0.0)
    else if body == ".nan" then pure (0.0 / 0.0)
    else if cs.contains ':' then
      ((body.splitOn ":").mapM fun part => orMalformed (floatOfText? part)).map floatSixtieths
    else orMalformed (floatOfText? body)
  pure (.float (if negative then -1.0 * x else x))

def readBool (text : String) : Except Fault Value :=
  let word := Text.lower text
  if ["yes", "true", "on"].contains word then pure (.bool true)
  else if ["no", "false", "off"].contains word then pure (.bool false)
  else throw (.noKey (quotedText word))

/-- Reads a date or a moment, which have to exist. -/
def readTimestamp (text : String) : Except Fault Value :=
  match Timestamp.ofText? false text with
  | none => throw (.noField "groupdict")
  | some t => orMalformed do
    let date ← Date.ofCivil? t.year t.month t.day
    match t.time with
    | none => some (.day (.date date))
    | some (hour, minute, second) =>
      guard ((t.offset.getD 0).natAbs < 86400)
      let micro := Moment.microsOfDigits t.fraction
      (Moment.of? date hour minute second micro t.offset).map fun m => .day (.moment m)

/-- The six bits that a character of binary data stands for. -/
def sextet? (c : Char) : Option Nat :=
  if c.isUpper then some (c.toNat - 'A'.toNat)
  else if c.isLower then some (c.toNat - 'a'.toNat + 26)
  else if c.isDigit then some (c.toNat - '0'.toNat + 52)
  else if c == '+' then some 62
  else if c == '/' then some 63
  else none

/-- Reads bytes written six bits to a character, given the number of characters and fill marks
since the last full group and the bits left over. Other characters are passed over, and what stands
behind a group that was filled up is not looked at. -/
def readSextets : (place fill rest : Nat) → List Char → Option (List UInt8)
  | place, _, _, [] => if place = 0 then some [] else none
  | place, fill, rest, c :: cs =>
    if c == '=' then
      if place ≥ 2 && place + fill + 1 ≥ 4 then some []
      else readSextets place (if place ≥ 2 then fill + 1 else fill) rest cs
    else
      match sextet? c with
      | none => readSextets place fill rest cs
      | some n =>
        match place with
        | 0 => readSextets 1 0 n cs
        | 1 => (readSextets 2 0 (n % 16) cs).map (UInt8.ofNat (rest * 4 + n / 16) :: ·)
        | 2 => (readSextets 3 0 (n % 4) cs).map (UInt8.ofNat (rest * 16 + n / 4) :: ·)
        | _ => (readSextets 0 0 0 cs).map (UInt8.ofNat (rest * 64 + n) :: ·)

/-- Reads binary data, written in ASCII. -/
def readBinary (text : String) : Except Fault Value :=
  if text.toList.all fun c => c.toNat < 128 then
    orMalformed ((readSextets 0 0 0 text.toList).map .bytes)
  else throw .malformed

def readScalar (tag : Tag) (text : String) : Except Fault Value :=
  match tag with
  | .null => pure .null
  | .bool => readBool text
  | .int => readInt text
  | .float => readFloat text
  | .timestamp => readTimestamp text
  | .binary => readBinary text
  | .str => pure (.str text)
  | _ => throw .malformed

/-! ## Making values of nodes -/

/-- What has been made of a node. -/
inductive Made where
  | nothing
  | value (v : Value)
  /-- A collection, whose parts are given by the nodes. -/
  | collection

/-- The nodes of a document, what has been made of each, and the collections in the order in which
they were found. -/
structure Making where
  nodes : Graph
  made : Array Made
  found : Array Nat

/-- Steps of making values, which end at the first fault. -/
abbrev Maker := StateT Making (Except Fault)

namespace Making

def ofNodes (nodes : Graph) : Making := ⟨nodes, Array.replicate nodes.size .nothing, #[]⟩

def nodeAt (m : Making) (number : Nat) : Node := m.nodes[number]?.getD Node.absent

def madeOf (m : Making) (number : Nat) : Made := m.made[number]?.getD .nothing

def setNode (m : Making) (number : Nat) (n : Node) : Making :=
  { m with nodes := m.nodes.setIfInBounds number n }

def setMade (m : Making) (number : Nat) (v : Made) : Making :=
  { m with made := m.made.setIfInBounds number v }

def tagOf (m : Making) (number : Nat) : Tag :=
  match m.nodeAt number with
  | .scalar tag _ | .sequence tag _ | .mapping tag _ => tag

def entries? (m : Making) (number : Nat) : Option (List (Nat × Nat)) :=
  match m.nodeAt number with
  | .mapping _ es => some es
  | _ => none

def setEntries (m : Making) (number : Nat) (es : List (Nat × Nat)) : Making :=
  m.setNode number (.mapping (m.tagOf number) es)

/-- A default mark that is a key is a text. -/
def plainKey (m : Making) (number : Nat) : Making :=
  match m.nodeAt number with
  | .scalar .default text => m.setNode number (.scalar .str text)
  | _ => m

/-! ## Merge keys -/

/-- The first entry whose key is a merge key, and the other entries. -/
def takeMerge? (m : Making) : List (Nat × Nat) → Option (Nat × List (Nat × Nat))
  | [] => none
  | (k, v) :: es =>
    if m.tagOf k = .merge then some (v, es)
    else (m.takeMerge? es).map fun (merged, rest) => (merged, (k, v) :: rest)

/-- The entries of a mapping; nothing else can be merged. -/
def mergeable (number : Nat) : Maker (List (Nat × Nat)) := do
  match (← get).entries? number with
  | some es => pure es
  | none => throw .malformed

/-- Resolves the merge keys of a mapping: each is removed, and what it names, which comes to have
no merge keys itself, is put in front of the other entries. Of a list of mappings the first counts
most. Every round removes a merge key, and what is added has none. -/
def flatten : (fuel : Nat) → (added : List (Nat × Nat)) → (number : Nat) → Maker Unit
  | 0, _, _ => throw .endless
  | fuel + 1, added, number => do
    let es ← mergeable number
    match (← get).takeMerge? es with
    | none => modify fun m => (es.foldl (fun m e => m.plainKey e.1) m).setEntries number (added ++ es)
    | some (named, rest) =>
      modify fun m => m.setEntries number rest
      match (← get).nodeAt named with
      | .mapping _ _ =>
        flatten fuel [] named
        flatten fuel (added ++ (← mergeable named)) number
      | .sequence _ items =>
        let lists ← items.mapM fun item => do
          flatten fuel [] item
          mergeable item
        flatten fuel (added ++ lists.reverse.flatten) number
      | .scalar _ _ => throw .malformed

/-- More rounds than there are merge keys. -/
def mergeRounds (m : Making) : Nat :=
  2 * (m.nodes.toList.countP fun
    | .scalar .merge _ => true
    | _ => false) + m.nodes.size + 2

/-! ## Scalars and collections -/

/-- The text of a scalar, or of the default entry of a mapping. -/
def scalarText (m : Making) : (fuel : Nat) → (number : Nat) → Except Fault String
  | 0, _ => throw .endless
  | fuel + 1, number =>
    match m.nodeAt number with
    | .scalar _ text => pure text
    | .sequence _ _ => throw .malformed
    | .mapping _ es =>
      match es.find? fun e => m.tagOf e.1 = .default with
      | some (_, v) => m.scalarText fuel v
      | none => throw .malformed

/-- The value of a node that stands for one at once. A date has to be written as a scalar. -/
def scalarValue (m : Making) (number : Nat) : Except Fault Value := do
  let tag := m.tagOf number
  let text ← m.scalarText (m.nodes.size + 1) number
  if tag = .timestamp && (m.entries? number).isSome then throw .mistyped
  readScalar tag text

/-- Makes something of a node, unless that has been done. The parts of a collection are left for
later. -/
def make (number : Nat) : Maker Unit := do
  let m ← get
  match m.madeOf number with
  | .value _ | .collection => pure ()
  | .nothing =>
    match m.tagOf number with
    | .seq | .pairs | .map | .set =>
      set { m.setMade number .collection with found := m.found.push number }
    | _ =>
      let v ← m.scalarValue number
      set (m.setMade number (.value v))

/-- Something that cannot change has been made of a node. -/
def isKey (m : Making) (number : Nat) : Bool :=
  match m.madeOf number with
  | .value v => v.isKey
  | _ => false

/-- Makes the parts of an item that is a mapping with one entry. -/
def makePair (number : Nat) : Maker Unit := do
  match (← get).entries? number with
  | some [(k, v)] =>
    make k
    make v
  | _ => throw .malformed

/-- Makes the key and the value of an entry. -/
def makeEntry (e : Nat × Nat) : Maker Unit := do
  make e.1
  if !(← get).isKey e.1 then throw .malformed
  make e.2

def makeParts (number : Nat) : Maker Unit := do
  let m ← get
  match m.nodeAt number with
  | .sequence .seq items => items.forM make
  | .sequence .pairs items => items.forM makePair
  | .mapping tag _ =>
    if tag = .map || tag = .set then
      flatten m.mergeRounds [] number
      (← mergeable number).forM makeEntry
    else throw .malformed
  | _ => throw .malformed

/-- Makes the parts of the collections that have been found, from some place on. Each is found
once. -/
def run : (fuel : Nat) → (place : Nat) → Maker Unit
  | 0, _ => pure ()
  | fuel + 1, place => do
    match (← get).found[place]? with
    | none => pure ()
    | some number =>
      makeParts number
      run fuel (place + 1)

/-! ## Values -/

/-- Puts an entry of nodes among others, whose keys are given by their values: an old key keeps its
place. -/
def putEntry (key : Value) (e : Nat × Nat) : List (Value × Nat × Nat) → List (Value × Nat × Nat)
  | [] => [(key, e)]
  | (k, old) :: rest =>
    if k.same key then (k, old.1, e.2) :: rest else (k, old) :: putEntry key e rest

/-- The entries of a mapping without those that later ones overrule. -/
def entriesOf (m : Making) (es : List (Nat × Nat)) : List (Value × Nat × Nat) :=
  es.foldl (fun kept e => match m.madeOf e.1 with
    | .value key => putEntry key e kept
    | _ => kept) []

/-- The value of a node and where it comes from, inside of the values of some other nodes. -/
def valueOf (m : Making) : (fuel : Nat) → (around : List Nat) → (number : Nat) → Value × Origin
  | 0, _, _ => (.null, .unknown)
  | fuel + 1, around, number =>
    match m.madeOf number with
    | .value v => (v, .node (some number) [])
    | _ =>
      let part := m.valueOf fuel (number :: around)
      let whole := fun (v : Value) (parts : List Origin) => (v, Origin.node (some number) parts)
      match around.contains number, m.nodeAt number with
      | true, .mapping _ _ => whole (.again true) []
      | true, _ => whole (.again false) []
      | false, .scalar _ _ => whole .null []
      | false, .sequence .pairs items =>
        let pairs := items.filterMap fun item => match m.entries? item with
          | some [(k, v)] => some (part k, part v)
          | _ => none
        whole (.list (pairs.map fun (k, v) => .tuple [k.1, v.1]))
          (pairs.map fun (k, v) => .node none [k.2, v.2])
      | false, .sequence _ items =>
        let items := items.map part
        whole (.list (items.map Prod.fst)) (items.map Prod.snd)
      | false, .mapping .set es =>
        let keys := (m.entriesOf es).map fun e => part e.2.1
        whole (.set (keys.map Prod.fst)) (keys.map Prod.snd)
      | false, .mapping _ es =>
        let entries := (m.entriesOf es).map fun e => (part e.2.1, part e.2.2)
        whole (.map (entries.map fun (k, v) => (k.1, v.1)))
          (entries.flatMap fun (k, v) => [k.2, v.2])

end Making

/-- The value of a document, and where its parts come from. -/
def Document.value (d : Document) : Except Fault (Value × Origin) := do
  let (_, m) ← (do
    Making.make d.root
    Making.run (d.nodes.size + 1) 0 : Maker Unit).run (.ofNodes d.nodes)
  pure (m.valueOf (d.nodes.size + 1) [] d.root)

/-! ## Texts -/

/-- The value that a text stands for, and where its parts come from; null if there is nothing in
the text. -/
def parseShared (text : String) : Except Fault (Value × Origin) :=
  match tokens? text with
  | none => throw .malformed
  | some tokens =>
    match Document.ofTokens? tokens with
    | none => throw .malformed
    | some none => pure (.null, .unknown)
    | some (some d) => d.value

def parse (text : String) : Except Fault Value := (parseShared text).map Prod.fst

end Rostering.Yaml
