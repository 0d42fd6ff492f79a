import Rostering.Value.Text

/-!
# Json.Printer — JSON text of values

`Json.render` lays a value out by a `Json.Style`: on indented lines, or on one line. What JSON has
no form for, such as a date, is written as the text it is shown as. Keys have to be texts, numbers,
truth values or null; under any other key a value cannot be written, and the answer is `none`.

`Json.sortKeys` puts the entries of all mappings into the order of their keys, so that values which
differ in nothing but the order of entries get one text.
-/

namespace Rostering.Json

/-! ## Texts and numbers -/

def unitEscape (n : Nat) : List Char := '\\' :: 'u' :: (hexDigits 4 n).toList

/-- A character as one escape, or as two if it lies above the first 65536. -/
def charEscape (c : Char) : List Char :=
  let n := c.toNat
  if n < 0x10000 then unitEscape n
  else unitEscape (0xD800 + (n - 0x10000) / 0x400) ++ unitEscape (0xDC00 + (n - 0x10000) % 0x400)

def textChar (ascii : Bool) (c : Char) : List Char :=
  if c = '"' then ['\\', '"']
  else if c = '\\' then ['\\', '\\']
  else if c = '\n' then ['\\', 'n']
  else if c = '\r' then ['\\', 'r']
  else if c = '\t' then ['\\', 't']
  else if c = '\x08' then ['\\', 'b']
  else if c = '\x0c' then ['\\', 'f']
  else if c.toNat < 0x20 then charEscape c
  else if ascii && 0x7F ≤ c.toNat then charEscape c
  else [c]

def renderText (ascii : Bool) (s : String) : List Char :=
  '"' :: (s.toList.flatMap (textChar ascii) ++ ['"'])

/-- Floats in JSON text. -/
def floatFormat : FloatFormat := ⟨"NaN", "Infinity", "-Infinity", ""⟩

def keyText? : Value → Option String
  | .str s => some s
  | .null => some "null"
  | .bool b => some (if b then "true" else "false")
  | .int n => some (toString n)
  | .float x => some (floatFormat.text x)
  | _ => none

/-! ## Layout -/

/-- What stands between the tokens of a text. -/
structure Style where
  /-- Steps of indentation; without it everything stands on one line. -/
  indent : Option Nat
  /-- Behind an item that is not the last. -/
  comma : List Char
  /-- Behind a key. -/
  colon : List Char
  /-- Escape whatever is not ASCII. -/
  ascii : Bool

namespace Style

/-- The start of a line at some depth, where there are lines. -/
def line (st : Style) (depth : Nat) : List Char :=
  match st.indent with
  | some width => '\n' :: List.replicate (depth * width) ' '
  | none => []

/-- Lines indented by two blanks. -/
def indented : Style := ⟨some 2, [','], [':', ' '], true⟩

def compact : Style := ⟨none, [','], [':'], false⟩

/-- One line with a blank behind commas and colons. -/
def spaced : Style := ⟨none, [',', ' '], [':', ' '], true⟩

end Style

mutual

/-- The text of a value that starts at some depth. -/
def render (st : Style) (depth : Nat) : Value → Option (List Char)
  | .null => some "null".toList
  | .bool b => some (if b then "true".toList else "false".toList)
  | .int n => some (toString n).toList
  | .float x => some (floatFormat.text x).toList
  | .str s => some (renderText st.ascii s)
  | .list [] | .tuple [] => some ['[', ']']
  | .list (x :: xs) | .tuple (x :: xs) =>
    match render st (depth + 1) x, renderItems st (depth + 1) xs with
    | some x, some xs => some ('[' :: (st.line (depth + 1) ++ x ++ xs ++ st.line depth ++ [']']))
    | _, _ => none
  | .map [] => some ['\x7b', '\x7d']
  | .map ((k, v) :: es) =>
    match keyText? k, render st (depth + 1) v, renderEntries st (depth + 1) es with
    | some k, some v, some es =>
      some ('\x7b' :: (st.line (depth + 1) ++ (renderText st.ascii k ++ st.colon ++ v) ++ es
        ++ st.line depth ++ ['\x7d']))
    | _, _, _ => none
  | v => some (renderText st.ascii v.shown)

/-- The text of further items, each behind a comma. -/
def renderItems (st : Style) (depth : Nat) : List Value → Option (List Char)
  | [] => some []
  | x :: xs =>
    match render st depth x, renderItems st depth xs with
    | some x, some xs => some (st.comma ++ st.line depth ++ x ++ xs)
    | _, _ => none

/-- The text of further entries, each behind a comma. -/
def renderEntries (st : Style) (depth : Nat) : List (Value × Value) → Option (List Char)
  | [] => some []
  | (k, v) :: es =>
    match keyText? k, render st depth v, renderEntries st depth es with
    | some k, some v, some es =>
      some (st.comma ++ st.line depth ++ (renderText st.ascii k ++ st.colon ++ v) ++ es)
    | _, _, _ => none

end

def print? (st : Style) (v : Value) : Option String := (render st 0 v).map String.ofList

/-! ## Order of keys -/

def quotient? : Value → Option (Int × Nat)
  | .bool b => some (if b then 1 else 0, 1)
  | .int n => some (n, 1)
  | .float x => (FloatParts.of x).quotient?
  | _ => none

def text? : Value → Option String
  | .str s => some s
  | _ => none

/-- Entries in the order of their keys: all texts, or all numbers. Other keys have no order. -/
def sortEntries (es : Entries) : Option Entries :=
  if es.length ≤ 1 then some es
  else if es.all fun e => (text? e.1).isSome then
    some (es.mergeSort fun a b => !((text? b.1).getD "" < (text? a.1).getD ""))
  else if es.all fun e => (quotient? e.1).isSome then
    some (es.mergeSort fun a b =>
      let (n, d) := (quotient? a.1).getD (0, 1)
      let (m, e) := (quotient? b.1).getD (0, 1)
      n * e ≤ m * d)
  else none

mutual

/-- Puts the entries of every mapping inside a value into the order of their keys. -/
def sortKeys : Value → Option Value
  | .list xs => (sortKeysItems xs).map .list
  | .tuple xs => (sortKeysItems xs).map .tuple
  | .map es =>
    match sortKeysEntries es with
    | some es => (sortEntries es).map .map
    | none => none
  | v => some v

/-- The same for each item. -/
def sortKeysItems : List Value → Option (List Value)
  | [] => some []
  | x :: xs =>
    match sortKeys x, sortKeysItems xs with
    | some x, some xs => some (x :: xs)
    | _, _ => none

/-- The same for the value of each entry. -/
def sortKeysEntries : List (Value × Value) → Option (List (Value × Value))
  | [] => some []
  | (k, v) :: es =>
    match sortKeys v, sortKeysEntries es with
    | some v, some es => some ((k, v) :: es)
    | _, _ => none

end

end Rostering.Json
