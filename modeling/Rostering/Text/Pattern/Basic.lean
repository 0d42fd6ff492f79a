import Rostering.Text.Case
import Rostering.Text.Digits
import Rostering.Text.Word

/-!
# Text.Pattern.Basic — patterns that texts match

A pattern describes texts by characters, sequences, choices and repetitions. From one place in a
text it may match up to several others. `Pattern.ends` lists all of them, the preferred one first:
the left side of a choice comes before the right one, and a repetition goes on for as long as it
can, or stops as soon as it can. A text is then split at what matches (`Expression.split`).
-/

namespace Rostering.Text

/-! ## Sets of characters -/

/-- Kinds of characters that patterns can name. -/
inductive CharKind where
  | digit
  | blank
  | word
  deriving DecidableEq

def CharKind.holds (k : CharKind) (c : Char) : Bool :=
  match k with
  | digit => (decimalDigit? c).isSome
  | blank => isBlank c
  | word => isWord c

/-- A part of a set of characters. -/
inductive CharItem where
  | range (first last : Char)
  /-- The characters of a kind, or all others. -/
  | kind (k : CharKind) (belongs : Bool)
  deriving DecidableEq

def CharItem.holds (item : CharItem) (c : Char) : Bool :=
  match item with
  | range first last => first ≤ c && c ≤ last
  | kind k belongs => k.holds c == belongs

/-- A set of characters, or its complement. -/
structure CharSet where
  items : List CharItem
  negated : Bool
  ignoresCase : Bool
  deriving DecidableEq

namespace CharSet

/-- The character, in lower case and as a capital. -/
def caseForms (c : Char) : List Char := c :: (lowerChar c ++ titleChar c)

def holds (s : CharSet) (c : Char) : Bool :=
  let forms := if s.ignoresCase then caseForms c else [c]
  (forms.any fun c => s.items.any (·.holds c)) != s.negated

def single (ignoresCase : Bool) (c : Char) : CharSet := ⟨[.range c c], false, ignoresCase⟩

end CharSet

/-! ## Patterns -/

/-- Places that have no width. -/
inductive Edge where
  | textStart
  | textEnd
  /-- The end of the text, or its last line feed. -/
  | lastLine
  | lineStart
  | lineEnd
  /-- Between a word and something else, or not. -/
  | word (isEdge : Bool)
  deriving DecidableEq

/-- Patterns that texts match. -/
inductive Pattern where
  | nothing
  | char (set : CharSet)
  | seq (p q : Pattern)
  | either (p q : Pattern)
  /-- At least and at most so often; a lazy one stops as soon as it can. -/
  | repeated (lazy : Bool) (least : Nat) (most : Option Nat) (p : Pattern)
  /-- A part whose text is remembered under a number. -/
  | group (number : Nat) (p : Pattern)
  /-- The text that is remembered under a number. -/
  | recalled (number : Nat) (ignoresCase : Bool)
  | edge (e : Edge)
  /-- What follows matches, or does not. -/
  | ahead (wanted : Bool) (p : Pattern)
  /-- So many characters in front match, or do not. -/
  | behind (wanted : Bool) (width : Nat) (p : Pattern)
  /-- Only the preferred match. -/
  | preferred (p : Pattern)

/-- How far a match has got, and where the groups in it begin and end. -/
structure Progress where
  place : Nat
  groups : List (Nat × Nat × Nat)
  deriving DecidableEq

namespace Progress

def remember (m : Progress) (number first last : Nat) : Progress :=
  { m with groups := (number, first, last) :: m.groups.filter (·.1 != number) }

def group? (m : Progress) (text : Array Char) (number : Nat) : Option (List Char) :=
  (m.groups.lookup number).map fun (first, last) => (text.extract first last).toList

end Progress

namespace Edge

/-- A word goes on at the place. -/
def wordAt (text : Array Char) (place : Nat) : Bool := (text[place]?.map isWord).getD false

/-- The edge is at the place. An empty text has no words, and so nothing between them. -/
def holds (text : Array Char) (place : Nat) : Edge → Bool
  | textStart => place == 0
  | textEnd => place == text.size
  | lastLine => place == text.size || (place + 1 == text.size && text[place]? == some '\n')
  | lineStart => place == 0 || text[place - 1]? == some '\n'
  | lineEnd => place == text.size || text[place]? == some '\n'
  | word isEdge =>
    text.size != 0 && ((place != 0 && wordAt text (place - 1)) != wordAt text place) == isEdge

end Edge

namespace Pattern

/-! ## Matching -/

/-- The ends of a repetition, the preferred one first. -/
def repeatEnds (lazy : Bool) (step : Progress → List Progress) :
    (fuel least : Nat) → (most : Option Nat) → Progress → List Progress
  | 0, _, _, m => [m]
  | fuel + 1, least + 1, most, m =>
    ((step m).flatMap (repeatEnds lazy step fuel least (most.map (· - 1)))).eraseDups
  | fuel + 1, 0, most, m =>
    let more :=
      if most == some 0 then []
      else (step m).flatMap fun n =>
        -- a turn that moves nothing is the last
        if n.place = m.place then [n] else repeatEnds lazy step fuel 0 (most.map (· - 1)) n
    (if lazy then m :: more else more ++ [m]).eraseDups

def goesOn (text : Array Char) (ignoresCase : Bool) (place : Nat) (cs : List Char) : Bool :=
  let here := (text.extract place (place + cs.length)).toList
  here.length == cs.length &&
    (here.zip cs).all fun (c, d) => (CharSet.single ignoresCase d).holds c

/-- The ends of all matches from a place on, the preferred one first. -/
def ends (text : Array Char) : Pattern → Progress → List Progress
  | nothing, m => [m]
  | char set, m =>
    match text[m.place]? with
    | some c => if set.holds c then [{ m with place := m.place + 1 }] else []
    | none => []
  | seq p q, m => ((ends text p m).flatMap fun n => ends text q n).eraseDups
  | either p q, m => (ends text p m ++ ends text q m).eraseDups
  | repeated lazy least most p, m =>
    repeatEnds lazy (fun n => ends text p n) (least + text.size + 1) least most m
  | group number p, m =>
    (ends text p m).map fun n => n.remember number m.place n.place
  | recalled number ignoresCase, m =>
    match m.group? text number with
    | some cs =>
      if goesOn text ignoresCase m.place cs then [{ m with place := m.place + cs.length }] else []
    | none => []
  | edge e, m => if e.holds text m.place then [m] else []
  | ahead wanted p, m =>
    match (ends text p m).head?, wanted with
    | some n, true => [{ n with place := m.place }]
    | none, false => [m]
    | _, _ => []
  | behind wanted width p, m =>
    let found :=
      if m.place < width then none
      else (ends text p { m with place := m.place - width }).head?
    match found, wanted with
    | some n, true => [{ n with place := m.place }]
    | none, false => [m]
    | _, _ => []
  | preferred p, m => (ends text p m).head?.toList

/-- How many characters a match has, if all have the same number. -/
def width? : Pattern → Option Nat
  | nothing | edge _ | ahead _ _ | behind _ _ _ => some 0
  | char _ => some 1
  | seq p q => do some ((← p.width?) + (← q.width?))
  | either p q => do
    let n ← p.width?
    guard (n = (← q.width?))
    some n
  | repeated _ least most p => do
    let n ← p.width?
    guard (n = 0 || most = some least)
    some (least * n)
  | group _ p | preferred p => p.width?
  | recalled _ _ => none

end Pattern

/-! ## Whole texts -/

/-- A pattern, and the groups in it. -/
structure Expression where
  pattern : Pattern
  groups : Nat
  names : List (String × Nat)

namespace Expression

/-- The preferred match at a place, which may have to have a character at least. -/
def matchAt? (e : Expression) (text : Array Char) (place : Nat) (filled : Bool) :
    Option Progress :=
  (e.pattern.ends text ⟨place, []⟩).find? fun m => !filled || m.place != place

/-- The first match from a place on, and where it begins. Only a match at that very place may have
to have a character. -/
def search? (e : Expression) (text : Array Char) : (fuel place : Nat) → (filled : Bool) →
    Option (Nat × Progress)
  | 0, _, _ => none
  | fuel + 1, place, filled =>
    if text.size < place then none
    else
      match e.matchAt? text place filled with
      | some m => some (place, m)
      | none => search? e text fuel (place + 1) false

/-- All matches from a place on, one behind the other. -/
def searchAll (e : Expression) (text : Array Char) : (fuel place : Nat) → (filled : Bool) →
    List (Nat × Progress)
  | 0, _, _ => []
  | fuel + 1, place, filled =>
    match e.search? text (text.size + 1) place filled with
    -- behind an empty match the next one has to have a character, or it would be the same again
    | some (first, m) => (first, m) :: searchAll e text fuel m.place (m.place == first)
    | none => []

def occurrences (e : Expression) (text : Array Char) : List (Nat × Progress) :=
  e.searchAll text (2 * text.size + 2) 0 false

def groupTexts (e : Expression) (text : Array Char) (m : Progress) : List (Option String) :=
  (List.range e.groups).map fun i => (m.group? text (i + 1)).map String.ofList

/-- Cuts a text from a place on at matches; what their groups hold stands between the pieces. -/
def pieces (e : Expression) (text : Array Char) : (last : Nat) → List (Nat × Progress) →
    List (Option String)
  | last, [] => [some (String.ofList (text.extract last text.size).toList)]
  | last, (first, m) :: rest =>
    some (String.ofList (text.extract last first).toList) ::
      (e.groupTexts text m ++ pieces e text m.place rest)

def split (e : Expression) (s : String) : List (Option String) :=
  let text := s.toList.toArray
  e.pieces text 0 (e.occurrences text)

end Expression

end Rostering.Text
