import Rostering.Failure
import Rostering.Files
import Rostering.Named
import Rostering.Table

/-!
# World — what sources are read from

Files below a working directory, a network that answers requests, and the state of the functions
that sources may call. Requests are kept in the order in which they were made.

Two more things come from outside. Separated text can be read by options that are not specified
here; what comes of it is the `TableReply` of whatever library there is. And data that are nested
deeply may exhaust the stack, on which there is no bound that holds everywhere (`Stack`).
-/

namespace Rostering

/-- A request to the network, with how long it may take. -/
structure Request where
  url : String
  headers : Named String
  timeout : Value

/-- What comes back from the network. -/
inductive Reply where
  /-- The network says why there is no answer. -/
  | lost (reason : String)
  | answered (status : Nat) (body : String)
  /-- The request could not even be made; its url or a header may be at fault. -/
  | failed (f : Fault)

/-- What a library makes of a separated text by options that only it knows. -/
inductive TableReply where
  | table (t : Table)
  /-- A reader that hands the table out piece by piece. -/
  | reader
  | refused

/-- What the stack bears. Texts and values that are nested too deeply are not read, copied or
written. The texts of values that stand in messages and in cells are taken to be borne: they are
made of what has been read, which is not nested more deeply than that. -/
structure Stack where
  reads : String → Bool
  copies : Value → Bool
  writes : Value → Bool

namespace Stack

/-- Bears everything. -/
def deep : Stack := ⟨fun _ => true, fun _ => true, fun _ => true⟩

end Stack

/-- The surroundings of a loader; functions keep a state of type `σ`. -/
structure World (σ : Type) where
  files : Directory
  tables : Entries → String → TableReply
  stack : Stack
  reply : String → Reply
  state : σ
  requests : List Request

abbrev SourceFunction (σ : Type) := List Value → σ → Except Fault Value × σ

namespace World

variable {σ : Type}

/-- Nothing but a state of functions: there are no files, and nobody answers. -/
def bare (state : σ) : World σ :=
  { files := .empty
    tables := fun _ _ => .refused
    stack := .deep
    reply := fun _ => .lost ""
    state := state
    requests := [] }

/-- A copy of a value, which is the value itself. A reader cannot be copied, nor can what the stack
does not bear. -/
def copy (w : World σ) (v : Value) : Except Fault Value :=
  match v with
  | .reader => throw .mistyped
  | v => if w.stack.copies v then pure v else throw .endless

def send (w : World σ) (r : Request) : Reply × World σ :=
  (w.reply r.url, { w with requests := w.requests ++ [r] })

def call (w : World σ) (f : SourceFunction σ) (args : List Value) : Except Fault Value × World σ :=
  let (result, state) := f args w.state
  (result, { w with state := state })

def write (w : World σ) (p : Path) (content : String) : World σ :=
  { w with files := w.files.write p content }

end World

end Rostering
