import ApexEdge.Library.Replacing
import ApexEdge.Sync.SyncRun

/-! Templates filled with the data of a document. Blocks are expanded first, one at a time in
the text as it then is; then each key of the payload is replaced throughout. -/

namespace ApexEdge.Printing.Render
open Library.Replacing Sync

abbrev Text := List Char

/-- JSON. A number is kept as it is printed, an object in the order in which its keys are visited. -/
inductive Value where
  | null
  | bool (value : Bool)
  | number (text : Text)
  | string (text : Text)
  | array (items : List Value)
  | object (entries : List (Text × Value))

namespace Value

def asArray : Value → Option (List Value)
  | .array items => some items
  | _ => none

def asObject : Value → Option (List (Text × Value))
  | .object entries => some entries
  | _ => none

def get (value : Value) (key : Text) : Option Value :=
  (value.asObject.bind fun entries => entries.find? (·.1 = key)).map Prod.snd

def hexDigit (digit : Nat) : Char := Char.ofNat (if digit < 10 then 0x30 + digit else 0x57 + digit)

def jsonChar (c : Char) : Text :=
  match c with
  | '"' => ['\\', '"']
  | '\\' => ['\\', '\\']
  | '\x08' => ['\\', 'b']
  | '\t' => ['\\', 't']
  | '\n' => ['\\', 'n']
  | '\x0C' => ['\\', 'f']
  | '\r' => ['\\', 'r']
  | c => if c.toNat < 0x20 then ['\\', 'u', '0', '0', hexDigit (c.toNat / 16), hexDigit (c.toNat % 16)] else [c]

def jsonString (text : Text) : Text := '"' :: text.flatMap jsonChar ++ ['"']

mutual

/-- Without blanks, as it goes over the wire. -/
def toJson : Value → Text
  | .null => ['n', 'u', 'l', 'l']
  | .bool true => ['t', 'r', 'u', 'e']
  | .bool false => ['f', 'a', 'l', 's', 'e']
  | .number text => text
  | .string text => jsonString text
  | .array items => '[' :: [','].intercalate (jsonItems items) ++ [']']
  | .object entries => '\x7B' :: [','].intercalate (jsonEntries entries) ++ ['\x7D']

def jsonItems : List Value → List Text
  | [] => []
  | item :: items => item.toJson :: jsonItems items

def jsonEntry : Text × Value → Text
  | (key, value) => jsonString key ++ ':' :: value.toJson

def jsonEntries : List (Text × Value) → List Text
  | [] => []
  | entry :: entries => jsonEntry entry :: jsonEntries entries

end

end Value

def trimMatches (c : Char) (text : Text) : Text := ((text.dropWhile (· == c)).reverse.dropWhile (· == c)).reverse

/-- A text stands for itself, without quotes. -/
def valueToStr (value : Value) : Text :=
  match value with
  | .string text => text
  | .number text => text
  | .bool true => ['t', 'r', 'u', 'e']
  | .bool false => ['f', 'a', 'l', 's', 'e']
  | .null => []
  | value => trimMatches '"' value.toJson

def eachStart : Text := ['\x7B', '\x7B', '#', 'e', 'a', 'c', 'h', ' ']
def tagEnd : Text := ['\x7D', '\x7D']
def eachEnd : Text := ['\x7B', '\x7B', '/', 'e', 'a', 'c', 'h', '\x7D', '\x7D']
def placeholder (key : Text) : Text := '\x7B' :: '\x7B' :: key ++ tagEnd

inductive RenderError where
  | template (reason : String)
  deriving DecidableEq, Repr

/-- A block in its text. -/
structure Block where
  before : Text
  key : Text
  body : Text
  rest : Text
  deriving DecidableEq

/-- The first block of a text, if one begins. -/
def firstBlock (out : Text) : Option (Except RenderError Block) :=
  match cut eachStart out with
  | none => none
  | some (before, out) =>
    match cut tagEnd out with
    | none => some (.error (.template "malformed \x7B\x7B#each\x7D\x7D"))
    | some (key, out) =>
      match cut eachEnd out with
      | none => some (.error (.template "missing \x7B\x7B/each\x7D\x7D"))
      | some (body, rest) => some (.ok ⟨before, trim key, body, rest⟩)

/-- Key after key, in the whole text each time. -/
def fill (entries : List (Text × Value)) (text : Text) : Text :=
  entries.foldl (fun text entry => replaceAll (placeholder entry.1) (valueToStr entry.2) text) text

def fillItem (body : Text) (item : Value) : Text :=
  match item.asObject with
  | some entries => fill entries body
  | none => body

/-- One turn of the loop: the text with its first block expanded, or how the loop ends. -/
inductive Turn where
  | expanded (out : Text)
  | finished
  | failed (error : RenderError)

def notAnArray (key : Text) : RenderError :=
  .template ("\x7B#each " ++ String.ofList key ++ "\x7D: not an array")

def turn (payload : Value) (out : Text) : Turn :=
  match firstBlock out with
  | none => .finished
  | some (.error error) => .failed error
  | some (.ok block) =>
    match (payload.get block.key).bind Value.asArray with
    | none => .failed (notAnArray block.key)
    | some items => .expanded (block.before ++ items.flatMap (fillItem block.body) ++ block.rest)

/-- Turn after turn, as many as there is fuel for and one that ends the loop. -/
def expandBlocks (payload : Value) : Nat → Text → Option (Except RenderError Text)
  | fuel, out =>
    match turn payload out with
    | .finished => some (.ok out)
    | .failed error => some (.error error)
    | .expanded out =>
      match fuel with
      | 0 => none
      | fuel + 1 => expandBlocks payload fuel out

/-- Nothing when the loop does not end within the fuel. -/
def renderHtml (fuel : Nat) (templateBody : Text) (payload : Value) : Option (Except RenderError Text) :=
  (expandBlocks payload fuel templateBody).map fun expanded =>
    expanded.map fun out =>
      match payload.asObject with
      | some entries => fill entries out
      | none => out

end ApexEdge.Printing.Render
