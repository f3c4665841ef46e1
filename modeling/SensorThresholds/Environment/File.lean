import SensorThresholds.Environment
import SensorThresholds.Text.Alphanumeric
import SensorThresholds.Text.Blank

/-!
Files of variables, a `NAME=value` on each line. A value may be quoted and then span lines, and may
refer to variables. Blanks at the ends of a line do not count. Reading stops at the first line that
is not well formed, and the variables before it stay.
-/

namespace SensorThresholds.Environment

/-- Lines with their ends. -/
def splitLines : List Char → List (List Char)
  | [] => []
  | c :: rest =>
    if c = '\n' then [c] :: splitLines rest
    else
      match splitLines rest with
      | [] => [[c]]
      | line :: others => (c :: line) :: others

/-- Where a line stands after some of its characters. -/
inductive LineState where
  | complete
  | blank
  | escape
  | double
  | doubleEscape
  | single
  | singleEscape
  | comment
  deriving DecidableEq

def LineState.opens (c : Char) : LineState :=
  if c = '\\' then .escape
  else if c = '"' then .double
  else if c = '\'' then .single
  else .complete

def LineState.next (state : LineState) (c : Char) : LineState :=
  match state with
  | .complete => if isBlank c ∧ c ≠ '\n' ∧ c ≠ '\r' then .blank else opens c
  | .blank => if c = '#' then .comment else opens c
  | .escape => .complete
  | .double => if c = '\\' then .doubleEscape else if c = '"' then .complete else .double
  | .doubleEscape => .double
  | .single => if c = '\\' then .singleEscape else if c = '\'' then .complete else .single
  | .singleEscape => .single
  | .comment => .comment

/-- The characters up to a comment, and the state at their end. -/
def scan (state : LineState) : List Char → List Char × LineState
  | [] => ([], state)
  | c :: rest =>
    if state.next c = .comment then ([], .comment)
    else
      let (kept, final) := scan (state.next c) rest
      (c :: kept, final)

def dropLineEnd (line : List Char) : List Char :=
  match line.reverse with
  | '\n' :: '\r' :: rest => rest.reverse
  | '\n' :: rest => rest.reverse
  | _ => line

def startsComment (line : List Char) : Bool := (trimStart line).head? == some '#'

/-- Joins lines as long as a quote is open. The last is nothing where the text ends too early. -/
def joinLines (buffer : List Char) (state : LineState) :
    List (List Char) → List (Option (List Char))
  | [] => if state = .complete then [] else [none]
  | line :: rest =>
    if startsComment (buffer ++ line) then some [] :: joinLines [] .complete rest
    else
      let (kept, state) := scan state line
      let buffer := buffer ++ kept
      match state with
      | .complete => some (dropLineEnd buffer) :: joinLines [] .complete rest
      | .comment => some buffer :: joinLines [] .complete rest
      | state => joinLines buffer state rest

inductive Quote where
  | none
  | single
  | double
  deriving DecidableEq

inductive ValueState where
  | plain
  | escaped
  /-- After a `$`, in the name of a variable. -/
  | name (chars : List Char)
  /-- The same in braces. -/
  | braced (chars : List Char)
  /-- After the value, where only a comment may follow. -/
  | ended
  deriving DecidableEq

def unescape? (c : Char) : Option Char :=
  if c = 'n' then some '\n'
  else if c = '\\' ∨ c = '\'' ∨ c = '"' ∨ c = '$' ∨ c = ' ' then some c
  else none

/-- Reads a value; `value` gives what stands for the name of a variable. -/
def readValue? (value : List Char → List Char) (quote : Quote) :
    ValueState → List Char → Option (List Char)
  | .braced _, [] => none
  | .name chars, [] => if quote = .none then some (value chars) else none
  | _, [] => if quote = .none then some [] else none
  | .ended, c :: rest =>
    if c = '#' then some []
    else if c = ' ' ∨ c = '\t' then readValue? value quote .ended rest
    else none
  | .escaped, c :: rest =>
    (unescape? c).bind fun c => (readValue? value quote .plain rest).map (c :: ·)
  | .name chars, c :: rest =>
    if alphanumeric.contains c then readValue? value quote (.name (chars ++ [c])) rest
    else if c = '\x7b' ∧ chars = [] then readValue? value quote (.braced []) rest
    else if c = '$' then (readValue? value quote (.name []) rest).map (value chars ++ ·)
    else (readValue? value quote .plain rest).map (value chars ++ c :: ·)
  | .braced chars, c :: rest =>
    if c = '\x7d' then (readValue? value quote .plain rest).map (value chars ++ ·)
    else readValue? value quote (.braced (chars ++ [c])) rest
  | .plain, c :: rest =>
    match quote with
    | .single =>
      if c = '\'' then readValue? value .none .plain rest
      else (readValue? value .single .plain rest).map (c :: ·)
    | .double =>
      if c = '$' then readValue? value .double (.name []) rest
      else if c = '"' then readValue? value .none .plain rest
      else if c = '\\' then readValue? value .double .escaped rest
      else (readValue? value .double .plain rest).map (c :: ·)
    | .none =>
      if c = '$' then readValue? value .none (.name []) rest
      else if c = '\'' then readValue? value .single .plain rest
      else if c = '"' then readValue? value .double .plain rest
      else if c = '\\' then readValue? value .none .escaped rest
      else if c = ' ' ∨ c = '\t' then readValue? value .none .ended rest
      else (readValue? value .none .plain rest).map (c :: ·)

def isNameStart (c : Char) : Bool := c.isAlpha || c == '_'

def isNamePart (c : Char) : Bool := c.isAlphanum || c == '_' || c == '.'

def readName? (cs : List Char) : Option (List Char × List Char) :=
  match cs with
  | [] => none
  | c :: _ =>
    if isNameStart c then
      some (cs.takeWhile isNamePart, trimStart (cs.dropWhile isNamePart))
    else none

/-- The name and the text of its value; `export` may stand before the name. -/
def readBinding? (cs : List Char) : Option (List Char × List Char) := do
  let (name, rest) ← readName? cs
  match rest with
  | '=' :: rest => some (name, trimStart rest)
  | rest =>
    if name = "export".toList then
      let (name, rest) ← readName? rest
      match rest with
      | '=' :: rest => some (name, trimStart rest)
      | _ => none
    else none

def loadLines (env : Environment) : List (Option (List Char)) → Environment
  | [] => env
  | none :: _ => env
  | some line :: rest =>
    let line := trimStart (trimEnd line)
    if line.isEmpty || line.head? == some '#' then loadLines env rest
    else
      match readBinding? line with
      | none => env
      | some (name, text) =>
        let value (chars : List Char) : List Char := ((env.get? (.ofList chars)).getD "").toList
        let read := if text.head? == some '#' then some [] else readValue? value .none .plain text
        match read with
        | none => env
        | some chars => loadLines (env.setDefault (.ofList name) (.ofList chars)) rest

/-- Adds the variables of a file; those that are set already stay as they are. -/
def load (env : Environment) (text : String) : Environment :=
  let cs := text.toList
  let cs := if cs.head? == some '\uFEFF' then cs.drop 1 else cs
  loadLines env (joinLines [] .complete (splitLines cs))

end SensorThresholds.Environment
