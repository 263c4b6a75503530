/-
Switches of the command line and the words it is made of. A switch has a letter, and some have a
long name, which may be cut short; a value may be attached to a word or follow as the next one.

* `Switch`: the switches, with their letters and names;
* `Word`: a word of the command line, as far as it can be told apart without the others;
* `Word.ofText`: what a word is: a switch, a word that looks like one but is none, or plain;
* `words`: all of them; a word of two dashes makes every later one plain.
-/
import ShaderPreprocessor.Text.Cut
import ShaderPreprocessor.Text.Digit
import ShaderPreprocessor.Text.Quoted

namespace ShaderPreprocessor.CommandLine

open Text

/-- The switches. -/
inductive Switch where
  /-- Show the help text. -/
  | help
  /-- Define a name. -/
  | define
  /-- Set the directory that imports are taken from. -/
  | root
  /-- Set the file to write. -/
  | output
  /-- Tell what happens. -/
  | verbose
  deriving DecidableEq, Repr

namespace Switch

/-- All switches, in the order of the usage line. -/
def all : List Switch := [help, define, root, output, verbose]

/-- The letter of a switch. -/
def letter : Switch → Char
  | help => 'h'
  | define => 'D'
  | root => 'I'
  | output => 'o'
  | verbose => 'v'

/-- The long name of a switch, with its dashes. -/
def longName? : Switch → Option String
  | help => some "--help"
  | verbose => some "--verbose"
  | _ => none

/-- Whether a switch has a value. -/
def takesValue : Switch → Bool
  | define => true
  | root => true
  | output => true
  | help => false
  | verbose => false

/-- A switch as messages name it. -/
def display (s : Switch) : String :=
  let short := String.ofList ['-', s.letter]
  match s.longName? with
  | some long => short ++ "/" ++ long
  | none => short

/-- The switch of a letter. -/
def ofLetter? (c : Char) : Option Switch := all.find? fun s => s.letter = c

/-- The switches whose long name starts with a text, each with its name. -/
def ofStart (text : List Char) : List (Switch × String) :=
  all.filterMap fun s =>
    match s.longName? with
    | some long => if text.isPrefixOf long.toList then some (s, long) else none
    | none => none

/-- Every switch is found by its letter. -/
@[simp] theorem ofLetter?_letter (s : Switch) : ofLetter? s.letter = some s := by
  cases s <;> decide

end Switch

/-- Why a command line is refused. -/
inductive UsageError where
  /-- A shortened name may mean several switches. -/
  | ambiguous (word : String) (names : List String)
  /-- The value of a switch is missing. -/
  | missingValue (switch : Switch)
  /-- A switch without a value is given one. -/
  | unwantedValue (switch : Switch) (value : String)
  /-- No input is named. -/
  | missingInput
  /-- Words are left over. -/
  | unrecognized (words : List String)
  deriving DecidableEq, Repr

/-- What is said about a command line that is refused. -/
def UsageError.message : UsageError → String
  | ambiguous word names =>
    "ambiguous option: " ++ word ++ " could match " ++ ", ".intercalate names
  | missingValue switch => "argument " ++ switch.display ++ ": expected one argument"
  | unwantedValue switch value =>
    "argument " ++ switch.display ++ ": ignored explicit argument " ++ quoted value
  | missingInput => "the following arguments are required: input"
  | unrecognized words => "unrecognized arguments: " ++ " ".intercalate words

/-- A word of a command line. -/
inductive Word where
  /-- A name or a value. -/
  | plain (text : String)
  /-- Two dashes: all that follows is plain. -/
  | separator
  /-- A switch by its letter, and the text attached to it. -/
  | short (switch : Switch) (attached : Option (List Char))
  /-- A switch by its long name. -/
  | long (switch : Switch) (value : Option String)
  /-- What looks like a switch and is none. -/
  | unknown (text : String)
  deriving DecidableEq, Repr

namespace Word

/-- Whether a text is a number without sign: digits, with at most one point before the last of
them. A line feed may end it. -/
def isNumber (text : List Char) : Bool :=
  let number := if text.getLast? = some '\n' then text.dropLast else text
  match cutLast? '.' number with
  | some (whole, part) => whole.all isDigit && part.all isDigit && !part.isEmpty
  | none => number.all isDigit && !number.isEmpty

/-- A word that starts with a dash and names no switch: a negative number and anything with a
space are plain. -/
def unnamed (text : String) : Word :=
  if isNumber (text.toList.drop 1) || text.toList.contains ' ' then plain text else unknown text

/-- The part of a text before the first equals sign, and what follows the sign. -/
def cutAtSign (text : List Char) : List Char × Option (List Char) :=
  match text.dropWhile (· ≠ '=') with
  | [] => (text, none)
  | _ :: value => (text.takeWhile (· ≠ '='), some value)

/-- A word that starts with two dashes. -/
def ofLongName (text : String) : Except UsageError Word :=
  let (name, value) := cutAtSign text.toList
  match Switch.ofStart name with
  | [] => .ok (unnamed text)
  | [(switch, _)] => .ok (long switch (value.map String.ofList))
  | several => .error (.ambiguous text (several.map Prod.snd))

/-- The text attached to the first letter of a word. One equals sign between them says nothing, but
after the sign the text may be empty. -/
def attachedOf : List Char → Option (List Char)
  | [] => none
  | '=' :: text => some text
  | text => some text

/-- What a word is. -/
def ofText (text : String) : Except UsageError Word :=
  match text.toList with
  | '-' :: '-' :: _ => ofLongName text
  | '-' :: c :: rest =>
    match Switch.ofLetter? c with
    | some switch => .ok (short switch (attachedOf rest))
    | none => .ok (unnamed text)
  | _ => .ok (plain text)

end Word

/-- The words of a command line. -/
def words : List String → Except UsageError (List Word)
  | [] => .ok []
  | text :: texts =>
    if text = "--" then .ok (.separator :: texts.map .plain)
    else
      match Word.ofText text with
      | .error e => .error e
      | .ok word => (words texts).map (word :: ·)

end ShaderPreprocessor.CommandLine
