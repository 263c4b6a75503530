/-
Requests: what a command line asks for. Words are read from left to right. Switches may share a word
by their letters: the first that has a value takes the rest of the word, or the next word if nothing
is left, and what follows a letter without a value has to be another letter.

* `Request`: what to preprocess, and how;
* `cluster`: the switches in one word;
* `readWords`: all words, up to a call for help or the first error;
* `Request.ofArguments`: the request of a command line, the call for help, or an error.

Of the plain words that are not values the first is the input and all others are left over. Two
dashes say nothing beside the input and are left over elsewhere.
-/
import ShaderPreprocessor.CommandLine.Switch
import ShaderPreprocessor.Path

namespace ShaderPreprocessor.CommandLine

open Text

/-! ### One word -/

/-- The switches of one word. -/
structure Cluster where
  /-- The switches that are complete, with their values. -/
  complete : List (Switch × String)
  /-- The switch whose value is the next word. -/
  waiting : Option Switch
  deriving DecidableEq, Repr

namespace Cluster

/-- One switch with nothing attached. -/
def bare (switch : Switch) : Cluster :=
  if switch.takesValue then ⟨[], some switch⟩ else ⟨[(switch, "")], none⟩

/-- A switch without a value in front of others. -/
def push (switch : Switch) (c : Cluster) : Cluster :=
  { c with complete := (switch, "") :: c.complete }

end Cluster

/-- The switches of a word from a letter on, for the text attached to the letter. A value is the
whole text as it stands. This is how the option parser of version 3.11 reads a word as it was first
released. Later releases, 3.11.10 and 3.12.3 among them, also drop an equals sign in front of a
value that stands behind other letters, and leave a letter over that is no switch. -/
def cluster (switch : Switch) (text : List Char) : Except UsageError Cluster :=
  if switch.takesValue then .ok ⟨[(switch, String.ofList text)], none⟩
  else
    match text with
    | [] => .error (.unwantedValue switch "")
    | c :: more =>
      match Switch.ofLetter? c with
      | none => .error (.unwantedValue switch (String.ofList (c :: more)))
      | some next =>
        if more.isEmpty then .ok (.push switch (.bare next))
        else (cluster next more).map (.push switch)

/-- The switches of a word; other words have none. -/
def clusterOf : Word → Except UsageError Cluster
  | .short switch none => .ok (.bare switch)
  | .short switch (some text) => cluster switch text
  | .long switch none => .ok (.bare switch)
  | .long switch (some value) =>
    if switch.takesValue then .ok ⟨[(switch, value)], none⟩
    else .error (.unwantedValue switch value)
  | _ => .ok ⟨[], none⟩

/-! ### All words -/

/-- What has been read of a command line. -/
structure Reading where
  /-- The input. -/
  input : Option String := none
  /-- Whether the input was the last word. -/
  atInput : Bool := false
  /-- The defined names, in order. -/
  defs : List String := []
  /-- The directory that imports are taken from. -/
  root : Option String := none
  /-- The file to write. -/
  output : Option String := none
  /-- Whether to tell what happens. -/
  verbose : Bool := false
  /-- The words that are left over. -/
  others : List String := []
  deriving DecidableEq, Repr

/-- Why reading ends before the last word. -/
inductive Ending where
  /-- The help text is called for. -/
  | help
  /-- The command line is refused. -/
  | refused (error : UsageError)
  deriving DecidableEq, Repr

namespace Reading

/-- A word left over. -/
def leaveOver (r : Reading) (text : String) : Reading :=
  { r with others := r.others ++ [text], atInput := false }

/-- A plain word that is no value. -/
def plain (r : Reading) (text : String) : Reading :=
  if r.input.isNone then { r with input := some text, atInput := true } else r.leaveOver text

/-- Two dashes. -/
def separator (r : Reading) : Reading :=
  if r.input.isNone ∨ r.atInput then { r with atInput := false } else r.leaveOver "--"

/-- A complete switch. -/
def set (r : Reading) : Switch × String → Except Ending Reading
  | (.help, _) => .error .help
  | (.define, value) => .ok { r with defs := r.defs ++ [value], atInput := false }
  | (.root, value) => .ok { r with root := some value, atInput := false }
  | (.output, value) => .ok { r with output := some value, atInput := false }
  | (.verbose, _) => .ok { r with verbose := true, atInput := false }

/-- Complete switches, in order. -/
def setAll (r : Reading) : List (Switch × String) → Except Ending Reading
  | [] => .ok r
  | setting :: settings =>
    match r.set setting with
    | .ok r => setAll r settings
    | .error e => .error e

end Reading

/-- Words read from left to right. -/
def readWords : List Word → Reading → Except Ending Reading
  | [], r => .ok r
  | .plain text :: words, r => readWords words (r.plain text)
  | .separator :: words, r => readWords words r.separator
  | .unknown text :: words, r => readWords words (r.leaveOver text)
  | word :: words, r =>
    match clusterOf word with
    | .error e => .error (.refused e)
    | .ok c =>
      match c.waiting, words with
      | none, words =>
        match r.setAll c.complete with
        | .ok r => readWords words r
        | .error e => .error e
      | some switch, .plain value :: words =>
        match r.setAll (c.complete ++ [(switch, value)]) with
        | .ok r => readWords words r
        | .error e => .error e
      | some switch, _ => .error (.refused (.missingValue switch))

/-! ### Requests -/

/-- What a command line asks for. -/
structure Request where
  /-- The file to preprocess. -/
  input : Path
  /-- The defined names. -/
  defs : List String
  /-- The directory that imports are taken from, if it is not that of the input. -/
  root : Option Path
  /-- The file to write, if the result is not to be shown. -/
  output : Option Path
  /-- Whether to tell what happens. -/
  verbose : Bool
  deriving DecidableEq, Repr

namespace Request

/-- The request that a reading comes to. -/
def ofReading (r : Reading) : Except Ending Request :=
  match r.input with
  | none => .error (.refused .missingInput)
  | some input =>
    if r.others = [] then
      .ok ⟨.ofText input, r.defs, r.root.map .ofText, r.output.map .ofText, r.verbose⟩
    else .error (.refused (.unrecognized r.others))

/-- The request of a command line. -/
def ofArguments (arguments : List String) : Except Ending Request :=
  match words arguments with
  | .error e => .error (.refused e)
  | .ok words =>
    match readWords words {} with
    | .error e => .error e
    | .ok r => ofReading r

end Request

end ShaderPreprocessor.CommandLine
