import Stencil.Text.Word

/-! The words of a command line: options with and without a value, and operands. An option may
be shortened as long as no other starts in the same way, its value may follow in the next word
or after an equals sign, and `--` ends the options. -/

namespace Stencil.CommandLine

inductive Flag where
  | help
  | version
  | debug
deriving DecidableEq, Repr

inductive Setting where
  | data
  | set
  | nullText
  | emptyText
  | separator
deriving DecidableEq, Repr

def Flag.name : Flag → List Char
  | help => "help".toList
  | version => "version".toList
  | debug => "debug".toList

/-- The letter that stands for a flag behind a single hyphen. -/
def Flag.letter? : Flag → Option Char
  | help => some 'h'
  | version => some 'v'
  | debug => none

def Setting.name : Setting → List Char
  | data => "data".toList
  | set => "set".toList
  | nullText => "null-text".toList
  | emptyText => "empty-text".toList
  | separator => "separator".toList

/-- An option stands alone or takes a value. -/
inductive OptionName where
  | flag (flag : Flag)
  | setting (setting : Setting)
deriving DecidableEq, Repr

def OptionName.name : OptionName → List Char
  | .flag self => self.name
  | .setting self => self.name

def OptionName.letter? : OptionName → Option Char
  | .flag self => self.letter?
  | .setting _ => none

inductive Word where
  | operand (text : String)
  /-- The word `--`. -/
  | divider
  /-- An option by its name, perhaps with a value after an equals sign. -/
  | option (name : OptionName) (value : Option String)
  /-- Letters behind a hyphen, of which the first is known. -/
  | letters (letters : List Char)
  /-- Looks like an option but is none. -/
  | unknown
deriving DecidableEq, Repr

/-- What stands for a negative number: digits with a hyphen in front and perhaps a point among
them. A line feed at the end does not count. -/
def isNegativeNumber (text : List Char) : Bool :=
  match text with
  | '-' :: body =>
    let body := if body.getLast? = some '\n' then body.dropLast else body
    let isDigit := Text.decimalDigits.contains
    match body.dropWhile isDigit with
    | [] => !body.isEmpty
    | '.' :: fraction => !fraction.isEmpty && fraction.all isDigit
    | _ => false
  | _ => false

/-- A word with a hyphen that is no option. -/
def Word.other (text : List Char) : Word :=
  if isNegativeNumber text || text.contains ' ' then .operand (String.ofList text) else .unknown

/-- The text before the first equals sign, and what follows the sign. -/
def splitEquals (text : List Char) : List Char × Option (List Char) :=
  match text.dropWhile (· != '=') with
  | [] => (text, none)
  | _ :: value => (text.takeWhile (· != '='), some value)

/-- The options that a name or the start of a name can mean. -/
def matching (options : List OptionName) (name : List Char) : List OptionName :=
  match options.find? (·.name == name) with
  | some option => [option]
  | none => options.filter fun option => name.isPrefixOf option.name

/-- What kind of word a text is, unless it could be one of several options. -/
def Word.read (options : List OptionName) (text : List Char) : Option Word :=
  match text with
  | '-' :: '-' :: rest =>
    let (name, value) := splitEquals rest
    match matching options name with
    | [] => some (.other text)
    | [name] => some (.option name (value.map String.ofList))
    | _ => none
  | '-' :: letter :: rest =>
    if options.any (·.letter? == some letter) then some (.letters (letter :: rest))
    else some (.other text)
  | _ => some (.operand (String.ofList text))

/-- Behind a divider, all words are operands. -/
def readWords (options : List OptionName) : List String → Option (List Word)
  | [] => some []
  | text :: rest =>
    if text = "--" then some (.divider :: rest.map .operand)
    else do
      let word ← Word.read options text.toList
      let words ← readWords options rest
      return word :: words

/-! ### What the words say -/

/-- One thing that words say, in the order in which it takes effect. -/
inductive Occurrence where
  | flag (flag : Flag)
  /-- A setting with its value, or set to nothing. -/
  | setting (setting : Setting) (value : Option String)
  | operand (text : String)
  /-- There is no use for a word. -/
  | surplus
  /-- A value is missing, or stands where none is taken. -/
  | misuse
deriving DecidableEq, Repr

/-- The flags of letters in one word; a letter that is none makes the rest a surplus. -/
def letterFlags (options : List OptionName) : List Char → List Occurrence
  | [] => []
  | letter :: rest =>
    match options.find? (·.letter? == some letter) with
    | some (.flag flag) => .flag flag :: letterFlags options rest
    | _ => [.surplus]

/-- A hyphen or an equals sign follows one of the known letters directly. -/
def hasStrayMark (options : List OptionName) (letters : List Char) : Bool :=
  let known := letters.takeWhile fun letter => options.any (·.letter? == some letter)
  (letters[known.length]?).any fun c => c = '-' || c = '='

/-- The value behind an equals sign, where `--` stands for nothing. -/
def directValue (value : String) : Option String := if value = "--" then none else some value

/-- What words say to a command that takes one operand, which it may still be waiting for. A
divider belongs to the operand beside it. -/
def occurrences (options : List OptionName) : Bool → List Word → List Occurrence
  | _, [] => []
  | waiting, .unknown :: rest => .surplus :: occurrences options waiting rest
  | waiting, .option (.flag flag) none :: rest => .flag flag :: occurrences options waiting rest
  | _, .option (.flag _) (some _) :: _ => [.misuse]
  | waiting, .option (.setting setting) (some value) :: rest =>
    .setting setting (directValue value) :: occurrences options waiting rest
  | waiting, .option (.setting setting) none :: .operand value :: rest =>
    .setting setting (some value) :: occurrences options waiting rest
  | _, .option (.setting _) none :: _ => [.misuse]
  | waiting, .letters letters :: rest =>
    if hasStrayMark options letters then [.misuse]
    else letterFlags options letters ++ occurrences options waiting rest
  | true, .operand text :: .divider :: rest => .operand text :: occurrences options false rest
  | true, .divider :: .operand text :: rest => .operand text :: occurrences options false rest
  | true, .operand text :: rest => .operand text :: occurrences options false rest
  | false, .operand _ :: rest => .surplus :: occurrences options false rest
  | waiting, .divider :: rest => .surplus :: occurrences options waiting rest

end Stencil.CommandLine
