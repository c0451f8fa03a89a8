/-!
# Words of a command line

The words behind a command are options and operands. Long options start with two dashes and may
have their value behind an equals sign; short ones are letters behind one dash, several of them in
one word, and the rest of the word is the value of the first that takes one. Otherwise the next
word is the value, unless it starts with a dash and is longer than that. Two dashes alone end the
options; one dash alone is an operand.
-/

namespace Worksheet.CommandLine

/-- The options that a command knows. -/
structure OptionTable where
  /-- Long names of the options without a value. -/
  flags : List String
  /-- Long names of the options with a value. -/
  valued : List String
  /-- Short forms of options. -/
  letters : List (Char × String)

/-- What a command line consists of. -/
inductive Item where
  | flag (name : String)
  | option (name value : String)
  | operand (word : String)
deriving DecidableEq, Repr

/-- What a word gives: items, and maybe an option whose value is still to come. -/
abbrev Reading := List Item × Option String

/-- Reads the letters of a word of short options. -/
def readLetters (table : OptionTable) : List Char → Option Reading
  | [] => some ([], none)
  | c :: rest =>
    match table.letters.lookup c with
    | none => none
    | some name =>
      if table.flags.contains name then
        (readLetters table rest).map fun (items, pending) => (.flag name :: items, pending)
      else
        match rest with
        | [] => some ([], some name)
        | '=' :: value => some ([.option name (String.ofList value)], none)
        | value => some ([.option name (String.ofList value)], none)

/-- Reads a long option, its dashes left out. -/
def readLong (table : OptionTable) (s : List Char) : Option Reading :=
  let name := String.ofList (s.takeWhile (· ≠ '='))
  match s.dropWhile (· ≠ '=') with
  | [] =>
    if table.flags.contains name then some ([.flag name], none)
    else if table.valued.contains name then some ([], some name)
    else none
  | _ :: value =>
    if table.valued.contains name then some ([.option name (String.ofList value)], none)
    else none

/-- Reads a word that is not the end of the options. -/
def readWord (table : OptionTable) (word : String) : Option Reading :=
  match word.toList with
  | '-' :: '-' :: name => readLong table name
  | '-' :: c :: letters => readLetters table (c :: letters)
  | _ => some ([.operand word], none)

/-- Whether a word can be the value of the option before it. -/
def isValue (word : String) : Bool :=
  !(word.startsWith "-") || word == "-"

/-- Reads the words behind a command, `pending` an option that waits for its value. -/
def readWords (table : OptionTable) : Option String → List String → Option (List Item)
  | none, [] => some []
  | some _, [] => none
  | some name, value :: rest =>
    if isValue value then (readWords table none rest).map (.option name value :: ·) else none
  | none, word :: rest =>
    if word = "--" then some (rest.map .operand)
    else
      match readWord table word with
      | none => none
      | some (items, pending) => (readWords table pending rest).map (items ++ ·)

end Worksheet.CommandLine
