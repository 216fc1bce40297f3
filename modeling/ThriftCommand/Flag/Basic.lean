/-
This file declares the flags. A switch is on or off and may be written without a value; a
parameter always carries one. Every flag has a long name, and every flag but the version switch
has a letter as well. The names, the letters and the words that stand for on and off are the whole
vocabulary of the command line: nothing else is a flag.
-/

namespace ThriftCommand

/-- A flag that is on or off. -/
inductive Switch
  | version
  | help
  | recurse
  | verbose
  | quiet
  deriving DecidableEq, Repr

/-- A flag that carries a value. -/
inductive Parameter
  | output
  | includeDir
  | target
  | plugin
  deriving DecidableEq, Repr

/-- A flag of either kind. -/
inductive Flag
  | switch (which : Switch)
  | parameter (which : Parameter)
  deriving DecidableEq, Repr

/-! ### Names and letters -/

/-- The long name, which is written after two dashes. -/
def Switch.name : Switch → String
  | .version => "version"
  | .help => "help"
  | .recurse => "recurse"
  | .verbose => "verbose"
  | .quiet => "quiet"

/-- The letter, which is written after one dash. -/
def Switch.letter? : Switch → Option Char
  | .version => none
  | .help => some 'h'
  | .recurse => some 'r'
  | .verbose => some 'v'
  | .quiet => some 'q'

/-- The long name, which is written after two dashes. -/
def Parameter.name : Parameter → String
  | .output => "out"
  | .includeDir => "include"
  | .target => "gen"
  | .plugin => "plugin"

/-- The letter, which is written after one dash. -/
def Parameter.letter : Parameter → Char
  | .output => 'o'
  | .includeDir => 'i'
  | .target => 'g'
  | .plugin => 'p'

/-- The long name of a flag of either kind. -/
def Flag.name : Flag → String
  | .switch which => which.name
  | .parameter which => which.name

/-- The letter of a flag of either kind. -/
def Flag.letter? : Flag → Option Char
  | .switch which => which.letter?
  | .parameter which => some which.letter

/-! ### The vocabulary -/

/-- Every switch, in the order of the help text. -/
def Switch.all : List Switch :=
  [.version, .help, .recurse, .verbose, .quiet]

/-- Every parameter. -/
def Parameter.all : List Parameter :=
  [.output, .includeDir, .target, .plugin]

/-- Every flag. -/
def Flag.all : List Flag :=
  Switch.all.map .switch ++ Parameter.all.map .parameter

/-- The flag with this long name. -/
def Flag.named? (name : List Char) : Option Flag :=
  Flag.all.find? fun flag => flag.name.toList = name

/-- The flag with this letter. -/
def Flag.lettered? (letter : Char) : Option Flag :=
  Flag.all.find? fun flag => flag.letter? = some letter

/-- The words that turn a switch on. -/
def Switch.onWords : List String :=
  ["1", "t", "T", "TRUE", "true", "True"]

/-- The words that turn a switch off. -/
def Switch.offWords : List String :=
  ["0", "f", "F", "FALSE", "false", "False"]

/-- The position that a word stands for. -/
def Switch.position? (word : String) : Option Bool :=
  if word ∈ Switch.onWords then some true
  else if word ∈ Switch.offWords then some false
  else none

/-! ### Display -/

/-- The word that stands for the switch's value where a message shows the flag. -/
def Switch.placeholder : Switch → String
  | .version => "VERSION"
  | .help => "HELP"
  | .recurse => "RECURSIVE"
  | .verbose => "VERBOSE"
  | .quiet => "QUIET"

/-- The word that stands for the parameter's value where a message shows the flag. -/
def Parameter.placeholder : Parameter → String
  | .output | .includeDir => "DIR"
  | .target | .plugin => "STR"

/-- The switch as a message shows it, with the value that it may take. -/
def Switch.display (switch : Switch) : String :=
  "--" ++ switch.name ++ "[=<" ++ switch.placeholder ++ ">]"

/-- The parameter as a message shows it, with the value that it needs. -/
def Parameter.display (parameter : Parameter) : String :=
  "--" ++ parameter.name ++ " <" ++ parameter.placeholder ++ ">"

/-! ### Names and letters belong to one flag -/

/-- A long name finds exactly the flag that bears it. -/
theorem Flag.named?_name (flag : Flag) : Flag.named? flag.name.toList = some flag := by
  cases flag with
  | switch which => cases which <;> decide
  | parameter which => cases which <;> decide

/-- A letter finds exactly the flag that bears it. -/
theorem Flag.lettered?_of_letter? {flag : Flag} {letter : Char}
    (bears : flag.letter? = some letter) : Flag.lettered? letter = some flag := by
  cases flag with
  | switch which =>
    cases which <;> simp only [Flag.letter?, Switch.letter?, Option.some.injEq, reduceCtorEq]
      at bears <;> subst bears <;> decide
  | parameter which =>
    cases which <;> simp only [Flag.letter?, Parameter.letter, Option.some.injEq] at bears <;>
      subst bears <;> decide

/-- A name does not hold the equals sign that ends it. -/
theorem Flag.equals_notMem_name (flag : Flag) : '=' ∉ flag.name.toList := by
  cases flag with
  | switch which => cases which <;> decide
  | parameter which => cases which <;> decide

/-- A name has a first character, which is no dash. -/
theorem Flag.name_eq_cons (flag : Flag) :
    ∃ first rest, flag.name.toList = first :: rest ∧ first ≠ '-' := by
  cases flag with
  | switch which => cases which <;> exact ⟨_, _, rfl, by decide⟩
  | parameter which => cases which <;> exact ⟨_, _, rfl, by decide⟩

/-- No other name begins with the letter of a parameter. -/
theorem Flag.eq_of_head?_name {flag : Flag} {which : Parameter}
    (begins : flag.name.toList.head? = some which.letter) : flag = .parameter which := by
  revert begins
  cases flag with
  | switch other => cases other <;> cases which <;> decide
  | parameter other => cases other <;> cases which <;> decide

/-- The second character of a name is no letter of a flag and no equals sign. -/
theorem Flag.name_second (flag : Flag) :
    ∃ first second rest, flag.name.toList = first :: second :: rest ∧ second ≠ '=' ∧
      Flag.lettered? second = none := by
  cases flag with
  | switch which => cases which <;> exact ⟨_, _, _, rfl, by decide, by decide⟩
  | parameter which => cases which <;> exact ⟨_, _, _, rfl, by decide, by decide⟩

/-- A letter is neither of the two signs that a flag is written with. -/
theorem Flag.letter?_ne_sign {flag : Flag} {letter : Char} (bears : flag.letter? = some letter) :
    letter ≠ '=' ∧ letter ≠ '-' := by
  cases flag with
  | switch which =>
    cases which <;> simp only [Flag.letter?, Switch.letter?, Option.some.injEq, reduceCtorEq]
      at bears <;> subst bears <;> decide
  | parameter which =>
    cases which <;> simp only [Flag.letter?, Parameter.letter, Option.some.injEq] at bears <;>
      subst bears <;> decide

/-- A name that finds a flag is that flag's name. -/
theorem Flag.name_of_named? {name : List Char} {flag : Flag}
    (found : Flag.named? name = some flag) : flag.name.toList = name := by
  simpa using List.find?_some found

/-- A letter that finds a flag is that flag's letter. -/
theorem Flag.letter?_of_lettered? {letter : Char} {flag : Flag}
    (found : Flag.lettered? letter = some flag) : flag.letter? = some letter := by
  simpa using List.find?_some found

end ThriftCommand
