/-
This file lays out the help text: the version, the flags, and a block for each backend with one
row for each of its options. The descriptions of a block stand in one column, which the longest
name of that block alone decides.
-/

import ThriftCommand.Backend.Basic

namespace ThriftCommand.Help

/-- The version of the compiler. -/
def version : String :=
  "0.3.0"

/-- The line that answers a question for the version. -/
def versionLine : String :=
  "thriftgen " ++ version

/-- The part of the help text that documents the flags. -/
def usage : List String :=
  [ "Usage: thriftgen [options] file",
    "Options:",
    "  --version           Print the compiler version and exit.",
    "  -h, --help          Print help message and exit.",
    "  -i, --include dir   Add a search path for includes.",
    "  -o, --out dir       Set the output location for generated files. (default: ./gen-*)",
    "  -r, --recurse       Generate code for includes recursively.",
    "  -v, --verbose       Output detail logs.",
    "  -q, --quiet         Suppress all warnings and informational logs.",
    "  -g, --gen STR       Specify the target language.",
    "                      STR has the form language[:key1=val1[,key2[,key3=val3]]].",
    "                      Keys and values are options passed to the backend.",
    "                      Many options will not require values. Boolean options accept",
    "                      \"false\", \"true\" and \"\" (empty is treated as \"true\").",
    "  -p, --plugin STR    Specify an external plugin to invoke.",
    "                      STR has the form plugin[=path][:key1=val1[,key2[,key3=val3]]].",
    "",
    "Available generators (and options):" ]

/-! ### Rows -/

/-- How far the descriptions stand from the names: two places more than the longest name. -/
def columnWidth (options : List OptionDoc) : Nat :=
  (options.map fun doc => doc.name.length).foldl max 0 + 2

/-- The text with spaces after it up to `width` characters; longer text is left as it is. -/
def padEnd (width : Nat) (text : String) : String :=
  text ++ String.ofList (List.replicate (width - text.length) ' ')

/-- The row of one option in a block whose names have `width` places. -/
def row (width : Nat) (doc : OptionDoc) : String :=
  "    " ++ padEnd width (doc.name ++ ":") ++ doc.description

/-- A row for each option, with the descriptions in one column. -/
def rows (options : List OptionDoc) : List String :=
  options.map (row (columnWidth options))

/-! ### The whole text -/

/-- A line with the line feed that ends it. -/
def line (text : String) : String :=
  text ++ "\n"

/-- The block of one backend: its name and language, then its options. -/
def block (backend : Backend) : String :=
  line ("  " ++ backend.name ++ " (" ++ backend.language ++ "):")
    ++ String.join ((rows backend.options).map line)

/-- The help text for these backends. -/
def render (backends : List Backend) : String :=
  line ("Version: " ++ version) ++ String.join (usage.map line)
    ++ String.join (backends.map block) ++ "\n"

end ThriftCommand.Help
