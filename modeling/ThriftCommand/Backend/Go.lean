/-
This file describes the one backend that comes with the compiler, which generates Go.
-/

import ThriftCommand.Backend.Basic

namespace ThriftCommand.Backend

/-- The Go backend. -/
def go : Backend where
  name := "thriftgo"
  language := "go"
  options :=
    [ { name := "thrift_import_path"
        description := "Override the thrift package import path." },
      { name := "use_package"
        description := "Specify an import path for a package: path=repl." },
      { name := "naming_style"
        description := "Naming style for identifiers: golint, apache or thriftgo." },
      { name := "ignore_initialisms"
        description := "Disable spelling correction of initialisms."
        boolean := true },
      { name := "package_prefix"
        description := "Prefix prepended to the import path of generated packages." },
      { name := "gen_setter"
        description := "Generate Set* methods for fields."
        boolean := true },
      { name := "gen_deep_equal"
        description := "Generate DeepEqual for structs, unions and exceptions."
        boolean := true },
      { name := "compatible_names"
        description := "Add a '_' suffix to names that collide with generated methods."
        boolean := true },
      { name := "reserve_comments"
        description := "Keep IDL comments in the generated code."
        boolean := true },
      { name := "nil_safe"
        description := "Generate nil-safe getters."
        boolean := true },
      { name := "gen_json_tag"
        description := "Generate json tags for struct fields."
        boolean := true },
      { name := "json_stringer"
        description := "Generate a JSON-based String method."
        boolean := true },
      { name := "with_reflection"
        description := "Generate reflection information."
        boolean := true },
      { name := "no_fmt"
        description := "Do not run gofmt on the generated code."
        boolean := true } ]

/-- The backends that come with the compiler, in the order of the help text. -/
def registered : List Backend :=
  [go]

end ThriftCommand.Backend
