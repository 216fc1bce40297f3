/-
This file proves that no user text adds a line to an error or a warning. A command line goes wrong
in two places: its arguments are refused, or they ask for a run whose targets and plugins do not
resolve. Whatever the arguments hold, decoded or not, the message is one line and says something,
and unless help follows it the program writes that line and no other. A warning is one line as well,
if the backends have names of one line.
-/

import ThriftCommand.Proofs.Outcomes

namespace ThriftCommand.Execution

/-- What goes wrong with a command line of these arguments. -/
inductive Fails (backends : List Backend) (arguments : List Token) : UsageError → Prop
  /-- The arguments are refused. -/
  | refused {error : UsageError} (answer : Invocation.ofArguments arguments = .error error) :
    Fails backends arguments error
  /-- The arguments ask for a run, and a target or a plugin of it does not resolve. -/
  | unresolved {configuration : Configuration} {error : UsageError}
      (run : Invocation.ofArguments arguments = .ok (.run configuration))
      (failed : (Report.ofConfiguration configuration backends).outcome = .error error) :
    Fails backends arguments error

/-- A command line that fails is answered with a refusal. -/
theorem Fails.ofArguments_eq {backends : List Backend} {arguments : List Token}
    {error : UsageError} (fails : Fails backends arguments error) :
    ofArguments backends arguments = refusal backends error := by
  cases fails with
  | refused answer => rw [ofArguments, answer]
  | unresolved run failed =>
    rw [ofArguments, run]
    dsimp only
    rw [ofConfiguration, failed]

/-- Whatever the arguments are, what goes wrong is said in one line, and the program writes nothing
else unless a flag was wrong. Every warning is one line, whatever the targets are, if the backends
have names of one line. -/
theorem fails_and_warns_in_one_line (backends : List Backend) :
    (∀ arguments error, Fails backends arguments error →
      error.message ≠ "" ∧ '\n' ∉ error.message.toList ∧
        ((∀ flag, error ≠ .flags flag) → ofArguments backends arguments =
          { code := 2, stdout := "", stderr := error.message ++ "\n" })) ∧
      ((∀ backend ∈ backends, '\n' ∉ backend.name.toList) →
        ∀ targets, ∀ message ∈ (Warning.ofTargets backends targets).map Warning.message,
          '\n' ∉ message.toList) := by
  refine ⟨fun arguments error fails => ?_, fun named targets message warned => ?_⟩
  · refine ⟨error.message_ne_empty, error.newline_notMem_message, fun others => ?_⟩
    rw [fails.ofArguments_eq, refusal_of_others backends others]
  · obtain ⟨warning, given, rfl⟩ := List.mem_map.mp warned
    exact Warning.control_notMem_message (by decide) named given

/-- Line feeds in a specification and in a language are escaped, and a message that repeats a flag
without quotes is cut. -/
theorem fails_and_warns_in_one_line_escaped :
    ofArguments Backend.registered
        (["thriftgen", "-g", "go:a\n,a\n", "a.thrift"].map Token.ofString) =
      { code := 2, stdout := "",
        stderr := "invalid compact specification \"go:a\\n,a\\n\": " ++
          "option \"a\\n\" given more than once" ++ "\n" } ∧
      Invocation.ofArguments (["thriftgen", "--a\nb"].map Token.ofString) =
        .error (.flags (.unknown "--a\nb")) ∧
      '\n' ∉ (UsageError.message (.flags (.unknown "--a\nb"))).toList ∧
      '\n' ∉ (Warning.message (.unknownLanguage "c\n")).toList := by
  obtain ⟨errors, warnings⟩ := fails_and_warns_in_one_line Backend.registered
  have run : Invocation.ofArguments
      (["thriftgen", "-g", "go:a\n,a\n", "a.thrift"].map Token.ofString) =
    .ok (.run ⟨false, false, false, false, none, {}, {}, Occurrences.ofList ["go:a\n,a\n"],
      "a.thrift"⟩) := rfl
  have unknown : Invocation.ofArguments (["thriftgen", "--a\nb"].map Token.ofString) =
    .error (.flags (.unknown "--a\nb")) := rfl
  have unregistered : Warning.ofTargets Backend.registered [⟨"c\n", []⟩] =
    [.unknownLanguage "c\n"] := rfl
  have named : ∀ backend ∈ Backend.registered, '\n' ∉ backend.name.toList :=
    fun backend registered => (Backend.visible_name_of_registered backend registered).newline_notMem
  obtain ⟨-, -, written⟩ := errors _ (.spec (.duplicateKey _ "a\n")) (.unresolved run rfl)
  obtain ⟨-, cut, -⟩ := errors _ _ (.refused unknown)
  refine ⟨written (by simp), unknown, cut, warnings named [⟨"c\n", []⟩] _ ?_⟩
  rw [unregistered]
  exact List.mem_singleton_self _

end ThriftCommand.Execution
