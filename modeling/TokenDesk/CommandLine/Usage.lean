/-! Why the words of a command line are no command.

Asking for help or for the version is not an error, but no command either.
-/

set_option autoImplicit false

namespace TokenDesk.CommandLine

inductive Usage where
  | help
  | version
  | nothingGiven
  | missingCommand
  | unknownCommand
  | missingArgument
  | unknownArgument
  | repeated
  | invalidValue
  | invalidNumber
  | unwantedValue
  deriving DecidableEq, Repr

def Usage.exitCode : Usage → Nat
  | help => 0
  | version => 0
  | _ => 2

def Usage.message : Usage → String
  | help => "help is asked for"
  | version => "the version is asked for"
  | nothingGiven => "no command is given"
  | missingCommand => "a command is missing"
  | unknownCommand => "there is no such command"
  | missingArgument => "an argument is missing"
  | unknownArgument => "there is no such argument"
  | repeated => "an argument is given twice"
  | invalidValue => "a value is missing or not allowed"
  | invalidNumber => "a number cannot be read"
  | unwantedValue => "an option takes no value"

end TokenDesk.CommandLine
