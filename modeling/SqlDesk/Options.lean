/-! The options of the command line: a configuration file, and a log level that counts more than the
one of the file. Each may be given once, its value behind it or after an equals sign. -/

set_option autoImplicit false

namespace SqlDesk

structure Options where
  config : Option String
  logLevel : Option String
  deriving DecidableEq, Repr

namespace Options

def none : Options := ⟨.none, .none⟩

def set? (options : Options) (name value : String) : Option Options :=
  match name, options with
  | "--config", ⟨.none, logLevel⟩ | "-c", ⟨.none, logLevel⟩ => some ⟨some value, logLevel⟩
  | "--log-level", ⟨config, .none⟩ => some ⟨config, some value⟩
  | _, _ => .none

def assignment? (argument : String) : Option (String × String) :=
  match argument.toList.span (· ≠ '=') with
  | (name, _ :: value) => some (String.ofList name, String.ofList value)
  | (_, []) => .none

def ofArguments? : List String → Option Options
  | [] => some none
  | [argument] => do
    let (name, value) ← assignment? argument
    none.set? name value
  | argument :: value :: rest =>
    match assignment? argument with
    | some (name, value') => do (← ofArguments? (value :: rest)).set? name value'
    | .none => do (← ofArguments? rest).set? argument value

def usage : String := "Usage: sqldesk [-c|--config FILE] [--log-level LEVEL]"

end Options

end SqlDesk
