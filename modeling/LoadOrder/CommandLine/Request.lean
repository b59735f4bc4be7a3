import LoadOrder.Text.Search

/-!
# Requests

What the arguments of the command line ask for. Arguments are read one after the other, and the first
that is out of place decides; a request for help or for the version counts as soon as it is read.
-/

namespace LoadOrder.CommandLine

/-- What is to be done with the plugins. -/
inductive Command where
  /-- Print a load order; a lenient one may break relations that contradict each other. -/
  | sort (lenient : Bool)
  /-- Print the install problems. -/
  | check
deriving Repr, DecidableEq

/-- The files and settings that a request names. -/
structure Inputs where
  /-- The metadata lists, least specific first. -/
  lists : List String := []
  /-- The scan list. -/
  scan : String
  /-- The directory with the files of the game; without one the scanned plugins count as installed. -/
  dataDirectory : Option String := none
  settings : Option String := none
  language : Option String := none
deriving Repr, DecidableEq

structure Request where
  command : Command
  inputs : Inputs
  /-- Whether more is to be reported about the work. -/
  verbose : Bool := false
deriving Repr, DecidableEq

/-- What the arguments come to. -/
inductive Invocation where
  | run (request : Request)
  | help
  | version
  /-- The arguments make no request. -/
  | misuse
deriving Repr, DecidableEq

/-- The part of the command line that an option stands in. -/
inductive Scope where
  /-- Before the command. -/
  | program
  | sort
  | check
deriving Repr, DecidableEq

/-- The options of a command as far as they have been read. -/
structure Options where
  lists : List String := []
  scan : Option String := none
  dataDirectory : Option String := none
  settings : Option String := none
  language : Option String := none
  lenient : Bool := false
  verbose : Bool := false
deriving Repr, DecidableEq

/-- Why the reading of arguments stops. -/
inductive Stop where
  | help
  | version
  | misuse
deriving Repr, DecidableEq

/-- What arguments come to whose reading stops. -/
def Stop.invocation : Stop → Invocation
  | help => .help
  | version => .version
  | misuse => .misuse

/-- An argument with two hyphens: the name of an option and the value attached to it. -/
structure LongOption where
  name : String
  value : Option String
deriving Repr, DecidableEq

/-- The option that an argument is, if it begins with two hyphens. -/
def LongOption.ofArgument? (argument : String) : Option LongOption :=
  (Text.cutStart? ['-', '-'] argument.toList).map fun text =>
    match Text.cutAt? ['='] text with
    | some (name, value) => ⟨String.ofList name, some (String.ofList value)⟩
    | none => ⟨String.ofList text, none⟩

/-- The letters of an argument that begins with one hyphen. -/
def shortOptions? (argument : String) : Option (List Char) :=
  match argument.toList with
  | ['-'] => none
  | '-' :: '-' :: _ => none
  | '-' :: letters => some letters
  | _ => none

/-- Whether an argument is an option rather than a value. -/
def isOption (argument : String) : Bool :=
  argument = "--" || (LongOption.ofArgument? argument).isSome || (shortOptions? argument).isSome

namespace Options

/-- The value of an option that may be given once. -/
def once (old : Option String) (value : String) : Option (Option String) :=
  if old.isSome then none else some (some value)

/-- The options with a path, which must not be empty. -/
def withPath (options : Options) (name path : String) : Option Options :=
  if path.isEmpty then none
  else match name with
    | "list" => some { options with lists := options.lists ++ [path] }
    | "scan" => (once options.scan path).map ({ options with scan := · })
    | "data-dir" => (once options.dataDirectory path).map ({ options with dataDirectory := · })
    | "config" => (once options.settings path).map ({ options with settings := · })
    | _ => none

def takesValue (name : String) : Bool :=
  ["list", "scan", "data-dir", "config", "language"].contains name

def withValue (options : Options) (name value : String) : Option Options :=
  if name = "language" then (once options.language value).map ({ options with language := · })
  else options.withPath name value

/-- The options with more reports asked for, which may be done once. -/
def withVerbose (options : Options) : Except Stop Options :=
  if options.verbose then .error .misuse else .ok { options with verbose := true }

/-- The options with a lenient order asked for, which may be done once. -/
def withLenient (options : Options) : Except Stop Options :=
  if options.lenient then .error .misuse else .ok { options with lenient := true }

/-- The options after an option without a value. -/
def withFlag (scope : Scope) (options : Options) (name : String) : Except Stop Options :=
  match scope, name with
  | _, "help" => .error .help
  | _, "verbose" => options.withVerbose
  -- the version is asked for before the command only, a lenient order only of the command that sorts
  | .program, "version" => .error .version
  | .sort, "lenient" => options.withLenient
  | _, _ => .error .misuse

/-- The options after the letters of one argument. -/
def withLetters (scope : Scope) (options : Options) : List Char → Except Stop Options
  | [] => .ok options
  | 'h' :: _ => .error .help
  | 'v' :: letters =>
    match options.withVerbose with
    | .error stop => .error stop
    | .ok options => withLetters scope options letters
  | 'V' :: _ => .error (if scope = .program then .version else .misuse)
  | _ => .error .misuse

/-- The options after the arguments of a command. -/
def read (scope : Scope) : List String → Options → Except Stop Options
  | [], options => .ok options
  | "--" :: rest, options => if rest.isEmpty then .ok options else .error .misuse
  | argument :: rest, options =>
    match LongOption.ofArgument? argument, shortOptions? argument with
    | some ⟨name, some value⟩, _ =>
      match options.withValue name value with
      | some options => read scope rest options
      | none => .error .misuse
    | some ⟨name, none⟩, _ =>
      if takesValue name then
        match rest with
        | [] => .error .misuse
        | value :: rest =>
          match if isOption value then none else options.withValue name value with
          | some options => read scope rest options
          | none => .error .misuse
      else match options.withFlag scope name with
        | .error stop => .error stop
        | .ok options => read scope rest options
    | none, some letters =>
      match options.withLetters scope letters with
      | .error stop => .error stop
      | .ok options => read scope rest options
    | none, none => .error .misuse

def command? (options : Options) : Scope → Option Command
  | .program => none
  | .sort => some (.sort options.lenient)
  | .check => some .check

/-- The request that the options of a command make, if nothing is missing; `verbose` tells what was
asked for before the command. -/
def request? (scope : Scope) (verbose : Bool) (options : Options) : Option Request := do
  let command ← options.command? scope
  let scan ← options.scan
  return {
      command
      inputs := {
        lists := options.lists
        scan
        dataDirectory := options.dataDirectory
        settings := options.settings
        language := options.language }
      verbose := verbose || options.verbose }

end Options

def Invocation.ofCommand (scope : Scope) (verbose : Bool) (arguments : List String) : Invocation :=
  match Options.read scope arguments {} with
  | .error stop => stop.invocation
  | .ok options => ((options.request? scope verbose).map run).getD misuse

/-- What the arguments come to, where `options` are the ones before the command. -/
def Invocation.read (options : Options) : List String → Invocation
  | [] => .misuse
  | "sort" :: rest => ofCommand .sort options.verbose rest
  | "check" :: rest => ofCommand .check options.verbose rest
  | "help" :: rest => if [[], ["sort"], ["check"], ["help"]].contains rest then .help else .misuse
  | argument :: rest =>
    let after :=
      match LongOption.ofArgument? argument, shortOptions? argument with
      | some ⟨name, none⟩, _ => options.withFlag .program name
      | none, some letters => options.withLetters .program letters
      | _, _ => .error .misuse
    match after with
    | .error stop => stop.invocation
    | .ok options => read options rest

def Invocation.ofArguments (arguments : List String) : Invocation := Invocation.read {} arguments

end LoadOrder.CommandLine
