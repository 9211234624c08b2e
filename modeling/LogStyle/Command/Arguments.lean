import LogStyle.Command.Check

/-!
# The arguments of the command line

Options come before and after the name of a command. A short option may hold its value, and several
short options may share a dash. After `--` there are no options.

* `Arguments.scan?`: sorts arguments into options and names.
* `Arguments.read?`: what the arguments ask for.
-/

namespace LogStyle

/-- The commands. -/
inductive Command where
  | check (target : String) (options : CheckOptions)
  | listRules
  | init (force : Bool)
  deriving DecidableEq, Repr

/-- What the arguments ask for: a command with a configuration file that may be named, or only the
version. -/
inductive Request where
  | version
  | command (command : Command) (config : Option String) (verbose : Bool)
  deriving DecidableEq, Repr

namespace Arguments

/-- The options. -/
inductive Opt where
  | verbose
  | config
  | version
  | format
  | rules
  | exclude
  | sensitivePattern
  | fix
  | force
  deriving DecidableEq, Repr

namespace Opt

def long : Opt → String
  | verbose => "verbose"
  | config => "config"
  | version => "version"
  | format => "format"
  | rules => "rules"
  | exclude => "exclude"
  | sensitivePattern => "sensitive-pattern"
  | fix => "fix"
  | force => "force"

def short? : Opt → Option Char
  | verbose => some 'v'
  | config => some 'c'
  | version => some 'V'
  | format => some 'f'
  | exclude => some 'e'
  | _ => none

def takesValue : Opt → Bool
  | verbose => false
  | version => false
  | fix => false
  | force => false
  | _ => true

/-- Whether the option may be given more than once. -/
def isRepeatable : Opt → Bool
  | exclude => true
  | sensitivePattern => true
  | _ => false

/-- The options that are allowed with every command. -/
def everywhere : List Opt := [verbose, config]

end Opt

/-- An option with its value, which is empty for an option without one. -/
abbrev Given := Opt × String

/-- Arguments, sorted: the options and the names, and what follows the first name if only that was
looked for. -/
structure Scanned where
  given : List Given := []
  names : List String := []
  rest : List String := []
  deriving DecidableEq, Repr

/-- Whether an argument is neither an option nor the end of the options. -/
def isName (arg : String) : Bool := arg = "-" || arg.toList.head? ≠ some '-'

/-- The options that share a dash. The last one may take its value from the next argument. -/
def cluster? (allowed : List Opt) : List Char → Option (List Given × Option Opt)
  | [] => some ([], none)
  | c :: rest => do
    let opt ← allowed.find? (·.short? = some c)
    if opt.takesValue then
      match rest with
      | [] => some ([], some opt)
      | '=' :: value => some ([(opt, String.ofList value)], none)
      | value => some ([(opt, String.ofList value)], none)
    else do
      let (given, last) ← cluster? allowed rest
      some ((opt, "") :: given, last)

/-- A long option, which may hold its value. -/
def long? (allowed : List Opt) (text : String) : Option (List Given × Option Opt) := do
  let parts := Text.splitString '=' text
  let opt ← allowed.find? (·.long = parts.headD "")
  match parts.tail, opt.takesValue with
  | [], true => some ([], some opt)
  | [], false => some ([(opt, "")], none)
  | value, true => some ([(opt, Text.joinStrings '=' value)], none)
  | _, false => none

/-- The options of an argument that starts with a dash. -/
def options? (allowed : List Opt) (arg : String) : Option (List Given × Option Opt) :=
  if "--".toList <+: arg.toList then long? allowed (String.ofList (arg.toList.drop 2))
  else cluster? allowed (arg.toList.drop 1)

/-- Sorts arguments into options and names, up to the first name if only that is looked for, and no
further than an option that asks for the version. Fails on an option that is not allowed and on one
whose value is missing. -/
def scan? (allowed : List Opt) (firstName : Bool) : List String → Option Scanned
  | [] => some {}
  | arg :: rest =>
    if arg = "--" then if firstName && !rest.isEmpty then none else some { names := rest }
    else if isName arg then
      if firstName then some { names := [arg], rest := rest }
      else do
        let s ← scan? allowed firstName rest
        some { s with names := arg :: s.names }
    else
      match options? allowed arg with
      | none => none
      | some (given, none) =>
        if given.any (·.1 = .version) then some { given := given }
        else do
          let s ← scan? allowed firstName rest
          some { s with given := given ++ s.given }
      | some (given, some opt) =>
        match rest with
        | [] => none
        | value :: rest =>
          if isName value then do
            let s ← scan? allowed firstName rest
            some { s with given := given ++ (opt, value) :: s.given }
          else none

/-- The values of an option. -/
def values (given : List Given) (opt : Opt) : List String :=
  (given.filter (·.1 = opt)).map (·.2)

def value? (given : List Given) (opt : Opt) : Option String := (values given opt).head?

def has (given : List Given) (opt : Opt) : Bool := (value? given opt).isSome

/-- Whether no option is given too often and no path is empty. -/
def isValid (given : List Given) : Bool :=
  given.all (fun (opt, _) => opt.isRepeatable || (values given opt).length ≤ 1)
    && !(values given .config).contains ""

/-- The command of a name with its options and further names. -/
def command? (name : String) (args : List String) : Option (Command × List Given) := do
  let scan := fun (own : List Opt) => do
    let s ← scan? (own ++ Opt.everywhere) false args
    if isValid s.given then some s else none
  match name with
  | "check" =>
    let s ← scan [.format, .rules, .exclude, .sensitivePattern, .fix]
    let format ← match value? s.given .format with
      | none => some .text
      | some text => Report.Format.ofName? text
    let target ← match s.names with
      | [] => some "."
      | [path] => if path.isEmpty then none else some path
      | _ => none
    some (.check target {
      format := format
      rules := value? s.given .rules
      exclude := values s.given .exclude
      sensitivePatterns := values s.given .sensitivePattern
      fix := has s.given .fix }, s.given)
  | "list-rules" =>
    let s ← scan []
    if s.names.isEmpty then some (.listRules, s.given) else none
  | "init" =>
    let s ← scan [.force]
    if s.names.isEmpty then some (.init (has s.given .force), s.given) else none
  | _ => none

/-- What the arguments ask for, if they are understood. A configuration file that is named after the
command wins over one that is named before it. -/
def read? (args : List String) : Option Request := do
  let s ← scan? (.version :: Opt.everywhere) true args
  if !isValid s.given then none
  if has s.given .version then some .version
  else match s.names with
    | [name] => do
      let (command, given) ← command? name s.rest
      some (.command command ((value? given .config).or (value? s.given .config))
        (has s.given .verbose || has given .verbose))
    | _ => none

end Arguments

end LogStyle
