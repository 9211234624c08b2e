import LogStyle.Typing

/-!
# Logging calls

Which functions log, and which of their arguments is the message. A call is a logging call by the
declared identity of the function it calls, never by a name alone.

* `LoggingApi.messageIndex?`: the place of the message among the arguments of a function.
* `LoggingApi.resolve?`: the message argument of a call.
-/

namespace LogStyle.LoggingApi

/-- The standard library's structured logger. -/
def slogPackage : String := "log/slog"

/-- The structured and sugared loggers of zap. -/
def zapPackage : String := "go.uber.org/zap"

def slogFunctions : List (String × Nat) := [
  ("Debug", 0), ("Info", 0), ("Warn", 0), ("Error", 0),
  ("DebugContext", 1), ("InfoContext", 1), ("WarnContext", 1), ("ErrorContext", 1),
  ("Log", 2), ("LogAttrs", 2)]

def zapFunctions : List (String × Nat) := [
  ("Debug", 0), ("Info", 0), ("Warn", 0), ("Error", 0), ("DPanic", 0), ("Panic", 0),
  ("Fatal", 0), ("Log", 1),
  -- with a format
  ("Debugf", 0), ("Infof", 0), ("Warnf", 0), ("Errorf", 0), ("DPanicf", 0), ("Panicf", 0),
  ("Fatalf", 0),
  -- with keys and values
  ("Debugw", 0), ("Infow", 0), ("Warnw", 0), ("Errorw", 0), ("DPanicw", 0), ("Panicw", 0),
  ("Fatalw", 0)]

/-- The logging functions of a package with the index of their message. -/
def functions (package : String) : List (String × Nat) :=
  if package = slogPackage then slogFunctions
  else if package = zapPackage then zapFunctions
  else []

/-- Which argument of a function or method is its log message. -/
def messageIndex? (package name : String) : Option Nat := (functions package).lookup name

/-- The function that a callee denotes: the member selected through a value, else what the name
refers to. -/
def calledFunction? (types : Resolver) (callee : Expr) : Option FunctionId :=
  let referent := match callee with
    | .select id _ _ field => (types.selection id).or (types.useOf field.id)
    | .ident id .. => types.useOf id
    | _ => none
  match referent with
  | some (.function f) => some f
  | _ => none

/-- Whether an expression, parentheses aside, is known to be a text. -/
def isText (types : Resolver) (e : Expr) : Bool :=
  (types.typeOf e.stripParens.id).any StaticType.isStringLike

/-- The message of a logging call. -/
structure MessageArgument where
  expr : Expr
  index : Nat

/-- The message argument of a call, if it is a logging call with enough arguments and the argument
is a text. -/
def resolve? (types : Resolver) : Expr → Option MessageArgument
  | .call _ _ callee args => do
    let f ← calledFunction? types callee
    let package ← f.package
    let index ← messageIndex? package f.name
    let expr ← args[index]?
    if isText types expr then some ⟨expr, index⟩ else none
  | _ => none

end LogStyle.LoggingApi
