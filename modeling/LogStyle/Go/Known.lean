import LogStyle.LoggingApi

/-!
# Results of well-known functions

Only functions that give loggers or texts are listed. The results of any other function of another
package are not known.
-/

namespace LogStyle.Go.Known

open LoggingApi

/-- A type declared in another package. What it stands for is not known. -/
def external (package name : String) : StaticType := .named package name (.other "")

def zapLogger : StaticType := .pointer (external zapPackage "Logger")

def zapSugared : StaticType := .pointer (external zapPackage "SugaredLogger")

def zapConfig : StaticType := external zapPackage "Config"

def slogLogger : StaticType := .pointer (external slogPackage "Logger")

def error : StaticType := .other "error"

/-- Functions of packages with their results. -/
def functions : List ((String × String) × List StaticType) := [
  ((zapPackage, "NewNop"), [zapLogger]),
  ((zapPackage, "NewProduction"), [zapLogger, error]),
  ((zapPackage, "NewDevelopment"), [zapLogger, error]),
  ((zapPackage, "NewExample"), [zapLogger]),
  ((zapPackage, "New"), [zapLogger]),
  ((zapPackage, "L"), [zapLogger]),
  ((zapPackage, "Must"), [zapLogger]),
  ((zapPackage, "S"), [zapSugared]),
  ((zapPackage, "NewProductionConfig"), [zapConfig]),
  ((zapPackage, "NewDevelopmentConfig"), [zapConfig]),
  ((slogPackage, "Default"), [slogLogger]),
  ((slogPackage, "New"), [slogLogger]),
  (("fmt", "Sprint"), [.string]),
  (("fmt", "Sprintf"), [.string]),
  (("fmt", "Sprintln"), [.string]),
  (("strings", "Join"), [.string]),
  (("strings", "Repeat"), [.string]),
  (("strings", "ReplaceAll"), [.string]),
  (("strings", "ToLower"), [.string]),
  (("strings", "ToUpper"), [.string]),
  (("strings", "TrimSpace"), [.string]),
  (("strconv", "Itoa"), [.string]),
  (("strconv", "Quote"), [.string])]

/-- Methods, by package, receiver and name, with their results. -/
def methods : List ((String × String × String) × List StaticType) := [
  ((zapPackage, "Logger", "Sugar"), [zapSugared]),
  ((zapPackage, "Logger", "With"), [zapLogger]),
  ((zapPackage, "Logger", "Named"), [zapLogger]),
  ((zapPackage, "Logger", "WithOptions"), [zapLogger]),
  ((zapPackage, "Logger", "WithLazy"), [zapLogger]),
  ((zapPackage, "SugaredLogger", "Desugar"), [zapLogger]),
  ((zapPackage, "SugaredLogger", "With"), [zapSugared]),
  ((zapPackage, "SugaredLogger", "Named"), [zapSugared]),
  ((zapPackage, "SugaredLogger", "WithOptions"), [zapSugared]),
  ((zapPackage, "SugaredLogger", "WithLazy"), [zapSugared]),
  ((zapPackage, "Config", "Build"), [zapLogger, error]),
  ((slogPackage, "Logger", "With"), [slogLogger]),
  ((slogPackage, "Logger", "WithGroup"), [slogLogger])]

def functionResults? (package name : String) : Option (List StaticType) :=
  functions.lookup (package, name)

def methodResults? (package receiver name : String) : Option (List StaticType) :=
  methods.lookup (package, receiver, name)

end LogStyle.Go.Known
