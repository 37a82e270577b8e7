import Dimming.Pattern.Basic

/-!
The shapes of logging calls, by programming language. They are lexical: strings and
comments are not told apart from code. Argument lists nest one level deep where the shape
says so. After the shapes of its own language every document is searched for the two
general ones.
-/

set_option autoImplicit false

namespace Dimming

inductive Dialect where
  | typescript
  | javascript
  | go
  | cpp
deriving DecidableEq

namespace Statement

open Pattern

/-- Any run of code points that are none of the given ones. -/
def runWithout (excluded : Text) : Pattern := .repeated (noneOf excluded)

def word : Pattern := oneOrMore wordPoint

/-- An opening and a closing parenthesis with none between them. -/
def flatGroup : Pattern := inOrder [literal "(", runWithout "()", literal ")"]

/-- Parenthesised arguments in which further parentheses may stand, but none inside these. -/
def nestedArguments : Pattern :=
  inOrder
    [literal "(", runWithout "()", .repeated (.sequence flatGroup (runWithout "()")), literal ")"]

/-- Everything from an opening parenthesis to the first closing one. -/
def plainArguments : Pattern := inOrder [literal "(", runWithout ")", literal ")"]

def optionalSemicolon : Pattern := optional (literal ";")

def link : Pattern := inOrder [literal ".", word, blanks, nestedArguments]

def chainOn (receiver : Text) : Pattern :=
  inOrder [wordBoundary, literal receiver, link, .repeated link, optionalSemicolon]

def console : Pattern :=
  inOrder
    [literal "console.", anyWord ["log", "warn", "error", "info", "debug", "trace"], blanks,
      plainArguments, optionalSemicolon]

def goLogger : Pattern := inOrder [literal "logger.", word, blanks, plainArguments]

/-- Arguments in which single code points and flat groups alternate freely. -/
def groupedArguments : Pattern :=
  inOrder [literal "(", .repeated (.choice (noneOf "()") flatGroup), literal ")"]

def goLogs : Pattern :=
  inOrder
    [word, literal ".Logs.", word, groupedArguments, runWithout ";", optionalSemicolon]

def stream : Pattern :=
  inOrder
    [anyWord ["cout", "cerr", "clog"], blanks, literal "<<", runWithout ";", optionalSemicolon]

def qualifiedStream : Pattern := .sequence (literal "std::") stream

def general : List Pattern := [chainOn "log", chainOn "Log"]

end Statement

namespace Dialect

open Statement

/-- The dialect of an editor's language; unknown ones count as the first. -/
def ofLanguage (language : Text) : Dialect :=
  if language = "typescript" ∨ language = "typescriptreact" then .typescript
  else if language = "javascript" ∨ language = "javascriptreact" then .javascript
  else if language = "go" then .go
  else if language = "cpp" ∨ language = "c++" then .cpp
  else .typescript

def name : Dialect → Text
  | .typescript => "typescript"
  | .javascript => "javascript"
  | .go => "go"
  | .cpp => "cpp"

def shapes : Dialect → List Pattern
  | .typescript => [console]
  | .javascript => [console]
  | .go => [goLogger, goLogs]
  | .cpp => [qualifiedStream, stream]

/-- Everything that is looked for in a document of the dialect, in order. -/
def searched (dialect : Dialect) : List Pattern := dialect.shapes ++ general

end Dialect

end Dimming
