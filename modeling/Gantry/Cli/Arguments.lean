/-
  This file reads the arguments of the command line: the path
  of a script, options with paths of other files, and a flag.

  Key definitions include:
    * `Gantry.Cli.Arguments`
    * `Gantry.Cli.Arguments.ofList?`
-/

------------------------------------------------------------
-- Arguments
------------------------------------------------------------

namespace Gantry

namespace Cli

/- The paths that were given, and the flag. -/
structure Arguments where
  script? : Option String := none
  stdin? : Option String := none
  level? : Option String := none
  config? : Option String := none
  json : Bool := false
deriving DecidableEq, Repr

/- How the command line is used. -/
def usage : String :=
  "Usage: crane-run [--level <LEVEL>] [--stdin <STDIN>] " ++
    "[--config <CONFIG>] [--json] <SCRIPT>"

namespace Arguments

/- Take a value that is given for the first time. -/
def once
    (old : Option String)
    (new : String) : Option (Option String) :=
  match old with
  | none => some (some new)
  | some _ => none

/- Take the path that follows an option. -/
def setPath
    (arguments : Arguments)
    (name path : String) : Option Arguments :=
  match name with
  | "-l" | "--level" =>
      (once arguments.level? path).map
        ({ arguments with level? := · })
  | "-c" | "--config" =>
      (once arguments.config? path).map
        ({ arguments with config? := · })
  | "--stdin" =>
      (once arguments.stdin? path).map
        ({ arguments with stdin? := · })
  | _ => none

/- Take the path of the script. -/
def setScript
    (arguments : Arguments)
    (path : String) : Option Arguments :=
  (once arguments.script? path).map
    ({ arguments with script? := · })

/- Take the flag. -/
def setJson
    (arguments : Arguments) : Option Arguments :=
  if arguments.json then
    none
  else
    some { arguments with json := true }

/- An option with its path behind an equals sign. -/
def splitOption
    (word : String) : String × Option String :=
  let cs := word.toList
  let name := String.ofList (cs.takeWhile (· != '='))
  match cs.dropWhile (· != '=') with
  | [] => (name, none)
  | _ :: path => (name, some (String.ofList path))

/- A word that is an option and not a path. -/
def isOption
    (word : String) : Bool :=
  word.toList.head? == some '-' && word != "-"

/-
  Read words one by one. Behind two dashes there are paths
  only.
-/
def read? :
    Arguments → List String → Option Arguments
| arguments, [] => some arguments
| arguments, "--json" :: rest => do
    (← arguments.setJson).read? rest
| arguments, "--" :: rest =>
    rest.foldlM setScript arguments
| arguments, word :: rest =>
    if isOption word then
      match splitOption word, rest with
      | (name, some path), rest => do
          (← arguments.setPath name path).read? rest
      | (name, none), path :: rest => do
          (← arguments.setPath name path).read? rest
      | (_, none), [] => none
    else do
      (← arguments.setScript word).read? rest

/- Read all words. The script has to be among them. -/
def ofList?
    (words : List String) : Option (String × Arguments) := do
  let arguments ← ({} : Arguments).read? words
  let script ← arguments.script?
  return (script, arguments)

end Arguments

end Cli

end Gantry
