import NextWord.Path.Split
import NextWord.Value.Json

/-!
# The environment of a predicate

The state of a command line is flat: paths with the text of their values. The environment is the
nested object that the entries build, one after the other, so later entries win; known entries come
before supplied ones. Elements of arrays stand under their indices. A value that is text is read as
JSON where it is JSON, and stands for itself otherwise.

Values are trees: each entry has a value of its own, and what a later entry assigns inside it shows
nowhere else. Objects that several entries of a state share are not modelled.
-/

namespace NextWord

abbrev Environment := Table Key Value

namespace Environment

def decode : Value → Value
  | .str text => (Json.read? text.toList).getD (.str text)
  | raw => raw

/-- Puts a value at the end of a chain of keys, making objects where there are none. -/
def assign (value : Value) : List Key → Environment → Environment
  | [], env => env
  | [key], env => env.put key value
  | key :: keys, env =>
    let inner : Environment :=
      match env.find? key with
      | some (.dict entries) => entries
      | _ => []
    env.put key (.dict (assign value keys inner))

/-- Takes one entry into the environment; a path without keys leaves it as it is. -/
def insert (env : Environment) (entry : String × Value) : Environment :=
  assign (decode entry.2) (Path.split entry.1) env

def build (known supplied : Entries) : Environment :=
  (known ++ supplied).foldl insert []

/-- What stands at the end of a chain of keys, objects being the only thing that is entered. -/
def read? : List Key → Environment → Option Value
  | [], env => some (.dict env)
  | [key], env => env.find? key
  | key :: keys, env =>
    match env.find? key with
    | some (.dict entries) => read? keys entries
    | _ => none

end Environment
end NextWord
