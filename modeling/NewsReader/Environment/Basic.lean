/-!
# Environments

The environment of a program gives values to variables. A variable without a value can be defined;
one that has a value keeps it.
-/

namespace NewsReader

/-- Looks up the value of a variable. -/
abbrev Environment :=
  String → Option String

namespace Environment

/-- The environment in which the pairs are the variables and their values. -/
def ofPairs (pairs : List (String × String)) : Environment :=
  fun name => pairs.lookup name

/-- Give a variable a value unless it has one. -/
def define (env : Environment) (name value : String) : Environment :=
  fun other => if other = name then (env name).or (some value) else env other

end Environment

end NewsReader
