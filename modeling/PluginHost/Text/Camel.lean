import PluginHost.Text.Blank
import PluginHost.Text.Case

/-!
Names in camel case: every word of a name, words being set off by `_`, `-` or a space, starts with
a capital.
-/

set_option autoImplicit false

namespace PluginHost.Text

def isJoint (c : Char) : Bool := c == '_' || c == '-' || c == ' '

def capitalize : List Char → List Char
  | [] => []
  | c :: rest => upper c ++ rest

def camelcase (name : String) : String :=
  String.ofList ((splitOn isJoint name.toList).flatMap capitalize)

end PluginHost.Text
