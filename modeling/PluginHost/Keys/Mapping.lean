import PluginHost.Keys.Press
import PluginHost.Text.Camel
import PluginHost.Json.Basic

/-!
Key mappings. The editor maps the keys to a call of the plugin's function `Mapping` with the id of
the activation and the keys as they were declared.
-/

set_option autoImplicit false

namespace PluginHost

structure Mapping where
  ident : String
  keys : String
  modes : List String
  buffer : Bool
deriving DecidableEq, Repr

namespace Mapping

/-- A mapping in normal mode. -/
def ofKeys (ident keys : String) : Mapping := ⟨ident, normalizeKeys keys, ["n"], false⟩

/-- How a character stands inside a quoted argument of a mapped command. -/
def escape (c : Char) : List Char :=
  if c = '<' then ['<', 'l', 't', '>'] else if c = '\'' then ['\'', '\''] else [c]

def literal (keys : String) : String := String.ofList (keys.toList.flatMap escape)

/-- The command that defines the mapping in one mode. -/
def definition (m : Mapping) (plugin id mode : String) : String :=
  let buffer := if m.buffer then "<buffer> " else ""
  let call := Text.camelcase plugin ++ "Mapping('" ++ id ++ "', '" ++ literal m.keys ++ "')<cr>"
  mode ++ "noremap " ++ buffer ++ "<silent> " ++ m.keys ++ " :call " ++ call

def definitions (m : Mapping) (plugin id : String) : List String :=
  m.modes.map (m.definition plugin id)

def describe (m : Mapping) : String := s!"{m.ident} ({m.keys})"

def toJson (m : Mapping) : Json :=
  .object [("buffer", .bool m.buffer), ("ident", .string m.ident), ("keys", .string m.keys),
    ("modes", .strings m.modes)]

end Mapping

end PluginHost
