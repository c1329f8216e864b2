import PluginHost.Json.Basic

/-!
Members of objects with a value for the case that they are absent or of another type.
-/

set_option autoImplicit false

namespace PluginHost.Json

def member (v : Json) (key : String) : Json := (v.get? key).getD .null

def text? (v : Json) (key : String) : Option String := (v.get? key).bind string?

def textAt (v : Json) (key : String) : String := (v.text? key).getD ""

def intAt (v : Json) (key : String) (default : Int) : Int :=
  ((v.get? key).bind int64?).getD default

def natAt (v : Json) (key : String) (default : Nat) : Nat :=
  ((v.get? key).bind nat64?).getD default

def flagAt (v : Json) (key : String) : Bool := v.member key == .bool true

/-- The items of a list; other values have none. -/
def items (v : Json) : List Json := v.items?.getD []

def itemsAt (v : Json) (key : String) : List Json := (v.member key).items

def textsAt (v : Json) (key : String) : List String := (v.itemsAt key).filterMap string?

def fieldsAt (v : Json) (key : String) : Fields := ((v.get? key).bind fields?).getD []

/-- The text of a string; other values have an empty one. -/
def textOrEmpty (v : Json) : String := v.string?.getD ""

end PluginHost.Json
