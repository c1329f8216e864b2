import PluginHost.Json.Decode
import PluginHost.Json.Read

/-!
Messages of a session: JSON lists on lines of their own. A request carries a number that its
response repeats; a notification has none.
-/

set_option autoImplicit false

namespace PluginHost

inductive Message where
  | request (id : Nat) (method : String) (args : List Json)
  | response (id : Nat) (error result : Json)
  | notification (method : String) (args : List Json)
deriving DecidableEq

inductive MessageError where
  /-- The line is no JSON list; the reason says why. -/
  | notList (reason : String)
  | unknownShape (line : String)
  | invalidId (v : Json)
  | invalidMethod (v : Json)
  | invalidArguments (v : Json)
deriving DecidableEq

def MessageError.message : MessageError → String
  | .notList reason => s!"not a message array: {reason}"
  | .unknownShape line => s!"unknown message shape: {line}"
  | .invalidId v => s!"invalid message id {v.render}"
  | .invalidMethod v => s!"invalid method name {v.render}"
  | .invalidArguments v => s!"arguments must be a list, got {v.render}"

namespace Message

def idOf (v : Json) : Except MessageError Nat :=
  match v.nat64? with
  | some n => .ok n
  | none => .error (.invalidId v)

def methodOf : Json → Except MessageError String
  | .string s => .ok s
  | v => .error (.invalidMethod v)

/-- No arguments may be written as null. -/
def argumentsOf : Json → Except MessageError (List Json)
  | .array args => .ok args
  | .null => .ok []
  | v => .error (.invalidArguments v)

/-- The message with the given parts. The first part says which kind it is. -/
def ofParts (line : String) (parts : List Json) : Except MessageError Message :=
  match (parts.head?.bind Json.nat64?), parts with
  | some 0, [_, id, method, args] => do
    return .request (← idOf id) (← methodOf method) (← argumentsOf args)
  | some 1, [_, id, error, result] => do return .response (← idOf id) error result
  | some 2, [_, method, args] => do return .notification (← methodOf method) (← argumentsOf args)
  | _, _ => .error (.unknownShape line)

def parse (line : String) : Except MessageError Message :=
  match Json.parse line with
  | .ok (.array parts) => ofParts line parts
  | .ok v => .error (.notList (DecodeError.invalidType v "a sequence").message)
  | .error reason => .error (.notList reason)

def toJson : Message → Json
  | .request id method args => .array [.nat 0, .nat id, .string method, .array args]
  | .response id error result => .array [.nat 1, .nat id, error, result]
  | .notification method args => .array [.nat 2, .string method, .array args]

/-- The line without its end. -/
def text (m : Message) : String := m.toJson.render

/-- The line as it is written. -/
def encode (m : Message) : String := m.text ++ "\n"

end Message

end PluginHost
