import CommandLink.Bson.Value

/-!
# What a command is called

A command is named by its first key. It may come wrapped, with the command
proper as a document under `$query`; the name and the body are then those of
the wrapped document. Commands that carry credentials are known by name.
-/

namespace CommandLink

namespace Document

/-- The key under which a command may be wrapped. -/
def wrapperKey : String := "$query"

/-- The command proper: the wrapped document, or the document itself when it
wraps none. -/
def unwrapped (document : Document) : Document :=
  ((document.get? wrapperKey).bind Bson.document?).getD document

/-- The name of a command. An empty command has none. -/
def name? (document : Document) : Option String :=
  document.unwrapped.keys.head?

end Document

/-- The commands whose payload and reply are credentials. -/
def sensitiveCommands : List String :=
  [ "authenticate", "saslStart", "saslContinue", "getnonce", "createUser", "updateUser",
    "copydbgetnonce", "copydbsaslstart", "copydb" ]

/-- Whether a command of this name carries credentials. -/
def isSensitive (name : String) : Bool := sensitiveCommands.contains name

end CommandLink
