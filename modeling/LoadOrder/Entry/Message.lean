import LoadOrder.Entry

/-!
# Messages

What a reader of the results is told about a plugin.
-/

namespace LoadOrder

/-- How serious a message is. -/
inductive Severity where
  | note
  | warning
  | error
deriving Repr, DecidableEq

def Severity.word : Severity → String
  | note => "note"
  | warning => "warning"
  | error => "error"

/-- A text with its severity, for readers of one language or of all. -/
structure Message where
  severity : Severity
  text : String
  language : Option String := none
deriving Repr, DecidableEq

/-- The entry that reports an error, always and in every language. -/
def Message.failure (text : String) : Entry Message :=
  .always { severity := .error, text }

/-- Whether readers of the language see the message. -/
def Message.isFor (message : Message) (language : String) : Bool :=
  message.language.all (Name.agree · language)

end LoadOrder
