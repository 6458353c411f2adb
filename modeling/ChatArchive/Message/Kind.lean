namespace ChatArchive.Message

inductive Kind where
  | system
  | assistant
  | user
  | action
  | functionCall
  deriving DecidableEq, Repr

namespace Kind

def all : List Kind := [.system, .assistant, .user, .action, .functionCall]

def tag : Kind → Int
  | .system => 0
  | .assistant => 1
  | .user => 2
  | .action => 3
  | .functionCall => 4

def ofTag? (tag : Int) : Option Kind := all.find? (·.tag == tag)

def name : Kind → String
  | .system => "System"
  | .assistant => "Assistant"
  | .user => "User"
  | .action => "Action"
  | .functionCall => "FunctionCall"

def key : Kind → String
  | .system => "system"
  | .assistant => "assistant"
  | .user => "user"
  | .action => "action"
  | .functionCall => "function_call"

end Kind

end ChatArchive.Message
