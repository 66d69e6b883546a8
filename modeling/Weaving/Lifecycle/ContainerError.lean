import Weaving.Text.Split

namespace Weaving

/-- What can go wrong when beans are registered, created or configured. -/
inductive ContainerError where
  | beanNotFound (name : String)
  | beanAlreadyExists (name : String)
  | creationFailed (name cause : String)
  | circularDependency (name : String)
  | config (reason : String)
  deriving DecidableEq

namespace ContainerError

/-- The name of the kind of error. -/
def label : ContainerError → String
  | beanNotFound _ => "BeanNotFound"
  | beanAlreadyExists _ => "BeanAlreadyExists"
  | creationFailed _ _ => "BeanCreationFailed"
  | circularDependency _ => "CircularDependency"
  | config _ => "Config"

def message : ContainerError → String
  | beanNotFound name => "Bean not found: " ++ name
  | beanAlreadyExists name => "Bean already exists: " ++ name
  | creationFailed name cause => "Bean creation failed for '" ++ name ++ "': " ++ cause
  | circularDependency name =>
    "Circular dependency detected: Bean '" ++ name ++ "' is currently in creation"
  | config reason => "Configuration error: " ++ reason

/-- The message in short: a reason given by a configuration can go on for several lines, and
tell where a document is malformed. -/
def headline (e : ContainerError) : String :=
  match e with
  | config _ =>
    Text.firstLine (String.ofList (Text.upTo ": TOML parse error".toList e.message.toList))
  | _ => e.message

end ContainerError

end Weaving
