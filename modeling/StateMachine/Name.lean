namespace StateMachine

/-- Values that have a name for messages and log records. -/
class Named (α : Type) where
  name : α → String

export Named (name)

end StateMachine
