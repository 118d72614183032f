import SkillNode.Text.Letter

/-!
# Generator options

Settings of a generation run: a class name to use instead of the derived one,
and the numbers of the startup procedure. Settings are checked in a fixed
order, and the first that does not hold is reported. A number of any size passes
the check, though not every number can be printed.
-/

namespace SkillNode
namespace Generation

/-- Settings of a generation run. -/
structure Options where
  className? : Option Text := none
  serviceWaitTimeoutMs : Int := 1000
  serviceMaxRetries : Int := 10
  subscriptionQueueSize : Int := 10
  deriving DecidableEq, Repr

/-- Why settings are refused. -/
inductive OptionFault
  | classNameForm (name : Text)
  | timeoutNotPositive
  | noRetries
  | emptyQueue
  deriving DecidableEq, Repr

/-- What is said of refused settings. -/
def OptionFault.message : OptionFault → Text
  | .classNameForm name => "class name '" ++ name ++ "' is not a C++ identifier"
  | .timeoutNotPositive => "service wait timeout must be positive"
  | .noRetries => "service retry count must be at least 1"
  | .emptyQueue => "subscription queue size must be at least 1"

namespace Options

/-- The class name that has not the form of an identifier, if one is given. -/
def badClassName? (options : Options) : Option Text :=
  options.className?.filter (! Text.isCIdentifier ·)

/-- The first reason to refuse settings. -/
def fault? (options : Options) : Option OptionFault :=
  match options.badClassName? with
  | some name => some (.classNameForm name)
  | none =>
      if options.serviceWaitTimeoutMs ≤ 0 then
        some .timeoutNotPositive
      else if options.serviceMaxRetries < 1 then
        some .noRetries
      else if options.subscriptionQueueSize < 1 then
        some .emptyQueue
      else
        none

/-- Whether the numbers among settings can be printed. Settings are not checked for it. -/
def isPrintable (options : Options) : Bool :=
  Text.isPrintable options.serviceWaitTimeoutMs && Text.isPrintable options.serviceMaxRetries &&
    Text.isPrintable options.subscriptionQueueSize

/-- The numbers that are used if no others are given can be printed. -/
theorem isPrintable_default : ({} : Options).isPrintable = true := by decide +kernel

end Options

end Generation
end SkillNode
