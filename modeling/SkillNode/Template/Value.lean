import SkillNode.Text.Quoted

/-!
# Template values

What a placeholder can stand for: texts, numbers, truth values, lists and
records, objects of a named type, symbols of an enumeration, the methods of all
these, and the state of the loop around. Every value has a printed form, which
exists as long as no number in it has too many digits, and a truth; some can be
gone through, counted, or asked for a part.

A value that is asked for a part it lacks yields nothing; what that means is up
to whoever asks. A part named after a dot is looked for among the members of the
type first and an item in brackets among the entries first, so that a record
with the key `items` gives its method after a dot and its entry in brackets.
-/

namespace SkillNode
namespace Template

/-- What a template asks for in vain. -/
inductive Missing
  /-- A name that no value was given to. -/
  | name (name : Text)
  /-- A part that a value lacks, by its name. -/
  | part (name : Text)
  /-- An item that a value lacks: what the value is called, and the index as it is printed. -/
  | item (kind index : Text)
  /-- An item that a value lacks, at an index that cannot be printed. -/
  | longItem
  deriving DecidableEq, Repr

/-- What is said to be missing. -/
def Missing.placeholder : Missing → Text
  | .name lacking | .part lacking => lacking
  | .item kind index => kind ++ " has no element " ++ index
  | .longItem => []

/-- Why the evaluation of a template fails. -/
inductive Fault
  /-- What was asked for is missing, on a line of the template. -/
  | unresolved (line : Nat) (lacking : Missing)
  /-- An operation met a value of a kind it does not work on. -/
  | wrongKind
  /-- Text was to be escaped, but another value was met. -/
  | notText
  /-- A filter or test in a conditional part does not exist. -/
  | unknownOperation
  /-- A number has too many digits to be printed. -/
  | longNumber
  deriving DecidableEq, Repr

/-- The fault of using something that is missing on a line. It tells what is missing, which cannot
be done if a number of too many digits has to be printed for it. -/
def Missing.fault (line : Nat) : Missing → Fault
  | .longItem => .longNumber
  | lacking => .unresolved line lacking

/-- The value of a template expression. -/
inductive Value
  | null
  | bool (value : Bool)
  | int (value : Int)
  | text (value : Text)
  | list (items : List Value)
  /-- A list that cannot be changed. -/
  | tuple (items : List Value)
  | record (entries : List (Text × Value))
  /-- A record that cannot be changed. -/
  | view (entries : List (Text × Value))
  /-- An object with the fields that its printed form shows and with derived ones. -/
  | object (typeName : Text) (fields derived : List (Text × Value))
  /-- A member of an enumeration with its value and derived parts. -/
  | symbol (typeName member value : Text) (derived : List (Text × Value))
  /-- A method of a value. -/
  | method (owner : Value) (name : Text)
  /-- The loop around: the index of its item, whether that is the last one, and the
  number of items. -/
  | loop (index : Nat) (isLast : Except Fault Bool) (length : Except Fault Nat)

namespace Value

/-- The items between separators. -/
def commaJoin (items : List Text) : Text := Text.join ", " items

/-- The printed form of a truth value. -/
def boolText (value : Bool) : Text := if value then "True" else "False"

/-- What a value is called where it lacks an item. -/
def kindName : Value → Text
  | .null => "None"
  | .bool _ => "bool object"
  | .int _ => "int object"
  | .text _ => "str object"
  | .list _ => "list object"
  | .tuple _ => "tuple object"
  | .record _ => "dict object"
  | .view _ => "mappingproxy object"
  | .object typeName _ _ => typeName ++ " object"
  | .symbol typeName _ _ _ => typeName ++ " object"
  | .method .. => "builtin_function_or_method object"
  | .loop .. => "loop object"

mutual

/-- The form of a value inside the printed form of another. A method is printed without the
address of its owner. -/
def literal : Value → Text
  | .null => "None"
  | .bool value => boolText value
  | .int value => Text.ofInt value
  | .text value => Text.quoted value
  | .list items => '[' :: commaJoin (literals items) ++ "]"
  | .tuple [item] => '(' :: item.literal ++ ",)"
  | .tuple items => '(' :: commaJoin (literals items) ++ ")"
  | .record entries => '\x7b' :: commaJoin (entryLiterals entries) ++ "\x7d"
  | .view entries => "mappingproxy(\x7b" ++ commaJoin (entryLiterals entries) ++ "\x7d)"
  | .object typeName fields _ => typeName ++ "(" ++ commaJoin (fieldLiterals fields) ++ ")"
  | .symbol typeName member value _ =>
      "<" ++ typeName ++ "." ++ member ++ ": " ++ Text.quoted value ++ ">"
  | .method owner name => "<built-in method " ++ name ++ " of " ++ owner.kindName ++ ">"
  | .loop index _ _ => "<loop " ++ Text.ofNat (index + 1) ++ ">"

/-- The forms of items. -/
def literals : List Value → List Text
  | [] => []
  | item :: rest => item.literal :: literals rest

/-- The forms of the entries of a record. -/
def entryLiterals : List (Text × Value) → List Text
  | [] => []
  | (name, value) :: rest => (Text.quoted name ++ ": " ++ value.literal) :: entryLiterals rest

/-- The forms of the fields of an object. -/
def fieldLiterals : List (Text × Value) → List Text
  | [] => []
  | (name, value) :: rest => (name ++ "=" ++ value.literal) :: fieldLiterals rest

end

/-- The characters of the printed form of a value. -/
def display : Value → Text
  | .text value => value
  | .symbol typeName member _ _ => typeName ++ "." ++ member
  | value => value.literal

mutual

/-- Whether no number in the printed form of a value has too many digits. -/
def isPrintable : Value → Bool
  | .int value => Text.isPrintable value
  | .list items | .tuple items => arePrintable items
  | .record entries | .view entries => entriesArePrintable entries
  | .object _ fields _ => entriesArePrintable fields
  | .null | .bool _ | .text _ | .symbol .. | .method .. | .loop .. => true

/-- Whether all of some items can be printed. -/
def arePrintable : List Value → Bool
  | [] => true
  | item :: rest => item.isPrintable && arePrintable rest

/-- Whether the values of all of some entries can be printed. -/
def entriesArePrintable : List (Text × Value) → Bool
  | [] => true
  | (_, value) :: rest => value.isPrintable && entriesArePrintable rest

end

/-- The printed form of a value, if no number in it has too many digits. -/
def shown (value : Value) : Except Fault Text :=
  if value.isPrintable then .ok value.display else .error .longNumber

/-- Whether a value counts as true. -/
def truth : Value → Bool
  | .null => false
  | .bool value => value
  | .int value => value ≠ 0
  | .text value => !value.isEmpty
  | .list items | .tuple items => !items.isEmpty
  | .record entries | .view entries => !entries.isEmpty
  | .object .. | .symbol .. | .method .. | .loop .. => true

/-- The values that a loop over a value goes through: the items of a list, the
characters of a text, the names of a record. -/
def items? : Value → Option (List Value)
  | .list items | .tuple items => some items
  | .text value => some (value.map fun c => .text [c])
  | .record entries | .view entries => some (entries.map fun entry => .text entry.1)
  | _ => none

/-- The value of a name among entries. -/
def entry? (entries : List (Text × Value)) (name : Text) : Option Value :=
  (entries.find? (·.1 = name)).map (·.2)

/-- The named parts of a symbol. -/
def parts (member value : Text) (derived : List (Text × Value)) : List (Text × Value) :=
  ("name", .text member) :: ("value", .text value) :: derived

/-- The item at an index, counted from the end if the index is negative. -/
def itemAt? {α : Type} (items : List α) (index : Int) : Option α :=
  let place := if index < 0 then index + items.length else index
  if place < 0 then none else items[place.toNat]?

/-- The number that a value stands for as an index. -/
def index? : Value → Option Int
  | .int value => some value
  | .bool value => some (if value then 1 else 0)
  | _ => none

/-! ### Members of types -/

/-- The methods of a text. -/
def textMethods : List Text :=
  ["capitalize", "casefold", "center", "count", "encode", "endswith", "expandtabs", "find",
    "format", "format_map", "index", "isalnum", "isalpha", "isascii", "isdecimal", "isdigit",
    "isidentifier", "islower", "isnumeric", "isprintable", "isspace", "istitle", "isupper",
    "join", "ljust", "lower", "lstrip", "maketrans", "partition", "removeprefix",
    "removesuffix", "replace", "rfind", "rindex", "rjust", "rpartition", "rsplit", "rstrip",
    "split", "splitlines", "startswith", "strip", "swapcase", "title", "translate", "upper",
    "zfill"].map String.toList

/-- The methods of a number. -/
def numberMethods : List Text :=
  ["as_integer_ratio", "bit_count", "bit_length", "conjugate", "from_bytes", "to_bytes"]

/-- The methods of a list that cannot be changed. -/
def tupleMethods : List Text := ["count", "index"]

/-- The methods of a list. -/
def listMethods : List Text :=
  ["append", "clear", "copy", "count", "extend", "index", "insert", "pop", "remove", "reverse",
    "sort"]

/-- The methods of a record that cannot be changed. -/
def viewMethods : List Text := ["copy", "get", "items", "keys", "values"]

/-- The methods of a record. -/
def recordMethods : List Text :=
  ["clear", "copy", "fromkeys", "get", "items", "keys", "pop", "popitem", "setdefault", "update",
    "values"]

/-- The names of the methods of a value. An object, a symbol and a method have none but those
of every object, whose names begin with underscores. -/
def methodNames : Value → List Text
  | .text _ => textMethods
  | .bool _ | .int _ => numberMethods
  | .list _ => listMethods
  | .tuple _ => tupleMethods
  | .record _ => recordMethods
  | .view _ => viewMethods
  | .null | .object .. | .symbol .. | .method .. | .loop .. => []

/-- A part of a number, as every number has it. -/
def numberPart? (number : Int) (name : Text) : Option Value :=
  if name = "real" || name = "numerator" then some (.int number)
  else if name = "imag" then some (.int 0)
  else if name = "denominator" then some (.int 1)
  else none

/-- What the type of a value gives under a name: a method, or a part of a number. -/
def member? (value : Value) (name : Text) : Option Value :=
  if value.methodNames.contains name then
    some (.method value name)
  else
    value.index?.bind (numberPart? · name)

/-- The item of a value at an index or under a name. An entry of a record comes before a member
of its type. -/
def item? (value index : Value) : Option Value :=
  match value, index with
  | .record entries, .text name | .view entries, .text name =>
      (Value.entry? entries name).or (value.member? name)
  | .object _ fields derived, .text name => entry? (fields ++ derived) name
  | .symbol _ member value derived, .text name => entry? (parts member value derived) name
  | value, .text name => value.member? name
  | .list items, index | .tuple items, index => index.index?.bind (itemAt? items)
  | .text value, index =>
      (index.index?.bind (itemAt? value)).map fun c => .text [c]
  | _, _ => none

/-- What a value lacks that has no item at an index. -/
def missingItem (value index : Value) : Missing :=
  match index with
  | .text name => .part name
  | index => if index.isPrintable then .item value.kindName index.literal else .longItem

/-! ## Equality -/

/-- The number that a value counts as. -/
def number? : Value → Option Int := index?

mutual

/-- Whether two values are equal. Truth values equal the numbers they count as,
and the order of a record does not matter. -/
def same : Value → Value → Bool
  | .null, .null => true
  | .bool left, right => right.number? = some (if left then 1 else 0)
  | .int left, right => right.number? = some left
  | .text left, .text right => left = right
  | .list left, .list right | .tuple left, .tuple right => sameItems left right
  | .record left, .record right | .record left, .view right
  | .view left, .record right | .view left, .view right =>
      left.length = right.length && sameEntries left right
  | .object leftName left _, .object rightName right _ =>
      leftName = rightName && left.length = right.length && sameEntries left right
  | .symbol leftName leftMember _ _, .symbol rightName rightMember _ _ =>
      leftName = rightName && leftMember = rightMember
  | .method left leftName, .method right rightName => leftName = rightName && left.same right
  | _, _ => false

/-- Whether two lists have equal items. -/
def sameItems : List Value → List Value → Bool
  | [], [] => true
  | left :: lefts, right :: rights => left.same right && sameItems lefts rights
  | _, _ => false

/-- Whether every entry of one record is in another. -/
def sameEntries : List (Text × Value) → List (Text × Value) → Bool
  | [], _ => true
  | (name, left) :: lefts, rights =>
      (match entry? rights name with
      | some right => left.same right
      | none => false) && sameEntries lefts rights

end

end Value
end Template
end SkillNode
