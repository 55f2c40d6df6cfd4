/-!
# Built-in type keywords

C# names eighteen types of the namespace `System` by keywords. The table is read both ways: a
keyword written in a signature stands for its type, and a type may be printed by its keyword. A
nullable value type is a type of its own while a nullable reference type is not, so the module
also says which framework types are value types.
-/

set_option autoImplicit false

namespace HubRelay.Keyword

/-- The namespace of every type that has a keyword. -/
def systemNamespace : String := "System"

/-- Each keyword with the name of the `System` type it stands for. -/
def table : List (String × String) :=
  [("bool", "Boolean"), ("byte", "Byte"), ("sbyte", "SByte"), ("short", "Int16"),
    ("ushort", "UInt16"), ("char", "Char"), ("int", "Int32"), ("uint", "UInt32"),
    ("long", "Int64"), ("ulong", "UInt64"), ("nint", "IntPtr"), ("nuint", "UIntPtr"),
    ("float", "Single"), ("double", "Double"), ("decimal", "Decimal"), ("string", "String"),
    ("object", "Object"), ("void", "Void")]

/-- The name of the `System` type that a keyword stands for. -/
def typeName? (keyword : String) : Option String := table.lookup keyword

/-- The keyword for a type, if it has one. Only types of `System` have. -/
def ofType? (container name : String) : Option String :=
  if container = systemNamespace then (table.find? (·.2 == name)).map (·.1) else none

/-- Whether a word is a type keyword. -/
def isKeyword (word : String) : Bool := (typeName? word).isSome

/-- Whether a word is the keyword of a value type. -/
def isValueKeyword (word : String) : Bool :=
  isKeyword word && word != "string" && word != "object" && word != "void"

/-- Framework value types that have no keyword, as namespace and name. Generic ones are listed by
name alone. -/
def otherStructs : List (String × String) :=
  [("System", "DateTime"), ("System", "DateTimeOffset"), ("System", "DateOnly"),
    ("System", "TimeOnly"), ("System", "TimeSpan"), ("System", "Guid"), ("System", "Half"),
    ("System", "Int128"), ("System", "UInt128"), ("System", "Index"), ("System", "Range"),
    ("System", "ValueTuple"), ("System.Numerics", "BigInteger"),
    ("System.Collections.Generic", "KeyValuePair")]

/-- Whether a name is that of a framework value type, with or without a keyword. -/
def isFrameworkStruct (container name : String) : Bool :=
  (ofType? container name).any isValueKeyword || otherStructs.contains (container, name)

/-- The two readings of the table agree: a keyword's type has that keyword. -/
theorem ofType?_typeName? :
    ∀ entry ∈ table, typeName? entry.1 = some entry.2 ∧
      ofType? systemNamespace entry.2 = some entry.1 := by
  decide

end HubRelay.Keyword
