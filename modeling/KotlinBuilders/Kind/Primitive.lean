/-!
# Primitive types

Kotlin's primitive types, with `String` counted among them because it too has a
value to start from; the unsigned integers; and the arrays of primitives that
are types of their own.  A host spells a primitive by the keyword of the virtual
machine, by the name of its box or by its Kotlin name.
-/

namespace KotlinBuilders

/-- The primitive types and `String`. -/
inductive Primitive where
  | boolean
  | byte
  | short
  | int
  | long
  | char
  | float
  | double
  | string
  deriving DecidableEq, Repr

/-- The unsigned integers. -/
inductive Unsigned where
  | uByte
  | uShort
  | uInt
  | uLong
  deriving DecidableEq, Repr

/-- The arrays of primitives that are types of their own. -/
inductive PrimitiveArray where
  | booleanArray
  | byteArray
  | charArray
  | shortArray
  | intArray
  | longArray
  | floatArray
  | doubleArray
  | uByteArray
  | uShortArray
  | uIntArray
  | uLongArray
  deriving DecidableEq, Repr

namespace Unsigned

/-- The name of the type. -/
def name : Unsigned → String
  | uByte => "UByte"
  | uShort => "UShort"
  | uInt => "UInt"
  | uLong => "ULong"

/-- The literal for zero. -/
def zero : Unsigned → String
  | uLong => "0uL"
  | _ => "0u"

/-- The array of the type. -/
def array : Unsigned → PrimitiveArray
  | uByte => .uByteArray
  | uShort => .uShortArray
  | uInt => .uIntArray
  | uLong => .uLongArray

end Unsigned

/-- The name of an array of primitives. -/
def PrimitiveArray.name : PrimitiveArray → String
  | booleanArray => "BooleanArray"
  | byteArray => "ByteArray"
  | charArray => "CharArray"
  | shortArray => "ShortArray"
  | intArray => "IntArray"
  | longArray => "LongArray"
  | floatArray => "FloatArray"
  | doubleArray => "DoubleArray"
  | uByteArray => "UByteArray"
  | uShortArray => "UShortArray"
  | uIntArray => "UIntArray"
  | uLongArray => "ULongArray"

namespace Primitive

/-- Every primitive type. -/
def all : List Primitive :=
  [boolean, byte, short, int, long, char, float, double, string]

/-- The Kotlin name of the type. -/
def name : Primitive → String
  | boolean => "Boolean"
  | byte => "Byte"
  | short => "Short"
  | int => "Int"
  | long => "Long"
  | char => "Char"
  | float => "Float"
  | double => "Double"
  | string => "String"

/-- The literal that a slot of the type starts from. -/
def zero : Primitive → String
  | boolean => "false"
  | byte | short | int => "0"
  | long => "0L"
  | char => "' '"
  | float => "0f"
  | double => "0.0"
  | string => "\"\""

/-- The unsigned form of an integer type. -/
def unsigned? : Primitive → Option Unsigned
  | byte => some .uByte
  | short => some .uShort
  | int => some .uInt
  | long => some .uLong
  | _ => none

/-- The array of the type, where it is a type of its own. -/
def array? : Primitive → Option PrimitiveArray
  | boolean => some .booleanArray
  | byte => some .byteArray
  | short => some .shortArray
  | int => some .intArray
  | long => some .longArray
  | char => some .charArray
  | float => some .floatArray
  | double => some .doubleArray
  | string => none

/-- The keyword of the virtual machine for the type. -/
def keyword? : Primitive → Option String
  | boolean => some "boolean"
  | byte => some "byte"
  | short => some "short"
  | int => some "int"
  | long => some "long"
  | char => some "char"
  | float => some "float"
  | double => some "double"
  | string => none

/-- The class that boxes the type. -/
def box : Primitive → String
  | boolean => "java.lang.Boolean"
  | byte => "java.lang.Byte"
  | short => "java.lang.Short"
  | int => "java.lang.Integer"
  | long => "java.lang.Long"
  | char => "java.lang.Character"
  | float => "java.lang.Float"
  | double => "java.lang.Double"
  | string => "java.lang.String"

/-- Every spelling of the type: the keyword, the box, and the Kotlin name with
and without its package. -/
def spellings (primitive : Primitive) : List String :=
  primitive.keyword?.toList ++ [primitive.box, "kotlin." ++ primitive.name,
    primitive.name]

/-- The primitive type with a given spelling. -/
def ofSpelling? (text : String) : Option Primitive :=
  all.find? fun primitive => primitive.spellings.contains text

/-- The primitive type with a given keyword. -/
def ofKeyword? (text : String) : Option Primitive :=
  all.find? fun primitive => primitive.keyword? == some text

end Primitive

end KotlinBuilders
