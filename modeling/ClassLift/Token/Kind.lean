set_option autoImplicit false

/-! # Kinds of tokens

The kind of a token is a text; a tree may hold kinds that are unknown here. The names below
are the kinds that the conversion looks for or creates.
-/

namespace ClassLift

/-- The kind of a token. -/
abbrev Kind := String

namespace Kind

/-! ## Leaves -/

/-- A name in an expression. -/
def text : Kind := "T_TEXT"

/-- A word of the language, such as `this` or `super`. -/
def keyword : Kind := "T_KEYWORD"

/-- A quoted string, with its quotes. -/
def string : Kind := "T_STRING"

/-- The name after the point of a member access. -/
def memberName : Kind := "T_ATTR"

/-! ## Expressions -/

/-- A member access; its value is the operator. -/
def member : Kind := "T_GET_ATTR"

/-- An assignment; its value is the operator. -/
def assign : Kind := "T_ASSIGN"

/-- A call: the function and its argument list. -/
def call : Kind := "T_FUNCTIONCALL"

/-- An argument list. -/
def arguments : Kind := "T_ARGLIST"

/-- A `new` expression. -/
def instantiate : Kind := "T_NEW"

/-- An object literal. -/
def object : Kind := "T_OBJECT"

/-- A binary operator, among them the `:` of an object literal. -/
def binary : Kind := "T_BINARY"

/-- A named function. -/
def functionDecl : Kind := "T_FUNCTION"

/-- A function without a name. -/
def anonymousFunction : Kind := "T_ANONYMOUS_FUNCTION"

/-! ## Statements and classes -/

/-- A whole source file. -/
def sourceFile : Kind := "T_MODULE"

/-- A block of statements. -/
def block : Kind := "T_BLOCK"

/-- An exported declaration. -/
def exportDecl : Kind := "T_EXPORT"

/-- A variable declaration. -/
def varDecl : Kind := "T_VAR"

/-- A class declaration: its name, its `extends` clause and its body. -/
def classDecl : Kind := "T_CLASS"

/-- The body of a class. -/
def classBlock : Kind := "T_CLASS_BLOCK"

/-- A member of a class: its name, its argument list and its body. -/
def method : Kind := "T_METHOD"

end Kind

end ClassLift
