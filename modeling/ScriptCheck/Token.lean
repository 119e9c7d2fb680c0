import ScriptCheck.Numeral
import ScriptCheck.Scope

/-! # Tokens

A token is a piece of a script with its kind and its place. Names of variables, names of functions
and numerals are all identifiers: what an identifier is, its text and its neighbours decide.
-/

namespace ScriptCheck

inductive Kind where
  | openScope
  | closeScope
  | semicolon
  | equals
  | typeInt
  | typeFloat
  | typeString
  | plus
  | minus
  | openParen
  | closeParen
  | comma
  | identifier
  | stringLiteral
deriving DecidableEq, Repr

namespace Kind

/-- The kind of a word or a punctuation mark. String literals are recognised by their quotes and
not by this table. -/
def ofText (text : String) : Kind :=
  match text with
  | "\x7b" => openScope
  | "\x7d" => closeScope
  | ";" => semicolon
  | "=" => equals
  | "int" => typeInt
  | "float" => typeFloat
  | "string" => typeString
  | "+" => plus
  | "-" => minus
  | "(" => openParen
  | ")" => closeParen
  | "," => comma
  | _ => identifier

def label : Kind → String
  | openScope => "'\x7b'"
  | closeScope => "'\x7d'"
  | semicolon => "';'"
  | equals => "'='"
  | typeInt => "'int'"
  | typeFloat => "'float'"
  | typeString => "'string'"
  | plus => "'+'"
  | minus => "'-'"
  | openParen => "'('"
  | closeParen => "')'"
  | comma => "','"
  | identifier => "identifier"
  | stringLiteral => "string literal"

/-- Identifiers and string literals can stand for a value. -/
def isValue (kind : Kind) : Bool := kind == identifier || kind == stringLiteral

def isScope (kind : Kind) : Bool := kind == openScope || kind == closeScope

/-- A statement ends at a semicolon and at a brace. -/
def endsStatement (kind : Kind) : Bool := kind.isScope || kind == semicolon

def declares? : Kind → Option ValueType
  | typeInt => some .int
  | typeFloat => some .float
  | typeString => some .string
  | _ => none

def operator? : Kind → Option Operator
  | plus => some .plus
  | minus => some .minus
  | _ => none

end Kind

structure Span where
  start : Nat
  stop : Nat
deriving DecidableEq, Repr

/-- A token with the line and the bytes it stands at and the coordinate of its block. -/
structure Token where
  kind : Kind
  text : String
  line : Nat
  scope : Scope
  span : Span
deriving DecidableEq, Repr

namespace Token

def isValue (t : Token) : Bool := t.kind.isValue

/-- Whether an operand can end at the token: a value, or the parenthesis that closes a call. -/
def endsOperand (t : Token) : Bool := t.isValue || t.kind == .closeParen

def isType (t : Token) : Bool := t.kind.declares?.isSome

/-- The value of an identifier that is a numeral. -/
def number? (t : Token) : Option Value :=
  if t.kind = .identifier then Numeral.value? t.text else none

def isNumber (t : Token) : Bool := t.number?.isSome

/-- Whether the token can name a variable or a function. -/
def isName (t : Token) : Bool := t.kind == .identifier && !t.isNumber

/-- The text between the quotes of a string literal, or all of it when it lacks one of them. -/
def contents? (t : Token) : Option String :=
  if t.kind = .stringLiteral then
    match t.text.toList with
    | '"' :: rest =>
      if rest.getLast? = some '"' then some (String.ofList rest.dropLast) else some t.text
    | _ => some t.text
  else none

/-- The value that the token has by itself, whatever the variables hold. -/
def literal? (t : Token) : Option Value :=
  t.number?.or (t.contents?.map Value.string)

end Token

end ScriptCheck
