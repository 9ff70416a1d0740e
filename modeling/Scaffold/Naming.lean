import Scaffold.Text.Case

/-!
# Case forms of names

A name is read as words between delimiters and written as one identifier: `OrderItem`,
`orderItem` or `order_item`.
-/

namespace Scaffold.Naming

open Text

/-- Only these three characters separate words. -/
def isDelimiter (c : Char) : Bool := c = '_' || c = '-' || c = ' '

/-- The words of a name; `word` is the begun word, reversed. -/
def wordsFrom (word : List Char) : List Char → List (List Char)
  | [] => if word.isEmpty then [] else [word.reverse]
  | c :: rest =>
      if isDelimiter c then
        if word.isEmpty then wordsFrom [] rest else word.reverse :: wordsFrom [] rest
      else wordsFrom (c :: word) rest

def words (name : List Char) : List (List Char) := wordsFrom [] name

/-- A word in lower case, its first character then in upper case. -/
def capitalizeWord (word : List Char) : List Char :=
  match lower word with
  | [] => []
  | c :: rest => upper [c] ++ rest

def pascalChars (name : List Char) : List Char := (words name).flatMap capitalizeWord

def camelChars (name : List Char) : List Char :=
  match pascalChars name with
  | [] => []
  | c :: rest => lower [c] ++ rest

def isAsciiUpper (c : Char) : Bool := 'A' ≤ c && c ≤ 'Z'

/-- An underscore before every ASCII capital. -/
def markCapitals (text : List Char) : List Char :=
  text.flatMap fun c => if isAsciiUpper c then ['_', c] else [c]

/-- An underscore before every ASCII capital but the first character, then lower case. -/
def snakeChars (name : List Char) : List Char :=
  match name with
  | [] => []
  | c :: rest => lower (c :: markCapitals rest)

def pascal (name : String) : String := String.ofList (pascalChars name.toList)

def camel (name : String) : String := String.ofList (camelChars name.toList)

def snake (name : String) : String := String.ofList (snakeChars name.toList)

end Scaffold.Naming
