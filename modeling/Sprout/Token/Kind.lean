import Sprout.Text.Basic

set_option autoImplicit false

namespace Sprout

inductive Symbol where
  | assign | plus | minus | bang | asterisk | slash | lt | gt | eq | notEq
  | comma | semicolon | colon | lparen | rparen | lbrace | rbrace | lbracket | rbracket
deriving DecidableEq, Repr

namespace Symbol

def text : Symbol → Text
  | eq => ['=', '=']
  | notEq => ['!', '=']
  | assign => ['=']
  | plus => ['+']
  | minus => ['-']
  | bang => ['!']
  | asterisk => ['*']
  | slash => ['/']
  | lt => ['<']
  | gt => ['>']
  | comma => [',']
  | semicolon => [';']
  | colon => [':']
  | lparen => ['(']
  | rparen => [')']
  | lbrace => ['{']
  | rbrace => ['}']
  | lbracket => ['[']
  | rbracket => [']']

-- A longer text stands before the shorter one that it begins with.
def all : List Symbol :=
  [eq, notEq, assign, plus, minus, bang, asterisk, slash, lt, gt, comma, semicolon, colon,
    lparen, rparen, lbrace, rbrace, lbracket, rbracket]

theorem mem_all (s : Symbol) : s ∈ all := by
  cases s <;> decide

def leading? (t : Text) : Option Symbol := all.find? fun s => s.text.isPrefixOf t

theorem text_isPrefix_of_leading? {t : Text} {s : Symbol} (found : leading? t = some s) :
    s.text <+: t := by
  simpa using List.find?_some found

example : leading? "=!".toList = some assign := by decide

end Symbol

inductive Keyword where
  | function | letBinding | trueValue | falseValue | ifBranch | elseBranch | returnValue
deriving DecidableEq, Repr

namespace Keyword

def word : Keyword → Text
  | function => "fn".toList
  | letBinding => "let".toList
  | trueValue => "true".toList
  | falseValue => "false".toList
  | ifBranch => "if".toList
  | elseBranch => "else".toList
  | returnValue => "return".toList

def all : List Keyword :=
  [function, letBinding, trueValue, falseValue, ifBranch, elseBranch, returnValue]

def ofWord? (w : Text) : Option Keyword := all.find? fun k => k.word == w

@[simp] theorem ofWord?_word (k : Keyword) : ofWord? k.word = some k := by
  cases k <;> rfl

end Keyword

inductive Kind where
  | illegal | eof | ident | int | string
  | symbol (s : Symbol)
  | keyword (k : Keyword)
deriving DecidableEq, Repr

namespace Kind

def spelling : Kind → Text
  | illegal => "ILLEGAL".toList
  | eof => "EOF".toList
  | ident => "IDENT".toList
  | int => "INT".toList
  | string => "STRING".toList
  | symbol s => s.text
  | keyword .function => "FUNCTION".toList
  | keyword .letBinding => "LET".toList
  | keyword .trueValue => "TRUE".toList
  | keyword .falseValue => "FALSE".toList
  | keyword .ifBranch => "IF".toList
  | keyword .elseBranch => "ELSE".toList
  | keyword .returnValue => "RETURN".toList

def isKeyword : Kind → Bool
  | keyword _ => true
  | _ => false

def ofWord (w : Text) : Kind :=
  match Keyword.ofWord? w with
  | some k => keyword k
  | none => ident

end Kind

end Sprout
