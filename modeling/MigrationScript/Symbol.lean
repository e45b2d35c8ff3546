/-!
# Symbols

The words and signs that mean something in a script: directives (`$if`, `$lastdbu`, …), operators,
and the keywords of schema statements that a guard has to recognise. `Keyword` says how each is
spelled; this module says which there are, how they are named in output, and how they group.

The order of declaration is the order of symbols. It starts with the directives that end on their
own line; the statement terminator divides these from the rest.
-/

namespace MigrationScript

/-- What a word of a script stands for. `plain` is a word without a meaning of its own: a name, a
number, or nothing at all. -/
inductive Symbol where
  | plain
  | appVersion
  | dbuVersion
  | dbu
  | dbuStart
  | dbuEnd
  | lastDbu
  | echo
  | showOn
  | showOff
  | hideOn
  | hideOff
  | comment
  | endIf
  | set
  | terminator
  | exit
  | verbatimStart
  | verbatimStop
  | ifExists
  | ifMissing
  | ifBlock
  | exist
  | negation
  | notEqual
  | equal
  | greater
  | less
  | greaterEqual
  | lessEqual
  | endOfFile
  | bracketOpen
  | bracketClose
  | create
  | drop
  | add
  | select
  | update
  | recreate
  | ascending
  | descending
  | primary
  | key
  | delete
  | table
  | field
  | procedure
  | index
  | trigger
  | on
  | «to»
  | first
  | after
  | unique
  | foreign
  | function
  | modify
  | alter
  | rename
  | exception
  | domain
  | sql
  deriving DecidableEq, Repr, Inhabited

namespace Symbol

/-- Every symbol, in the order of declaration. -/
def all : List Symbol :=
  [plain, appVersion, dbuVersion, dbu, dbuStart, dbuEnd, lastDbu, echo, showOn, showOff, hideOn,
   hideOff, comment, endIf, set, terminator, exit, verbatimStart, verbatimStop, ifExists,
   ifMissing, ifBlock, exist, negation, notEqual, equal, greater, less, greaterEqual, lessEqual,
   endOfFile, bracketOpen, bracketClose, create, drop, add, select, update, recreate, ascending,
   descending, primary, key, delete, table, field, procedure, index, trigger, on, «to», first, after,
   unique, foreign, function, modify, alter, rename, exception, domain, sql]

/-- The place of a symbol in the order of declaration. -/
def rank (s : Symbol) : Nat := s.ctorIdx

/-- Symbols in the order of declaration. -/
def sorted (symbols : List Symbol) : List Symbol := symbols.mergeSort fun s t => s.rank ≤ t.rank

/-- The name of a symbol in JSON. -/
def name : Symbol → String
  | plain => "none"
  | appVersion => "app_version"
  | dbuVersion => "dbu_version"
  | dbu => "dbu"
  | dbuStart => "dbu_start"
  | dbuEnd => "dbu_end"
  | lastDbu => "dbu_last"
  | echo => "echo"
  | showOn => "show"
  | showOff => "no_show"
  | hideOn => "hide"
  | hideOff => "no_hide"
  | comment => "comment"
  | endIf => "fi"
  | set => "set"
  | terminator => "eol"
  | exit => "exit"
  | verbatimStart => "ecv_start"
  | verbatimStop => "ecv_stop"
  | ifExists => "one_if"
  | ifMissing => "one_not_if"
  | ifBlock => "if"
  | exist => "exist"
  | negation => "not"
  | notEqual => "ne"
  | equal => "eq"
  | greater => "gt"
  | less => "lt"
  | greaterEqual => "ge"
  | lessEqual => "le"
  | endOfFile => "eof"
  | bracketOpen => "bracket_open"
  | bracketClose => "bracket_close"
  | create => "create"
  | drop => "drop"
  | add => "add"
  | select => "select"
  | update => "update"
  | recreate => "recreate"
  | ascending => "ascending"
  | descending => "descending"
  | primary => "primary"
  | key => "key"
  | delete => "delete"
  | table => "table"
  | field => "field"
  | procedure => "procedure"
  | index => "index"
  | trigger => "trigger"
  | on => "on"
  | «to» => "to"
  | first => "first"
  | after => "after"
  | unique => "unique"
  | foreign => "foreign"
  | function => "function"
  | modify => "modify"
  | alter => "alter"
  | rename => "rename"
  | exception => "exception"
  | domain => "domain"
  | sql => "any"

/-- The symbol with a given name. -/
def ofName? (name : String) : Option Symbol := all.find? fun s => s.name == name

/-! ## Groups -/

/-- Directives that end their statement on the line they stand on, with or without a terminator. -/
def isSingleLine : Symbol → Bool
  | appVersion | dbuVersion | dbu | dbuStart | dbuEnd | lastDbu | echo | showOn | showOff | hideOn
  | hideOff | comment | endIf | set => true
  | _ => false

/-- Directives that open a block, which stays open until a closer. -/
def opensBlock : Symbol → Bool
  | ifBlock | verbatimStart => true
  | _ => false

/-- Directives that close whatever is open. -/
def closesBlock : Symbol → Bool
  | endIf | verbatimStop => true
  | _ => false

/-- Directives that guard the one statement that follows them on their line. -/
def guardsOneLine : Symbol → Bool
  | ifExists | ifMissing => true
  | _ => false

/-- Comparison and negation signs. -/
def isOperator : Symbol → Bool
  | negation | notEqual | equal | greater | less | greaterEqual | lessEqual => true
  | _ => false

/-- Kinds of schema object that an existence guard can ask about. -/
def isSchemaObject : Symbol → Bool
  | table | field | index | function | procedure | trigger | exception | domain => true
  | _ => false

end Symbol

end MigrationScript
