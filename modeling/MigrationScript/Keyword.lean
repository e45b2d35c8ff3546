import MigrationScript.Text
import MigrationScript.Symbol

/-!
# Keywords

One list says how every symbol is spelled and where the spelling counts: in a directive, among the
keywords of schema statements, or in both. Looking a word up ignores case.

The letters that matter for looking a word up are those whose lower case is an ASCII letter, since
every spelling is ASCII: the ASCII capitals, and the Kelvin sign, whose lower case is `k`. No other
character has a lower case that is ASCII throughout, so none can turn a foreign word into a keyword.
-/

namespace MigrationScript

namespace Keyword

/-- One spelling of a symbol. -/
structure Entry where
  spelling : String
  symbol : Symbol

/-- The spellings that count in a directive only: directives, comment signs, the terminator,
operators, and a few guard words. -/
def directiveEntries : List Entry :=
  [⟨"$ie", .ifExists⟩,
   ⟨"$ine", .ifMissing⟩,
   ⟨"$if", .ifBlock⟩,
   ⟨"$fi", .endIf⟩,
   ⟨"$endif", .endIf⟩,
   ⟨"$ecv_start", .verbatimStart⟩,
   ⟨"$ecv", .verbatimStart⟩,
   ⟨"$ecv_stop", .verbatimStop⟩,
   ⟨"$dbu_start", .dbuStart⟩,
   ⟨"$dbu_end", .dbuEnd⟩,
   ⟨"$lastdbu", .lastDbu⟩,
   ⟨"$dbu", .dbu⟩,
   ⟨"$show", .showOn⟩,
   ⟨"$noshow", .showOff⟩,
   ⟨"$set", .set⟩,
   ⟨"$hide", .hideOn⟩,
   ⟨"$nohide", .hideOff⟩,
   ⟨"$exit", .exit⟩,
   ⟨"$echo", .echo⟩,
   ⟨"$drop", .drop⟩,
   ⟨"$app_version", .appVersion⟩,
   ⟨"$dbu_version", .dbuVersion⟩,
   ⟨"#", .comment⟩,
   ⟨"//", .comment⟩,
   ⟨"&&", .terminator⟩,
   ⟨"exist", .exist⟩,
   ⟨"recreate", .recreate⟩,
   ⟨"field", .field⟩,
   ⟨"!", .negation⟩,
   ⟨"!=", .notEqual⟩,
   ⟨"=", .equal⟩,
   ⟨">", .greater⟩,
   ⟨"<", .less⟩,
   ⟨">=", .greaterEqual⟩,
   ⟨"<=", .lessEqual⟩]

/-- The single brackets, which count everywhere. -/
def sharedEntries : List Entry :=
  [⟨"(", .bracketOpen⟩,
   ⟨")", .bracketClose⟩]

/-- The keywords of schema statements. -/
def sqlEntries : List Entry :=
  [⟨"add", .add⟩,
   ⟨"exists", .exist⟩,
   ⟨"not", .negation⟩,
   ⟨"table", .table⟩,
   ⟨"column", .field⟩,
   ⟨"modify", .modify⟩,
   ⟨"alter", .alter⟩,
   ⟨"rename", .rename⟩,
   ⟨"procedure", .procedure⟩,
   ⟨"function", .function⟩,
   ⟨"index", .index⟩,
   ⟨"trigger", .trigger⟩,
   ⟨"exception", .exception⟩,
   ⟨"domain", .domain⟩,
   ⟨"on", .on⟩,
   ⟨"to", .to⟩,
   ⟨"first", .first⟩,
   ⟨"after", .after⟩,
   ⟨"create", .create⟩,
   ⟨"drop", .drop⟩,
   ⟨"select", .select⟩,
   ⟨"update", .update⟩,
   ⟨"delete", .delete⟩,
   ⟨"ascending", .ascending⟩,
   ⟨"descending", .descending⟩,
   ⟨"primary", .primary⟩,
   ⟨"foreign", .foreign⟩,
   ⟨"unique", .unique⟩,
   ⟨"key", .key⟩,
   ⟨"if", .ifBlock⟩]

/-- Every spelling. Where a symbol has several, the first is the one it is shown with. -/
def entries : List Entry := directiveEntries ++ sharedEntries ++ sqlEntries

/-- The lower case of a character, as far as it is an ASCII letter. -/
def fold (c : Char) : Char := if c = '\u212A' then 'k' else c.toLower

/-- A word in the form in which keywords are spelled. -/
def folded (word : Text) : Text := word.map fold

/-- The symbol of a word by the first entry of a list that spells it. -/
def lookup (entries : List Entry) (word : Text) : Option Symbol :=
  (entries.find? fun e => e.spelling.toList == folded word).map Entry.symbol

/-- The symbol of a directive word or operator. -/
def directive? (word : Text) : Option Symbol := lookup (directiveEntries ++ sharedEntries) word

/-- The symbol of a keyword of schema statements. -/
def sql? (word : Text) : Option Symbol := lookup (sharedEntries ++ sqlEntries) word

/-- The symbol of an argument word: directive words win over keywords of schema statements, and any
other word is plain. -/
def classify (word : Text) : Symbol := ((directive? word).or (sql? word)).getD .plain

end Keyword

/-! ## How a symbol is shown -/

namespace Symbol

/-- Whether a symbol is a directive, that is, comes no later than `$if` in the order of symbols. -/
def isDirective (s : Symbol) : Bool := plain.rank < s.rank && s.rank ≤ ifBlock.rank

/-- The spellings of a symbol, in the order of the keyword list. -/
def spellings (s : Symbol) : List String :=
  (Keyword.entries.filter fun e => e.symbol == s).map Keyword.Entry.spelling

/-- A symbol as a script spells it: a `$` word for a directive and a bare word or sign for anything
else, as far as there is one. -/
def spelling (s : Symbol) : String :=
  ((s.spellings.find? fun w => (w.toList.head? == some '$') == s.isDirective).or
    s.spellings.head?).getD <|
      match s with
      | sql => "sql"
      | endOfFile => "eof"
      | _ => "none"

end Symbol

end MigrationScript
