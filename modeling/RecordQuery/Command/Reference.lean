import RecordQuery.Text.Case

/-!
# The built-in reference

Texts about the query language, one overview and one text for each category.

* `Category` — the categories, and `Category.ofName?` for their names;
* `overview` — the list of categories;
* `Category.text` — what there is to know about one of them.
-/

namespace RecordQuery.Reference

/-- What a text of the reference is about. -/
inductive Category where
  | tokens
  | paths
  | operators
  | methods
  | sequences
  deriving DecidableEq

/-- The form in which names of categories are compared: in lower case, with dashes for
underscores. -/
def plainName (name : String) : String :=
  String.ofList ((Text.lower name.toList).map fun c => if c = '_' then '-' else c)

/-- The category with a name. -/
def Category.ofName? (name : String) : Option Category :=
  match plainName name with
  | "syntax" => some tokens
  | "paths" | "path" | "fields" => some paths
  | "operators" | "ops" | "keywords" => some operators
  | "methods" | "method" => some methods
  | "sequences" | "sequence" | "broadcasting" => some sequences
  | _ => none

/-- Lines as a text; every line ends. -/
def textOfLines (lines : List String) : String := String.join (lines.map (· ++ "\n"))

/-- The lines of the overview. -/
def overviewLines : List String :=
  ["SIFT DOCUMENTATION",
    "",
    "Sift is a small query language for filtering collections of nested records,",
    "such as dictionary entries. A query is a boolean expression evaluated once",
    "per record; records for which it is truthy are kept.",
    "",
    "DOCUMENTATION CATEGORIES",
    "",
    "  syntax       Tokens, quoting, literals and parentheses",
    "  paths        Field paths and the special segments $ANY, $SELF, d_$N",
    "  operators    Comparison and logic operators, the 'in' keyword",
    "  methods      len, split, any, all, lower, upper, reduce, print",
    "  sequences    Broadcasting, truthiness and how sequence results match",
    "",
    "QUICK REFERENCE",
    "",
    "  meaning                   Field of the record",
    "  pos[noun][data]           Nested field",
    "  senses[d_$0]              First item of a sequence",
    "  pos[$ANY][data]           Fan out over every part of speech",
    "  \"^to \" in meaning         Regex search",
    "  len(senses) > 1           Method call and comparison",
    "  not a and b or c          Logic (not > comparisons > and > or)",
    "",
    "Run 'sift doc <category>' for detailed documentation."]

/-- The list of categories. -/
def overview : String := textOfLines overviewLines

/-- The lines about tokens and literals. -/
def tokenLines : List String :=
  ["SYNTAX - Tokens and Literals",
    "",
    "TOKENS",
    "  Whitespace separates tokens. Parentheses are always tokens of their own,",
    "  so 'len(x)' and 'len ( x )' are the same query.",
    "",
    "  A token's meaning depends on the token before it:",
    "    not       logic operator at the start or after an operator/'(' ,",
    "              a field name anywhere else",
    "    and, or   logic operators after a value or ')'",
    "    in        keyword after a value",
    "",
    "QUOTING",
    "  \"some text\"",
    "    Double quotes keep spaces and parentheses inside one token.",
    "    \\\" inside a quoted token is a literal quote; other escapes are kept",
    "    as written (handy for regex patterns).",
    "",
    "    Example:",
    "      Query:  \"^to \\w+\" in meaning",
    "",
    "NUMBERS",
    "  3    -2    0.5    .5    -1.",
    "    A token that looks like a decimal number is a number.",
    "",
    "  f_$3",
    "    The f_$ prefix forces a field path: 'f_$3' is the field named 3.",
    "",
    "PARENTHESES",
    "  (a or b) and c",
    "    Group sub-expressions. Every '(' must be closed.",
    "",
    "    Example:",
    "      Query:  ((field",
    "      Error:  syntax error: unbalanced parentheses: '(' is never closed"]

/-- The lines about field paths. -/
def pathLines : List String :=
  ["PATHS - Reaching into Records",
    "",
    "FIELD ACCESS",
    "  meaning",
    "  pos[noun][data]",
    "    A bare word is a field of the record; brackets descend into nested",
    "    mappings. Missing fields are not errors: the record simply has no",
    "    value there.",
    "",
    "    Example:",
    "      Input:  \x7b\"pos\": \x7b\"noun\": \x7b\"data\": 1\x7d\x7d\x7d",
    "      Query:  pos[noun][data] == 1",
    "      Output: true",
    "",
    "    A path that ends on a mapping yields its keys.",
    "",
    "NUMERIC SEGMENTS",
    "  senses[d_$0]",
    "  senses[d_$-1]",
    "    d_$N indexes a sequence (negative counts from the end) or looks up a",
    "    numeric key in a mapping.",
    "",
    "WILDCARD",
    "  pos[$ANY][data]",
    "    $ANY fans out over every value at that level. Branches that come up",
    "    empty are dropped. One surviving branch gives its value as is; more",
    "    than one give a list.",
    "",
    "    Example:",
    "      Input:  \x7b\"pos\": \x7b\"noun\": \x7b\"data\": 1\x7d, \"verb\": \x7b\"data\": 2\x7d\x7d\x7d",
    "      Query:  pos[$ANY][data]",
    "      Output: [1, 2]",
    "",
    "SELF",
    "  $SELF",
    "  pos[$SELF]",
    "    The key set of the current level (indices for a sequence).",
    "",
    "    Example:",
    "      Input:  \x7b\"field_1\": 1, \"field_2\": 2\x7d",
    "      Query:  $SELF",
    "      Output: [\"field_1\", \"field_2\"]"]

/-- The lines about operators and keywords. -/
def operatorLines : List String :=
  ["OPERATORS - Comparison, Logic and Keywords",
    "",
    "COMPARISON OPERATORS",
    "  ==  !=  <  >  <=  >=",
    "",
    "  Examples:",
    "    len(senses) >= 2",
    "    pos[noun][data] != 0",
    "",
    "  Constraints:",
    "    - Numbers compare by value (1 == 1.0)",
    "    - Strings compare lexicographically",
    "    - Ordering anything else is an argument type error",
    "",
    "LOGIC OPERATORS",
    "  not    prefix, binds tightest",
    "  and",
    "  or     binds loosest",
    "",
    "  Examples:",
    "    not archaic and len(forms) > 1",
    "    not not x                       same as x",
    "",
    "  Precedence:  not, then comparisons, then and, then or.",
    "  Operators of one level group left to right.",
    "",
    "KEYWORDS",
    "  PATTERN in FIELD",
    "    True when the regular expression PATTERN matches anywhere in FIELD.",
    "    FIELD may be a string or a sequence of strings (any item matching is",
    "    enough). A missing field never matches.",
    "",
    "    Example:",
    "      Input:  \x7b\"field\": [\"1\", \"2\", \"3\"]\x7d",
    "      Query:  1 in field",
    "      Output: true"]

/-- The lines about methods. -/
def methodLines : List String :=
  ["METHODS - Built-in Functions",
    "",
    "Every method takes exactly one argument: name(expression).",
    "",
    "len(x)",
    "    Length of a string, sequence or mapping. 0 for anything else.",
    "",
    "split(x)",
    "    Split a string on whitespace. On a sequence, splits every item.",
    "    Anything that is not a string is an argument type error.",
    "",
    "    Example:",
    "      Query:  len(split(meaning)) > 3",
    "",
    "lower(x)  upper(x)",
    "    Change the case of a string, or of every string in a sequence.",
    "",
    "any(x)  all(x)",
    "    Whether any / all items of a sequence are truthy.",
    "",
    "reduce(x)",
    "    Flatten one level of nesting.",
    "",
    "    Example:",
    "      Input:  \x7b\"pos\": \x7b\"noun\": [\"a\", \"b\"], \"verb\": [\"c\"]\x7d\x7d",
    "      Query:  reduce(pos[$ANY])",
    "      Output: [\"a\", \"b\", \"c\"]",
    "",
    "print(x)",
    "    Stop the query and report the value of x. Useful while writing a",
    "    query: 'sift check \"print(pos[$ANY][data])\" --input ...'"]

/-- The lines about sequences. -/
def sequenceLines : List String :=
  ["SEQUENCES - Broadcasting and Matching",
    "",
    "BROADCASTING",
    "  When one side of an operator is a sequence, the operator is applied to",
    "  every item:",
    "",
    "    Input:  \x7b\"pos\": \x7b\"noun\": \x7b\"data\": 1\x7d, \"verb\": \x7b\"data\": 2\x7d\x7d\x7d",
    "    Query:  pos[$ANY][data] > 1",
    "    Output: [false, true]",
    "",
    "  Two sequences combine every left item with every right item.",
    "",
    "  'not' applies to every item of a sequence.",
    "",
    "TRUTHINESS",
    "  Falsy:   null, false, 0, \"\", empty sequences and mappings",
    "  Truthy:  everything else",
    "",
    "MATCHING",
    "  A record is kept when the query's result is truthy. A sequence result",
    "  keeps the record when any of its items does, so the query above keeps",
    "  the record because the verb's data is greater than 1.",
    "",
    "ERRORS",
    "  By default the first record that fails to evaluate stops the run.",
    "  Pass --skip-errors to leave such records out instead."]

/-- The text about a category. -/
def Category.text : Category → String
  | tokens => textOfLines tokenLines
  | paths => textOfLines pathLines
  | operators => textOfLines operatorLines
  | methods => textOfLines methodLines
  | sequences => textOfLines sequenceLines

/-- The text about the category with a name. -/
def textOf? (name : String) : Option String := (Category.ofName? name).map Category.text

/-- What is said about a name that no category has. -/
def unknownMessage (name : String) : String :=
  "Unknown category: '" ++ name ++ "'\nRun 'sift docs' to see available categories."

end RecordQuery.Reference
