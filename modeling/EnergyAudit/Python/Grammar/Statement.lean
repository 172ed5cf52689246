import EnergyAudit.Python.Grammar.Token

/-!
# Python statements

The grammar rules of modules, statements, suites and parameters.

## Main definitions

* `Python.statements` — the rules, from the module down to the patterns of a `case`.
-/

namespace EnergyAudit.Python

open EnergyAudit.Grammar Rule

/-- A rule by its name. -/
abbrev the : String → Rule := Rule.symbol

/-- A word or sign of the language. -/
abbrev word : String → Rule := Rule.literal

/-- A rule that makes nodes of its own name. -/
def node (name : String) (body : Rule) : Definition := .rule name .node body

/-- A rule whose children stand in its place. -/
def hidden (name : String) (body : Rule) : Definition := .rule name .hidden body

/-- A rule that names a class of nodes. -/
def category (name : String) (kinds : List Rule) : Definition := .rule name .category (.any kinds)

/-- A rule that is written out wherever it is used. -/
def inlined (name : String) (body : Rule) : Definition := .rule name .inlined body

/-- A rule shown as a node of another kind. -/
def shown (name kind : String) (body : Rule) : Definition :=
  .rule name (.nodeNamed kind true true) body

/-- The comma that may end a list. -/
def lastComma : Rule := optional (word ",")

/-- A list in brackets, possibly empty. -/
def bracketed (opening : String) (element : Rule) (closing : String) : Rule :=
  all [word opening, optional (all [commaSeparated element, lastComma]), word closing]

/-- An optional `async`. -/
def maybeAsync : Rule := optional (word "async")

/-- Modules and statements of one line. -/
def simpleStatements : List Definition := [
  node "module" (repeated (the "_statement")),
  hidden "_statement" (any [the "_simple_statements", the "_compound_statement"]),
  hidden "_simple_statements"
    (all [separated (the "_simple_statement") ";", optional (word ";"), the "_newline"]),
  inlined "_simple_statement" (.any [
    the "future_import_statement", the "import_statement", the "import_from_statement",
    the "print_statement", the "assert_statement", the "expression_statement",
    the "return_statement", the "delete_statement", the "raise_statement", the "pass_statement",
    the "break_statement", the "continue_statement", the "global_statement",
    the "nonlocal_statement", the "exec_statement", the "type_alias_statement"]),
  node "import_statement" (all [word "import", the "_import_list"]),
  node "import_prefix" (many (word ".")),
  node "relative_import" (all [the "import_prefix", optional (the "dotted_name")]),
  node "future_import_statement" (all [word "from", word "__future__", word "import",
    any [the "_import_list", all [word "(", the "_import_list", word ")"]]]),
  node "import_from_statement" (all [word "from",
    field "module_name" (any [the "relative_import", the "dotted_name"]), word "import",
    any [the "wildcard_import", the "_import_list",
      all [word "(", the "_import_list", word ")"]]]),
  hidden "_import_list" (all [
    commaSeparated (field "name" (any [the "dotted_name", the "aliased_import"])), lastComma]),
  node "aliased_import" (all [field "name" (the "dotted_name"), word "as",
    field "alias" (the "identifier")]),
  node "wildcard_import" (word "*"),
  node "print_statement" (any [
    atLevel 1 (all [word "print", the "chevron",
      repeated (all [word ",", field "argument" (the "expression")]), lastComma]),
    atLevel (-3) (preference (-1) (all [word "print",
      commaSeparated (field "argument" (the "expression")), lastComma]))]),
  node "chevron" (all [word ">>", the "expression"]),
  node "assert_statement" (all [word "assert", commaSeparated (the "expression")]),
  node "expression_statement" (any [the "expression",
    all [commaSeparated (the "expression"), lastComma],
    the "assignment", the "augmented_assignment", the "yield"]),
  node "named_expression" (all [field "name" (the "_named_expression_lhs"), word ":=",
    field "value" (the "expression")]),
  hidden "_named_expression_lhs" (any [the "identifier", the "keyword_identifier"]),
  node "return_statement" (all [word "return", optional (the "_expressions")]),
  node "delete_statement" (all [word "del", the "_expressions"]),
  inlined "_expressions" (any [the "expression", the "expression_list"]),
  node "raise_statement" (all [word "raise", optional (the "_expressions"),
    optional (all [word "from", field "cause" (the "expression")])]),
  node "pass_statement" (leftAt 0 (word "pass")),
  node "break_statement" (leftAt 0 (word "break")),
  node "continue_statement" (leftAt 0 (word "continue"))]

/-- Statements with suites, up to the `with` statement. -/
def compoundStatements : List Definition := [
  inlined "_compound_statement" (any [
    the "if_statement", the "for_statement", the "while_statement", the "try_statement",
    the "with_statement", the "function_definition", the "class_definition",
    the "decorated_definition", the "match_statement"]),
  node "if_statement" (all [word "if", field "condition" (the "expression"), word ":",
    field "consequence" (the "_suite"),
    repeated (field "alternative" (the "elif_clause")),
    optional (field "alternative" (the "else_clause"))]),
  node "elif_clause" (all [word "elif", field "condition" (the "expression"), word ":",
    field "consequence" (the "_suite")]),
  node "else_clause" (all [word "else", word ":", field "body" (the "_suite")]),
  node "match_statement" (all [word "match", commaSeparated (field "subject" (the "expression")),
    lastComma, word ":", field "body" (the "_match_block")]),
  shown "_match_block" "block" (any [
    all [the "_indent", repeated (field "alternative" (the "case_clause")), the "_dedent"],
    the "_newline"]),
  node "case_clause" (all [word "case", commaSeparated (the "case_pattern"), lastComma,
    optional (field "guard" (the "if_clause")), word ":", field "consequence" (the "_suite")]),
  node "for_statement" (all [maybeAsync, word "for", field "left" (the "_left_hand_side"),
    word "in", field "right" (the "_expressions"), word ":", field "body" (the "_suite"),
    field "alternative" (optional (the "else_clause"))]),
  node "while_statement" (all [word "while", field "condition" (the "expression"), word ":",
    field "body" (the "_suite"), optional (field "alternative" (the "else_clause"))]),
  node "try_statement" (all [word "try", word ":", field "body" (the "_suite"), any [
    all [many (the "except_clause"), optional (the "else_clause"),
      optional (the "finally_clause")],
    all [many (the "except_group_clause"), optional (the "else_clause"),
      optional (the "finally_clause")],
    the "finally_clause"]]),
  node "except_clause" (all [word "except",
    optional (all [the "expression",
      optional (all [any [word "as", word ","], the "expression"])]),
    word ":", the "_suite"]),
  node "except_group_clause" (all [word "except*",
    all [the "expression", optional (all [word "as", the "expression"])],
    word ":", the "_suite"]),
  node "finally_clause" (all [word "finally", word ":", the "_suite"]),
  node "with_statement" (all [maybeAsync, word "with", the "with_clause", word ":",
    field "body" (the "_suite")]),
  node "with_clause" (any [
    all [commaSeparated (the "with_item"), lastComma],
    all [word "(", commaSeparated (the "with_item"), lastComma, word ")"]]),
  node "with_item" (preference 1 (field "value" (the "expression")))]

/-- Definitions of functions and classes, and what stands in suites. -/
def definitionStatements : List Definition := [
  node "function_definition" (all [maybeAsync, word "def", field "name" (the "identifier"),
    field "type_parameters" (optional (the "type_parameter")),
    field "parameters" (the "parameters"),
    optional (all [word "->", field "return_type" (the "type")]),
    word ":", field "body" (the "_suite")]),
  node "parameters" (all [word "(", optional (the "_parameters"), word ")"]),
  node "lambda_parameters" (the "_parameters"),
  node "list_splat" (all [word "*", the "expression"]),
  node "dictionary_splat" (all [word "**", the "expression"]),
  node "global_statement" (all [word "global", commaSeparated (the "identifier")]),
  node "nonlocal_statement" (all [word "nonlocal", commaSeparated (the "identifier")]),
  node "exec_statement" (all [word "exec", field "code" (any [the "string", the "identifier"]),
    optional (all [word "in", commaSeparated (the "expression")])]),
  node "type_alias_statement" (preference 1 (all [word "type", field "left" (the "type"),
    word "=", field "right" (the "type")])),
  node "class_definition" (all [word "class", field "name" (the "identifier"),
    field "type_parameters" (optional (the "type_parameter")),
    field "superclasses" (optional (the "argument_list")), word ":",
    field "body" (the "_suite")]),
  node "type_parameter" (all [word "[", commaSeparated (the "type"), lastComma, word "]"]),
  node "parenthesized_list_splat" (atLevel 1 (all [word "(",
    any [shownAs "parenthesized_expression" (the "parenthesized_list_splat"), the "list_splat"],
    word ")"])),
  node "argument_list" (all [word "(",
    optional (commaSeparated (any [the "expression", the "list_splat", the "dictionary_splat",
      shownAs "parenthesized_expression" (the "parenthesized_list_splat"),
      the "keyword_argument"])),
    lastComma, word ")"]),
  node "decorated_definition" (all [many (the "decorator"),
    field "definition" (any [the "class_definition", the "function_definition"])]),
  node "decorator" (all [word "@", the "expression", the "_newline"]),
  inlined "_suite" (any [
    shownAs "block" (the "_simple_statements"),
    all [the "_indent", the "block"],
    shownAs "block" (the "_newline")]),
  node "block" (all [repeated (the "_statement"), the "_dedent"]),
  node "expression_list" (rightAt 0 (all [the "expression", any [word ",",
    all [many (all [word ",", the "expression"]), lastComma]]])),
  node "dotted_name" (atLevel 1 (separated (the "identifier") "."))]

/-- The patterns of a `case`. -/
def casePatterns : List Definition := [
  node "case_pattern" (atLevel 1 (any [the "_as_pattern", the "keyword_pattern",
    the "_simple_pattern"])),
  hidden "_simple_pattern" (atLevel 1 (any [the "class_pattern", the "splat_pattern",
    the "union_pattern", the "_list_pattern", the "_tuple_pattern", the "dict_pattern",
    the "string", the "concatenated_string", the "true", the "false", the "none",
    all [optional (word "-"), any [the "integer", the "float"]],
    the "complex_pattern", the "dotted_name", word "_"])),
  shown "_as_pattern" "as_pattern" (all [the "case_pattern", word "as", the "identifier"]),
  node "union_pattern" (rightAt 0 (all [the "_simple_pattern",
    many (leftAt 0 (all [word "|", the "_simple_pattern"]))])),
  shown "_list_pattern" "list_pattern" (bracketed "[" (the "case_pattern") "]"),
  shown "_tuple_pattern" "tuple_pattern" (bracketed "(" (the "case_pattern") ")"),
  node "dict_pattern"
    (bracketed "\x7b" (any [the "_key_value_pattern", the "splat_pattern"]) "\x7d"),
  hidden "_key_value_pattern" (all [field "key" (the "_simple_pattern"), word ":",
    field "value" (the "case_pattern")]),
  node "keyword_pattern" (all [the "identifier", word "=", the "_simple_pattern"]),
  node "splat_pattern" (atLevel 1 (all [any [word "*", word "**"],
    any [the "identifier", word "_"]])),
  node "class_pattern" (all [the "dotted_name", bracketed "(" (the "case_pattern") ")"]),
  node "complex_pattern" (atLevel 1 (all [optional (word "-"),
    any [the "integer", the "float"], any [word "+", word "-"],
    any [the "integer", the "float"]]))]

/-- The rules of statements. -/
def statements : List Definition :=
  simpleStatements ++ compoundStatements ++ definitionStatements ++ casePatterns

end EnergyAudit.Python
