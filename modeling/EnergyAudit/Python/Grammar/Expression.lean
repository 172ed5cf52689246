import EnergyAudit.Python.Grammar.Statement

/-!
# Python expressions

The grammar rules of parameters, patterns, types and expressions.

## Main definitions

* `Python.expressions` — the rules, from parameters down to comments.
-/

namespace EnergyAudit.Python

open EnergyAudit.Grammar Rule

/-- Parameters and the targets of assignments. -/
def parameterRules : List Definition := [
  hidden "_parameters" (all [commaSeparated (the "parameter"), lastComma]),
  hidden "_patterns" (all [commaSeparated (the "pattern"), lastComma]),
  category "parameter" [the "identifier", the "typed_parameter", the "default_parameter",
    the "typed_default_parameter", the "list_splat_pattern", the "tuple_pattern",
    the "keyword_separator", the "positional_separator", the "dictionary_splat_pattern"],
  category "pattern" [the "identifier", the "keyword_identifier", the "subscript",
    the "attribute", the "list_splat_pattern", the "tuple_pattern", the "list_pattern"],
  node "tuple_pattern" (all [word "(", optional (the "_patterns"), word ")"]),
  node "list_pattern" (all [word "[", optional (the "_patterns"), word "]"]),
  node "default_parameter" (all [field "name" (any [the "identifier", the "tuple_pattern"]),
    word "=", field "value" (the "expression")]),
  node "typed_default_parameter" (atLevel (-1) (all [field "name" (the "identifier"), word ":",
    field "type" (the "type"), word "=", field "value" (the "expression")])),
  node "list_splat_pattern" (all [word "*", any [the "identifier", the "keyword_identifier",
    the "subscript", the "attribute"]]),
  node "dictionary_splat_pattern" (all [word "**", any [the "identifier",
    the "keyword_identifier", the "subscript", the "attribute"]]),
  node "as_pattern" (leftAt 0 (all [the "expression", word "as",
    field "alias" (shownAs "as_pattern_target" (the "expression"))])),
  hidden "_expression_within_for_in_clause"
    (any [the "expression", the "lambda_within_for_in_clause"])]

/-- An operator between two operands. -/
def operation (operand operator : String) : Rule :=
  all [field "left" (the operand), field "operator" (word operator), field "right" (the operand)]

/-- Operators. -/
def operatorRules : List Definition := [
  category "expression" [the "comparison_operator", the "not_operator", the "boolean_operator",
    the "lambda", the "primary_expression", the "conditional_expression", the "named_expression",
    the "as_pattern"],
  category "primary_expression" [the "await", the "binary_operator", the "identifier",
    the "keyword_identifier", the "string", the "concatenated_string", the "integer", the "float",
    the "true", the "false", the "none", the "unary_operator", the "attribute", the "subscript",
    the "call", the "list", the "list_comprehension", the "dictionary",
    the "dictionary_comprehension", the "set", the "set_comprehension", the "tuple",
    the "parenthesized_expression", the "generator_expression", the "ellipsis",
    shownAs "list_splat" (the "list_splat_pattern")],
  node "not_operator" (atLevel 12 (all [word "not", field "argument" (the "expression")])),
  node "boolean_operator" (any [leftAt 11 (operation "expression" "and"),
    leftAt 10 (operation "expression" "or")]),
  node "binary_operator" (any [
    leftAt 18 (operation "primary_expression" "+"),
    leftAt 18 (operation "primary_expression" "-"),
    leftAt 19 (operation "primary_expression" "*"),
    leftAt 19 (operation "primary_expression" "@"),
    leftAt 19 (operation "primary_expression" "/"),
    leftAt 19 (operation "primary_expression" "%"),
    leftAt 19 (operation "primary_expression" "//"),
    rightAt 21 (operation "primary_expression" "**"),
    leftAt 14 (operation "primary_expression" "|"),
    leftAt 15 (operation "primary_expression" "&"),
    leftAt 16 (operation "primary_expression" "^"),
    leftAt 17 (operation "primary_expression" "<<"),
    leftAt 17 (operation "primary_expression" ">>")]),
  node "unary_operator" (atLevel 20 (all [field "operator" (any [word "+", word "-", word "~"]),
    field "argument" (the "primary_expression")])),
  .rule "_not_in" (.nodeNamed "not in" false true) (all [word "not", word "in"]),
  .rule "_is_not" (.nodeNamed "is not" false true) (all [word "is", word "not"]),
  node "comparison_operator" (leftAt 13 (all [the "primary_expression",
    many (all [
      field "operators" (any [word "<", word "<=", word "==", word "!=", word ">=", word ">",
        word "<>", word "in", the "_not_in", word "is", the "_is_not"]),
      the "primary_expression"])])),
  node "lambda" (atLevel (-2) (all [word "lambda",
    field "parameters" (optional (the "lambda_parameters")), word ":",
    field "body" (the "expression")])),
  .rule "lambda_within_for_in_clause" (.nodeNamed "lambda" true false) (all [word "lambda",
    field "parameters" (optional (the "lambda_parameters")), word ":",
    field "body" (the "_expression_within_for_in_clause")])]

/-- Assignments, with all that may stand on either side. -/
def assignmentRules : List Definition := [
  node "assignment" (all [field "left" (the "_left_hand_side"), any [
    all [word "=", field "right" (the "_right_hand_side")],
    all [word ":", field "type" (the "type")],
    all [word ":", field "type" (the "type"), word "=", field "right" (the "_right_hand_side")]]]),
  node "augmented_assignment" (all [field "left" (the "_left_hand_side"),
    field "operator" (any (["+=", "-=", "*=", "/=", "@=", "//=", "%=", "**=", ">>=", "<<=", "&=",
      "^=", "|="].map word)),
    field "right" (the "_right_hand_side")]),
  inlined "_left_hand_side" (any [the "pattern", the "pattern_list"]),
  node "pattern_list" (all [the "pattern", any [word ",",
    all [many (all [word ",", the "pattern"]), lastComma]]]),
  hidden "_right_hand_side" (any [the "expression", the "expression_list", the "assignment",
    the "augmented_assignment", the "pattern_list", the "yield"]),
  node "yield" (rightAt 0 (all [word "yield", any [all [word "from", the "expression"],
    optional (the "_expressions")]]))]

/-- Calls, attributes and types. -/
def accessRules : List Definition := [
  node "attribute" (atLevel 22 (all [field "object" (the "primary_expression"), word ".",
    field "attribute" (the "identifier")])),
  node "subscript" (atLevel 22 (all [field "value" (the "primary_expression"), word "[",
    commaSeparated (field "subscript" (any [the "expression", the "slice"])), lastComma,
    word "]"])),
  node "slice" (all [optional (the "expression"), word ":", optional (the "expression"),
    optional (all [word ":", optional (the "expression")])]),
  .token (.keyword "ellipsis" "..."),
  node "call" (atLevel 22 (all [field "function" (the "primary_expression"),
    field "arguments" (any [the "generator_expression", the "argument_list"])])),
  node "typed_parameter" (atLevel (-1) (all [any [the "identifier", the "list_splat_pattern",
    the "dictionary_splat_pattern"], word ":", field "type" (the "type")])),
  node "type" (any [atLevel 1 (the "expression"), the "splat_type", the "generic_type",
    the "union_type", the "constrained_type", the "member_type"]),
  node "splat_type" (atLevel 1 (all [any [word "*", word "**"], the "identifier"])),
  node "generic_type" (atLevel 1 (all [any [the "identifier", shownAs "identifier" (word "type")],
    the "type_parameter"])),
  node "union_type" (leftAt 0 (all [the "type", word "|", the "type"])),
  node "constrained_type" (rightAt 0 (all [the "type", word ":", the "type"])),
  node "member_type" (all [the "type", word ".", the "identifier"]),
  node "keyword_argument" (all [field "name" (any [the "identifier", the "keyword_identifier"]),
    word "=", field "value" (the "expression")])]

/-- Collections and comprehensions. -/
def collectionRules : List Definition := [
  node "list" (all [word "[", optional (the "_collection_elements"), word "]"]),
  node "set" (all [word "\x7b", the "_collection_elements", word "\x7d"]),
  node "tuple" (all [word "(", optional (the "_collection_elements"), word ")"]),
  node "dictionary" (all [word "\x7b",
    optional (commaSeparated (any [the "pair", the "dictionary_splat"])), lastComma,
    word "\x7d"]),
  node "pair" (all [field "key" (the "expression"), word ":", field "value" (the "expression")]),
  node "list_comprehension" (all [word "[", field "body" (the "expression"),
    the "_comprehension_clauses", word "]"]),
  node "dictionary_comprehension" (all [word "\x7b", field "body" (the "pair"),
    the "_comprehension_clauses", word "\x7d"]),
  node "set_comprehension" (all [word "\x7b", field "body" (the "expression"),
    the "_comprehension_clauses", word "\x7d"]),
  node "generator_expression" (all [word "(", field "body" (the "expression"),
    the "_comprehension_clauses", word ")"]),
  hidden "_comprehension_clauses" (all [the "for_in_clause",
    repeated (any [the "for_in_clause", the "if_clause"])]),
  node "parenthesized_expression"
    (atLevel 1 (all [word "(", any [the "expression", the "yield"], word ")"])),
  hidden "_collection_elements" (all [
    commaSeparated (any [the "expression", the "yield", the "list_splat",
      the "parenthesized_list_splat"]),
    lastComma]),
  node "for_in_clause" (leftAt 0 (all [maybeAsync, word "for",
    field "left" (the "_left_hand_side"), word "in",
    field "right" (commaSeparated (the "_expression_within_for_in_clause")), lastComma])),
  node "if_clause" (all [word "if", the "expression"]),
  node "conditional_expression" (rightAt (-1) (all [the "expression", word "if",
    the "expression", word "else", the "expression"]))]

/-- Strings with their contents, and the remaining tokens. -/
def literalRules : List Definition := [
  node "concatenated_string" (all [the "string", many (the "string")]),
  node "string" (all [the "string_start",
    repeated (any [the "interpolation", the "string_content"]), the "string_end"]),
  node "string_content" (rightAt 0 (many (any [the "escape_interpolation",
    the "escape_sequence", the "_not_escape_sequence", the "_string_content"]))),
  node "interpolation" (all [word "\x7b", field "expression" (the "_f_expression"),
    optional (word "="), optional (field "type_conversion" (the "type_conversion")),
    optional (field "format_specifier" (the "format_specifier")), word "\x7d"]),
  hidden "_f_expression" (any [the "expression", the "expression_list", the "pattern_list",
    the "yield"]),
  .token escapeSequence,
  .token loneBackslash,
  hidden "_not_escape_sequence" (word "\\"),
  .token formatText,
  node "format_specifier" (all [word ":", repeated (any [the "format text",
    shownAs "format_expression" (the "interpolation")])]),
  .token typeConversion,
  .token integer,
  .token float,
  .token identifier,
  inlined "keyword_identifier" (any [
    atLevel (-3) (shownAs "identifier"
      (any [word "print", word "exec", word "async", word "await"])),
    shownAs "identifier" (any [word "type", word "match"])]),
  .token (.keyword "true" "True"),
  .token (.keyword "false" "False"),
  .token (.keyword "none" "None"),
  node "await" (atLevel 20 (all [word "await", the "primary_expression"])),
  .token comment,
  .token lineContinuation,
  node "positional_separator" (word "/"),
  node "keyword_separator" (word "*")]

/-- The rules of expressions. -/
def expressions : List Definition :=
  parameterRules ++ operatorRules ++ assignmentRules ++ accessRules ++ collectionRules ++
    literalRules

/-- The grammar of Python. -/
def grammar : Grammar where
  definitions := statements ++ expressions
  layoutTokens := layoutTokens
  blanks := blank
  extras := ["comment", "line_continuation"]
  wordToken := "identifier"

end EnergyAudit.Python
