/-!
# The grammar of C and its LALR(1) table

The grammar describes C declarations, statements and expressions, with a
production for line-marker-free directives (`pp_directive`) that the parser
refuses, and `_opt` nonterminals for optional parts. Binary operators share one
nonterminal; their precedence and associativity are resolved in the table.

The table is the LALR(1) automaton of the grammar, conflicts resolved the usual
way: a shift wins over a reduction unless the precedence of the operators says
otherwise, and of two reductions the earlier production wins. It is kept as
rows of text and read once into arrays: `action` and `goto` look a state's entries up.
-/

namespace Basis.C.Grammar

/-- The terminals of the grammar, by their names, in the order of their numbers. -/
def terminals : Array String := #[
  "$end", "AND", "ANDEQUAL", "ARROW", "AUTO", "BREAK", "CASE", "CHAR",
  "CHAR_CONST", "COLON", "COMMA", "CONDOP", "CONST", "CONTINUE", "DEFAULT", "DIVEQUAL",
  "DIVIDE", "DO", "DOUBLE", "ELLIPSIS", "ELSE", "ENUM", "EQ", "EQUALS",
  "EXTERN", "FLOAT", "FLOAT_CONST", "FOR", "GE", "GOTO", "GT", "HEX_FLOAT_CONST",
  "ID", "IF", "INLINE", "INT", "INT_CONST_BIN", "INT_CONST_DEC", "INT_CONST_HEX", "INT_CONST_OCT",
  "LAND", "LBRACE", "LBRACKET", "LE", "LNOT", "LONG", "LOR", "LPAREN",
  "LSHIFT", "LSHIFTEQUAL", "LT", "MINUS", "MINUSEQUAL", "MINUSMINUS", "MOD", "MODEQUAL",
  "NE", "NOT", "OFFSETOF", "OR", "OREQUAL", "PERIOD", "PLUS", "PLUSEQUAL",
  "PLUSPLUS", "PPHASH", "RBRACE", "RBRACKET", "REGISTER", "RESTRICT", "RETURN", "RPAREN",
  "RSHIFT", "RSHIFTEQUAL", "SEMI", "SHORT", "SIGNED", "SIZEOF", "STATIC", "STRING_LITERAL",
  "STRUCT", "SWITCH", "TIMES", "TIMESEQUAL", "TYPEDEF", "TYPEID", "UNION", "UNSIGNED",
  "VOID", "VOLATILE", "WCHAR_CONST", "WHILE", "WSTRING_LITERAL", "XOR", "XOREQUAL", "_BOOL",
  "_COMPLEX"]

/-- The nonterminals of the grammar, in the order of their numbers. -/
def nonterminals : Array String := #[
  "start", "abstract_declarator_opt", "assignment_expression_opt", "block_item_list_opt", "declaration_list_opt",
  "declaration_specifiers_opt", "designation_opt", "expression_opt", "identifier_list_opt", "init_declarator_list_opt",
  "initializer_list_opt", "parameter_type_list_opt", "specifier_qualifier_list_opt", "struct_declarator_list_opt", "type_qualifier_list_opt",
  "translation_unit_or_empty", "translation_unit", "external_declaration", "pp_directive", "function_definition",
  "statement", "decl_body", "declaration", "declaration_list", "declaration_specifiers",
  "storage_class_specifier", "function_specifier", "type_specifier", "type_qualifier", "init_declarator_list",
  "init_declarator", "specifier_qualifier_list", "struct_or_union_specifier", "struct_or_union", "struct_declaration_list",
  "struct_declaration", "struct_declarator_list", "struct_declarator", "enum_specifier", "enumerator_list",
  "enumerator", "declarator", "direct_declarator", "pointer", "type_qualifier_list",
  "parameter_type_list", "parameter_list", "parameter_declaration", "identifier_list", "initializer",
  "initializer_list", "designation", "designator_list", "designator", "type_name",
  "abstract_declarator", "direct_abstract_declarator", "block_item", "block_item_list", "compound_statement",
  "labeled_statement", "selection_statement", "iteration_statement", "jump_statement", "expression_statement",
  "expression", "typedef_name", "assignment_expression", "assignment_operator", "constant_expression",
  "conditional_expression", "binary_expression", "cast_expression", "unary_expression", "unary_operator",
  "postfix_expression", "primary_expression", "argument_expression_list", "identifier", "constant",
  "unified_string_literal", "unified_wstring_literal", "brace_open", "brace_close", "empty"]

/-- The productions: the nonterminal on the left and the symbols on the right, by
name and separated by blanks. -/
def productionTexts : Array (String × String) := #[
  ("start", "translation_unit_or_empty"),
  ("abstract_declarator_opt", "empty"),
  ("abstract_declarator_opt", "abstract_declarator"),
  ("assignment_expression_opt", "empty"),
  ("assignment_expression_opt", "assignment_expression"),
  ("block_item_list_opt", "empty"),
  ("block_item_list_opt", "block_item_list"),
  ("declaration_list_opt", "empty"),
  ("declaration_list_opt", "declaration_list"),
  ("declaration_specifiers_opt", "empty"),
  ("declaration_specifiers_opt", "declaration_specifiers"),
  ("designation_opt", "empty"),
  ("designation_opt", "designation"),
  ("expression_opt", "empty"),
  ("expression_opt", "expression"),
  ("identifier_list_opt", "empty"),
  ("identifier_list_opt", "identifier_list"),
  ("init_declarator_list_opt", "empty"),
  ("init_declarator_list_opt", "init_declarator_list"),
  ("initializer_list_opt", "empty"),
  ("initializer_list_opt", "initializer_list"),
  ("parameter_type_list_opt", "empty"),
  ("parameter_type_list_opt", "parameter_type_list"),
  ("specifier_qualifier_list_opt", "empty"),
  ("specifier_qualifier_list_opt", "specifier_qualifier_list"),
  ("struct_declarator_list_opt", "empty"),
  ("struct_declarator_list_opt", "struct_declarator_list"),
  ("type_qualifier_list_opt", "empty"),
  ("type_qualifier_list_opt", "type_qualifier_list"),
  ("translation_unit_or_empty", "translation_unit"),
  ("translation_unit_or_empty", "empty"),
  ("translation_unit", "external_declaration"),
  ("translation_unit", "translation_unit external_declaration"),
  ("external_declaration", "function_definition"),
  ("external_declaration", "declaration"),
  ("external_declaration", "pp_directive"),
  ("external_declaration", "SEMI"),
  ("pp_directive", "PPHASH"),
  ("function_definition", "declarator declaration_list_opt compound_statement"),
  ("function_definition", "declaration_specifiers declarator declaration_list_opt compound_statement"),
  ("statement", "labeled_statement"),
  ("statement", "expression_statement"),
  ("statement", "compound_statement"),
  ("statement", "selection_statement"),
  ("statement", "iteration_statement"),
  ("statement", "jump_statement"),
  ("decl_body", "declaration_specifiers init_declarator_list_opt"),
  ("declaration", "decl_body SEMI"),
  ("declaration_list", "declaration"),
  ("declaration_list", "declaration_list declaration"),
  ("declaration_specifiers", "type_qualifier declaration_specifiers_opt"),
  ("declaration_specifiers", "type_specifier declaration_specifiers_opt"),
  ("declaration_specifiers", "storage_class_specifier declaration_specifiers_opt"),
  ("declaration_specifiers", "function_specifier declaration_specifiers_opt"),
  ("storage_class_specifier", "AUTO"),
  ("storage_class_specifier", "REGISTER"),
  ("storage_class_specifier", "STATIC"),
  ("storage_class_specifier", "EXTERN"),
  ("storage_class_specifier", "TYPEDEF"),
  ("function_specifier", "INLINE"),
  ("type_specifier", "VOID"),
  ("type_specifier", "_BOOL"),
  ("type_specifier", "CHAR"),
  ("type_specifier", "SHORT"),
  ("type_specifier", "INT"),
  ("type_specifier", "LONG"),
  ("type_specifier", "FLOAT"),
  ("type_specifier", "DOUBLE"),
  ("type_specifier", "_COMPLEX"),
  ("type_specifier", "SIGNED"),
  ("type_specifier", "UNSIGNED"),
  ("type_specifier", "typedef_name"),
  ("type_specifier", "enum_specifier"),
  ("type_specifier", "struct_or_union_specifier"),
  ("type_qualifier", "CONST"),
  ("type_qualifier", "RESTRICT"),
  ("type_qualifier", "VOLATILE"),
  ("init_declarator_list", "init_declarator"),
  ("init_declarator_list", "init_declarator_list COMMA init_declarator"),
  ("init_declarator_list", "EQUALS initializer"),
  ("init_declarator_list", "abstract_declarator"),
  ("init_declarator", "declarator"),
  ("init_declarator", "declarator EQUALS initializer"),
  ("specifier_qualifier_list", "type_qualifier specifier_qualifier_list_opt"),
  ("specifier_qualifier_list", "type_specifier specifier_qualifier_list_opt"),
  ("struct_or_union_specifier", "struct_or_union ID"),
  ("struct_or_union_specifier", "struct_or_union TYPEID"),
  ("struct_or_union_specifier", "struct_or_union brace_open struct_declaration_list brace_close"),
  ("struct_or_union_specifier", "struct_or_union ID brace_open struct_declaration_list brace_close"),
  ("struct_or_union_specifier", "struct_or_union TYPEID brace_open struct_declaration_list brace_close"),
  ("struct_or_union", "STRUCT"),
  ("struct_or_union", "UNION"),
  ("struct_declaration_list", "struct_declaration"),
  ("struct_declaration_list", "struct_declaration_list struct_declaration"),
  ("struct_declaration", "specifier_qualifier_list struct_declarator_list_opt SEMI"),
  ("struct_declaration", "specifier_qualifier_list abstract_declarator SEMI"),
  ("struct_declarator_list", "struct_declarator"),
  ("struct_declarator_list", "struct_declarator_list COMMA struct_declarator"),
  ("struct_declarator", "declarator"),
  ("struct_declarator", "declarator COLON constant_expression"),
  ("struct_declarator", "COLON constant_expression"),
  ("enum_specifier", "ENUM ID"),
  ("enum_specifier", "ENUM TYPEID"),
  ("enum_specifier", "ENUM brace_open enumerator_list brace_close"),
  ("enum_specifier", "ENUM ID brace_open enumerator_list brace_close"),
  ("enum_specifier", "ENUM TYPEID brace_open enumerator_list brace_close"),
  ("enumerator_list", "enumerator"),
  ("enumerator_list", "enumerator_list COMMA"),
  ("enumerator_list", "enumerator_list COMMA enumerator"),
  ("enumerator", "ID"),
  ("enumerator", "ID EQUALS constant_expression"),
  ("declarator", "direct_declarator"),
  ("declarator", "pointer direct_declarator"),
  ("declarator", "pointer TYPEID"),
  ("direct_declarator", "ID"),
  ("direct_declarator", "LPAREN declarator RPAREN"),
  ("direct_declarator", "direct_declarator LBRACKET type_qualifier_list_opt assignment_expression_opt RBRACKET"),
  ("direct_declarator", "direct_declarator LBRACKET STATIC type_qualifier_list_opt assignment_expression RBRACKET"),
  ("direct_declarator", "direct_declarator LBRACKET type_qualifier_list STATIC assignment_expression RBRACKET"),
  ("direct_declarator", "direct_declarator LBRACKET type_qualifier_list_opt TIMES RBRACKET"),
  ("direct_declarator", "direct_declarator LPAREN parameter_type_list RPAREN"),
  ("direct_declarator", "direct_declarator LPAREN identifier_list_opt RPAREN"),
  ("pointer", "TIMES type_qualifier_list_opt"),
  ("pointer", "TIMES type_qualifier_list_opt pointer"),
  ("type_qualifier_list", "type_qualifier"),
  ("type_qualifier_list", "type_qualifier_list type_qualifier"),
  ("parameter_type_list", "parameter_list"),
  ("parameter_type_list", "parameter_list COMMA ELLIPSIS"),
  ("parameter_list", "parameter_declaration"),
  ("parameter_list", "parameter_list COMMA parameter_declaration"),
  ("parameter_declaration", "declaration_specifiers declarator"),
  ("parameter_declaration", "declaration_specifiers abstract_declarator_opt"),
  ("identifier_list", "identifier"),
  ("identifier_list", "identifier_list COMMA identifier"),
  ("initializer", "assignment_expression"),
  ("initializer", "brace_open initializer_list_opt brace_close"),
  ("initializer", "brace_open initializer_list COMMA brace_close"),
  ("initializer_list", "designation_opt initializer"),
  ("initializer_list", "initializer_list COMMA designation_opt initializer"),
  ("designation", "designator_list EQUALS"),
  ("designator_list", "designator"),
  ("designator_list", "designator_list designator"),
  ("designator", "LBRACKET constant_expression RBRACKET"),
  ("designator", "PERIOD identifier"),
  ("type_name", "specifier_qualifier_list abstract_declarator_opt"),
  ("abstract_declarator", "pointer"),
  ("abstract_declarator", "pointer direct_abstract_declarator"),
  ("abstract_declarator", "direct_abstract_declarator"),
  ("direct_abstract_declarator", "LPAREN abstract_declarator RPAREN"),
  ("direct_abstract_declarator", "direct_abstract_declarator LBRACKET assignment_expression_opt RBRACKET"),
  ("direct_abstract_declarator", "LBRACKET assignment_expression_opt RBRACKET"),
  ("direct_abstract_declarator", "direct_abstract_declarator LBRACKET TIMES RBRACKET"),
  ("direct_abstract_declarator", "LBRACKET TIMES RBRACKET"),
  ("direct_abstract_declarator", "direct_abstract_declarator LPAREN parameter_type_list_opt RPAREN"),
  ("direct_abstract_declarator", "LPAREN parameter_type_list_opt RPAREN"),
  ("block_item", "declaration"),
  ("block_item", "statement"),
  ("block_item_list", "block_item"),
  ("block_item_list", "block_item_list block_item"),
  ("compound_statement", "brace_open block_item_list_opt brace_close"),
  ("labeled_statement", "ID COLON statement"),
  ("labeled_statement", "CASE constant_expression COLON statement"),
  ("labeled_statement", "DEFAULT COLON statement"),
  ("selection_statement", "IF LPAREN expression RPAREN statement"),
  ("selection_statement", "IF LPAREN expression RPAREN statement ELSE statement"),
  ("selection_statement", "SWITCH LPAREN expression RPAREN statement"),
  ("iteration_statement", "WHILE LPAREN expression RPAREN statement"),
  ("iteration_statement", "DO statement WHILE LPAREN expression RPAREN SEMI"),
  ("iteration_statement", "FOR LPAREN expression_opt SEMI expression_opt SEMI expression_opt RPAREN statement"),
  ("iteration_statement", "FOR LPAREN declaration expression_opt SEMI expression_opt RPAREN statement"),
  ("jump_statement", "GOTO ID SEMI"),
  ("jump_statement", "BREAK SEMI"),
  ("jump_statement", "CONTINUE SEMI"),
  ("jump_statement", "RETURN expression SEMI"),
  ("jump_statement", "RETURN SEMI"),
  ("expression_statement", "expression_opt SEMI"),
  ("expression", "assignment_expression"),
  ("expression", "expression COMMA assignment_expression"),
  ("typedef_name", "TYPEID"),
  ("assignment_expression", "conditional_expression"),
  ("assignment_expression", "unary_expression assignment_operator assignment_expression"),
  ("assignment_operator", "EQUALS"),
  ("assignment_operator", "XOREQUAL"),
  ("assignment_operator", "TIMESEQUAL"),
  ("assignment_operator", "DIVEQUAL"),
  ("assignment_operator", "MODEQUAL"),
  ("assignment_operator", "PLUSEQUAL"),
  ("assignment_operator", "MINUSEQUAL"),
  ("assignment_operator", "LSHIFTEQUAL"),
  ("assignment_operator", "RSHIFTEQUAL"),
  ("assignment_operator", "ANDEQUAL"),
  ("assignment_operator", "OREQUAL"),
  ("constant_expression", "conditional_expression"),
  ("conditional_expression", "binary_expression"),
  ("conditional_expression", "binary_expression CONDOP expression COLON conditional_expression"),
  ("binary_expression", "cast_expression"),
  ("binary_expression", "binary_expression TIMES binary_expression"),
  ("binary_expression", "binary_expression DIVIDE binary_expression"),
  ("binary_expression", "binary_expression MOD binary_expression"),
  ("binary_expression", "binary_expression PLUS binary_expression"),
  ("binary_expression", "binary_expression MINUS binary_expression"),
  ("binary_expression", "binary_expression RSHIFT binary_expression"),
  ("binary_expression", "binary_expression LSHIFT binary_expression"),
  ("binary_expression", "binary_expression LT binary_expression"),
  ("binary_expression", "binary_expression LE binary_expression"),
  ("binary_expression", "binary_expression GE binary_expression"),
  ("binary_expression", "binary_expression GT binary_expression"),
  ("binary_expression", "binary_expression EQ binary_expression"),
  ("binary_expression", "binary_expression NE binary_expression"),
  ("binary_expression", "binary_expression AND binary_expression"),
  ("binary_expression", "binary_expression OR binary_expression"),
  ("binary_expression", "binary_expression XOR binary_expression"),
  ("binary_expression", "binary_expression LAND binary_expression"),
  ("binary_expression", "binary_expression LOR binary_expression"),
  ("cast_expression", "unary_expression"),
  ("cast_expression", "LPAREN type_name RPAREN cast_expression"),
  ("unary_expression", "postfix_expression"),
  ("unary_expression", "PLUSPLUS unary_expression"),
  ("unary_expression", "MINUSMINUS unary_expression"),
  ("unary_expression", "unary_operator cast_expression"),
  ("unary_expression", "SIZEOF unary_expression"),
  ("unary_expression", "SIZEOF LPAREN type_name RPAREN"),
  ("unary_operator", "AND"),
  ("unary_operator", "TIMES"),
  ("unary_operator", "PLUS"),
  ("unary_operator", "MINUS"),
  ("unary_operator", "NOT"),
  ("unary_operator", "LNOT"),
  ("postfix_expression", "primary_expression"),
  ("postfix_expression", "postfix_expression LBRACKET expression RBRACKET"),
  ("postfix_expression", "postfix_expression LPAREN argument_expression_list RPAREN"),
  ("postfix_expression", "postfix_expression LPAREN RPAREN"),
  ("postfix_expression", "postfix_expression PERIOD ID"),
  ("postfix_expression", "postfix_expression PERIOD TYPEID"),
  ("postfix_expression", "postfix_expression ARROW ID"),
  ("postfix_expression", "postfix_expression ARROW TYPEID"),
  ("postfix_expression", "postfix_expression PLUSPLUS"),
  ("postfix_expression", "postfix_expression MINUSMINUS"),
  ("postfix_expression", "LPAREN type_name RPAREN brace_open initializer_list brace_close"),
  ("postfix_expression", "LPAREN type_name RPAREN brace_open initializer_list COMMA brace_close"),
  ("primary_expression", "identifier"),
  ("primary_expression", "constant"),
  ("primary_expression", "unified_string_literal"),
  ("primary_expression", "unified_wstring_literal"),
  ("primary_expression", "LPAREN expression RPAREN"),
  ("primary_expression", "OFFSETOF LPAREN type_name COMMA identifier RPAREN"),
  ("argument_expression_list", "assignment_expression"),
  ("argument_expression_list", "argument_expression_list COMMA assignment_expression"),
  ("identifier", "ID"),
  ("constant", "INT_CONST_DEC"),
  ("constant", "INT_CONST_OCT"),
  ("constant", "INT_CONST_HEX"),
  ("constant", "INT_CONST_BIN"),
  ("constant", "FLOAT_CONST"),
  ("constant", "HEX_FLOAT_CONST"),
  ("constant", "CHAR_CONST"),
  ("constant", "WCHAR_CONST"),
  ("unified_string_literal", "STRING_LITERAL"),
  ("unified_string_literal", "unified_string_literal STRING_LITERAL"),
  ("unified_wstring_literal", "WSTRING_LITERAL"),
  ("unified_wstring_literal", "unified_wstring_literal WSTRING_LITERAL"),
  ("brace_open", "LBRACE"),
  ("brace_close", "RBRACE"),
  ("empty", "")]

/-- The actions of the states, a row per state: for each
terminal with an action its number and the action, a positive number to shift
to that state, a negative one to reduce by that production, zero to accept. -/
def actionRows : Array String := #[
  "0:-263 4:21 7:37 12:3 18:40 21:24 24:10 25:35 32:33 34:49 35:39 45:19 47:4 65:38 68:17 69:32 74:15 75:2 76:43 78:9 80:34 82:28 84:23 85:25 86:20 87:18 88:6 89:46 95:13 96:27",
  "4:21 7:37 10:-263 12:3 18:40 21:24 23:-263 24:10 25:35 32:-263 34:49 35:39 42:-263 45:19 47:-263 68:17 69:32 71:-263 74:-263 75:2 76:43 78:9 80:34 82:-263 84:23 85:25 86:20 87:18 88:6 89:46 95:13 96:27",
  "4:-63 7:-63 9:-63 10:-63 12:-63 18:-63 21:-63 23:-63 24:-63 25:-63 32:-63 34:-63 35:-63 42:-63 45:-63 47:-63 68:-63 69:-63 71:-63 74:-63 75:-63 76:-63 78:-63 80:-63 82:-63 84:-63 85:-63 86:-63 87:-63 88:-63 89:-63 95:-63 96:-63",
  "1:-74 4:-74 7:-74 8:-74 9:-74 10:-74 12:-74 18:-74 21:-74 23:-74 24:-74 25:-74 26:-74 31:-74 32:-74 34:-74 35:-74 36:-74 37:-74 38:-74 39:-74 42:-74 44:-74 45:-74 47:-74 51:-74 53:-74 57:-74 58:-74 62:-74 64:-74 67:-74 68:-74 69:-74 71:-74 74:-74 75:-74 76:-74 77:-74 78:-74 79:-74 80:-74 82:-74 84:-74 85:-74 86:-74 87:-74 88:-74 89:-74 90:-74 92:-74 95:-74 96:-74",
  "32:33 47:4 82:28",
  "4:-73 7:-73 9:-73 10:-73 12:-73 18:-73 21:-73 23:-73 24:-73 25:-73 32:-73 34:-73 35:-73 42:-73 45:-73 47:-73 68:-73 69:-73 71:-73 74:-73 75:-73 76:-73 78:-73 80:-73 82:-73 84:-73 85:-73 86:-73 87:-73 88:-73 89:-73 95:-73 96:-73",
  "4:-60 7:-60 9:-60 10:-60 12:-60 18:-60 21:-60 23:-60 24:-60 25:-60 32:-60 34:-60 35:-60 42:-60 45:-60 47:-60 68:-60 69:-60 71:-60 74:-60 75:-60 76:-60 78:-60 80:-60 82:-60 84:-60 85:-60 86:-60 87:-60 88:-60 89:-60 95:-60 96:-60",
  "32:56 41:55 85:54",
  "0:0",
  "4:-56 7:-56 10:-56 12:-56 18:-56 21:-56 23:-56 24:-56 25:-56 32:-56 34:-56 35:-56 42:-56 45:-56 47:-56 68:-56 69:-56 71:-56 74:-56 75:-56 76:-56 78:-56 80:-56 82:-56 84:-56 85:-56 86:-56 87:-56 88:-56 89:-56 95:-56 96:-56",
  "4:-57 7:-57 10:-57 12:-57 18:-57 21:-57 23:-57 24:-57 25:-57 32:-57 34:-57 35:-57 42:-57 45:-57 47:-57 68:-57 69:-57 71:-57 74:-57 75:-57 76:-57 78:-57 80:-57 82:-57 84:-57 85:-57 86:-57 87:-57 88:-57 89:-57 95:-57 96:-57",
  "0:-35 4:-35 7:-35 12:-35 18:-35 21:-35 24:-35 25:-35 32:-35 34:-35 35:-35 45:-35 47:-35 65:-35 68:-35 69:-35 74:-35 75:-35 76:-35 78:-35 80:-35 82:-35 84:-35 85:-35 86:-35 87:-35 88:-35 89:-35 95:-35 96:-35",
  "0:-31 4:-31 7:-31 12:-31 18:-31 21:-31 24:-31 25:-31 32:-31 34:-31 35:-31 45:-31 47:-31 65:-31 68:-31 69:-31 74:-31 75:-31 76:-31 78:-31 80:-31 82:-31 84:-31 85:-31 86:-31 87:-31 88:-31 89:-31 95:-31 96:-31",
  "4:-61 7:-61 9:-61 10:-61 12:-61 18:-61 21:-61 23:-61 24:-61 25:-61 32:-61 34:-61 35:-61 42:-61 45:-61 47:-61 68:-61 69:-61 71:-61 74:-61 75:-61 76:-61 78:-61 80:-61 82:-61 84:-61 85:-61 86:-61 87:-61 88:-61 89:-61 95:-61 96:-61",
  "4:21 7:37 10:-263 12:3 18:40 21:24 23:-263 24:10 25:35 32:-263 34:49 35:39 42:-263 45:19 47:-263 68:17 69:32 71:-263 74:-263 75:2 76:43 78:9 80:34 82:-263 84:23 85:25 86:20 87:18 88:6 89:46 95:13 96:27",
  "0:-36 4:-36 7:-36 12:-36 18:-36 21:-36 24:-36 25:-36 32:-36 34:-36 35:-36 45:-36 47:-36 65:-36 68:-36 69:-36 74:-36 75:-36 76:-36 78:-36 80:-36 82:-36 84:-36 85:-36 86:-36 87:-36 88:-36 89:-36 95:-36 96:-36",
  "32:33 47:4 85:59",
  "4:-55 7:-55 10:-55 12:-55 18:-55 21:-55 23:-55 24:-55 25:-55 32:-55 34:-55 35:-55 42:-55 45:-55 47:-55 68:-55 69:-55 71:-55 74:-55 75:-55 76:-55 78:-55 80:-55 82:-55 84:-55 85:-55 86:-55 87:-55 88:-55 89:-55 95:-55 96:-55",
  "4:-70 7:-70 9:-70 10:-70 12:-70 18:-70 21:-70 23:-70 24:-70 25:-70 32:-70 34:-70 35:-70 42:-70 45:-70 47:-70 68:-70 69:-70 71:-70 74:-70 75:-70 76:-70 78:-70 80:-70 82:-70 84:-70 85:-70 86:-70 87:-70 88:-70 89:-70 95:-70 96:-70",
  "4:-65 7:-65 9:-65 10:-65 12:-65 18:-65 21:-65 23:-65 24:-65 25:-65 32:-65 34:-65 35:-65 42:-65 45:-65 47:-65 68:-65 69:-65 71:-65 74:-65 75:-65 76:-65 78:-65 80:-65 82:-65 84:-65 85:-65 86:-65 87:-65 88:-65 89:-65 95:-65 96:-65",
  "32:-91 41:-91 85:-91",
  "4:-54 7:-54 10:-54 12:-54 18:-54 21:-54 23:-54 24:-54 25:-54 32:-54 34:-54 35:-54 42:-54 45:-54 47:-54 68:-54 69:-54 71:-54 74:-54 75:-54 76:-54 78:-54 80:-54 82:-54 84:-54 85:-54 86:-54 87:-54 88:-54 89:-54 95:-54 96:-54",
  "0:-29 4:21 7:37 12:3 18:40 21:24 24:10 25:35 32:33 34:49 35:39 45:19 47:4 65:38 68:17 69:32 74:15 75:2 76:43 78:9 80:34 82:28 84:23 85:25 86:20 87:18 88:6 89:46 95:13 96:27",
  "4:-58 7:-58 10:-58 12:-58 18:-58 21:-58 23:-58 24:-58 25:-58 32:-58 34:-58 35:-58 42:-58 45:-58 47:-58 68:-58 69:-58 71:-58 74:-58 75:-58 76:-58 78:-58 80:-58 82:-58 84:-58 85:-58 86:-58 87:-58 88:-58 89:-58 95:-58 96:-58",
  "32:63 41:55 85:62",
  "4:-178 7:-178 9:-178 10:-178 12:-178 18:-178 21:-178 23:-178 24:-178 25:-178 32:-178 34:-178 35:-178 42:-178 45:-178 47:-178 68:-178 69:-178 71:-178 74:-178 75:-178 76:-178 78:-178 80:-178 82:-178 84:-178 85:-178 86:-178 87:-178 88:-178 89:-178 95:-178 96:-178",
  "4:-111 7:-111 9:-111 10:-111 12:-111 18:-111 21:-111 23:-111 24:-111 25:-111 34:-111 35:-111 41:-111 42:65 45:-111 47:66 68:-111 69:-111 71:-111 74:-111 75:-111 76:-111 78:-111 80:-111 84:-111 85:-111 86:-111 87:-111 88:-111 89:-111 95:-111 96:-111",
  "4:-68 7:-68 9:-68 10:-68 12:-68 18:-68 21:-68 23:-68 24:-68 25:-68 32:-68 34:-68 35:-68 42:-68 45:-68 47:-68 68:-68 69:-68 71:-68 74:-68 75:-68 76:-68 78:-68 80:-68 82:-68 84:-68 85:-68 86:-68 87:-68 88:-68 89:-68 95:-68 96:-68",
  "10:-263 12:3 32:-263 42:-263 47:-263 69:32 71:-263 74:-263 82:-263 85:-263 89:46",
  "4:-71 7:-71 9:-71 10:-71 12:-71 18:-71 21:-71 23:-71 24:-71 25:-71 32:-71 34:-71 35:-71 42:-71 45:-71 47:-71 68:-71 69:-71 71:-71 74:-71 75:-71 76:-71 78:-71 80:-71 82:-71 84:-71 85:-71 86:-71 87:-71 88:-71 89:-71 95:-71 96:-71",
  "23:77 32:33 42:72 47:78 74:-263 82:28",
  "0:-34 4:-34 7:-34 12:-34 18:-34 21:-34 24:-34 25:-34 32:-34 34:-34 35:-34 45:-34 47:-34 65:-34 68:-34 69:-34 74:-34 75:-34 76:-34 78:-34 80:-34 82:-34 84:-34 85:-34 86:-34 87:-34 88:-34 89:-34 95:-34 96:-34",
  "1:-75 4:-75 7:-75 8:-75 9:-75 10:-75 12:-75 18:-75 21:-75 23:-75 24:-75 25:-75 26:-75 31:-75 32:-75 34:-75 35:-75 36:-75 37:-75 38:-75 39:-75 42:-75 44:-75 45:-75 47:-75 51:-75 53:-75 57:-75 58:-75 62:-75 64:-75 67:-75 68:-75 69:-75 71:-75 74:-75 75:-75 76:-75 77:-75 78:-75 79:-75 80:-75 82:-75 84:-75 85:-75 86:-75 87:-75 88:-75 89:-75 90:-75 92:-75 95:-75 96:-75",
  "4:-114 7:-114 9:-114 10:-114 12:-114 18:-114 21:-114 23:-114 24:-114 25:-114 34:-114 35:-114 41:-114 42:-114 45:-114 47:-114 68:-114 69:-114 71:-114 74:-114 75:-114 76:-114 78:-114 80:-114 84:-114 85:-114 86:-114 87:-114 88:-114 89:-114 95:-114 96:-114",
  "32:-90 41:-90 85:-90",
  "4:-66 7:-66 9:-66 10:-66 12:-66 18:-66 21:-66 23:-66 24:-66 25:-66 32:-66 34:-66 35:-66 42:-66 45:-66 47:-66 68:-66 69:-66 71:-66 74:-66 75:-66 76:-66 78:-66 80:-66 82:-66 84:-66 85:-66 86:-66 87:-66 88:-66 89:-66 95:-66 96:-66",
  "0:-33 4:-33 7:-33 12:-33 18:-33 21:-33 24:-33 25:-33 32:-33 34:-33 35:-33 45:-33 47:-33 65:-33 68:-33 69:-33 74:-33 75:-33 76:-33 78:-33 80:-33 82:-33 84:-33 85:-33 86:-33 87:-33 88:-33 89:-33 95:-33 96:-33",
  "4:-62 7:-62 9:-62 10:-62 12:-62 18:-62 21:-62 23:-62 24:-62 25:-62 32:-62 34:-62 35:-62 42:-62 45:-62 47:-62 68:-62 69:-62 71:-62 74:-62 75:-62 76:-62 78:-62 80:-62 82:-62 84:-62 85:-62 86:-62 87:-62 88:-62 89:-62 95:-62 96:-62",
  "0:-37 4:-37 7:-37 12:-37 18:-37 21:-37 24:-37 25:-37 32:-37 34:-37 35:-37 45:-37 47:-37 65:-37 68:-37 69:-37 74:-37 75:-37 76:-37 78:-37 80:-37 82:-37 84:-37 85:-37 86:-37 87:-37 88:-37 89:-37 95:-37 96:-37",
  "4:-64 7:-64 9:-64 10:-64 12:-64 18:-64 21:-64 23:-64 24:-64 25:-64 32:-64 34:-64 35:-64 42:-64 45:-64 47:-64 68:-64 69:-64 71:-64 74:-64 75:-64 76:-64 78:-64 80:-64 82:-64 84:-64 85:-64 86:-64 87:-64 88:-64 89:-64 95:-64 96:-64",
  "4:-67 7:-67 9:-67 10:-67 12:-67 18:-67 21:-67 23:-67 24:-67 25:-67 32:-67 34:-67 35:-67 42:-67 45:-67 47:-67 68:-67 69:-67 71:-67 74:-67 75:-67 76:-67 78:-67 80:-67 82:-67 84:-67 85:-67 86:-67 87:-67 88:-67 89:-67 95:-67 96:-67",
  "74:82",
  "4:21 7:37 10:-263 12:3 18:40 21:24 23:-263 24:10 25:35 32:-263 34:49 35:39 42:-263 45:19 47:-263 68:17 69:32 71:-263 74:-263 75:2 76:43 78:9 80:34 82:-263 84:23 85:25 86:20 87:18 88:6 89:46 95:13 96:27",
  "4:-69 7:-69 9:-69 10:-69 12:-69 18:-69 21:-69 23:-69 24:-69 25:-69 32:-69 34:-69 35:-69 42:-69 45:-69 47:-69 68:-69 69:-69 71:-69 74:-69 75:-69 76:-69 78:-69 80:-69 82:-69 84:-69 85:-69 86:-69 87:-69 88:-69 89:-69 95:-69 96:-69",
  "4:21 7:37 10:-263 12:3 18:40 21:24 23:-263 24:10 25:35 32:-263 34:49 35:39 42:-263 45:19 47:-263 68:17 69:32 71:-263 74:-263 75:2 76:43 78:9 80:34 82:-263 84:23 85:25 86:20 87:18 88:6 89:46 95:13 96:27",
  "4:-72 7:-72 9:-72 10:-72 12:-72 18:-72 21:-72 23:-72 24:-72 25:-72 32:-72 34:-72 35:-72 42:-72 45:-72 47:-72 68:-72 69:-72 71:-72 74:-72 75:-72 76:-72 78:-72 80:-72 82:-72 84:-72 85:-72 86:-72 87:-72 88:-72 89:-72 95:-72 96:-72",
  "1:-76 4:-76 7:-76 8:-76 9:-76 10:-76 12:-76 18:-76 21:-76 23:-76 24:-76 25:-76 26:-76 31:-76 32:-76 34:-76 35:-76 36:-76 37:-76 38:-76 39:-76 42:-76 44:-76 45:-76 47:-76 51:-76 53:-76 57:-76 58:-76 62:-76 64:-76 67:-76 68:-76 69:-76 71:-76 74:-76 75:-76 76:-76 77:-76 78:-76 79:-76 80:-76 82:-76 84:-76 85:-76 86:-76 87:-76 88:-76 89:-76 90:-76 92:-76 95:-76 96:-76",
  "0:-30",
  "4:21 7:37 12:3 18:40 21:24 24:10 25:35 34:49 35:39 41:-263 45:19 68:17 69:32 75:2 76:43 78:9 80:34 84:23 85:25 86:20 87:18 88:6 89:46 95:13 96:27",
  "4:-59 7:-59 10:-59 12:-59 18:-59 21:-59 23:-59 24:-59 25:-59 32:-59 34:-59 35:-59 42:-59 45:-59 47:-59 68:-59 69:-59 71:-59 74:-59 75:-59 76:-59 78:-59 80:-59 82:-59 84:-59 85:-59 86:-59 87:-59 88:-59 89:-59 95:-59 96:-59",
  "10:-52 23:-52 32:-52 42:-52 47:-52 71:-52 74:-52 82:-52",
  "10:-9 23:-9 32:-9 42:-9 47:-9 71:-9 74:-9 82:-9",
  "10:-10 23:-10 32:-10 42:-10 47:-10 71:-10 74:-10 82:-10",
  "71:90",
  "4:-86 7:-86 9:-86 10:-86 12:-86 18:-86 21:-86 23:-86 24:-86 25:-86 32:-86 34:-86 35:-86 41:55 42:-86 45:-86 47:-86 68:-86 69:-86 71:-86 74:-86 75:-86 76:-86 78:-86 80:-86 82:-86 84:-86 85:-86 86:-86 87:-86 88:-86 89:-86 95:-86 96:-86",
  "1:-261 4:-261 5:-261 6:-261 7:-261 8:-261 12:-261 13:-261 14:-261 17:-261 18:-261 21:-261 24:-261 25:-261 26:-261 27:-261 29:-261 31:-261 32:-261 33:-261 34:-261 35:-261 36:-261 37:-261 38:-261 39:-261 41:-261 42:-261 44:-261 45:-261 47:-261 51:-261 53:-261 57:-261 58:-261 61:-261 62:-261 64:-261 66:-261 68:-261 69:-261 70:-261 74:-261 75:-261 76:-261 77:-261 78:-261 79:-261 80:-261 81:-261 82:-261 84:-261 85:-261 86:-261 87:-261 88:-261 89:-261 90:-261 91:-261 92:-261 95:-261 96:-261",
  "4:-85 7:-85 9:-85 10:-85 12:-85 18:-85 21:-85 23:-85 24:-85 25:-85 32:-85 34:-85 35:-85 41:55 42:-85 45:-85 47:-85 68:-85 69:-85 71:-85 74:-85 75:-85 76:-85 78:-85 80:-85 82:-85 84:-85 85:-85 86:-85 87:-85 88:-85 89:-85 95:-85 96:-85",
  "7:37 12:3 18:40 21:24 25:35 35:39 45:19 69:32 75:2 76:43 80:34 85:25 86:20 87:18 88:6 89:46 95:13 96:27",
  "10:-51 23:-51 32:-51 42:-51 47:-51 71:-51 74:-51 82:-51",
  "4:-113 7:-113 9:-113 10:-113 12:-113 18:-113 21:-113 23:-113 24:-113 25:-113 34:-113 35:-113 41:-113 45:-113 68:-113 69:-113 71:-113 74:-113 75:-113 76:-113 78:-113 80:-113 84:-113 85:-113 86:-113 87:-113 88:-113 89:-113 95:-113 96:-113",
  "4:-112 7:-112 9:-112 10:-112 12:-112 18:-112 21:-112 23:-112 24:-112 25:-112 34:-112 35:-112 41:-112 42:65 45:-112 47:66 68:-112 69:-112 71:-112 74:-112 75:-112 76:-112 78:-112 80:-112 84:-112 85:-112 86:-112 87:-112 88:-112 89:-112 95:-112 96:-112",
  "0:-32 4:-32 7:-32 12:-32 18:-32 21:-32 24:-32 25:-32 32:-32 34:-32 35:-32 45:-32 47:-32 65:-32 68:-32 69:-32 74:-32 75:-32 76:-32 78:-32 80:-32 82:-32 84:-32 85:-32 86:-32 87:-32 88:-32 89:-32 95:-32 96:-32",
  "4:-102 7:-102 9:-102 10:-102 12:-102 18:-102 21:-102 23:-102 24:-102 25:-102 32:-102 34:-102 35:-102 41:55 42:-102 45:-102 47:-102 68:-102 69:-102 71:-102 74:-102 75:-102 76:-102 78:-102 80:-102 82:-102 84:-102 85:-102 86:-102 87:-102 88:-102 89:-102 95:-102 96:-102",
  "4:-101 7:-101 9:-101 10:-101 12:-101 18:-101 21:-101 23:-101 24:-101 25:-101 32:-101 34:-101 35:-101 41:55 42:-101 45:-101 47:-101 68:-101 69:-101 71:-101 74:-101 75:-101 76:-101 78:-101 80:-101 82:-101 84:-101 85:-101 86:-101 87:-101 88:-101 89:-101 95:-101 96:-101",
  "32:102",
  "1:-263 8:-263 12:3 26:-263 31:-263 32:-263 36:-263 37:-263 38:-263 39:-263 44:-263 47:-263 51:-263 53:-263 57:-263 58:-263 62:-263 64:-263 67:-263 69:32 77:-263 78:105 79:-263 82:-263 89:46 90:-263 92:-263",
  "4:21 7:37 12:3 18:40 21:24 24:10 25:35 32:112 34:49 35:39 45:19 68:17 69:32 71:-263 75:2 76:43 78:9 80:34 84:23 85:25 86:20 87:18 88:6 89:46 95:13 96:27",
  "1:-28 8:-28 10:-28 12:3 26:-28 31:-28 32:-28 36:-28 37:-28 38:-28 39:-28 42:-28 44:-28 47:-28 51:-28 53:-28 57:-28 58:-28 62:-28 64:-28 69:32 71:-28 74:-28 77:-28 79:-28 82:-28 85:-28 89:46 90:-28 92:-28",
  "10:-122 32:-122 42:-122 47:-122 71:-122 74:-122 82:28 85:-122",
  "1:-124 8:-124 10:-124 12:-124 26:-124 31:-124 32:-124 36:-124 37:-124 38:-124 39:-124 42:-124 44:-124 47:-124 51:-124 53:-124 57:-124 58:-124 62:-124 64:-124 67:-124 69:-124 71:-124 74:-124 77:-124 78:-124 79:-124 82:-124 85:-124 89:-124 90:-124 92:-124",
  "1:-27 8:-27 10:-27 26:-27 31:-27 32:-27 36:-27 37:-27 38:-27 39:-27 42:-27 44:-27 47:-27 51:-27 53:-27 57:-27 58:-27 62:-27 64:-27 67:-27 71:-27 74:-27 77:-27 79:-27 82:-27 85:-27 90:-27 92:-27",
  "10:117 74:-18",
  "1:144 8:122 26:125 31:148 32:112 36:118 37:145 38:138 39:149 44:119 47:141 51:128 53:142 57:152 58:133 62:135 64:137 67:-263 77:127 79:143 82:139 90:124 92:123",
  "74:-46",
  "10:-145 32:33 42:72 47:78 71:-145 74:-145 85:59",
  "10:-77 74:-77",
  "74:-17",
  "1:144 8:122 26:125 31:148 32:112 36:118 37:145 38:138 39:149 41:55 44:119 47:141 51:128 53:142 57:152 58:133 62:135 64:137 77:127 79:143 82:157 90:124 92:123",
  "4:21 7:37 12:3 18:40 21:24 24:10 25:35 32:33 34:49 35:39 42:72 45:19 47:78 68:17 69:32 71:-263 75:2 76:43 78:9 80:34 82:28 84:23 85:25 86:20 87:18 88:6 89:46 95:13 96:27",
  "10:-80 74:-80",
  "4:21 7:37 10:-81 12:3 18:40 21:24 23:162 24:10 25:35 34:49 35:39 41:-263 45:19 68:17 69:32 74:-81 75:2 76:43 78:9 80:34 84:23 85:25 86:20 87:18 88:6 89:46 95:13 96:27",
  "10:-147 42:164 47:165 71:-147 74:-147",
  "0:-47 1:-47 4:-47 5:-47 6:-47 7:-47 8:-47 12:-47 13:-47 14:-47 17:-47 18:-47 21:-47 24:-47 25:-47 26:-47 27:-47 29:-47 31:-47 32:-47 33:-47 34:-47 35:-47 36:-47 37:-47 38:-47 39:-47 41:-47 44:-47 45:-47 47:-47 51:-47 53:-47 57:-47 58:-47 62:-47 64:-47 65:-47 66:-47 68:-47 69:-47 70:-47 74:-47 75:-47 76:-47 77:-47 78:-47 79:-47 80:-47 81:-47 82:-47 84:-47 85:-47 86:-47 87:-47 88:-47 89:-47 90:-47 91:-47 92:-47 95:-47 96:-47",
  "10:-50 23:-50 32:-50 42:-50 47:-50 71:-50 74:-50 82:-50",
  "10:-53 23:-53 32:-53 42:-53 47:-53 71:-53 74:-53 82:-53",
  "41:-7",
  "23:77 32:33 42:72 47:167 74:-263 82:28",
  "4:-48 7:-48 12:-48 18:-48 21:-48 24:-48 25:-48 34:-48 35:-48 41:-48 45:-48 68:-48 69:-48 75:-48 76:-48 78:-48 80:-48 84:-48 85:-48 86:-48 87:-48 88:-48 89:-48 95:-48 96:-48",
  "41:55",
  "4:21 7:37 12:3 18:40 21:24 24:10 25:35 34:49 35:39 41:-8 45:19 68:17 69:32 75:2 76:43 78:9 80:34 84:23 85:25 86:20 87:18 88:6 89:46 95:13 96:27",
  "4:-115 7:-115 9:-115 10:-115 12:-115 18:-115 21:-115 23:-115 24:-115 25:-115 34:-115 35:-115 41:-115 42:-115 45:-115 47:-115 68:-115 69:-115 71:-115 74:-115 75:-115 76:-115 78:-115 80:-115 84:-115 85:-115 86:-115 87:-115 88:-115 89:-115 95:-115 96:-115",
  "7:37 12:3 18:40 21:24 25:35 35:39 45:19 69:32 75:2 76:43 80:34 85:25 86:20 87:18 88:6 89:46 95:13 96:27",
  "7:37 12:3 18:40 21:24 25:35 35:39 45:19 69:32 75:2 76:43 80:34 85:25 86:20 87:18 88:6 89:46 95:13 96:27",
  "7:37 12:3 18:40 21:24 25:35 35:39 45:19 66:176 69:32 75:2 76:43 80:34 85:25 86:20 87:18 88:6 89:46 95:13 96:27",
  "7:37 9:-263 10:-263 12:3 18:40 21:24 25:35 32:-263 35:39 42:-263 45:19 47:-263 69:32 71:-263 74:-263 75:2 76:43 80:34 82:-263 85:25 86:20 87:18 88:6 89:46 95:13 96:27",
  "7:-92 12:-92 18:-92 21:-92 25:-92 35:-92 45:-92 66:-92 69:-92 75:-92 76:-92 80:-92 85:-92 86:-92 87:-92 88:-92 89:-92 95:-92 96:-92",
  "7:37 9:-263 10:-263 12:3 18:40 21:24 25:35 32:-263 35:39 42:-263 45:19 47:-263 69:32 71:-263 74:-263 75:2 76:43 80:34 82:-263 85:25 86:20 87:18 88:6 89:46 95:13 96:27",
  "9:181 32:33 42:72 47:167 74:-263 82:28",
  "32:102",
  "32:102",
  "10:-106 66:-106",
  "10:190 66:176",
  "10:-109 23:192 66:-109",
  "1:144 8:122 26:125 31:148 32:112 36:118 37:145 38:138 39:149 44:119 47:141 51:128 53:142 57:152 58:133 62:135 64:137 67:-263 77:127 79:143 82:194 90:124 92:123",
  "1:-28 8:-28 12:3 26:-28 31:-28 32:-28 36:-28 37:-28 38:-28 39:-28 44:-28 47:-28 51:-28 53:-28 57:-28 58:-28 62:-28 64:-28 67:-28 69:32 77:-28 78:195 79:-28 82:-28 89:46 90:-28 92:-28",
  "1:-263 8:-263 12:3 26:-263 31:-263 32:-263 36:-263 37:-263 38:-263 39:-263 44:-263 47:-263 51:-263 53:-263 57:-263 58:-263 62:-263 64:-263 69:32 77:-263 79:-263 82:-263 89:46 90:-263 92:-263",
  "71:197",
  "71:-15",
  "71:198",
  "10:-128 71:-128",
  "10:-263 32:33 42:72 47:78 71:-263 82:28",
  "10:203 71:-16",
  "1:-248 2:-248 3:-248 9:-248 10:-248 11:-248 15:-248 16:-248 22:-248 23:-248 28:-248 30:-248 40:-248 42:-248 43:-248 46:-248 47:-248 48:-248 49:-248 50:-248 51:-248 52:-248 53:-248 54:-248 55:-248 56:-248 59:-248 60:-248 61:-248 62:-248 63:-248 64:-248 66:-248 67:-248 71:-248 72:-248 73:-248 74:-248 82:-248 83:-248 93:-248 94:-248",
  "10:204 71:-126",
  "10:-132 71:-132",
  "1:-125 8:-125 10:-125 12:-125 26:-125 31:-125 32:-125 36:-125 37:-125 38:-125 39:-125 42:-125 44:-125 47:-125 51:-125 53:-125 57:-125 58:-125 62:-125 64:-125 67:-125 69:-125 71:-125 74:-125 77:-125 78:-125 79:-125 82:-125 85:-125 89:-125 90:-125 92:-125",
  "10:-123 32:-123 42:-123 47:-123 71:-123 74:-123 85:-123",
  "32:33 47:4 82:28",
  "1:-252 2:-252 3:-252 9:-252 10:-252 11:-252 15:-252 16:-252 22:-252 23:-252 28:-252 30:-252 40:-252 42:-252 43:-252 46:-252 47:-252 48:-252 49:-252 50:-252 51:-252 52:-252 53:-252 54:-252 55:-252 56:-252 59:-252 60:-252 61:-252 62:-252 63:-252 64:-252 66:-252 67:-252 71:-252 72:-252 73:-252 74:-252 82:-252 83:-252 93:-252 94:-252",
  "1:-227 8:-227 26:-227 31:-227 32:-227 36:-227 37:-227 38:-227 39:-227 44:-227 47:-227 51:-227 53:-227 57:-227 58:-227 62:-227 64:-227 77:-227 79:-227 82:-227 90:-227 92:-227",
  "1:-214 2:214 9:-214 10:-214 11:-214 15:206 16:-214 22:-214 23:209 28:-214 30:-214 40:-214 43:-214 46:-214 48:-214 49:212 50:-214 51:-214 52:207 54:-214 55:208 56:-214 59:-214 60:215 62:-214 63:211 66:-214 67:-214 71:-214 72:-214 73:217 74:-214 82:-214 83:216 93:-214 94:210",
  "1:-243 2:-243 3:-243 9:-243 10:-243 11:-243 15:-243 16:-243 22:-243 23:-243 28:-243 30:-243 40:-243 42:-243 43:-243 46:-243 47:-243 48:-243 49:-243 50:-243 51:-243 52:-243 53:-243 54:-243 55:-243 56:-243 59:-243 60:-243 61:-243 62:-243 63:-243 64:-243 66:-243 67:-243 71:-243 72:-243 73:-243 74:-243 82:-243 83:-243 92:218 93:-243 94:-243",
  "1:-255 2:-255 3:-255 9:-255 10:-255 11:-255 15:-255 16:-255 22:-255 23:-255 28:-255 30:-255 40:-255 42:-255 43:-255 46:-255 47:-255 48:-255 49:-255 50:-255 51:-255 52:-255 53:-255 54:-255 55:-255 56:-255 59:-255 60:-255 61:-255 62:-255 63:-255 64:-255 66:-255 67:-255 71:-255 72:-255 73:-255 74:-255 82:-255 83:-255 93:-255 94:-255",
  "1:-259 2:-259 3:-259 9:-259 10:-259 11:-259 15:-259 16:-259 22:-259 23:-259 28:-259 30:-259 40:-259 42:-259 43:-259 46:-259 47:-259 48:-259 49:-259 50:-259 51:-259 52:-259 53:-259 54:-259 55:-259 56:-259 59:-259 60:-259 61:-259 62:-259 63:-259 64:-259 66:-259 67:-259 71:-259 72:-259 73:-259 74:-259 82:-259 83:-259 92:-259 93:-259 94:-259",
  "1:-256 2:-256 3:-256 9:-256 10:-256 11:-256 15:-256 16:-256 22:-256 23:-256 28:-256 30:-256 40:-256 42:-256 43:-256 46:-256 47:-256 48:-256 49:-256 50:-256 51:-256 52:-256 53:-256 54:-256 55:-256 56:-256 59:-256 60:-256 61:-256 62:-256 63:-256 64:-256 66:-256 67:-256 71:-256 72:-256 73:-256 74:-256 82:-256 83:-256 93:-256 94:-256",
  "1:-253 2:-253 3:-253 9:-253 10:-253 11:-253 15:-253 16:-253 22:-253 23:-253 28:-253 30:-253 40:-253 42:-253 43:-253 46:-253 47:-253 48:-253 49:-253 50:-253 51:-253 52:-253 53:-253 54:-253 55:-253 56:-253 59:-253 60:-253 61:-253 62:-253 63:-253 64:-253 66:-253 67:-253 71:-253 72:-253 73:-253 74:-253 82:-253 83:-253 93:-253 94:-253",
  "1:-241 2:-241 3:-241 9:-241 10:-241 11:-241 15:-241 16:-241 22:-241 23:-241 28:-241 30:-241 40:-241 42:-241 43:-241 46:-241 47:-241 48:-241 49:-241 50:-241 51:-241 52:-241 53:-241 54:-241 55:-241 56:-241 59:-241 60:-241 61:-241 62:-241 63:-241 64:-241 66:-241 67:-241 71:-241 72:-241 73:-241 74:-241 82:-241 83:-241 93:-241 94:-241",
  "1:144 8:122 26:125 31:148 32:112 36:118 37:145 38:138 39:149 44:119 47:219 51:128 53:142 57:152 58:133 62:135 64:137 77:127 79:143 82:157 90:124 92:123",
  "1:-225 8:-225 26:-225 31:-225 32:-225 36:-225 37:-225 38:-225 39:-225 44:-225 47:-225 51:-225 53:-225 57:-225 58:-225 62:-225 64:-225 77:-225 79:-225 82:-225 90:-225 92:-225",
  "1:-242 2:-242 3:-242 9:-242 10:-242 11:-242 15:-242 16:-242 22:-242 23:-242 28:-242 30:-242 40:-242 42:-242 43:-242 46:-242 47:-242 48:-242 49:-242 50:-242 51:-242 52:-242 53:-242 54:-242 55:-242 56:-242 59:-242 60:-242 61:-242 62:-242 63:-242 64:-242 66:-242 67:-242 71:-242 72:-242 73:-242 74:-242 79:221 82:-242 83:-242 93:-242 94:-242",
  "1:-216 2:-216 3:223 9:-216 10:-216 11:-216 15:-216 16:-216 22:-216 23:-216 28:-216 30:-216 40:-216 42:226 43:-216 46:-216 47:227 48:-216 49:-216 50:-216 51:-216 52:-216 53:222 54:-216 55:-216 56:-216 59:-216 60:-216 61:225 62:-216 63:-216 64:224 66:-216 67:-216 71:-216 72:-216 73:-216 74:-216 82:-216 83:-216 93:-216 94:-216",
  "67:228",
  "1:-195 9:-195 10:-195 11:-195 16:-195 22:-195 28:-195 30:-195 40:-195 43:-195 46:-195 48:-195 50:-195 51:-195 54:-195 56:-195 59:-195 62:-195 66:-195 67:-195 71:-195 72:-195 74:-195 82:-195 93:-195",
  "47:229",
  "1:144 8:122 26:125 31:148 32:112 36:118 37:145 38:138 39:149 44:119 47:230 51:128 53:142 57:152 58:133 62:135 64:137 77:127 79:143 82:157 90:124 92:123",
  "1:-224 8:-224 26:-224 31:-224 32:-224 36:-224 37:-224 38:-224 39:-224 44:-224 47:-224 51:-224 53:-224 57:-224 58:-224 62:-224 64:-224 77:-224 79:-224 82:-224 90:-224 92:-224",
  "67:-4",
  "1:144 8:122 26:125 31:148 32:112 36:118 37:145 38:138 39:149 44:119 47:233 51:128 53:142 57:152 58:133 62:135 64:137 77:127 79:143 82:157 90:124 92:123",
  "1:-251 2:-251 3:-251 9:-251 10:-251 11:-251 15:-251 16:-251 22:-251 23:-251 28:-251 30:-251 40:-251 42:-251 43:-251 46:-251 47:-251 48:-251 49:-251 50:-251 51:-251 52:-251 53:-251 54:-251 55:-251 56:-251 59:-251 60:-251 61:-251 62:-251 63:-251 64:-251 66:-251 67:-251 71:-251 72:-251 73:-251 74:-251 82:-251 83:-251 93:-251 94:-251",
  "1:-223 8:-223 26:-223 31:-223 32:-223 36:-223 37:-223 38:-223 39:-223 44:-223 47:-223 51:-223 53:-223 57:-223 58:-223 62:-223 64:-223 67:235 77:-223 79:-223 82:-223 90:-223 92:-223",
  "1:-228 2:-228 3:-228 9:-228 10:-228 11:-228 15:-228 16:-228 22:-228 23:-228 28:-228 30:-228 40:-228 42:-228 43:-228 46:-228 47:-228 48:-228 49:-228 50:-228 51:-228 52:-228 53:-228 54:-228 55:-228 56:-228 59:-228 60:-228 61:-228 62:-228 63:-228 64:-228 66:-228 67:-228 71:-228 72:-228 73:-228 74:-228 82:-228 83:-228 93:-228 94:-228",
  "1:144 7:37 8:122 12:3 18:40 21:24 25:35 26:125 31:148 32:112 35:39 36:118 37:145 38:138 39:149 44:119 45:19 47:141 51:128 53:142 57:152 58:133 62:135 64:137 69:32 75:2 76:43 77:127 79:143 80:34 82:157 85:25 86:20 87:18 88:6 89:46 90:124 92:123 95:13 96:27",
  "1:144 8:122 26:125 31:148 32:112 36:118 37:145 38:138 39:149 44:119 47:233 51:128 53:142 57:152 58:133 62:135 64:137 77:127 79:143 82:157 90:124 92:123",
  "1:-257 2:-257 3:-257 9:-257 10:-257 11:-257 15:-257 16:-257 22:-257 23:-257 28:-257 30:-257 40:-257 42:-257 43:-257 46:-257 47:-257 48:-257 49:-257 50:-257 51:-257 52:-257 53:-257 54:-257 55:-257 56:-257 59:-257 60:-257 61:-257 62:-257 63:-257 64:-257 66:-257 67:-257 71:-257 72:-257 73:-257 74:-257 79:-257 82:-257 83:-257 93:-257 94:-257",
  "1:-222 8:-222 26:-222 31:-222 32:-222 36:-222 37:-222 38:-222 39:-222 44:-222 47:-222 51:-222 53:-222 57:-222 58:-222 62:-222 64:-222 77:-222 79:-222 82:-222 90:-222 92:-222",
  "1:-249 2:-249 3:-249 9:-249 10:-249 11:-249 15:-249 16:-249 22:-249 23:-249 28:-249 30:-249 40:-249 42:-249 43:-249 46:-249 47:-249 48:-249 49:-249 50:-249 51:-249 52:-249 53:-249 54:-249 55:-249 56:-249 59:-249 60:-249 61:-249 62:-249 63:-249 64:-249 66:-249 67:-249 71:-249 72:-249 73:-249 74:-249 82:-249 83:-249 93:-249 94:-249",
  "1:-240 2:-240 3:-240 9:-240 10:-240 11:-240 15:-240 16:-240 22:-240 23:-240 28:-240 30:-240 40:-240 42:-240 43:-240 46:-240 47:-240 48:-240 49:-240 50:-240 51:-240 52:-240 53:-240 54:-240 55:-240 56:-240 59:-240 60:-240 61:-240 62:-240 63:-240 64:-240 66:-240 67:-240 71:-240 72:-240 73:-240 74:-240 82:-240 83:-240 93:-240 94:-240",
  "1:256 9:-193 10:-193 11:257 16:251 22:255 28:253 30:249 40:254 43:245 46:242 48:243 50:247 51:244 54:259 56:246 59:258 62:248 66:-193 67:-193 71:-193 72:241 74:-193 82:252 93:250",
  "1:-254 2:-254 3:-254 9:-254 10:-254 11:-254 15:-254 16:-254 22:-254 23:-254 28:-254 30:-254 40:-254 42:-254 43:-254 46:-254 47:-254 48:-254 49:-254 50:-254 51:-254 52:-254 53:-254 54:-254 55:-254 56:-254 59:-254 60:-254 61:-254 62:-254 63:-254 64:-254 66:-254 67:-254 71:-254 72:-254 73:-254 74:-254 82:-254 83:-254 93:-254 94:-254",
  "1:-250 2:-250 3:-250 9:-250 10:-250 11:-250 15:-250 16:-250 22:-250 23:-250 28:-250 30:-250 40:-250 42:-250 43:-250 46:-250 47:-250 48:-250 49:-250 50:-250 51:-250 52:-250 53:-250 54:-250 55:-250 56:-250 59:-250 60:-250 61:-250 62:-250 63:-250 64:-250 66:-250 67:-250 71:-250 72:-250 73:-250 74:-250 82:-250 83:-250 93:-250 94:-250",
  "67:-3",
  "9:-179 10:-179 66:-179 67:-179 71:-179 74:-179",
  "1:-226 8:-226 26:-226 31:-226 32:-226 36:-226 37:-226 38:-226 39:-226 44:-226 47:-226 51:-226 53:-226 57:-226 58:-226 62:-226 64:-226 77:-226 79:-226 82:-226 90:-226 92:-226",
  "10:-146 42:164 47:165 71:-146 74:-146",
  "10:-79 74:-79",
  "1:-263 8:-263 26:-263 31:-263 32:-263 36:-263 37:-263 38:-263 39:-263 41:-263 42:264 44:-263 47:-263 51:-263 53:-263 57:-263 58:-263 61:263 62:-263 64:-263 66:-263 77:-263 79:-263 82:-263 90:-263 92:-263",
  "10:-134 66:-134 74:-134",
  "1:-223 8:-223 26:-223 31:-223 32:-223 36:-223 37:-223 38:-223 39:-223 44:-223 47:-223 51:-223 53:-223 57:-223 58:-223 62:-223 64:-223 77:-223 79:-223 82:-223 90:-223 92:-223",
  "71:-21",
  "71:-22",
  "71:269",
  "71:270",
  "1:144 8:122 26:125 31:148 32:112 36:118 37:145 38:138 39:149 41:55 44:119 47:141 51:128 53:142 57:152 58:133 62:135 64:137 77:127 79:143 82:157 90:124 92:123",
  "41:55",
  "1:144 8:122 26:125 31:148 32:112 36:118 37:145 38:138 39:149 44:119 47:141 51:128 53:142 57:152 58:133 62:135 64:137 67:-263 77:127 79:143 82:274 90:124 92:123",
  "4:21 7:37 12:3 18:40 21:24 24:10 25:35 34:49 35:39 45:19 68:17 69:32 71:-263 75:2 76:43 78:9 80:34 84:23 85:25 86:20 87:18 88:6 89:46 95:13 96:27",
  "10:-145 32:33 42:72 47:167 71:-145 74:-145 85:59",
  "4:21 7:37 12:3 18:40 21:24 24:10 25:35 32:33 34:49 35:39 42:72 45:19 47:167 68:17 69:32 71:-263 75:2 76:43 78:9 80:34 82:28 84:23 85:25 86:20 87:18 88:6 89:46 95:13 96:27",
  "10:-81 23:162 74:-81",
  "0:-38 4:-38 7:-38 12:-38 18:-38 21:-38 24:-38 25:-38 32:-38 34:-38 35:-38 45:-38 47:-38 65:-38 68:-38 69:-38 74:-38 75:-38 76:-38 78:-38 80:-38 82:-38 84:-38 85:-38 86:-38 87:-38 88:-38 89:-38 95:-38 96:-38",
  "1:144 4:21 5:294 6:288 7:37 8:122 12:3 13:284 14:286 17:297 18:40 21:24 24:10 25:35 26:125 27:283 29:278 31:148 32:300 33:301 34:49 35:39 36:118 37:145 38:138 39:149 41:55 44:119 45:19 47:141 51:128 53:142 57:152 58:133 62:135 64:137 66:-263 68:17 69:32 70:281 74:-263 75:2 76:43 77:127 78:9 79:143 80:34 81:290 82:157 84:23 85:25 86:20 87:18 88:6 89:46 90:124 91:287 92:123 95:13 96:27",
  "4:-49 7:-49 12:-49 18:-49 21:-49 24:-49 25:-49 34:-49 35:-49 41:-49 45:-49 68:-49 69:-49 75:-49 76:-49 78:-49 80:-49 84:-49 85:-49 86:-49 87:-49 88:-49 89:-49 95:-49 96:-49",
  "7:37 12:3 18:40 21:24 25:35 35:39 45:19 66:176 69:32 75:2 76:43 80:34 85:25 86:20 87:18 88:6 89:46 95:13 96:27",
  "7:37 12:3 18:40 21:24 25:35 35:39 45:19 66:176 69:32 75:2 76:43 80:34 85:25 86:20 87:18 88:6 89:46 95:13 96:27",
  "4:-87 7:-87 9:-87 10:-87 12:-87 18:-87 21:-87 23:-87 24:-87 25:-87 32:-87 34:-87 35:-87 42:-87 45:-87 47:-87 68:-87 69:-87 71:-87 74:-87 75:-87 76:-87 78:-87 80:-87 82:-87 84:-87 85:-87 86:-87 87:-87 88:-87 89:-87 95:-87 96:-87",
  "7:-93 12:-93 18:-93 21:-93 25:-93 35:-93 45:-93 66:-93 69:-93 75:-93 76:-93 80:-93 85:-93 86:-93 87:-93 88:-93 89:-93 95:-93 96:-93",
  "0:-262 1:-262 2:-262 3:-262 4:-262 5:-262 6:-262 7:-262 8:-262 9:-262 10:-262 11:-262 12:-262 13:-262 14:-262 15:-262 16:-262 17:-262 18:-262 20:-262 21:-262 22:-262 23:-262 24:-262 25:-262 26:-262 27:-262 28:-262 29:-262 30:-262 31:-262 32:-262 33:-262 34:-262 35:-262 36:-262 37:-262 38:-262 39:-262 40:-262 41:-262 42:-262 43:-262 44:-262 45:-262 46:-262 47:-262 48:-262 49:-262 50:-262 51:-262 52:-262 53:-262 54:-262 55:-262 56:-262 57:-262 58:-262 59:-262 60:-262 61:-262 62:-262 63:-262 64:-262 65:-262 66:-262 67:-262 68:-262 69:-262 70:-262 71:-262 72:-262 73:-262 74:-262 75:-262 76:-262 77:-262 78:-262 79:-262 80:-262 81:-262 82:-262 83:-262 84:-262 85:-262 86:-262 87:-262 88:-262 89:-262 90:-262 91:-262 92:-262 93:-262 94:-262 95:-262 96:-262",
  "9:-23 10:-23 32:-23 42:-23 47:-23 71:-23 74:-23 82:-23",
  "9:-84 10:-84 32:-84 42:-84 47:-84 71:-84 74:-84 82:-84",
  "9:-24 10:-24 32:-24 42:-24 47:-24 71:-24 74:-24 82:-24",
  "9:-83 10:-83 32:-83 42:-83 47:-83 71:-83 74:-83 82:-83",
  "1:144 8:122 26:125 31:148 32:112 36:118 37:145 38:138 39:149 44:119 47:230 51:128 53:142 57:152 58:133 62:135 64:137 77:127 79:143 82:157 90:124 92:123",
  "10:306 74:-26",
  "74:307",
  "10:-96 74:-96",
  "74:308",
  "74:-25",
  "9:309 10:-98 74:-98",
  "10:190 66:176",
  "10:190 66:176",
  "10:-107 32:102 66:-107",
  "4:-103 7:-103 9:-103 10:-103 12:-103 18:-103 21:-103 23:-103 24:-103 25:-103 32:-103 34:-103 35:-103 42:-103 45:-103 47:-103 68:-103 69:-103 71:-103 74:-103 75:-103 76:-103 78:-103 80:-103 82:-103 84:-103 85:-103 86:-103 87:-103 88:-103 89:-103 95:-103 96:-103",
  "1:144 8:122 26:125 31:148 32:112 36:118 37:145 38:138 39:149 44:119 47:230 51:128 53:142 57:152 58:133 62:135 64:137 77:127 79:143 82:157 90:124 92:123",
  "67:314",
  "1:-223 8:-223 26:-223 31:-223 32:-223 36:-223 37:-223 38:-223 39:-223 44:-223 47:-223 51:-223 53:-223 57:-223 58:-223 62:-223 64:-223 67:315 77:-223 79:-223 82:-223 90:-223 92:-223",
  "1:144 8:122 26:125 31:148 32:112 36:118 37:145 38:138 39:149 44:119 47:141 51:128 53:142 57:152 58:133 62:135 64:137 77:127 79:143 82:157 90:124 92:123",
  "1:144 8:122 26:125 31:148 32:112 36:118 37:145 38:138 39:149 44:119 47:141 51:128 53:142 57:152 58:133 62:135 64:137 77:127 79:143 82:157 90:124 92:123",
  "4:-121 7:-121 9:-121 10:-121 12:-121 18:-121 21:-121 23:-121 24:-121 25:-121 34:-121 35:-121 41:-121 42:-121 45:-121 47:-121 68:-121 69:-121 71:-121 74:-121 75:-121 76:-121 78:-121 80:-121 84:-121 85:-121 86:-121 87:-121 88:-121 89:-121 95:-121 96:-121",
  "4:-120 7:-120 9:-120 10:-120 12:-120 18:-120 21:-120 23:-120 24:-120 25:-120 34:-120 35:-120 41:-120 42:-120 45:-120 47:-120 68:-120 69:-120 71:-120 74:-120 75:-120 76:-120 78:-120 80:-120 84:-120 85:-120 86:-120 87:-120 88:-120 89:-120 95:-120 96:-120",
  "10:-131 71:-131",
  "10:-1 71:-1",
  "10:-2 71:-2",
  "10:-130 71:-130",
  "32:112",
  "4:21 7:37 12:3 18:40 19:319 21:24 24:10 25:35 34:49 35:39 45:19 68:17 69:32 75:2 76:43 78:9 80:34 84:23 85:25 86:20 87:18 88:6 89:46 95:13 96:27",
  "10:-78 74:-78",
  "1:-184 8:-184 26:-184 31:-184 32:-184 36:-184 37:-184 38:-184 39:-184 44:-184 47:-184 51:-184 53:-184 57:-184 58:-184 62:-184 64:-184 77:-184 79:-184 82:-184 90:-184 92:-184",
  "1:-187 8:-187 26:-187 31:-187 32:-187 36:-187 37:-187 38:-187 39:-187 44:-187 47:-187 51:-187 53:-187 57:-187 58:-187 62:-187 64:-187 77:-187 79:-187 82:-187 90:-187 92:-187",
  "1:-185 8:-185 26:-185 31:-185 32:-185 36:-185 37:-185 38:-185 39:-185 44:-185 47:-185 51:-185 53:-185 57:-185 58:-185 62:-185 64:-185 77:-185 79:-185 82:-185 90:-185 92:-185",
  "1:-181 8:-181 26:-181 31:-181 32:-181 36:-181 37:-181 38:-181 39:-181 44:-181 47:-181 51:-181 53:-181 57:-181 58:-181 62:-181 64:-181 77:-181 79:-181 82:-181 90:-181 92:-181",
  "1:-182 8:-182 26:-182 31:-182 32:-182 36:-182 37:-182 38:-182 39:-182 44:-182 47:-182 51:-182 53:-182 57:-182 58:-182 62:-182 64:-182 77:-182 79:-182 82:-182 90:-182 92:-182",
  "1:-186 8:-186 26:-186 31:-186 32:-186 36:-186 37:-186 38:-186 39:-186 44:-186 47:-186 51:-186 53:-186 57:-186 58:-186 62:-186 64:-186 77:-186 79:-186 82:-186 90:-186 92:-186",
  "1:-188 8:-188 26:-188 31:-188 32:-188 36:-188 37:-188 38:-188 39:-188 44:-188 47:-188 51:-188 53:-188 57:-188 58:-188 62:-188 64:-188 77:-188 79:-188 82:-188 90:-188 92:-188",
  "1:144 8:122 26:125 31:148 32:112 36:118 37:145 38:138 39:149 44:119 47:141 51:128 53:142 57:152 58:133 62:135 64:137 77:127 79:143 82:157 90:124 92:123",
  "1:-190 8:-190 26:-190 31:-190 32:-190 36:-190 37:-190 38:-190 39:-190 44:-190 47:-190 51:-190 53:-190 57:-190 58:-190 62:-190 64:-190 77:-190 79:-190 82:-190 90:-190 92:-190",
  "1:-191 8:-191 26:-191 31:-191 32:-191 36:-191 37:-191 38:-191 39:-191 44:-191 47:-191 51:-191 53:-191 57:-191 58:-191 62:-191 64:-191 77:-191 79:-191 82:-191 90:-191 92:-191",
  "1:-183 8:-183 26:-183 31:-183 32:-183 36:-183 37:-183 38:-183 39:-183 44:-183 47:-183 51:-183 53:-183 57:-183 58:-183 62:-183 64:-183 77:-183 79:-183 82:-183 90:-183 92:-183",
  "1:-189 8:-189 26:-189 31:-189 32:-189 36:-189 37:-189 38:-189 39:-189 44:-189 47:-189 51:-189 53:-189 57:-189 58:-189 62:-189 64:-189 77:-189 79:-189 82:-189 90:-189 92:-189",
  "1:-260 2:-260 3:-260 9:-260 10:-260 11:-260 15:-260 16:-260 22:-260 23:-260 28:-260 30:-260 40:-260 42:-260 43:-260 46:-260 47:-260 48:-260 49:-260 50:-260 51:-260 52:-260 53:-260 54:-260 55:-260 56:-260 59:-260 60:-260 61:-260 62:-260 63:-260 64:-260 66:-260 67:-260 71:-260 72:-260 73:-260 74:-260 82:-260 83:-260 92:-260 93:-260 94:-260",
  "1:144 7:37 8:122 12:3 18:40 21:24 25:35 26:125 31:148 32:112 35:39 36:118 37:145 38:138 39:149 44:119 45:19 47:141 51:128 53:142 57:152 58:133 62:135 64:137 69:32 75:2 76:43 77:127 79:143 80:34 82:157 85:25 86:20 87:18 88:6 89:46 90:124 92:123 95:13 96:27",
  "1:-220 2:-220 9:-220 10:-220 11:-220 15:-220 16:-220 22:-220 23:-220 28:-220 30:-220 40:-220 43:-220 46:-220 48:-220 49:-220 50:-220 51:-220 52:-220 54:-220 55:-220 56:-220 59:-220 60:-220 62:-220 63:-220 66:-220 67:-220 71:-220 72:-220 73:-220 74:-220 82:-220 83:-220 93:-220 94:-220",
  "1:-258 2:-258 3:-258 9:-258 10:-258 11:-258 15:-258 16:-258 22:-258 23:-258 28:-258 30:-258 40:-258 42:-258 43:-258 46:-258 47:-258 48:-258 49:-258 50:-258 51:-258 52:-258 53:-258 54:-258 55:-258 56:-258 59:-258 60:-258 61:-258 62:-258 63:-258 64:-258 66:-258 67:-258 71:-258 72:-258 73:-258 74:-258 79:-258 82:-258 83:-258 93:-258 94:-258",
  "1:-237 2:-237 3:-237 9:-237 10:-237 11:-237 15:-237 16:-237 22:-237 23:-237 28:-237 30:-237 40:-237 42:-237 43:-237 46:-237 47:-237 48:-237 49:-237 50:-237 51:-237 52:-237 53:-237 54:-237 55:-237 56:-237 59:-237 60:-237 61:-237 62:-237 63:-237 64:-237 66:-237 67:-237 71:-237 72:-237 73:-237 74:-237 82:-237 83:-237 93:-237 94:-237",
  "32:324 85:323",
  "1:-236 2:-236 3:-236 9:-236 10:-236 11:-236 15:-236 16:-236 22:-236 23:-236 28:-236 30:-236 40:-236 42:-236 43:-236 46:-236 47:-236 48:-236 49:-236 50:-236 51:-236 52:-236 53:-236 54:-236 55:-236 56:-236 59:-236 60:-236 61:-236 62:-236 63:-236 64:-236 66:-236 67:-236 71:-236 72:-236 73:-236 74:-236 82:-236 83:-236 93:-236 94:-236",
  "32:326 85:325",
  "1:144 8:122 26:125 31:148 32:112 36:118 37:145 38:138 39:149 44:119 47:141 51:128 53:142 57:152 58:133 62:135 64:137 77:127 79:143 82:157 90:124 92:123",
  "1:144 8:122 26:125 31:148 32:112 36:118 37:145 38:138 39:149 44:119 47:141 51:128 53:142 57:152 58:133 62:135 64:137 71:329 77:127 79:143 82:157 90:124 92:123",
  "10:-150 42:-150 47:-150 71:-150 74:-150",
  "7:37 12:3 18:40 21:24 25:35 35:39 45:19 69:32 75:2 76:43 80:34 85:25 86:20 87:18 88:6 89:46 95:13 96:27",
  "1:144 7:37 8:122 12:3 18:40 21:24 25:35 26:125 31:148 32:112 35:39 36:118 37:145 38:138 39:149 44:119 45:19 47:141 51:128 53:142 57:152 58:133 62:135 64:137 69:32 75:2 76:43 77:127 79:143 80:34 82:157 85:25 86:20 87:18 88:6 89:46 90:124 92:123 95:13 96:27",
  "1:-214 2:-214 9:-214 10:-214 11:-214 15:-214 16:-214 22:-214 23:-214 28:-214 30:-214 40:-214 43:-214 46:-214 48:-214 49:-214 50:-214 51:-214 52:-214 54:-214 55:-214 56:-214 59:-214 60:-214 62:-214 63:-214 66:-214 67:-214 71:-214 72:-214 73:-214 74:-214 82:-214 83:-214 93:-214 94:-214",
  "1:-219 2:-219 9:-219 10:-219 11:-219 15:-219 16:-219 22:-219 23:-219 28:-219 30:-219 40:-219 43:-219 46:-219 48:-219 49:-219 50:-219 51:-219 52:-219 54:-219 55:-219 56:-219 59:-219 60:-219 62:-219 63:-219 66:-219 67:-219 71:-219 72:-219 73:-219 74:-219 82:-219 83:-219 93:-219 94:-219",
  "1:144 7:37 8:122 12:3 18:40 21:24 25:35 26:125 31:148 32:112 35:39 36:118 37:145 38:138 39:149 44:119 45:19 47:141 51:128 53:142 57:152 58:133 62:135 64:137 69:32 75:2 76:43 77:127 79:143 80:34 82:157 85:25 86:20 87:18 88:6 89:46 90:124 92:123 95:13 96:27",
  "1:-217 2:-217 9:-217 10:-217 11:-217 15:-217 16:-217 22:-217 23:-217 28:-217 30:-217 40:-217 43:-217 46:-217 48:-217 49:-217 50:-217 51:-217 52:-217 54:-217 55:-217 56:-217 59:-217 60:-217 62:-217 63:-217 66:-217 67:-217 71:-217 72:-217 73:-217 74:-217 82:-217 83:-217 93:-217 94:-217",
  "10:-152 42:-152 47:-152 71:-152 74:-152",
  "10:335 71:334",
  "71:336",
  "9:-176 10:-176 67:-176 71:-176 74:-176",
  "10:-263 42:72 47:338 71:-263 82:28",
  "1:-218 2:-218 9:-218 10:-218 11:-218 15:-218 16:-218 22:-218 23:-218 28:-218 30:-218 40:-218 43:-218 46:-218 48:-218 49:-218 50:-218 51:-218 52:-218 54:-218 55:-218 56:-218 59:-218 60:-218 62:-218 63:-218 66:-218 67:-218 71:-218 72:-218 73:-218 74:-218 82:-218 83:-218 93:-218 94:-218",
  "1:144 8:122 26:125 31:148 32:112 36:118 37:145 38:138 39:149 44:119 47:230 51:128 53:142 57:152 58:133 62:135 64:137 77:127 79:143 82:157 90:124 92:123",
  "1:144 8:122 26:125 31:148 32:112 36:118 37:145 38:138 39:149 44:119 47:230 51:128 53:142 57:152 58:133 62:135 64:137 77:127 79:143 82:157 90:124 92:123",
  "1:144 8:122 26:125 31:148 32:112 36:118 37:145 38:138 39:149 44:119 47:230 51:128 53:142 57:152 58:133 62:135 64:137 77:127 79:143 82:157 90:124 92:123",
  "1:144 8:122 26:125 31:148 32:112 36:118 37:145 38:138 39:149 44:119 47:230 51:128 53:142 57:152 58:133 62:135 64:137 77:127 79:143 82:157 90:124 92:123",
  "1:144 8:122 26:125 31:148 32:112 36:118 37:145 38:138 39:149 44:119 47:230 51:128 53:142 57:152 58:133 62:135 64:137 77:127 79:143 82:157 90:124 92:123",
  "1:144 8:122 26:125 31:148 32:112 36:118 37:145 38:138 39:149 44:119 47:230 51:128 53:142 57:152 58:133 62:135 64:137 77:127 79:143 82:157 90:124 92:123",
  "1:144 8:122 26:125 31:148 32:112 36:118 37:145 38:138 39:149 44:119 47:230 51:128 53:142 57:152 58:133 62:135 64:137 77:127 79:143 82:157 90:124 92:123",
  "1:144 8:122 26:125 31:148 32:112 36:118 37:145 38:138 39:149 44:119 47:230 51:128 53:142 57:152 58:133 62:135 64:137 77:127 79:143 82:157 90:124 92:123",
  "1:144 8:122 26:125 31:148 32:112 36:118 37:145 38:138 39:149 44:119 47:230 51:128 53:142 57:152 58:133 62:135 64:137 77:127 79:143 82:157 90:124 92:123",
  "1:144 8:122 26:125 31:148 32:112 36:118 37:145 38:138 39:149 44:119 47:230 51:128 53:142 57:152 58:133 62:135 64:137 77:127 79:143 82:157 90:124 92:123",
  "1:144 8:122 26:125 31:148 32:112 36:118 37:145 38:138 39:149 44:119 47:230 51:128 53:142 57:152 58:133 62:135 64:137 77:127 79:143 82:157 90:124 92:123",
  "1:144 8:122 26:125 31:148 32:112 36:118 37:145 38:138 39:149 44:119 47:230 51:128 53:142 57:152 58:133 62:135 64:137 77:127 79:143 82:157 90:124 92:123",
  "1:144 8:122 26:125 31:148 32:112 36:118 37:145 38:138 39:149 44:119 47:230 51:128 53:142 57:152 58:133 62:135 64:137 77:127 79:143 82:157 90:124 92:123",
  "1:144 8:122 26:125 31:148 32:112 36:118 37:145 38:138 39:149 44:119 47:230 51:128 53:142 57:152 58:133 62:135 64:137 77:127 79:143 82:157 90:124 92:123",
  "1:144 8:122 26:125 31:148 32:112 36:118 37:145 38:138 39:149 44:119 47:230 51:128 53:142 57:152 58:133 62:135 64:137 77:127 79:143 82:157 90:124 92:123",
  "1:144 8:122 26:125 31:148 32:112 36:118 37:145 38:138 39:149 44:119 47:230 51:128 53:142 57:152 58:133 62:135 64:137 77:127 79:143 82:157 90:124 92:123",
  "1:144 8:122 26:125 31:148 32:112 36:118 37:145 38:138 39:149 44:119 47:141 51:128 53:142 57:152 58:133 62:135 64:137 77:127 79:143 82:157 90:124 92:123",
  "1:144 8:122 26:125 31:148 32:112 36:118 37:145 38:138 39:149 44:119 47:230 51:128 53:142 57:152 58:133 62:135 64:137 77:127 79:143 82:157 90:124 92:123",
  "1:144 8:122 26:125 31:148 32:112 36:118 37:145 38:138 39:149 44:119 47:230 51:128 53:142 57:152 58:133 62:135 64:137 77:127 79:143 82:157 90:124 92:123",
  "1:-12 8:-12 26:-12 31:-12 32:-12 36:-12 37:-12 38:-12 39:-12 41:-12 44:-12 47:-12 51:-12 53:-12 57:-12 58:-12 62:-12 64:-12 77:-12 79:-12 82:-12 90:-12 92:-12",
  "66:176",
  "23:-140 42:-140 61:-140",
  "32:112",
  "1:144 8:122 26:125 31:148 32:112 36:118 37:145 38:138 39:149 44:119 47:230 51:128 53:142 57:152 58:133 62:135 64:137 77:127 79:143 82:157 90:124 92:123",
  "10:362 66:-20",
  "1:144 8:122 26:125 31:148 32:112 36:118 37:145 38:138 39:149 41:55 44:119 47:141 51:128 53:142 57:152 58:133 62:135 64:137 77:127 79:143 82:157 90:124 92:123",
  "23:365 42:264 61:263",
  "1:-11 8:-11 26:-11 31:-11 32:-11 36:-11 37:-11 38:-11 39:-11 41:-11 44:-11 47:-11 51:-11 53:-11 57:-11 58:-11 62:-11 64:-11 66:-19 77:-11 79:-11 82:-11 90:-11 92:-11",
  "10:-154 42:-154 47:-154 71:-154 74:-154",
  "10:-148 42:-148 47:-148 71:-148 74:-148",
  "10:-82 74:-82",
  "0:-39 4:-39 7:-39 12:-39 18:-39 21:-39 24:-39 25:-39 32:-39 34:-39 35:-39 45:-39 47:-39 65:-39 68:-39 69:-39 74:-39 75:-39 76:-39 78:-39 80:-39 82:-39 84:-39 85:-39 86:-39 87:-39 88:-39 89:-39 95:-39 96:-39",
  "67:366",
  "1:-223 8:-223 26:-223 31:-223 32:-223 36:-223 37:-223 38:-223 39:-223 44:-223 47:-223 51:-223 53:-223 57:-223 58:-223 62:-223 64:-223 67:367 77:-223 79:-223 82:-223 90:-223 92:-223",
  "71:368",
  "1:-41 4:-41 5:-41 6:-41 7:-41 8:-41 12:-41 13:-41 14:-41 17:-41 18:-41 20:-41 21:-41 24:-41 25:-41 26:-41 27:-41 29:-41 31:-41 32:-41 33:-41 34:-41 35:-41 36:-41 37:-41 38:-41 39:-41 41:-41 44:-41 45:-41 47:-41 51:-41 53:-41 57:-41 58:-41 62:-41 64:-41 66:-41 68:-41 69:-41 70:-41 74:-41 75:-41 76:-41 77:-41 78:-41 79:-41 80:-41 81:-41 82:-41 84:-41 85:-41 86:-41 87:-41 88:-41 89:-41 90:-41 91:-41 92:-41 95:-41 96:-41",
  "1:-44 4:-44 5:-44 6:-44 7:-44 8:-44 12:-44 13:-44 14:-44 17:-44 18:-44 20:-44 21:-44 24:-44 25:-44 26:-44 27:-44 29:-44 31:-44 32:-44 33:-44 34:-44 35:-44 36:-44 37:-44 38:-44 39:-44 41:-44 44:-44 45:-44 47:-44 51:-44 53:-44 57:-44 58:-44 62:-44 64:-44 66:-44 68:-44 69:-44 70:-44 74:-44 75:-44 76:-44 77:-44 78:-44 79:-44 80:-44 81:-44 82:-44 84:-44 85:-44 86:-44 87:-44 88:-44 89:-44 90:-44 91:-44 92:-44 95:-44 96:-44",
  "32:369",
  "74:370",
  "1:-40 4:-40 5:-40 6:-40 7:-40 8:-40 12:-40 13:-40 14:-40 17:-40 18:-40 20:-40 21:-40 24:-40 25:-40 26:-40 27:-40 29:-40 31:-40 32:-40 33:-40 34:-40 35:-40 36:-40 37:-40 38:-40 39:-40 41:-40 44:-40 45:-40 47:-40 51:-40 53:-40 57:-40 58:-40 62:-40 64:-40 66:-40 68:-40 69:-40 70:-40 74:-40 75:-40 76:-40 77:-40 78:-40 79:-40 80:-40 81:-40 82:-40 84:-40 85:-40 86:-40 87:-40 88:-40 89:-40 90:-40 91:-40 92:-40 95:-40 96:-40",
  "1:144 8:122 26:125 31:148 32:112 36:118 37:145 38:138 39:149 44:119 47:141 51:128 53:142 57:152 58:133 62:135 64:137 74:371 77:127 79:143 82:157 90:124 92:123",
  "1:-42 4:-42 5:-42 6:-42 7:-42 8:-42 12:-42 13:-42 14:-42 17:-42 18:-42 20:-42 21:-42 24:-42 25:-42 26:-42 27:-42 29:-42 31:-42 32:-42 33:-42 34:-42 35:-42 36:-42 37:-42 38:-42 39:-42 41:-42 44:-42 45:-42 47:-42 51:-42 53:-42 57:-42 58:-42 62:-42 64:-42 66:-42 68:-42 69:-42 70:-42 74:-42 75:-42 76:-42 77:-42 78:-42 79:-42 80:-42 81:-42 82:-42 84:-42 85:-42 86:-42 87:-42 88:-42 89:-42 90:-42 91:-42 92:-42 95:-42 96:-42",
  "47:373",
  "74:374",
  "10:335 71:-14 74:-14",
  "9:375",
  "47:376",
  "1:144 8:122 26:125 31:148 32:112 36:118 37:145 38:138 39:149 44:119 47:230 51:128 53:142 57:152 58:133 62:135 64:137 77:127 79:143 82:157 90:124 92:123",
  "1:144 4:21 5:294 6:288 7:37 8:122 12:3 13:284 14:286 17:297 18:40 21:24 24:10 25:35 26:125 27:283 29:278 31:148 32:300 33:301 34:49 35:39 36:118 37:145 38:138 39:149 41:55 44:119 45:19 47:141 51:128 53:142 57:152 58:133 62:135 64:137 66:-6 68:17 69:32 70:281 74:-263 75:2 76:43 77:127 78:9 79:143 80:34 81:290 82:157 84:23 85:25 86:20 87:18 88:6 89:46 90:124 91:287 92:123 95:13 96:27",
  "47:380",
  "1:-156 4:-156 5:-156 6:-156 7:-156 8:-156 12:-156 13:-156 14:-156 17:-156 18:-156 21:-156 24:-156 25:-156 26:-156 27:-156 29:-156 31:-156 32:-156 33:-156 34:-156 35:-156 36:-156 37:-156 38:-156 39:-156 41:-156 44:-156 45:-156 47:-156 51:-156 53:-156 57:-156 58:-156 62:-156 64:-156 66:-156 68:-156 69:-156 70:-156 74:-156 75:-156 76:-156 77:-156 78:-156 79:-156 80:-156 81:-156 82:-156 84:-156 85:-156 86:-156 87:-156 88:-156 89:-156 90:-156 91:-156 92:-156 95:-156 96:-156",
  "1:-155 4:-155 5:-155 6:-155 7:-155 8:-155 12:-155 13:-155 14:-155 17:-155 18:-155 21:-155 24:-155 25:-155 26:-155 27:-155 29:-155 31:-155 32:-155 33:-155 34:-155 35:-155 36:-155 37:-155 38:-155 39:-155 41:-155 44:-155 45:-155 47:-155 51:-155 53:-155 57:-155 58:-155 62:-155 64:-155 66:-155 68:-155 69:-155 70:-155 74:-155 75:-155 76:-155 77:-155 78:-155 79:-155 80:-155 81:-155 82:-155 84:-155 85:-155 86:-155 87:-155 88:-155 89:-155 90:-155 91:-155 92:-155 95:-155 96:-155",
  "1:-45 4:-45 5:-45 6:-45 7:-45 8:-45 12:-45 13:-45 14:-45 17:-45 18:-45 20:-45 21:-45 24:-45 25:-45 26:-45 27:-45 29:-45 31:-45 32:-45 33:-45 34:-45 35:-45 36:-45 37:-45 38:-45 39:-45 41:-45 44:-45 45:-45 47:-45 51:-45 53:-45 57:-45 58:-45 62:-45 64:-45 66:-45 68:-45 69:-45 70:-45 74:-45 75:-45 76:-45 77:-45 78:-45 79:-45 80:-45 81:-45 82:-45 84:-45 85:-45 86:-45 87:-45 88:-45 89:-45 90:-45 91:-45 92:-45 95:-45 96:-45",
  "74:381",
  "1:-157 4:-157 5:-157 6:-157 7:-157 8:-157 12:-157 13:-157 14:-157 17:-157 18:-157 21:-157 24:-157 25:-157 26:-157 27:-157 29:-157 31:-157 32:-157 33:-157 34:-157 35:-157 36:-157 37:-157 38:-157 39:-157 41:-157 44:-157 45:-157 47:-157 51:-157 53:-157 57:-157 58:-157 62:-157 64:-157 66:-157 68:-157 69:-157 70:-157 74:-157 75:-157 76:-157 77:-157 78:-157 79:-157 80:-157 81:-157 82:-157 84:-157 85:-157 86:-157 87:-157 88:-157 89:-157 90:-157 91:-157 92:-157 95:-157 96:-157",
  "66:-5 74:-13",
  "1:144 5:294 6:288 8:122 13:284 14:286 17:297 26:125 27:283 29:278 31:148 32:300 33:301 36:118 37:145 38:138 39:149 41:55 44:119 47:141 51:128 53:142 57:152 58:133 62:135 64:137 70:281 74:-263 77:127 79:143 81:290 82:157 90:124 91:287 92:123",
  "1:-43 4:-43 5:-43 6:-43 7:-43 8:-43 12:-43 13:-43 14:-43 17:-43 18:-43 20:-43 21:-43 24:-43 25:-43 26:-43 27:-43 29:-43 31:-43 32:-43 33:-43 34:-43 35:-43 36:-43 37:-43 38:-43 39:-43 41:-43 44:-43 45:-43 47:-43 51:-43 53:-43 57:-43 58:-43 62:-43 64:-43 66:-43 68:-43 69:-43 70:-43 74:-43 75:-43 76:-43 77:-43 78:-43 79:-43 80:-43 81:-43 82:-43 84:-43 85:-43 86:-43 87:-43 88:-43 89:-43 90:-43 91:-43 92:-43 95:-43 96:-43",
  "66:176",
  "1:-248 2:-248 3:-248 9:384 10:-248 11:-248 15:-248 16:-248 22:-248 23:-248 28:-248 30:-248 40:-248 42:-248 43:-248 46:-248 47:-248 48:-248 49:-248 50:-248 51:-248 52:-248 53:-248 54:-248 55:-248 56:-248 59:-248 60:-248 61:-248 62:-248 63:-248 64:-248 72:-248 73:-248 74:-248 82:-248 83:-248 93:-248 94:-248",
  "47:385",
  "4:-89 7:-89 9:-89 10:-89 12:-89 18:-89 21:-89 23:-89 24:-89 25:-89 32:-89 34:-89 35:-89 42:-89 45:-89 47:-89 68:-89 69:-89 71:-89 74:-89 75:-89 76:-89 78:-89 80:-89 82:-89 84:-89 85:-89 86:-89 87:-89 88:-89 89:-89 95:-89 96:-89",
  "4:-88 7:-88 9:-88 10:-88 12:-88 18:-88 21:-88 23:-88 24:-88 25:-88 32:-88 34:-88 35:-88 42:-88 45:-88 47:-88 68:-88 69:-88 71:-88 74:-88 75:-88 76:-88 78:-88 80:-88 82:-88 84:-88 85:-88 86:-88 87:-88 88:-88 89:-88 95:-88 96:-88",
  "10:-100 74:-100",
  "9:-192 10:-192 66:-192 67:-192 74:-192",
  "9:181 32:33 47:4 82:28",
  "7:-94 12:-94 18:-94 21:-94 25:-94 35:-94 45:-94 66:-94 69:-94 75:-94 76:-94 80:-94 85:-94 86:-94 87:-94 88:-94 89:-94 95:-94 96:-94",
  "7:-95 12:-95 18:-95 21:-95 25:-95 35:-95 45:-95 66:-95 69:-95 75:-95 76:-95 80:-95 85:-95 86:-95 87:-95 88:-95 89:-95 95:-95 96:-95",
  "1:144 8:122 26:125 31:148 32:112 36:118 37:145 38:138 39:149 44:119 47:230 51:128 53:142 57:152 58:133 62:135 64:137 77:127 79:143 82:157 90:124 92:123",
  "4:-105 7:-105 9:-105 10:-105 12:-105 18:-105 21:-105 23:-105 24:-105 25:-105 32:-105 34:-105 35:-105 42:-105 45:-105 47:-105 68:-105 69:-105 71:-105 74:-105 75:-105 76:-105 78:-105 80:-105 82:-105 84:-105 85:-105 86:-105 87:-105 88:-105 89:-105 95:-105 96:-105",
  "4:-104 7:-104 9:-104 10:-104 12:-104 18:-104 21:-104 23:-104 24:-104 25:-104 32:-104 34:-104 35:-104 42:-104 45:-104 47:-104 68:-104 69:-104 71:-104 74:-104 75:-104 76:-104 78:-104 80:-104 82:-104 84:-104 85:-104 86:-104 87:-104 88:-104 89:-104 95:-104 96:-104",
  "10:-108 66:-108",
  "10:-110 66:-110",
  "4:-116 7:-116 9:-116 10:-116 12:-116 18:-116 21:-116 23:-116 24:-116 25:-116 34:-116 35:-116 41:-116 42:-116 45:-116 47:-116 68:-116 69:-116 71:-116 74:-116 75:-116 76:-116 78:-116 80:-116 84:-116 85:-116 86:-116 87:-116 88:-116 89:-116 95:-116 96:-116",
  "4:-119 7:-119 9:-119 10:-119 12:-119 18:-119 21:-119 23:-119 24:-119 25:-119 34:-119 35:-119 41:-119 42:-119 45:-119 47:-119 68:-119 69:-119 71:-119 74:-119 75:-119 76:-119 78:-119 80:-119 84:-119 85:-119 86:-119 87:-119 88:-119 89:-119 95:-119 96:-119",
  "67:388",
  "67:389",
  "10:-133 71:-133",
  "71:-127",
  "10:-129 71:-129",
  "9:-180 10:-180 66:-180 67:-180 71:-180 74:-180",
  "71:390",
  "1:-235 2:-235 3:-235 9:-235 10:-235 11:-235 15:-235 16:-235 22:-235 23:-235 28:-235 30:-235 40:-235 42:-235 43:-235 46:-235 47:-235 48:-235 49:-235 50:-235 51:-235 52:-235 53:-235 54:-235 55:-235 56:-235 59:-235 60:-235 61:-235 62:-235 63:-235 64:-235 66:-235 67:-235 71:-235 72:-235 73:-235 74:-235 82:-235 83:-235 93:-235 94:-235",
  "1:-234 2:-234 3:-234 9:-234 10:-234 11:-234 15:-234 16:-234 22:-234 23:-234 28:-234 30:-234 40:-234 42:-234 43:-234 46:-234 47:-234 48:-234 49:-234 50:-234 51:-234 52:-234 53:-234 54:-234 55:-234 56:-234 59:-234 60:-234 61:-234 62:-234 63:-234 64:-234 66:-234 67:-234 71:-234 72:-234 73:-234 74:-234 82:-234 83:-234 93:-234 94:-234",
  "1:-233 2:-233 3:-233 9:-233 10:-233 11:-233 15:-233 16:-233 22:-233 23:-233 28:-233 30:-233 40:-233 42:-233 43:-233 46:-233 47:-233 48:-233 49:-233 50:-233 51:-233 52:-233 53:-233 54:-233 55:-233 56:-233 59:-233 60:-233 61:-233 62:-233 63:-233 64:-233 66:-233 67:-233 71:-233 72:-233 73:-233 74:-233 82:-233 83:-233 93:-233 94:-233",
  "1:-232 2:-232 3:-232 9:-232 10:-232 11:-232 15:-232 16:-232 22:-232 23:-232 28:-232 30:-232 40:-232 42:-232 43:-232 46:-232 47:-232 48:-232 49:-232 50:-232 51:-232 52:-232 53:-232 54:-232 55:-232 56:-232 59:-232 60:-232 61:-232 62:-232 63:-232 64:-232 66:-232 67:-232 71:-232 72:-232 73:-232 74:-232 82:-232 83:-232 93:-232 94:-232",
  "10:335 67:391",
  "10:-246 71:-246",
  "1:-231 2:-231 3:-231 9:-231 10:-231 11:-231 15:-231 16:-231 22:-231 23:-231 28:-231 30:-231 40:-231 42:-231 43:-231 46:-231 47:-231 48:-231 49:-231 50:-231 51:-231 52:-231 53:-231 54:-231 55:-231 56:-231 59:-231 60:-231 61:-231 62:-231 63:-231 64:-231 66:-231 67:-231 71:-231 72:-231 73:-231 74:-231 82:-231 83:-231 93:-231 94:-231",
  "10:393 71:392",
  "10:394",
  "71:395",
  "71:396",
  "1:-244 2:-244 3:-244 9:-244 10:-244 11:-244 15:-244 16:-244 22:-244 23:-244 28:-244 30:-244 40:-244 42:-244 43:-244 46:-244 47:-244 48:-244 49:-244 50:-244 51:-244 52:-244 53:-244 54:-244 55:-244 56:-244 59:-244 60:-244 61:-244 62:-244 63:-244 64:-244 66:-244 67:-244 71:-244 72:-244 73:-244 74:-244 82:-244 83:-244 93:-244 94:-244",
  "1:144 8:122 26:125 31:148 32:112 36:118 37:145 38:138 39:149 44:119 47:141 51:128 53:142 57:152 58:133 62:135 64:137 77:127 79:143 82:157 90:124 92:123",
  "1:144 8:122 26:125 31:148 32:112 36:118 37:145 38:138 39:149 41:55 44:119 47:230 51:128 53:142 57:152 58:133 62:135 64:137 77:127 79:143 82:157 90:124 92:123",
  "10:-144 71:-144",
  "4:21 7:37 12:3 18:40 21:24 24:10 25:35 34:49 35:39 42:72 45:19 47:338 68:17 69:32 71:-263 75:2 76:43 78:9 80:34 82:28 84:23 85:25 86:20 87:18 88:6 89:46 95:13 96:27",
  "10:-145 42:72 47:338 71:-145",
  "1:-201 9:-201 10:-201 11:-201 16:251 22:-201 28:-201 30:-201 40:-201 43:-201 46:-201 48:-201 50:-201 51:244 54:259 56:-201 59:-201 62:248 66:-201 67:-201 71:-201 72:-201 74:-201 82:252 93:-201",
  "1:256 9:-213 10:-213 11:-213 16:251 22:255 28:253 30:249 40:254 43:245 46:-213 48:243 50:247 51:244 54:259 56:246 59:258 62:248 66:-213 67:-213 71:-213 72:241 74:-213 82:252 93:250",
  "1:-202 9:-202 10:-202 11:-202 16:251 22:-202 28:-202 30:-202 40:-202 43:-202 46:-202 48:-202 50:-202 51:244 54:259 56:-202 59:-202 62:248 66:-202 67:-202 71:-202 72:-202 74:-202 82:252 93:-202",
  "1:-200 9:-200 10:-200 11:-200 16:251 22:-200 28:-200 30:-200 40:-200 43:-200 46:-200 48:-200 50:-200 51:-200 54:259 56:-200 59:-200 62:-200 66:-200 67:-200 71:-200 72:-200 74:-200 82:252 93:-200",
  "1:-204 9:-204 10:-204 11:-204 16:251 22:-204 28:-204 30:-204 40:-204 43:-204 46:-204 48:243 50:-204 51:244 54:259 56:-204 59:-204 62:248 66:-204 67:-204 71:-204 72:241 74:-204 82:252 93:-204",
  "1:-208 9:-208 10:-208 11:-208 16:251 22:-208 28:253 30:249 40:-208 43:245 46:-208 48:243 50:247 51:244 54:259 56:-208 59:-208 62:248 66:-208 67:-208 71:-208 72:241 74:-208 82:252 93:-208",
  "1:-203 9:-203 10:-203 11:-203 16:251 22:-203 28:-203 30:-203 40:-203 43:-203 46:-203 48:243 50:-203 51:244 54:259 56:-203 59:-203 62:248 66:-203 67:-203 71:-203 72:241 74:-203 82:252 93:-203",
  "1:-199 9:-199 10:-199 11:-199 16:251 22:-199 28:-199 30:-199 40:-199 43:-199 46:-199 48:-199 50:-199 51:-199 54:259 56:-199 59:-199 62:-199 66:-199 67:-199 71:-199 72:-199 74:-199 82:252 93:-199",
  "1:-206 9:-206 10:-206 11:-206 16:251 22:-206 28:-206 30:-206 40:-206 43:-206 46:-206 48:243 50:-206 51:244 54:259 56:-206 59:-206 62:248 66:-206 67:-206 71:-206 72:241 74:-206 82:252 93:-206",
  "1:256 9:-211 10:-211 11:-211 16:251 22:255 28:253 30:249 40:-211 43:245 46:-211 48:243 50:247 51:244 54:259 56:246 59:-211 62:248 66:-211 67:-211 71:-211 72:241 74:-211 82:252 93:-211",
  "1:-197 9:-197 10:-197 11:-197 16:-197 22:-197 28:-197 30:-197 40:-197 43:-197 46:-197 48:-197 50:-197 51:-197 54:-197 56:-197 59:-197 62:-197 66:-197 67:-197 71:-197 72:-197 74:-197 82:-197 93:-197",
  "1:-196 9:-196 10:-196 11:-196 16:-196 22:-196 28:-196 30:-196 40:-196 43:-196 46:-196 48:-196 50:-196 51:-196 54:-196 56:-196 59:-196 62:-196 66:-196 67:-196 71:-196 72:-196 74:-196 82:-196 93:-196",
  "1:-205 9:-205 10:-205 11:-205 16:251 22:-205 28:-205 30:-205 40:-205 43:-205 46:-205 48:243 50:-205 51:244 54:259 56:-205 59:-205 62:248 66:-205 67:-205 71:-205 72:241 74:-205 82:252 93:-205",
  "1:256 9:-212 10:-212 11:-212 16:251 22:255 28:253 30:249 40:-212 43:245 46:-212 48:243 50:247 51:244 54:259 56:246 59:258 62:248 66:-212 67:-212 71:-212 72:241 74:-212 82:252 93:250",
  "1:-207 9:-207 10:-207 11:-207 16:251 22:-207 28:253 30:249 40:-207 43:245 46:-207 48:243 50:247 51:244 54:259 56:-207 59:-207 62:248 66:-207 67:-207 71:-207 72:241 74:-207 82:252 93:-207",
  "1:-209 9:-209 10:-209 11:-209 16:251 22:255 28:253 30:249 40:-209 43:245 46:-209 48:243 50:247 51:244 54:259 56:246 59:-209 62:248 66:-209 67:-209 71:-209 72:241 74:-209 82:252 93:-209",
  "9:400 10:335",
  "1:256 9:-210 10:-210 11:-210 16:251 22:255 28:253 30:249 40:-210 43:245 46:-210 48:243 50:247 51:244 54:259 56:246 59:-210 62:248 66:-210 67:-210 71:-210 72:241 74:-210 82:252 93:250",
  "1:-198 9:-198 10:-198 11:-198 16:-198 22:-198 28:-198 30:-198 40:-198 43:-198 46:-198 48:-198 50:-198 51:-198 54:-198 56:-198 59:-198 62:-198 66:-198 67:-198 71:-198 72:-198 74:-198 82:-198 93:-198",
  "10:-135 66:-135 74:-135",
  "23:-143 42:-143 61:-143",
  "67:401",
  "1:-263 8:-263 26:-263 31:-263 32:-263 36:-263 37:-263 38:-263 39:-263 41:-263 42:264 44:-263 47:-263 51:-263 53:-263 57:-263 58:-263 61:263 62:-263 64:-263 66:176 77:-263 79:-263 82:-263 90:-263 92:-263",
  "10:-137 66:-137",
  "23:-141 42:-141 61:-141",
  "1:-139 8:-139 26:-139 31:-139 32:-139 36:-139 37:-139 38:-139 39:-139 41:-139 44:-139 47:-139 51:-139 53:-139 57:-139 58:-139 62:-139 64:-139 77:-139 79:-139 82:-139 90:-139 92:-139",
  "10:-149 42:-149 47:-149 71:-149 74:-149",
  "10:-151 42:-151 47:-151 71:-151 74:-151",
  "10:-153 42:-153 47:-153 71:-153 74:-153",
  "74:405",
  "1:-175 4:-175 5:-175 6:-175 7:-175 8:-175 12:-175 13:-175 14:-175 17:-175 18:-175 20:-175 21:-175 24:-175 25:-175 26:-175 27:-175 29:-175 31:-175 32:-175 33:-175 34:-175 35:-175 36:-175 37:-175 38:-175 39:-175 41:-175 44:-175 45:-175 47:-175 51:-175 53:-175 57:-175 58:-175 62:-175 64:-175 66:-175 68:-175 69:-175 70:-175 74:-175 75:-175 76:-175 77:-175 78:-175 79:-175 80:-175 81:-175 82:-175 84:-175 85:-175 86:-175 87:-175 88:-175 89:-175 90:-175 91:-175 92:-175 95:-175 96:-175",
  "1:-174 4:-174 5:-174 6:-174 7:-174 8:-174 12:-174 13:-174 14:-174 17:-174 18:-174 20:-174 21:-174 24:-174 25:-174 26:-174 27:-174 29:-174 31:-174 32:-174 33:-174 34:-174 35:-174 36:-174 37:-174 38:-174 39:-174 41:-174 44:-174 45:-174 47:-174 51:-174 53:-174 57:-174 58:-174 62:-174 64:-174 66:-174 68:-174 69:-174 70:-174 74:-174 75:-174 76:-174 77:-174 78:-174 79:-174 80:-174 81:-174 82:-174 84:-174 85:-174 86:-174 87:-174 88:-174 89:-174 90:-174 91:-174 92:-174 95:-174 96:-174",
  "10:335 74:406",
  "1:144 4:21 7:37 8:122 12:3 18:40 21:24 24:10 25:35 26:125 31:148 32:112 34:49 35:39 36:118 37:145 38:138 39:149 44:119 45:19 47:141 51:128 53:142 57:152 58:133 62:135 64:137 68:17 69:32 74:-263 75:2 76:43 77:127 78:9 79:143 80:34 82:157 84:23 85:25 86:20 87:18 88:6 89:46 90:124 92:123 95:13 96:27",
  "1:-172 4:-172 5:-172 6:-172 7:-172 8:-172 12:-172 13:-172 14:-172 17:-172 18:-172 20:-172 21:-172 24:-172 25:-172 26:-172 27:-172 29:-172 31:-172 32:-172 33:-172 34:-172 35:-172 36:-172 37:-172 38:-172 39:-172 41:-172 44:-172 45:-172 47:-172 51:-172 53:-172 57:-172 58:-172 62:-172 64:-172 66:-172 68:-172 69:-172 70:-172 74:-172 75:-172 76:-172 77:-172 78:-172 79:-172 80:-172 81:-172 82:-172 84:-172 85:-172 86:-172 87:-172 88:-172 89:-172 90:-172 91:-172 92:-172 95:-172 96:-172",
  "1:144 5:294 6:288 8:122 13:284 14:286 17:297 26:125 27:283 29:278 31:148 32:300 33:301 36:118 37:145 38:138 39:149 41:55 44:119 47:141 51:128 53:142 57:152 58:133 62:135 64:137 70:281 74:-263 77:127 79:143 81:290 82:157 90:124 91:287 92:123",
  "1:144 8:122 26:125 31:148 32:112 36:118 37:145 38:138 39:149 44:119 47:141 51:128 53:142 57:152 58:133 62:135 64:137 77:127 79:143 82:157 90:124 92:123",
  "9:411",
  "71:-13 74:-13",
  "1:-158 4:-158 5:-158 6:-158 7:-158 8:-158 12:-158 13:-158 14:-158 17:-158 18:-158 21:-158 24:-158 25:-158 26:-158 27:-158 29:-158 31:-158 32:-158 33:-158 34:-158 35:-158 36:-158 37:-158 38:-158 39:-158 41:-158 44:-158 45:-158 47:-158 51:-158 53:-158 57:-158 58:-158 62:-158 64:-158 66:-158 68:-158 69:-158 70:-158 74:-158 75:-158 76:-158 77:-158 78:-158 79:-158 80:-158 81:-158 82:-158 84:-158 85:-158 86:-158 87:-158 88:-158 89:-158 90:-158 91:-158 92:-158 95:-158 96:-158",
  "1:144 8:122 26:125 31:148 32:112 36:118 37:145 38:138 39:149 44:119 47:141 51:128 53:142 57:152 58:133 62:135 64:137 77:127 79:143 82:157 90:124 92:123",
  "1:-171 4:-171 5:-171 6:-171 7:-171 8:-171 12:-171 13:-171 14:-171 17:-171 18:-171 20:-171 21:-171 24:-171 25:-171 26:-171 27:-171 29:-171 31:-171 32:-171 33:-171 34:-171 35:-171 36:-171 37:-171 38:-171 39:-171 41:-171 44:-171 45:-171 47:-171 51:-171 53:-171 57:-171 58:-171 62:-171 64:-171 66:-171 68:-171 69:-171 70:-171 74:-171 75:-171 76:-171 77:-171 78:-171 79:-171 80:-171 81:-171 82:-171 84:-171 85:-171 86:-171 87:-171 88:-171 89:-171 90:-171 91:-171 92:-171 95:-171 96:-171",
  "91:413",
  "0:-159 1:-159 4:-159 5:-159 6:-159 7:-159 8:-159 12:-159 13:-159 14:-159 17:-159 18:-159 20:-159 21:-159 24:-159 25:-159 26:-159 27:-159 29:-159 31:-159 32:-159 33:-159 34:-159 35:-159 36:-159 37:-159 38:-159 39:-159 41:-159 44:-159 45:-159 47:-159 51:-159 53:-159 57:-159 58:-159 62:-159 64:-159 65:-159 66:-159 68:-159 69:-159 70:-159 74:-159 75:-159 76:-159 77:-159 78:-159 79:-159 80:-159 81:-159 82:-159 84:-159 85:-159 86:-159 87:-159 88:-159 89:-159 90:-159 91:-159 92:-159 95:-159 96:-159",
  "1:144 5:294 6:288 8:122 13:284 14:286 17:297 26:125 27:283 29:278 31:148 32:300 33:301 36:118 37:145 38:138 39:149 41:55 44:119 47:141 51:128 53:142 57:152 58:133 62:135 64:137 70:281 74:-263 77:127 79:143 81:290 82:157 90:124 91:287 92:123",
  "1:144 8:122 26:125 31:148 32:112 36:118 37:145 38:138 39:149 44:119 47:141 51:128 53:142 57:152 58:133 62:135 64:137 77:127 79:143 82:157 90:124 92:123",
  "10:-97 74:-97",
  "10:-99 74:-99",
  "4:-118 7:-118 9:-118 10:-118 12:-118 18:-118 21:-118 23:-118 24:-118 25:-118 34:-118 35:-118 41:-118 42:-118 45:-118 47:-118 68:-118 69:-118 71:-118 74:-118 75:-118 76:-118 78:-118 80:-118 84:-118 85:-118 86:-118 87:-118 88:-118 89:-118 95:-118 96:-118",
  "4:-117 7:-117 9:-117 10:-117 12:-117 18:-117 21:-117 23:-117 24:-117 25:-117 34:-117 35:-117 41:-117 42:-117 45:-117 47:-117 68:-117 69:-117 71:-117 74:-117 75:-117 76:-117 78:-117 80:-117 84:-117 85:-117 86:-117 87:-117 88:-117 89:-117 95:-117 96:-117",
  "1:-221 2:-221 9:-221 10:-221 11:-221 15:-221 16:-221 22:-221 23:-221 28:-221 30:-221 40:-221 41:55 43:-221 46:-221 48:-221 49:-221 50:-221 51:-221 52:-221 54:-221 55:-221 56:-221 59:-221 60:-221 62:-221 63:-221 66:-221 67:-221 71:-221 72:-221 73:-221 74:-221 82:-221 83:-221 93:-221 94:-221",
  "1:-229 2:-229 3:-229 9:-229 10:-229 11:-229 15:-229 16:-229 22:-229 23:-229 28:-229 30:-229 40:-229 42:-229 43:-229 46:-229 47:-229 48:-229 49:-229 50:-229 51:-229 52:-229 53:-229 54:-229 55:-229 56:-229 59:-229 60:-229 61:-229 62:-229 63:-229 64:-229 66:-229 67:-229 71:-229 72:-229 73:-229 74:-229 82:-229 83:-229 93:-229 94:-229",
  "1:-230 2:-230 3:-230 9:-230 10:-230 11:-230 15:-230 16:-230 22:-230 23:-230 28:-230 30:-230 40:-230 42:-230 43:-230 46:-230 47:-230 48:-230 49:-230 50:-230 51:-230 52:-230 53:-230 54:-230 55:-230 56:-230 59:-230 60:-230 61:-230 62:-230 63:-230 64:-230 66:-230 67:-230 71:-230 72:-230 73:-230 74:-230 82:-230 83:-230 93:-230 94:-230",
  "1:144 8:122 26:125 31:148 32:112 36:118 37:145 38:138 39:149 44:119 47:141 51:128 53:142 57:152 58:133 62:135 64:137 77:127 79:143 82:157 90:124 92:123",
  "32:112",
  "1:144 8:122 26:125 31:148 32:112 36:118 37:145 38:138 39:149 41:55 44:119 47:230 51:128 53:142 57:152 58:133 62:135 64:137 77:127 79:143 82:157 90:124 92:123",
  "41:55",
  "9:-177 10:-177 67:-177 71:-177 74:-177",
  "1:-215 2:-215 9:-215 10:-215 11:-215 15:-215 16:-215 22:-215 23:-215 28:-215 30:-215 40:-215 43:-215 46:-215 48:-215 49:-215 50:-215 51:-215 52:-215 54:-215 55:-215 56:-215 59:-215 60:-215 62:-215 63:-215 66:-215 67:-215 71:-215 72:-215 73:-215 74:-215 82:-215 83:-215 93:-215 94:-215",
  "1:-263 8:-263 26:-263 31:-263 32:-263 36:-263 37:-263 38:-263 39:-263 41:-263 42:264 44:-263 47:-263 51:-263 53:-263 57:-263 58:-263 61:263 62:-263 64:-263 77:-263 79:-263 82:-263 90:-263 92:-263",
  "1:144 8:122 26:125 31:148 32:112 36:118 37:145 38:138 39:149 44:119 47:230 51:128 53:142 57:152 58:133 62:135 64:137 77:127 79:143 82:157 90:124 92:123",
  "23:-142 42:-142 61:-142",
  "1:144 8:122 26:125 31:148 32:112 36:118 37:145 38:138 39:149 41:55 44:119 47:141 51:128 53:142 57:152 58:133 62:135 64:137 77:127 79:143 82:157 90:124 92:123",
  "1:-11 8:-11 26:-11 31:-11 32:-11 36:-11 37:-11 38:-11 39:-11 41:-11 44:-11 47:-11 51:-11 53:-11 57:-11 58:-11 62:-11 64:-11 77:-11 79:-11 82:-11 90:-11 92:-11",
  "10:-136 66:-136 74:-136",
  "1:-170 4:-170 5:-170 6:-170 7:-170 8:-170 12:-170 13:-170 14:-170 17:-170 18:-170 20:-170 21:-170 24:-170 25:-170 26:-170 27:-170 29:-170 31:-170 32:-170 33:-170 34:-170 35:-170 36:-170 37:-170 38:-170 39:-170 41:-170 44:-170 45:-170 47:-170 51:-170 53:-170 57:-170 58:-170 62:-170 64:-170 66:-170 68:-170 69:-170 70:-170 74:-170 75:-170 76:-170 77:-170 78:-170 79:-170 80:-170 81:-170 82:-170 84:-170 85:-170 86:-170 87:-170 88:-170 89:-170 90:-170 91:-170 92:-170 95:-170 96:-170",
  "1:-173 4:-173 5:-173 6:-173 7:-173 8:-173 12:-173 13:-173 14:-173 17:-173 18:-173 20:-173 21:-173 24:-173 25:-173 26:-173 27:-173 29:-173 31:-173 32:-173 33:-173 34:-173 35:-173 36:-173 37:-173 38:-173 39:-173 41:-173 44:-173 45:-173 47:-173 51:-173 53:-173 57:-173 58:-173 62:-173 64:-173 66:-173 68:-173 69:-173 70:-173 74:-173 75:-173 76:-173 77:-173 78:-173 79:-173 80:-173 81:-173 82:-173 84:-173 85:-173 86:-173 87:-173 88:-173 89:-173 90:-173 91:-173 92:-173 95:-173 96:-173",
  "74:421",
  "1:144 8:122 26:125 31:148 32:112 36:118 37:145 38:138 39:149 44:119 47:141 51:128 53:142 57:152 58:133 62:135 64:137 74:-263 77:127 79:143 82:157 90:124 92:123",
  "1:-162 4:-162 5:-162 6:-162 7:-162 8:-162 12:-162 13:-162 14:-162 17:-162 18:-162 20:-162 21:-162 24:-162 25:-162 26:-162 27:-162 29:-162 31:-162 32:-162 33:-162 34:-162 35:-162 36:-162 37:-162 38:-162 39:-162 41:-162 44:-162 45:-162 47:-162 51:-162 53:-162 57:-162 58:-162 62:-162 64:-162 66:-162 68:-162 69:-162 70:-162 74:-162 75:-162 76:-162 77:-162 78:-162 79:-162 80:-162 81:-162 82:-162 84:-162 85:-162 86:-162 87:-162 88:-162 89:-162 90:-162 91:-162 92:-162 95:-162 96:-162",
  "10:335 71:423",
  "1:144 5:294 6:288 8:122 13:284 14:286 17:297 26:125 27:283 29:278 31:148 32:300 33:301 36:118 37:145 38:138 39:149 41:55 44:119 47:141 51:128 53:142 57:152 58:133 62:135 64:137 70:281 74:-263 77:127 79:143 81:290 82:157 90:124 91:287 92:123",
  "10:335 71:425",
  "47:426",
  "1:-160 4:-160 5:-160 6:-160 7:-160 8:-160 12:-160 13:-160 14:-160 17:-160 18:-160 20:-160 21:-160 24:-160 25:-160 26:-160 27:-160 29:-160 31:-160 32:-160 33:-160 34:-160 35:-160 36:-160 37:-160 38:-160 39:-160 41:-160 44:-160 45:-160 47:-160 51:-160 53:-160 57:-160 58:-160 62:-160 64:-160 66:-160 68:-160 69:-160 70:-160 74:-160 75:-160 76:-160 77:-160 78:-160 79:-160 80:-160 81:-160 82:-160 84:-160 85:-160 86:-160 87:-160 88:-160 89:-160 90:-160 91:-160 92:-160 95:-160 96:-160",
  "10:335 71:427",
  "10:-247 71:-247",
  "71:428",
  "10:429 66:176",
  "9:-194 10:-194 66:-194 67:-194 71:-194 74:-194",
  "10:-138 66:-138",
  "1:144 8:122 26:125 31:148 32:112 36:118 37:145 38:138 39:149 44:119 47:141 51:128 53:142 57:152 58:133 62:135 64:137 74:-263 77:127 79:143 82:157 90:124 92:123",
  "74:432",
  "1:144 5:294 6:288 8:122 13:284 14:286 17:297 26:125 27:283 29:278 31:148 32:300 33:301 36:118 37:145 38:138 39:149 41:55 44:119 47:141 51:128 53:142 57:152 58:133 62:135 64:137 70:281 74:-263 77:127 79:143 81:290 82:157 90:124 91:287 92:123",
  "1:-161 4:-161 5:-161 6:-161 7:-161 8:-161 12:-161 13:-161 14:-161 17:-161 18:-161 20:-161 21:-161 24:-161 25:-161 26:-161 27:-161 29:-161 31:-161 32:-161 33:-161 34:-161 35:-161 36:-161 37:-161 38:-161 39:-161 41:-161 44:-161 45:-161 47:-161 51:-161 53:-161 57:-161 58:-161 62:-161 64:-161 66:-161 68:-161 69:-161 70:-161 74:-161 75:-161 76:-161 77:-161 78:-161 79:-161 80:-161 81:-161 82:-161 84:-161 85:-161 86:-161 87:-161 88:-161 89:-161 90:-161 91:-161 92:-161 95:-161 96:-161",
  "1:144 5:294 6:288 8:122 13:284 14:286 17:297 26:125 27:283 29:278 31:148 32:300 33:301 36:118 37:145 38:138 39:149 41:55 44:119 47:141 51:128 53:142 57:152 58:133 62:135 64:137 70:281 74:-263 77:127 79:143 81:290 82:157 90:124 91:287 92:123",
  "1:144 8:122 26:125 31:148 32:112 36:118 37:145 38:138 39:149 44:119 47:141 51:128 53:142 57:152 58:133 62:135 64:137 77:127 79:143 82:157 90:124 92:123",
  "1:144 5:294 6:288 8:122 13:284 14:286 17:297 26:125 27:283 29:278 31:148 32:300 33:301 36:118 37:145 38:138 39:149 41:55 44:119 47:141 51:128 53:142 57:152 58:133 62:135 64:137 70:281 74:-263 77:127 79:143 81:290 82:157 90:124 91:287 92:123",
  "1:-245 2:-245 3:-245 9:-245 10:-245 11:-245 15:-245 16:-245 22:-245 23:-245 28:-245 30:-245 40:-245 42:-245 43:-245 46:-245 47:-245 48:-245 49:-245 50:-245 51:-245 52:-245 53:-245 54:-245 55:-245 56:-245 59:-245 60:-245 61:-245 62:-245 63:-245 64:-245 66:-245 67:-245 71:-245 72:-245 73:-245 74:-245 82:-245 83:-245 93:-245 94:-245",
  "1:-263 8:-263 26:-263 31:-263 32:-263 36:-263 37:-263 38:-263 39:-263 41:-263 42:264 44:-263 47:-263 51:-263 53:-263 57:-263 58:-263 61:263 62:-263 64:-263 66:176 77:-263 79:-263 82:-263 90:-263 92:-263",
  "1:-238 2:-238 3:-238 9:-238 10:-238 11:-238 15:-238 16:-238 22:-238 23:-238 28:-238 30:-238 40:-238 42:-238 43:-238 46:-238 47:-238 48:-238 49:-238 50:-238 51:-238 52:-238 53:-238 54:-238 55:-238 56:-238 59:-238 60:-238 61:-238 62:-238 63:-238 64:-238 66:-238 67:-238 71:-238 72:-238 73:-238 74:-238 82:-238 83:-238 93:-238 94:-238",
  "74:438",
  "1:144 8:122 26:125 31:148 32:112 36:118 37:145 38:138 39:149 44:119 47:141 51:128 53:142 57:152 58:133 62:135 64:137 71:-263 77:127 79:143 82:157 90:124 92:123",
  "1:-166 4:-166 5:-166 6:-166 7:-166 8:-166 12:-166 13:-166 14:-166 17:-166 18:-166 20:-166 21:-166 24:-166 25:-166 26:-166 27:-166 29:-166 31:-166 32:-166 33:-166 34:-166 35:-166 36:-166 37:-166 38:-166 39:-166 41:-166 44:-166 45:-166 47:-166 51:-166 53:-166 57:-166 58:-166 62:-166 64:-166 66:-166 68:-166 69:-166 70:-166 74:-166 75:-166 76:-166 77:-166 78:-166 79:-166 80:-166 81:-166 82:-166 84:-166 85:-166 86:-166 87:-166 88:-166 89:-166 90:-166 91:-166 92:-166 95:-166 96:-166",
  "1:-165 4:-165 5:-165 6:-165 7:-165 8:-165 12:-165 13:-165 14:-165 17:-165 18:-165 20:-165 21:-165 24:-165 25:-165 26:-165 27:-165 29:-165 31:-165 32:-165 33:-165 34:-165 35:-165 36:-165 37:-165 38:-165 39:-165 41:-165 44:-165 45:-165 47:-165 51:-165 53:-165 57:-165 58:-165 62:-165 64:-165 66:-165 68:-165 69:-165 70:-165 74:-165 75:-165 76:-165 77:-165 78:-165 79:-165 80:-165 81:-165 82:-165 84:-165 85:-165 86:-165 87:-165 88:-165 89:-165 90:-165 91:-165 92:-165 95:-165 96:-165",
  "10:335 71:440",
  "1:-163 4:-163 5:-163 6:-163 7:-163 8:-163 12:-163 13:-163 14:-163 17:-163 18:-163 20:441 21:-163 24:-163 25:-163 26:-163 27:-163 29:-163 31:-163 32:-163 33:-163 34:-163 35:-163 36:-163 37:-163 38:-163 39:-163 41:-163 44:-163 45:-163 47:-163 51:-163 53:-163 57:-163 58:-163 62:-163 64:-163 66:-163 68:-163 69:-163 70:-163 74:-163 75:-163 76:-163 77:-163 78:-163 79:-163 80:-163 81:-163 82:-163 84:-163 85:-163 86:-163 87:-163 88:-163 89:-163 90:-163 91:-163 92:-163 95:-163 96:-163",
  "1:-239 2:-239 3:-239 9:-239 10:-239 11:-239 15:-239 16:-239 22:-239 23:-239 28:-239 30:-239 40:-239 42:-239 43:-239 46:-239 47:-239 48:-239 49:-239 50:-239 51:-239 52:-239 53:-239 54:-239 55:-239 56:-239 59:-239 60:-239 61:-239 62:-239 63:-239 64:-239 66:-239 67:-239 71:-239 72:-239 73:-239 74:-239 82:-239 83:-239 93:-239 94:-239",
  "1:144 8:122 26:125 31:148 32:112 36:118 37:145 38:138 39:149 44:119 47:141 51:128 53:142 57:152 58:133 62:135 64:137 71:-263 77:127 79:143 82:157 90:124 92:123",
  "71:443",
  "74:444",
  "1:144 5:294 6:288 8:122 13:284 14:286 17:297 26:125 27:283 29:278 31:148 32:300 33:301 36:118 37:145 38:138 39:149 41:55 44:119 47:141 51:128 53:142 57:152 58:133 62:135 64:137 70:281 74:-263 77:127 79:143 81:290 82:157 90:124 91:287 92:123",
  "71:446",
  "1:144 5:294 6:288 8:122 13:284 14:286 17:297 26:125 27:283 29:278 31:148 32:300 33:301 36:118 37:145 38:138 39:149 41:55 44:119 47:141 51:128 53:142 57:152 58:133 62:135 64:137 70:281 74:-263 77:127 79:143 81:290 82:157 90:124 91:287 92:123",
  "1:-167 4:-167 5:-167 6:-167 7:-167 8:-167 12:-167 13:-167 14:-167 17:-167 18:-167 20:-167 21:-167 24:-167 25:-167 26:-167 27:-167 29:-167 31:-167 32:-167 33:-167 34:-167 35:-167 36:-167 37:-167 38:-167 39:-167 41:-167 44:-167 45:-167 47:-167 51:-167 53:-167 57:-167 58:-167 62:-167 64:-167 66:-167 68:-167 69:-167 70:-167 74:-167 75:-167 76:-167 77:-167 78:-167 79:-167 80:-167 81:-167 82:-167 84:-167 85:-167 86:-167 87:-167 88:-167 89:-167 90:-167 91:-167 92:-167 95:-167 96:-167",
  "1:-164 4:-164 5:-164 6:-164 7:-164 8:-164 12:-164 13:-164 14:-164 17:-164 18:-164 20:-164 21:-164 24:-164 25:-164 26:-164 27:-164 29:-164 31:-164 32:-164 33:-164 34:-164 35:-164 36:-164 37:-164 38:-164 39:-164 41:-164 44:-164 45:-164 47:-164 51:-164 53:-164 57:-164 58:-164 62:-164 64:-164 66:-164 68:-164 69:-164 70:-164 74:-164 75:-164 76:-164 77:-164 78:-164 79:-164 80:-164 81:-164 82:-164 84:-164 85:-164 86:-164 87:-164 88:-164 89:-164 90:-164 91:-164 92:-164 95:-164 96:-164",
  "1:144 5:294 6:288 8:122 13:284 14:286 17:297 26:125 27:283 29:278 31:148 32:300 33:301 36:118 37:145 38:138 39:149 41:55 44:119 47:141 51:128 53:142 57:152 58:133 62:135 64:137 70:281 74:-263 77:127 79:143 81:290 82:157 90:124 91:287 92:123",
  "1:-169 4:-169 5:-169 6:-169 7:-169 8:-169 12:-169 13:-169 14:-169 17:-169 18:-169 20:-169 21:-169 24:-169 25:-169 26:-169 27:-169 29:-169 31:-169 32:-169 33:-169 34:-169 35:-169 36:-169 37:-169 38:-169 39:-169 41:-169 44:-169 45:-169 47:-169 51:-169 53:-169 57:-169 58:-169 62:-169 64:-169 66:-169 68:-169 69:-169 70:-169 74:-169 75:-169 76:-169 77:-169 78:-169 79:-169 80:-169 81:-169 82:-169 84:-169 85:-169 86:-169 87:-169 88:-169 89:-169 90:-169 91:-169 92:-169 95:-169 96:-169",
  "1:-168 4:-168 5:-168 6:-168 7:-168 8:-168 12:-168 13:-168 14:-168 17:-168 18:-168 20:-168 21:-168 24:-168 25:-168 26:-168 27:-168 29:-168 31:-168 32:-168 33:-168 34:-168 35:-168 36:-168 37:-168 38:-168 39:-168 41:-168 44:-168 45:-168 47:-168 51:-168 53:-168 57:-168 58:-168 62:-168 64:-168 66:-168 68:-168 69:-168 70:-168 74:-168 75:-168 76:-168 77:-168 78:-168 79:-168 80:-168 81:-168 82:-168 84:-168 85:-168 86:-168 87:-168 88:-168 89:-168 90:-168 91:-168 92:-168 95:-168 96:-168"]

/-- The gotos of the states, in the same layout: for each nonterminal its number
and the state to go to. -/
def gotoRows : Array String := #[
  "15:8 16:22 17:12 18:11 19:36 21:41 22:31 24:30 25:1 26:44 27:14 28:42 32:5 33:7 38:45 41:48 42:26 43:16 66:29 84:47",
  "5:50 24:52 25:1 26:44 27:14 28:42 32:5 33:7 38:45 66:29 84:51",
  "",
  "",
  "41:53 42:26 43:16",
  "",
  "",
  "82:57",
  "",
  "",
  "",
  "",
  "",
  "",
  "5:58 24:52 25:1 26:44 27:14 28:42 32:5 33:7 38:45 66:29 84:51",
  "",
  "42:60",
  "",
  "",
  "",
  "",
  "",
  "17:61 18:11 19:36 21:41 22:31 24:30 25:1 26:44 27:14 28:42 32:5 33:7 38:45 41:48 42:26 43:16 66:29",
  "",
  "82:64",
  "",
  "",
  "",
  "14:68 28:69 44:67 84:70",
  "",
  "9:73 29:71 30:75 41:80 42:26 43:74 55:79 56:81 84:76",
  "",
  "",
  "",
  "",
  "",
  "",
  "",
  "",
  "",
  "",
  "",
  "5:83 24:52 25:1 26:44 27:14 28:42 32:5 33:7 38:45 66:29 84:51",
  "",
  "5:84 24:52 25:1 26:44 27:14 28:42 32:5 33:7 38:45 66:29 84:51",
  "",
  "",
  "",
  "4:88 21:41 22:87 23:89 24:86 25:1 26:44 27:14 28:42 32:5 33:7 38:45 66:29 84:85",
  "",
  "",
  "",
  "",
  "",
  "82:91",
  "",
  "82:92",
  "27:94 28:96 31:97 32:5 33:7 34:93 35:95 38:45 66:29",
  "",
  "",
  "",
  "",
  "82:98",
  "82:99",
  "39:101 40:100",
  "14:103 28:69 44:104 84:70",
  "8:106 24:110 25:1 26:44 27:14 28:42 32:5 33:7 38:45 45:108 46:113 47:109 48:111 66:29 78:114 84:107",
  "28:115",
  "43:116",
  "",
  "",
  "",
  "2:131 67:136 70:151 71:147 72:132 73:120 74:134 75:130 76:140 78:146 79:126 80:129 81:121 84:150",
  "",
  "42:60 56:153",
  "",
  "",
  "49:154 67:156 70:151 71:147 72:132 73:120 74:134 75:130 76:140 78:146 79:126 80:129 81:121 82:155",
  "11:160 24:110 25:1 26:44 27:14 28:42 32:5 33:7 38:45 41:53 42:26 43:74 45:159 46:113 47:109 55:161 56:81 66:29 84:158",
  "",
  "4:163 21:41 22:87 23:89 24:86 25:1 26:44 27:14 28:42 32:5 33:7 38:45 66:29 84:85",
  "",
  "",
  "",
  "",
  "",
  "9:73 29:71 30:75 41:168 42:26 43:166 55:79 56:81 84:76",
  "",
  "59:169 82:170",
  "21:41 22:171 24:86 25:1 26:44 27:14 28:42 32:5 33:7 38:45 66:29",
  "",
  "27:94 28:96 31:97 32:5 33:7 34:172 35:95 38:45 66:29",
  "27:94 28:96 31:97 32:5 33:7 34:173 35:95 38:45 66:29",
  "27:94 28:96 31:97 32:5 33:7 35:175 38:45 66:29 83:174",
  "12:178 27:94 28:96 31:179 32:5 33:7 38:45 66:29 84:177",
  "",
  "12:180 27:94 28:96 31:179 32:5 33:7 38:45 66:29 84:177",
  "13:183 36:182 37:184 41:187 42:26 43:166 55:185 56:81 84:186",
  "39:188 40:100",
  "39:189 40:100",
  "",
  "83:191",
  "",
  "2:193 67:136 70:151 71:147 72:132 73:120 74:134 75:130 76:140 78:146 79:126 80:129 81:121 84:150",
  "28:115",
  "14:196 28:69 44:67 84:70",
  "",
  "",
  "",
  "",
  "1:199 41:202 42:26 43:74 55:201 56:81 84:200",
  "",
  "",
  "",
  "",
  "",
  "",
  "30:205 41:168 42:26 43:16",
  "",
  "",
  "68:213",
  "",
  "",
  "",
  "",
  "",
  "",
  "73:220 74:134 75:130 76:140 78:146 79:126 80:129 81:121",
  "",
  "",
  "",
  "",
  "",
  "",
  "72:232 73:231 74:134 75:130 76:140 78:146 79:126 80:129 81:121",
  "",
  "",
  "73:234 74:134 75:130 76:140 78:146 79:126 80:129 81:121",
  "",
  "",
  "",
  "27:94 28:96 31:239 32:5 33:7 38:45 54:237 65:236 66:29 67:238 70:151 71:147 72:132 73:120 74:134 75:130 76:140 78:146 79:126 80:129 81:121",
  "73:240 74:134 75:130 76:140 78:146 79:126 80:129 81:121",
  "",
  "",
  "",
  "",
  "",
  "",
  "",
  "",
  "",
  "",
  "",
  "",
  "6:266 10:261 50:265 51:260 52:267 53:262 84:268",
  "",
  "",
  "",
  "",
  "",
  "",
  "49:271 67:156 70:151 71:147 72:132 73:120 74:134 75:130 76:140 78:146 79:126 80:129 81:121 82:155",
  "59:272 82:170",
  "2:273 67:136 70:151 71:147 72:132 73:120 74:134 75:130 76:140 78:146 79:126 80:129 81:121 84:150",
  "11:275 24:110 25:1 26:44 27:14 28:42 32:5 33:7 38:45 45:159 46:113 47:109 66:29 84:158",
  "42:60 56:153",
  "11:160 24:110 25:1 26:44 27:14 28:42 32:5 33:7 38:45 41:53 42:26 43:166 45:159 46:113 47:109 55:161 56:81 66:29 84:158",
  "",
  "",
  "3:299 7:279 20:291 21:41 22:292 24:86 25:1 26:44 27:14 28:42 32:5 33:7 38:45 57:295 58:289 59:282 60:280 61:298 62:277 63:293 64:276 65:285 66:29 67:238 70:151 71:147 72:132 73:120 74:134 75:130 76:140 78:146 79:126 80:129 81:121 82:170 84:296",
  "",
  "27:94 28:96 31:97 32:5 33:7 35:175 38:45 66:29 83:302",
  "27:94 28:96 31:97 32:5 33:7 35:175 38:45 66:29 83:303",
  "",
  "",
  "",
  "",
  "",
  "",
  "",
  "69:304 70:305 71:147 72:132 73:231 74:134 75:130 76:140 78:146 79:126 80:129 81:121",
  "",
  "",
  "",
  "",
  "",
  "",
  "83:310",
  "83:311",
  "40:312",
  "",
  "69:313 70:305 71:147 72:132 73:231 74:134 75:130 76:140 78:146 79:126 80:129 81:121",
  "",
  "",
  "67:316 70:151 71:147 72:132 73:120 74:134 75:130 76:140 78:146 79:126 80:129 81:121",
  "67:317 70:151 71:147 72:132 73:120 74:134 75:130 76:140 78:146 79:126 80:129 81:121",
  "",
  "",
  "",
  "",
  "",
  "",
  "78:318",
  "24:110 25:1 26:44 27:14 28:42 32:5 33:7 38:45 47:320 66:29",
  "",
  "",
  "",
  "",
  "",
  "",
  "",
  "",
  "67:321 70:151 71:147 72:132 73:120 74:134 75:130 76:140 78:146 79:126 80:129 81:121",
  "",
  "",
  "",
  "",
  "",
  "27:94 28:96 31:239 32:5 33:7 38:45 54:322 65:236 66:29 67:238 70:151 71:147 72:132 73:120 74:134 75:130 76:140 78:146 79:126 80:129 81:121",
  "",
  "",
  "",
  "",
  "",
  "",
  "65:327 67:238 70:151 71:147 72:132 73:120 74:134 75:130 76:140 78:146 79:126 80:129 81:121",
  "67:328 70:151 71:147 72:132 73:120 74:134 75:130 76:140 77:330 78:146 79:126 80:129 81:121",
  "",
  "27:94 28:96 31:239 32:5 33:7 38:45 54:331 66:29",
  "27:94 28:96 31:239 32:5 33:7 38:45 54:332 65:236 66:29 67:238 70:151 71:147 72:132 73:120 74:134 75:130 76:140 78:146 79:126 80:129 81:121",
  "",
  "",
  "27:94 28:96 31:239 32:5 33:7 38:45 54:333 65:236 66:29 67:238 70:151 71:147 72:132 73:120 74:134 75:130 76:140 78:146 79:126 80:129 81:121",
  "",
  "",
  "",
  "",
  "",
  "1:337 43:339 55:201 56:81 84:200",
  "",
  "71:340 72:132 73:231 74:134 75:130 76:140 78:146 79:126 80:129 81:121",
  "71:341 72:132 73:231 74:134 75:130 76:140 78:146 79:126 80:129 81:121",
  "71:342 72:132 73:231 74:134 75:130 76:140 78:146 79:126 80:129 81:121",
  "71:343 72:132 73:231 74:134 75:130 76:140 78:146 79:126 80:129 81:121",
  "71:344 72:132 73:231 74:134 75:130 76:140 78:146 79:126 80:129 81:121",
  "71:345 72:132 73:231 74:134 75:130 76:140 78:146 79:126 80:129 81:121",
  "71:346 72:132 73:231 74:134 75:130 76:140 78:146 79:126 80:129 81:121",
  "71:347 72:132 73:231 74:134 75:130 76:140 78:146 79:126 80:129 81:121",
  "71:348 72:132 73:231 74:134 75:130 76:140 78:146 79:126 80:129 81:121",
  "71:349 72:132 73:231 74:134 75:130 76:140 78:146 79:126 80:129 81:121",
  "71:350 72:132 73:231 74:134 75:130 76:140 78:146 79:126 80:129 81:121",
  "71:351 72:132 73:231 74:134 75:130 76:140 78:146 79:126 80:129 81:121",
  "71:352 72:132 73:231 74:134 75:130 76:140 78:146 79:126 80:129 81:121",
  "71:353 72:132 73:231 74:134 75:130 76:140 78:146 79:126 80:129 81:121",
  "71:354 72:132 73:231 74:134 75:130 76:140 78:146 79:126 80:129 81:121",
  "71:355 72:132 73:231 74:134 75:130 76:140 78:146 79:126 80:129 81:121",
  "65:356 67:238 70:151 71:147 72:132 73:120 74:134 75:130 76:140 78:146 79:126 80:129 81:121",
  "71:357 72:132 73:231 74:134 75:130 76:140 78:146 79:126 80:129 81:121",
  "71:358 72:132 73:231 74:134 75:130 76:140 78:146 79:126 80:129 81:121",
  "",
  "83:359",
  "",
  "78:360",
  "69:361 70:305 71:147 72:132 73:231 74:134 75:130 76:140 78:146 79:126 80:129 81:121",
  "",
  "49:363 67:156 70:151 71:147 72:132 73:120 74:134 75:130 76:140 78:146 79:126 80:129 81:121 82:155",
  "53:364",
  "",
  "",
  "",
  "",
  "",
  "",
  "",
  "",
  "",
  "",
  "",
  "",
  "",
  "65:372 67:238 70:151 71:147 72:132 73:120 74:134 75:130 76:140 78:146 79:126 80:129 81:121",
  "",
  "",
  "",
  "",
  "",
  "",
  "69:377 70:305 71:147 72:132 73:231 74:134 75:130 76:140 78:146 79:126 80:129 81:121",
  "7:279 20:291 21:41 22:292 24:86 25:1 26:44 27:14 28:42 32:5 33:7 38:45 57:379 59:282 60:280 61:298 62:277 63:293 64:276 65:285 66:29 67:238 70:151 71:147 72:132 73:120 74:134 75:130 76:140 78:146 79:126 80:129 81:121 82:170 84:378",
  "",
  "",
  "",
  "",
  "",
  "",
  "",
  "7:279 20:382 59:282 60:280 61:298 62:277 63:293 64:276 65:285 67:238 70:151 71:147 72:132 73:120 74:134 75:130 76:140 78:146 79:126 80:129 81:121 82:170 84:378",
  "",
  "83:383",
  "",
  "",
  "",
  "",
  "",
  "",
  "37:386 41:187 42:26 43:16",
  "",
  "",
  "69:387 70:305 71:147 72:132 73:231 74:134 75:130 76:140 78:146 79:126 80:129 81:121",
  "",
  "",
  "",
  "",
  "",
  "",
  "",
  "",
  "",
  "",
  "",
  "",
  "",
  "",
  "",
  "",
  "",
  "",
  "",
  "",
  "",
  "",
  "",
  "",
  "",
  "67:397 70:151 71:147 72:132 73:120 74:134 75:130 76:140 78:146 79:126 80:129 81:121",
  "72:398 73:231 74:134 75:130 76:140 78:146 79:126 80:129 81:121 82:399",
  "",
  "11:160 24:110 25:1 26:44 27:14 28:42 32:5 33:7 38:45 43:339 45:159 46:113 47:109 55:161 56:81 66:29 84:158",
  "56:153",
  "",
  "",
  "",
  "",
  "",
  "",
  "",
  "",
  "",
  "",
  "",
  "",
  "",
  "",
  "",
  "",
  "",
  "",
  "",
  "",
  "",
  "",
  "6:402 51:260 52:267 53:262 83:404 84:403",
  "",
  "",
  "",
  "",
  "",
  "",
  "",
  "",
  "",
  "",
  "7:407 21:41 22:408 24:86 25:1 26:44 27:14 28:42 32:5 33:7 38:45 65:285 66:29 67:238 70:151 71:147 72:132 73:120 74:134 75:130 76:140 78:146 79:126 80:129 81:121 84:378",
  "",
  "7:279 20:409 59:282 60:280 61:298 62:277 63:293 64:276 65:285 67:238 70:151 71:147 72:132 73:120 74:134 75:130 76:140 78:146 79:126 80:129 81:121 82:170 84:378",
  "65:410 67:238 70:151 71:147 72:132 73:120 74:134 75:130 76:140 78:146 79:126 80:129 81:121",
  "",
  "",
  "",
  "65:412 67:238 70:151 71:147 72:132 73:120 74:134 75:130 76:140 78:146 79:126 80:129 81:121",
  "",
  "",
  "",
  "7:279 20:414 59:282 60:280 61:298 62:277 63:293 64:276 65:285 67:238 70:151 71:147 72:132 73:120 74:134 75:130 76:140 78:146 79:126 80:129 81:121 82:170 84:378",
  "65:415 67:238 70:151 71:147 72:132 73:120 74:134 75:130 76:140 78:146 79:126 80:129 81:121",
  "",
  "",
  "",
  "",
  "82:399",
  "",
  "",
  "67:416 70:151 71:147 72:132 73:120 74:134 75:130 76:140 78:146 79:126 80:129 81:121",
  "78:417",
  "72:398 73:231 74:134 75:130 76:140 78:146 79:126 80:129 81:121 82:399",
  "82:399",
  "",
  "",
  "6:266 50:418 51:260 52:267 53:262 84:403",
  "70:419 71:147 72:132 73:231 74:134 75:130 76:140 78:146 79:126 80:129 81:121",
  "",
  "49:420 67:156 70:151 71:147 72:132 73:120 74:134 75:130 76:140 78:146 79:126 80:129 81:121 82:155",
  "",
  "",
  "",
  "",
  "",
  "7:422 65:285 67:238 70:151 71:147 72:132 73:120 74:134 75:130 76:140 78:146 79:126 80:129 81:121 84:378",
  "",
  "",
  "7:279 20:424 59:282 60:280 61:298 62:277 63:293 64:276 65:285 67:238 70:151 71:147 72:132 73:120 74:134 75:130 76:140 78:146 79:126 80:129 81:121 82:170 84:378",
  "",
  "",
  "",
  "",
  "",
  "",
  "83:430",
  "",
  "",
  "7:431 65:285 67:238 70:151 71:147 72:132 73:120 74:134 75:130 76:140 78:146 79:126 80:129 81:121 84:378",
  "",
  "7:279 20:433 59:282 60:280 61:298 62:277 63:293 64:276 65:285 67:238 70:151 71:147 72:132 73:120 74:134 75:130 76:140 78:146 79:126 80:129 81:121 82:170 84:378",
  "",
  "7:279 20:434 59:282 60:280 61:298 62:277 63:293 64:276 65:285 67:238 70:151 71:147 72:132 73:120 74:134 75:130 76:140 78:146 79:126 80:129 81:121 82:170 84:378",
  "65:435 67:238 70:151 71:147 72:132 73:120 74:134 75:130 76:140 78:146 79:126 80:129 81:121",
  "7:279 20:436 59:282 60:280 61:298 62:277 63:293 64:276 65:285 67:238 70:151 71:147 72:132 73:120 74:134 75:130 76:140 78:146 79:126 80:129 81:121 82:170 84:378",
  "",
  "6:402 51:260 52:267 53:262 83:437 84:403",
  "",
  "",
  "7:439 65:285 67:238 70:151 71:147 72:132 73:120 74:134 75:130 76:140 78:146 79:126 80:129 81:121 84:378",
  "",
  "",
  "",
  "",
  "",
  "7:442 65:285 67:238 70:151 71:147 72:132 73:120 74:134 75:130 76:140 78:146 79:126 80:129 81:121 84:378",
  "",
  "",
  "7:279 20:445 59:282 60:280 61:298 62:277 63:293 64:276 65:285 67:238 70:151 71:147 72:132 73:120 74:134 75:130 76:140 78:146 79:126 80:129 81:121 82:170 84:378",
  "",
  "7:279 20:447 59:282 60:280 61:298 62:277 63:293 64:276 65:285 67:238 70:151 71:147 72:132 73:120 74:134 75:130 76:140 78:146 79:126 80:129 81:121 82:170 84:378",
  "",
  "",
  "7:279 20:448 59:282 60:280 61:298 62:277 63:293 64:276 65:285 67:238 70:151 71:147 72:132 73:120 74:134 75:130 76:140 78:146 79:126 80:129 81:121 82:170 84:378",
  "",
  ""]

/-- A production: its left side, and the number of symbols on its right side. -/
structure Production where
  /-- The nonterminal on the left. -/
  lhs : String
  /-- The symbols on the right. -/
  rhs : List String
  /-- The number of the nonterminal on the left. -/
  lhsIndex : Nat
  deriving Inhabited

/-- The productions, in the order of their numbers. -/
def productions : Array Production :=
  productionTexts.map fun (lhs, rhs) =>
    ⟨lhs, (rhs.splitOn " ").filter (· != ""), nonterminals.idxOf lhs⟩

/-- Reads a number with an optional minus sign. -/
def readInt (s : String) : Int :=
  let digits := s.toList.filter Char.isDigit
  let n : Nat := digits.foldl (fun n c => 10 * n + (c.toNat - '0'.toNat)) 0
  if s.startsWith "-" then -(n : Int) else n

/-- Reads a row of a table: the pairs of a symbol number and a number. -/
def readRow (row : String) : List (Nat × Int) :=
  ((row.splitOn " ").filter (· != "")).map fun item =>
    match item.splitOn ":" with
    | [a, b] => ((readInt a).toNat, readInt b)
    | _ => (0, 0)

/-- A dense row: the entry of each symbol number below `width`, if it has one. -/
def denseRow (width : Nat) (entries : List (Nat × Int)) : Array (Option Int) :=
  entries.foldl (fun row (k, v) => row.setIfInBounds k (some v)) (Array.replicate width none)

/-- The actions, by state and terminal number. -/
def actions : Array (Array (Option Int)) :=
  actionRows.map fun row => denseRow terminals.size (readRow row)

/-- The gotos, by state and nonterminal number. -/
def gotos : Array (Array (Option Int)) :=
  gotoRows.map fun row => denseRow nonterminals.size (readRow row)

/-- The number of a terminal, by its name. -/
def terminalIndex (name : String) : Option Nat := terminals.idxOf? name

/-- The action of a state on a terminal: a positive number to shift to that
state, a negative one to reduce by that production, zero to accept. -/
def action (state : Nat) (terminal : Nat) : Option Int :=
  ((actions[state]?).bind fun row => row[terminal]?).join

/-- The state to go to from a state after reducing to a nonterminal. -/
def goto (state : Nat) (nonterminal : Nat) : Option Nat :=
  (((gotos[state]?).bind fun row => row[nonterminal]?).join).map Int.toNat

end Basis.C.Grammar
