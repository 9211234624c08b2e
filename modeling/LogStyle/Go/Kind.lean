/-!
# Kinds of syntax nodes

The kinds of nodes in the syntax tree of a Go file. Expressions that the message rules do not
understand are reported under the name of their kind.
-/

namespace LogStyle.Go

/-- The kind of a syntax node. -/
inductive Kind where
  | sourceFile
  | packageClause
  | packageIdentifier
  | importDeclaration
  | importSpec
  | importSpecList
  | dot
  | blankIdentifier
  | constDeclaration
  | constSpec
  | varDeclaration
  | varSpec
  | varSpecList
  | typeDeclaration
  | typeSpec
  | typeAlias
  | functionDeclaration
  | methodDeclaration
  | parameterList
  | parameterDeclaration
  | variadicParameterDeclaration
  | typeParameterList
  | typeIdentifier
  | genericType
  | typeArguments
  | qualifiedType
  | pointerType
  | structType
  | fieldDeclarationList
  | fieldDeclaration
  | fieldIdentifier
  | interfaceType
  | arrayType
  | implicitLengthArrayType
  | sliceType
  | mapType
  | channelType
  | functionType
  | negatedType
  | parenthesizedType
  | block
  | statementList
  | expressionStatement
  | sendStatement
  | incStatement
  | decStatement
  | assignmentStatement
  | shortVarDeclaration
  | returnStatement
  | goStatement
  | deferStatement
  | ifStatement
  | forStatement
  | forClause
  | rangeClause
  | expressionSwitchStatement
  | expressionCase
  | defaultCase
  | typeSwitchStatement
  | typeCase
  | selectStatement
  | communicationCase
  | receiveStatement
  | labeledStatement
  | labelName
  | fallthroughStatement
  | breakStatement
  | continueStatement
  | gotoStatement
  | emptyStatement
  | expressionList
  | unaryExpression
  | binaryExpression
  | selectorExpression
  | indexExpression
  | sliceExpression
  | callExpression
  | typeAssertionExpression
  | typeConversionExpression
  | typeInstantiationExpression
  | identifier
  | compositeLiteral
  | funcLiteral
  | interpretedStringLiteral
  | rawStringLiteral
  | intLiteral
  | floatLiteral
  | imaginaryLiteral
  | runeLiteral
  | nilValue
  | trueValue
  | falseValue
  | iotaValue
  | parenthesizedExpression
  | argumentList
  | variadicArgument
  | literalValue
  | literalElement
  | keyedElement
  /-- A punctuation mark or operator that is kept because its text or presence matters. -/
  | token
  deriving DecidableEq, Repr, Inhabited

namespace Kind

def name : Kind → String
  | sourceFile => "source_file"
  | packageClause => "package_clause"
  | packageIdentifier => "package_identifier"
  | importDeclaration => "import_declaration"
  | importSpec => "import_spec"
  | importSpecList => "import_spec_list"
  | dot => "dot"
  | blankIdentifier => "blank_identifier"
  | constDeclaration => "const_declaration"
  | constSpec => "const_spec"
  | varDeclaration => "var_declaration"
  | varSpec => "var_spec"
  | varSpecList => "var_spec_list"
  | typeDeclaration => "type_declaration"
  | typeSpec => "type_spec"
  | typeAlias => "type_alias"
  | functionDeclaration => "function_declaration"
  | methodDeclaration => "method_declaration"
  | parameterList => "parameter_list"
  | parameterDeclaration => "parameter_declaration"
  | variadicParameterDeclaration => "variadic_parameter_declaration"
  | typeParameterList => "type_parameter_list"
  | typeIdentifier => "type_identifier"
  | genericType => "generic_type"
  | typeArguments => "type_arguments"
  | qualifiedType => "qualified_type"
  | pointerType => "pointer_type"
  | structType => "struct_type"
  | fieldDeclarationList => "field_declaration_list"
  | fieldDeclaration => "field_declaration"
  | fieldIdentifier => "field_identifier"
  | interfaceType => "interface_type"
  | arrayType => "array_type"
  | implicitLengthArrayType => "implicit_length_array_type"
  | sliceType => "slice_type"
  | mapType => "map_type"
  | channelType => "channel_type"
  | functionType => "function_type"
  | negatedType => "negated_type"
  | parenthesizedType => "parenthesized_type"
  | block => "block"
  | statementList => "statement_list"
  | expressionStatement => "expression_statement"
  | sendStatement => "send_statement"
  | incStatement => "inc_statement"
  | decStatement => "dec_statement"
  | assignmentStatement => "assignment_statement"
  | shortVarDeclaration => "short_var_declaration"
  | returnStatement => "return_statement"
  | goStatement => "go_statement"
  | deferStatement => "defer_statement"
  | ifStatement => "if_statement"
  | forStatement => "for_statement"
  | forClause => "for_clause"
  | rangeClause => "range_clause"
  | expressionSwitchStatement => "expression_switch_statement"
  | expressionCase => "expression_case"
  | defaultCase => "default_case"
  | typeSwitchStatement => "type_switch_statement"
  | typeCase => "type_case"
  | selectStatement => "select_statement"
  | communicationCase => "communication_case"
  | receiveStatement => "receive_statement"
  | labeledStatement => "labeled_statement"
  | labelName => "label_name"
  | fallthroughStatement => "fallthrough_statement"
  | breakStatement => "break_statement"
  | continueStatement => "continue_statement"
  | gotoStatement => "goto_statement"
  | emptyStatement => "empty_statement"
  | expressionList => "expression_list"
  | unaryExpression => "unary_expression"
  | binaryExpression => "binary_expression"
  | selectorExpression => "selector_expression"
  | indexExpression => "index_expression"
  | sliceExpression => "slice_expression"
  | callExpression => "call_expression"
  | typeAssertionExpression => "type_assertion_expression"
  | typeConversionExpression => "type_conversion_expression"
  | typeInstantiationExpression => "type_instantiation_expression"
  | identifier => "identifier"
  | compositeLiteral => "composite_literal"
  | funcLiteral => "func_literal"
  | interpretedStringLiteral => "interpreted_string_literal"
  | rawStringLiteral => "raw_string_literal"
  | intLiteral => "int_literal"
  | floatLiteral => "float_literal"
  | imaginaryLiteral => "imaginary_literal"
  | runeLiteral => "rune_literal"
  | nilValue => "nil"
  | trueValue => "true"
  | falseValue => "false"
  | iotaValue => "iota"
  | parenthesizedExpression => "parenthesized_expression"
  | argumentList => "argument_list"
  | variadicArgument => "variadic_argument"
  | literalValue => "literal_value"
  | literalElement => "literal_element"
  | keyedElement => "keyed_element"
  | token => ""

/-- The kinds of expressions. -/
def isExpression : Kind → Bool
  | identifier | interpretedStringLiteral | rawStringLiteral | intLiteral | floatLiteral
  | imaginaryLiteral | runeLiteral | trueValue | falseValue | nilValue | iotaValue
  | callExpression | selectorExpression | binaryExpression | unaryExpression
  | parenthesizedExpression | indexExpression | sliceExpression | typeAssertionExpression
  | typeConversionExpression | typeInstantiationExpression | compositeLiteral | funcLiteral => true
  | _ => false

/-- The kinds of types, and of names that are not expressions. -/
def isType : Kind → Bool
  | packageIdentifier | typeParameterList | typeIdentifier | genericType | typeArguments
  | qualifiedType | pointerType | structType | fieldIdentifier | interfaceType | arrayType
  | implicitLengthArrayType | sliceType | mapType | channelType | functionType | negatedType
  | parenthesizedType | labelName => true
  | _ => false

end Kind

end LogStyle.Go
