/-! Kinds of syntax nodes.

The grammar has many more kinds than the analysis tells apart; the others keep their name. -/

set_option autoImplicit false

namespace JavaAudit

inductive Kind where
  | program
  | packageDeclaration
  | importDeclaration
  | asterisk
  | classDeclaration
  | interfaceDeclaration
  | enumDeclaration
  | recordDeclaration
  | classBody
  | enumBody
  | interfaceBody
  | enumBodyDeclarations
  | enumConstant
  | methodDeclaration
  | constructorDeclaration
  | fieldDeclaration
  | constantDeclaration
  | modifiers
  | annotationMarker
  | annotationCall
  | elementValuePair
  | formalParameter
  | spreadParameter
  | inferredParameters
  | catchFormalParameter
  | variableDeclarator
  | genericType
  | block
  | expressionStatement
  | localVariableDeclaration
  | labeledStatement
  | ifStatement
  | whileStatement
  | doStatement
  | forStatement
  | enhancedForStatement
  | breakStatement
  | continueStatement
  | returnStatement
  | throwStatement
  | yieldStatement
  | assertStatement
  | switchLabel
  | switchRule
  | catchClause
  | resource
  | parenthesizedExpression
  | binaryExpression
  | assignmentExpression
  | updateExpression
  | ternaryExpression
  | lambdaExpression
  | castExpression
  | methodInvocation
  | objectCreationExpression
  | explicitConstructorInvocation
  | argumentList
  | methodReference
  | fieldAccess
  | arrayAccess
  | identifier
  | scopedIdentifier
  | thisReference
  | trueLiteral
  | falseLiteral
  | nullLiteral
  | stringLiteral
  | characterLiteral
  | textBlock
  | decimalIntegerLiteral
  | hexIntegerLiteral
  | octalIntegerLiteral
  | binaryIntegerLiteral
  | lineComment
  | blockComment
  | semicolon
  | error
  | other (name : String)
  deriving DecidableEq, Repr

namespace Kind

def name : Kind → String
  | .program => "program"
  | .packageDeclaration => "package_declaration"
  | .importDeclaration => "import_declaration"
  | .asterisk => "asterisk"
  | .classDeclaration => "class_declaration"
  | .interfaceDeclaration => "interface_declaration"
  | .enumDeclaration => "enum_declaration"
  | .recordDeclaration => "record_declaration"
  | .classBody => "class_body"
  | .enumBody => "enum_body"
  | .interfaceBody => "interface_body"
  | .enumBodyDeclarations => "enum_body_declarations"
  | .enumConstant => "enum_constant"
  | .methodDeclaration => "method_declaration"
  | .constructorDeclaration => "constructor_declaration"
  | .fieldDeclaration => "field_declaration"
  | .constantDeclaration => "constant_declaration"
  | .modifiers => "modifiers"
  | .annotationMarker => "marker_annotation"
  | .annotationCall => "annotation"
  | .elementValuePair => "element_value_pair"
  | .formalParameter => "formal_parameter"
  | .spreadParameter => "spread_parameter"
  | .inferredParameters => "inferred_parameters"
  | .catchFormalParameter => "catch_formal_parameter"
  | .variableDeclarator => "variable_declarator"
  | .genericType => "generic_type"
  | .block => "block"
  | .expressionStatement => "expression_statement"
  | .localVariableDeclaration => "local_variable_declaration"
  | .labeledStatement => "labeled_statement"
  | .ifStatement => "if_statement"
  | .whileStatement => "while_statement"
  | .doStatement => "do_statement"
  | .forStatement => "for_statement"
  | .enhancedForStatement => "enhanced_for_statement"
  | .breakStatement => "break_statement"
  | .continueStatement => "continue_statement"
  | .returnStatement => "return_statement"
  | .throwStatement => "throw_statement"
  | .yieldStatement => "yield_statement"
  | .assertStatement => "assert_statement"
  | .switchLabel => "switch_label"
  | .switchRule => "switch_rule"
  | .catchClause => "catch_clause"
  | .resource => "resource"
  | .parenthesizedExpression => "parenthesized_expression"
  | .binaryExpression => "binary_expression"
  | .assignmentExpression => "assignment_expression"
  | .updateExpression => "update_expression"
  | .ternaryExpression => "ternary_expression"
  | .lambdaExpression => "lambda_expression"
  | .castExpression => "cast_expression"
  | .methodInvocation => "method_invocation"
  | .objectCreationExpression => "object_creation_expression"
  | .explicitConstructorInvocation => "explicit_constructor_invocation"
  | .argumentList => "argument_list"
  | .methodReference => "method_reference"
  | .fieldAccess => "field_access"
  | .arrayAccess => "array_access"
  | .identifier => "identifier"
  | .scopedIdentifier => "scoped_identifier"
  | .thisReference => "this"
  | .trueLiteral => "true"
  | .falseLiteral => "false"
  | .nullLiteral => "null_literal"
  | .stringLiteral => "string_literal"
  | .characterLiteral => "character_literal"
  | .textBlock => "text_block"
  | .decimalIntegerLiteral => "decimal_integer_literal"
  | .hexIntegerLiteral => "hex_integer_literal"
  | .octalIntegerLiteral => "octal_integer_literal"
  | .binaryIntegerLiteral => "binary_integer_literal"
  | .lineComment => "line_comment"
  | .blockComment => "block_comment"
  | .semicolon => ";"
  | .error => "ERROR"
  | .other name => name

def known : List Kind := [
  .program, .packageDeclaration, .importDeclaration, .asterisk, .classDeclaration,
  .interfaceDeclaration, .enumDeclaration, .recordDeclaration, .classBody, .enumBody,
  .interfaceBody, .enumBodyDeclarations, .enumConstant, .methodDeclaration,
  .constructorDeclaration, .fieldDeclaration, .constantDeclaration, .modifiers,
  .annotationMarker, .annotationCall, .elementValuePair, .formalParameter, .spreadParameter,
  .inferredParameters, .catchFormalParameter, .variableDeclarator, .genericType, .block,
  .expressionStatement, .localVariableDeclaration, .labeledStatement, .ifStatement,
  .whileStatement, .doStatement, .forStatement, .enhancedForStatement, .breakStatement,
  .continueStatement, .returnStatement, .throwStatement, .yieldStatement, .assertStatement,
  .switchLabel, .switchRule, .catchClause, .resource, .parenthesizedExpression,
  .binaryExpression, .assignmentExpression, .updateExpression, .ternaryExpression,
  .lambdaExpression, .castExpression, .methodInvocation, .objectCreationExpression,
  .explicitConstructorInvocation, .argumentList, .methodReference, .fieldAccess, .arrayAccess,
  .identifier, .scopedIdentifier, .thisReference, .trueLiteral, .falseLiteral, .nullLiteral,
  .stringLiteral, .characterLiteral, .textBlock, .decimalIntegerLiteral, .hexIntegerLiteral,
  .octalIntegerLiteral, .binaryIntegerLiteral, .lineComment, .blockComment, .semicolon, .error]

def ofName (text : String) : Kind :=
  (known.find? (·.name == text)).getD (.other text)

def isMethod : Kind → Bool
  | .methodDeclaration | .constructorDeclaration => true
  | _ => false

def isTypeDeclaration : Kind → Bool
  | .classDeclaration | .interfaceDeclaration | .enumDeclaration | .recordDeclaration => true
  | _ => false

/-- Bodies of nested types, which own the methods and statements inside them. -/
def isTypeBody : Kind → Bool
  | .classBody | .enumBody | .interfaceBody => true
  | _ => false

def isField : Kind → Bool
  | .fieldDeclaration | .constantDeclaration => true
  | _ => false

def isLoop : Kind → Bool
  | .forStatement | .enhancedForStatement | .whileStatement | .doStatement => true
  | _ => false

/-- Statements, and the field declarations that play their part outside methods. -/
def isStatement : Kind → Bool
  | .expressionStatement | .localVariableDeclaration | .returnStatement | .ifStatement
    | .whileStatement | .doStatement | .forStatement | .enhancedForStatement | .throwStatement
    | .yieldStatement | .fieldDeclaration | .constantDeclaration | .assertStatement => true
  | _ => false

def isComment : Kind → Bool
  | .lineComment | .blockComment => true
  | _ => false

def isIntegerLiteral : Kind → Bool
  | .decimalIntegerLiteral | .hexIntegerLiteral | .octalIntegerLiteral
    | .binaryIntegerLiteral => true
  | _ => false

end Kind

end JavaAudit
