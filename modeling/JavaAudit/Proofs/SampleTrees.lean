import JavaAudit.Tree.Preorder

/-! Trees written out node by node, and the entries from which they are read. -/

set_option autoImplicit false

namespace JavaAudit

def Node.ofAscii (source : String) (kind : Kind) (named : Bool) (role : Option Role)
    (start stop : Nat) (children : List Node) : Node :=
  let characters := source.toList
  .node {
    kind, named, missing := false, role, start, stop
    line := (characters.take start).count '\n' + 1
    endLine := (characters.take stop).count '\n' + 1
    text := String.ofList ((characters.take stop).drop start) } children

def Node.token (source text : String) (start : Nat) : Node :=
  .ofAscii source (.other text) false none start (start + text.length) []

/-- A method without a result and parameters whose name has one character. -/
def Node.voidMethod (source : String) (start stop : Nat) (statements : List Node) : Node :=
  let node := Node.ofAscii source
  node .methodDeclaration true none start stop [
    node (.other "void_type") true (some .type) start (start + 4) [],
    node .identifier true (some .name) (start + 5) (start + 6) [],
    node (.other "formal_parameters") true (some .parameters) (start + 6) (start + 8) [
      token source "(" (start + 6), token source ")" (start + 7)],
    node .block true (some .body) (start + 9) stop (
      token source "\x7b" (start + 9) :: statements ++ [token source "\x7d" (stop - 1)])]

def Node.soleClass (source : String) (members : List Node) : Node :=
  let stop := source.length
  let node := Node.ofAscii source
  node .program true none 0 stop [
    node .classDeclaration true none 0 stop [
      token source "class" 0,
      node .identifier true (some .name) 6 7 [],
      node .classBody true (some .body) 8 stop (
        token source "\x7b" 8 :: members ++ [token source "\x7d" (stop - 1)])]]

namespace Entry

def part (kind : Kind) (role : Option Role) (start stop childCount : Nat) : Entry :=
  ⟨kind, true, false, role, start, stop, childCount⟩

def token (text : String) (start : Nat) : Entry :=
  ⟨.ofName text, false, false, none, start, start + text.length, 0⟩

def voidMethod (start stop statementCount : Nat) (statements : List Entry) : List Entry :=
  [part .methodDeclaration none start stop 4,
    part (.other "void_type") (some .type) start (start + 4) 0,
    part .identifier (some .name) (start + 5) (start + 6) 0,
    part (.other "formal_parameters") (some .parameters) (start + 6) (start + 8) 2,
      token "(" (start + 6),
      token ")" (start + 7),
    part .block (some .body) (start + 9) stop (statementCount + 2),
      token "\x7b" (start + 9)] ++ statements ++ [token "\x7d" (stop - 1)]

def soleClass (stop memberCount : Nat) (members : List Entry) : List Entry :=
  [part .program none 0 stop 1,
    part .classDeclaration none 0 stop 3,
      token "class" 0,
      part .identifier (some .name) 6 7 0,
      part .classBody (some .body) 8 stop (memberCount + 2),
        token "\x7b" 8] ++ members ++ [token "\x7d" (stop - 1)]

end Entry

/-- A class with three methods `f`, one character apart, each with a local variable. -/
def threeOverloads (gap : String) : Node :=
  let opening := "\x7b"
  let closing := "\x7d"
  let text := s!"void f() {opening} int x; {closing}"
  let source := s!"class A {opening} {text}{gap}{text}{gap}{text} {closing}"
  let node := Node.ofAscii source
  let method (start : Nat) := Node.voidMethod source start (start + 19) [
    node .localVariableDeclaration true none (start + 11) (start + 17) [
      node (.other "integral_type") true (some .type) (start + 11) (start + 14) [
        .token source "int" (start + 11)],
      node .variableDeclarator true (some .declarator) (start + 15) (start + 16) [
        node .identifier true (some .name) (start + 15) (start + 16) []],
      node .semicolon false none (start + 16) (start + 17) []]]
  .soleClass source [method 10, method 30, method 50]

def overloadsOnOneLine : Node :=
  threeOverloads " "

def overloadsByLine : Node :=
  threeOverloads "\n"

end JavaAudit
