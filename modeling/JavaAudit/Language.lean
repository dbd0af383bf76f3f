import JavaAudit.Tree.Kind

/-! The languages that can be analysed. -/

set_option autoImplicit false

namespace JavaAudit

structure Language where
  name : String
  fileExtensions : List String
  typeKinds : List Kind
  methodKinds : List Kind
  callKinds : List Kind
  deriving DecidableEq, Repr

structure UnsupportedLanguage where
  name : String
  deriving DecidableEq, Repr

def UnsupportedLanguage.message (error : UnsupportedLanguage) : String :=
  "Unsupported language: " ++ error.name

namespace Language

def java : Language where
  name := "java"
  fileExtensions := [".java"]
  typeKinds := [.classDeclaration, .interfaceDeclaration, .enumDeclaration, .recordDeclaration]
  methodKinds := [.methodDeclaration, .constructorDeclaration]
  callKinds := [.methodInvocation, .objectCreationExpression]

def all : List Language := [java]

def named (name : String) : Except UnsupportedLanguage Language :=
  match all.find? (·.name == name) with
  | some language => .ok language
  | none => .error ⟨name⟩

end Language

end JavaAudit
