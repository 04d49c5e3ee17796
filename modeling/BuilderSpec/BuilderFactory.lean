/-
How generated code comes by a fresh builder of the user's.
-/
import BuilderSpec.Symbol.Declaration

namespace BuilderSpec

/-- The ways in which a user type offers its builder. -/
inductive BuilderFactory where
  | noArgsConstructor
  | builderMethod
  | newBuilderMethod
deriving DecidableEq

namespace BuilderFactory

/-- The name of the way where it is stored. -/
def key : BuilderFactory → String
  | noArgsConstructor => "NoArgsConstructor"
  | builderMethod => "BuilderMethod"
  | newBuilderMethod => "NewBuilderMethod"

/-- The expression that makes a builder: a constructor of the builder, or a method of the user
type. -/
def invocation (factory : BuilderFactory) (declaringType builderType : DeclRef) : String :=
  match factory with
  | noArgsConstructor => "new " ++ builderType.text ++ "()"
  | builderMethod => declaringType.text ++ ".builder()"
  | newBuilderMethod => declaringType.text ++ ".newBuilder()"

end BuilderFactory

end BuilderSpec
