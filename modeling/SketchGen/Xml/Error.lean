namespace SketchGen.Xml

/-! Why a document is not read, and where. A failure is a problem at a position of the
document, reported as a line (from one) and a column (from zero, in characters). A carriage
return, a line feed, or the two together end a line. -/

/-- What is wrong with a document. -/
inductive Problem where
  | malformed
  | noElement
  | invalidToken
  | unclosedToken
  | mismatchedTag
  | duplicateAttribute
  | junkAfterRoot
  | paramEntityRef
  | undefinedEntity
  | recursiveEntity
  | asyncEntity
  | badCharRef
  | binaryEntityRef
  | externalEntityInAttribute
  | misplacedDeclaration
  | unknownEncoding
  | incorrectEncoding
  | unclosedCdata
  | unboundPrefix
  | undeclaringPrefix
  | badDeclaration
  | reservedXmlPrefix
  | reservedXmlnsPrefix
  | reservedNamespace
  | amplification
  | skippedEntity (reference : String)
deriving Repr, DecidableEq

def Problem.text : Problem → String
  | .malformed => "syntax error"
  | .noElement => "no element found"
  | .invalidToken => "not well-formed (invalid token)"
  | .unclosedToken => "unclosed token"
  | .mismatchedTag => "mismatched tag"
  | .duplicateAttribute => "duplicate attribute"
  | .junkAfterRoot => "junk after document element"
  | .paramEntityRef => "illegal parameter entity reference"
  | .undefinedEntity => "undefined entity"
  | .recursiveEntity => "recursive entity reference"
  | .asyncEntity => "asynchronous entity"
  | .badCharRef => "reference to invalid character number"
  | .binaryEntityRef => "reference to binary entity"
  | .externalEntityInAttribute => "reference to external entity in attribute"
  | .misplacedDeclaration => "XML or text declaration not at start of entity"
  | .unknownEncoding => "unknown encoding"
  | .incorrectEncoding => "encoding specified in XML declaration is incorrect"
  | .unclosedCdata => "unclosed CDATA section"
  | .unboundPrefix => "unbound prefix"
  | .undeclaringPrefix => "must not undeclare prefix"
  | .badDeclaration => "XML declaration not well-formed"
  | .reservedXmlPrefix =>
    "reserved prefix (xml) must not be undeclared or bound to another namespace name"
  | .reservedXmlnsPrefix => "reserved prefix (xmlns) must not be declared or undeclared"
  | .reservedNamespace => "prefix must not be bound to one of the reserved namespace names"
  | .amplification => "limit on input amplification factor (from DTD and entities) breached"
  | .skippedEntity r => "undefined entity " ++ r

/-- A failure at a position of the document, counted in characters. -/
structure Failure where
  problem : Problem
  pos : Nat
deriving Repr, DecidableEq

/-- A failure located by line and column. -/
structure ReadError where
  problem : Problem
  line : Nat
  column : Nat
deriving Repr, DecidableEq

def ReadError.message (e : ReadError) : String :=
  e.problem.text ++ ": line " ++ toString e.line ++ ", column " ++ toString e.column

def advance : Nat → Nat → List Char → Nat × Nat
  | l, _, '\r' :: '\n' :: rest => advance (l + 1) 0 rest
  | l, _, '\r' :: rest => advance (l + 1) 0 rest
  | l, _, '\n' :: rest => advance (l + 1) 0 rest
  | l, c, _ :: rest => advance l (c + 1) rest
  | l, c, [] => (l, c)

def Failure.locate (doc : List Char) (f : Failure) : ReadError :=
  let (l, c) := advance 1 0 (doc.take f.pos)
  ⟨f.problem, l, c⟩

end SketchGen.Xml
