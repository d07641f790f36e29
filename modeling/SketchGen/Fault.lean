import SketchGen.Json.Read
import SketchGen.Json.Display
import SketchGen.Xml.Error
import SketchGen.Xml.Query.Token
import SketchGen.Output.Tree

namespace SketchGen

open SketchGen.Json SketchGen.Xml SketchGen.Xml.Query SketchGen.Output SketchGen.Text

/-! Why generating a sketch fails. Each cause names what went wrong with which sort of value;
the message of each is fixed here, in one function. -/

/-- Why a generation step fails. -/
inductive Fault where
  | noOperation (owner : Kind) (operation : String)
  | noFirstItem (container : Kind)
  | missingKey (key : Value)
  | notIterable (k : Kind)
  | notSubscriptable (k : Kind)
  | textIndex (container : Kind)
  | unhashable (k : Kind)
  | notJsonText (k : Kind)
  | notText (k : Kind)
  | joinedMissing
  | missingPathPart
  | json (e : Json.ReadError)
  | xml (e : Xml.ReadError)
  | query (e : PathError)
  | emptyQuery (first : Bool)
  | file (e : FileError)
  | unknownCharset (name : String)
  | multiByteCharset
deriving Repr

def Fault.message : Fault → String
  | .noOperation k op => quoted k.name ++ " object has no attribute " ++ quoted op
  | .noFirstItem .str => "string index out of range"
  | .noFirstItem _ => "list index out of range"
  | .missingKey key => key.literal
  | .notIterable k => quoted k.name ++ " object is not iterable"
  | .notSubscriptable k => quoted k.name ++ " object is not subscriptable"
  | .textIndex .str => "string indices must be integers, not 'str'"
  | .textIndex _ => "list indices must be integers or slices, not str"
  | .unhashable k => "unhashable type: " ++ quoted k.name
  | .notJsonText k => "the JSON object must be str, bytes or bytearray, not " ++ k.name
  | .notText k => "expected string or bytes-like object, got " ++ quoted k.name
  | .joinedMissing => "can only concatenate str (not \"NoneType\") to str"
  | .missingPathPart => "join() argument must be str, bytes, or os.PathLike object, not 'NoneType'"
  | .json e => e.message
  | .xml e => e.message
  | .query (.invalid r) => r
  | .query .missingStep => "'NoneType' object is not callable"
  | .query (.unknownStep op) => quoted op
  | .query .empty => "'NoneType' object is not iterable"
  | .emptyQuery true => "'NoneType' object is not an iterator"
  | .emptyQuery false => "'NoneType' object is not iterable"
  | .file e => e.message
  | .unknownCharset name => "unknown encoding: " ++ name
  | .multiByteCharset => "multi-byte encodings are not supported"

abbrev Gen (α : Type) := Except Fault α

end SketchGen
