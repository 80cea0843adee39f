import Vmstated.Library.CharArray

/-! Objects of a configuration file as libucl offers them. -/
namespace Vmstated.Library

inductive UclValue where
  | string (text : CString)
  | int (value : Int)
  | boolean (value : Bool)
  /-- An object, an array, or a number that is not whole. -/
  | other
deriving DecidableEq

/-- The library, as far as its callers rely on it. `tostring` gives `NULL` for
what is no string. Elements of an array have no key. -/
structure Libucl where
  Object : Type
  key : Object → Option CString
  /-- What `ucl_iterate_object` hands out, until `NULL`. -/
  iterate : Object → List Object
  tostring : Object → Option CString
  toint : Object → Int
  toboolean : Object → Bool
  value : Object → UclValue
  tostring_string : ∀ object text, value object = .string text → tostring object = some text
  tostring_int : ∀ object number, value object = .int number → tostring object = none
  toint_int : ∀ object number, value object = .int number → toint object = number
  toboolean_boolean : ∀ object flag, value object = .boolean flag → toboolean object = flag

/-! A library of this kind. -/

inductive UclTree where
  | leaf (key : Option CString) (value : UclValue)
  | node (key : Option CString) (children : List UclTree)

namespace UclTree

def key : UclTree → Option CString
  | leaf key _ | node key _ => key

def children : UclTree → List UclTree
  | leaf _ _ => []
  | node _ children => children

def value : UclTree → UclValue
  | leaf _ value => value
  | node _ _ => .other

def tostring (tree : UclTree) : Option CString :=
  match tree.value with
  | .string text => some text
  | _ => none

def toint (tree : UclTree) : Int :=
  match tree.value with
  | .int number => number
  | _ => 0

def toboolean (tree : UclTree) : Bool :=
  match tree.value with
  | .boolean flag => flag
  | _ => false

end UclTree

def ucltrees : Libucl where
  Object := UclTree
  key := UclTree.key
  iterate := UclTree.children
  tostring := UclTree.tostring
  toint := UclTree.toint
  toboolean := UclTree.toboolean
  value := UclTree.value
  tostring_string tree _ hvalue := by rw [UclTree.tostring, hvalue]
  tostring_int tree _ hvalue := by rw [UclTree.tostring, hvalue]
  toint_int tree _ hvalue := by rw [UclTree.toint, hvalue]
  toboolean_boolean tree _ hvalue := by rw [UclTree.toboolean, hvalue]

end Vmstated.Library
