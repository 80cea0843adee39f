import Vmstated.Libcommand.TableCodec
import Vmstated.Library.Libucl

/-! libprocwatch/bhyve_uclparser.c and bhyve_uclparser_funcs.c: structures from
the objects of a configuration file, by a table. Allocations do not fail.
Nothing is returned where a pointer that is `NULL` is read. -/
namespace Vmstated.Libprocwatch
open Library Libcommand

section
variable (ucl : Libucl)

/-- `struct bhyve_uclparser_item`. What the delegate changes is not in the
fields that the table knows, and nobody asks for its result. -/
structure BhyveUclparserItem (σ : Type) where
  varname : List UInt8
  delegateFunc : ucl.Object → σ → Option σ

variable {ucl} {σ : Type}

def bupFindSubparser (bup : List (BhyveUclparserItem ucl σ)) (varname : Option CString) :
    Option (BhyveUclparserItem ucl σ) :=
  varname.bind fun varname => bup.find? fun item => item.varname = varname.val

variable (ucl)

def bupFindmapping (mappings : List ParserMapping) (varname : Option CString) :
    Option ParserMapping :=
  varname.bind fun varname => mappings.find? fun mapping => mapping.varname = varname.val

def lowBytes (width : Nat) (value : Int) : Nat := (value % 256 ^ width).toNat

theorem lowBytes_lt (width : Nat) (value : Int) : lowBytes width value < 256 ^ width := by
  have hpos : (0 : Int) < 256 ^ width := Int.pow_pos (by decide)
  have hlt := Int.emod_lt_of_pos value hpos
  have hnonneg := Int.emod_nonneg value hpos.ne'
  have hcast : ((256 ^ width : Nat) : Int) = 256 ^ width := Int.natCast_pow 256 width
  rw [lowBytes, Int.toNat_lt hnonneg, hcast]
  exact hlt

def parseItem (mapping : ParserMapping) (cur : ucl.Object) (ctx : CStruct) : Option CStruct :=
  match mapping.valueType with
  | .fixedstring =>
    match ucl.tostring cur with
    | none => none
    | some keyval => some (ctx.writeBytes mapping.offset (strncpy mapping.size keyval).bytes)
  | .dynamicstring =>
    if ctx.pointers mapping.offset = .wild then none
    else
      match ucl.tostring cur with
      | none => some (ctx.setPointer mapping.offset .null)
      | some keyval => some (ctx.setPointer mapping.offset (.string keyval.val))
  | .uint64 => some (ctx.writeNumber mapping.offset 8 (lowBytes 8 (ucl.toint cur)))
  | .uint32 => some (ctx.writeNumber mapping.offset 4 (lowBytes 4 (ucl.toint cur)))
  | .uint16 => some (ctx.writeNumber mapping.offset 2 (lowBytes 2 (ucl.toint cur)))
  | .boolean => some (ctx.writeNumber mapping.offset 1 (ucl.toboolean cur).toNat)

/-- The loop over the keys. The tables have no type that it does not know, so
it always gets to the end. -/
def bupGenericParsefromucl (mappings : List ParserMapping)
    (subparsers : List (BhyveUclparserItem ucl σ)) :
    List ucl.Object → CStruct × σ → Option (CStruct × σ)
  | [], ctx => some ctx
  | cur :: objects, (fields, rest) =>
    match bupFindmapping mappings (ucl.key cur) with
    | some mapping =>
      (parseItem ucl mapping cur fields).bind fun fields =>
        bupGenericParsefromucl mappings subparsers objects (fields, rest)
    | none =>
      match bupFindSubparser subparsers (ucl.key cur) with
      | some item =>
        (item.delegateFunc cur rest).bind fun rest =>
          bupGenericParsefromucl mappings subparsers objects (fields, rest)
      | none => bupGenericParsefromucl mappings subparsers objects (fields, rest)

/-- Stops at the first object that fails. -/
def bupParselistfromucl (subparser : Option CString → ucl.Object → σ → Option (Int × σ)) :
    List ucl.Object → σ → Option (Int × σ)
  | [], ctx => some (0, ctx)
  | cur :: objects, ctx =>
    match subparser (ucl.key cur) cur ctx with
    | some (0, ctx) => bupParselistfromucl subparser objects ctx
    | some (_, ctx) => some (-1, ctx)
    | none => none

/-! The consoles. -/

def bcConsole2config : List ParserMapping :=
  [⟨0, .dynamicstring, 8, ascii "name"⟩, ⟨8, .boolean, 1, ascii "enabled"⟩,
    ⟨16, .dynamicstring, 8, ascii "backend"⟩]

def bccNew (name : Option CString) (enabled : Bool) : Option CStruct :=
  name.map fun name =>
    (CStruct.zeroed.setPointer 0 (.string name.val)).writeNumber 8 1 enabled.toNat

/-- A console has the name of its tag and is enabled, if it does not say otherwise. -/
def bufParseConsole (consolename : Option CString) (confobj : ucl.Object) (bccl : List CStruct) :
    Option (Int × List CStruct) :=
  match bccNew consolename true with
  | none => some (-1, bccl)
  | some bcc =>
    (bupGenericParsefromucl ucl bcConsole2config ([] : List (BhyveUclparserItem ucl Unit))
      (ucl.iterate confobj) (bcc, ())).map fun bcc => (0, bcc.1 :: bccl)

/-- A list that fails leaves the consoles as they are. -/
def bufParseConsoleList (confobj : ucl.Object) (consoles : Option (List CStruct)) :
    Option (Option (List CStruct)) :=
  (bupParselistfromucl ucl (bufParseConsole ucl) (ucl.iterate confobj) []).map fun bccl =>
    if bccl.1 = 0 then some bccl.2 else consoles

end

end Vmstated.Libprocwatch
