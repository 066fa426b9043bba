import DebugScopes.Text.Numeral

/-!
# Entry tags

The tag of a debugging entry says what it describes. A tag without a name of its own is shown by its
code, and an entry without a tag, such as the root of a tree, as `None`.
-/

namespace DebugScopes.Dwarf

/-- A name out of a table, or the code in its place. -/
def nameIn (table : List (Nat × String)) (family : String) (code : Int) : String :=
  match table.find? fun row => (row.1 : Int) = code with
  | some row => family ++ row.2
  | none => family ++ Numeral.markedHex code

namespace Tag

/-- The codes of the tags and their names. -/
def table : List (Nat × String) := [
    (0x0, "null"), (0x1, "array_type"), (0x2, "class_type"), (0x3, "entry_point"),
    (0x4, "enumeration_type"), (0x5, "formal_parameter"), (0x6, "global_subroutine"),
    (0x7, "global_variable"), (0x8, "imported_declaration"), (0xa, "label"),
    (0xb, "lexical_block"), (0xc, "local_variable"), (0xd, "member"), (0xf, "pointer_type"),
    (0x10, "reference_type"), (0x11, "compile_unit"), (0x12, "string_type"),
    (0x13, "structure_type"), (0x14, "subroutine"), (0x15, "subroutine_type"), (0x16, "typedef"),
    (0x17, "union_type"), (0x18, "unspecified_parameters"), (0x19, "variant"),
    (0x1a, "common_block"), (0x1b, "common_inclusion"), (0x1c, "inheritance"),
    (0x1d, "inlined_subroutine"), (0x1e, "module"), (0x1f, "ptr_to_member_type"),
    (0x20, "set_type"), (0x21, "subrange_type"), (0x22, "with_stmt"),
    (0x23, "access_declaration"), (0x24, "base_type"), (0x25, "catch_block"),
    (0x26, "const_type"), (0x27, "constant"), (0x28, "enumerator"), (0x29, "file_type"),
    (0x2a, "friend"), (0x2b, "namelist"), (0x2c, "namelist_items"), (0x2d, "packed_type"),
    (0x2e, "subprogram"), (0x2f, "template_type_param"), (0x30, "template_value_param"),
    (0x31, "thrown_type"), (0x32, "try_block"), (0x33, "variant_part"), (0x34, "variable"),
    (0x35, "volatile_type"), (0x36, "dwarf_procedure"), (0x37, "restrict_type"),
    (0x38, "interface_type"), (0x39, "namespace"), (0x3a, "imported_module"),
    (0x3b, "unspecified_type"), (0x3c, "partial_unit"), (0x3d, "imported_unit"),
    (0x3e, "mutable_type"), (0x3f, "condition"), (0x40, "shared_type"), (0x41, "type_unit"),
    (0x42, "rvalue_reference_type"), (0x43, "template_alias"), (0x44, "coarray_type"),
    (0x45, "generic_subrange"), (0x46, "dynamic_type"), (0x47, "atomic_type"),
    (0x48, "call_site"), (0x49, "call_site_parameter"), (0x4a, "skeleton_unit"),
    (0x4b, "immutable_type"), (0x4080, "lo_user"), (0x4106, "GNU_template_template_param"),
    (0x4107, "GNU_template_parameter_pack"), (0x4108, "GNU_formal_parameter_pack"),
    (0x4109, "GNU_call_site"), (0x410a, "GNU_call_site_parameter"), (0x4200, "APPLE_property"),
    (0xffff, "hi_user")]

/-- The name of a tag. -/
def name : Option Int → String
  | none => "None"
  | some code => nameIn table "DW_TAG_" code

def classType : Int := 0x2
def structureType : Int := 0x13
def compileUnit : Int := 0x11

/-- Whether names of the entries inside are qualified with the name of this one. -/
def isClass (tag : Int) : Bool := tag = classType || tag = structureType

end Tag

end DebugScopes.Dwarf
