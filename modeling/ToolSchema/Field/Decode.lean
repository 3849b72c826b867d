import ToolSchema.Field
import ToolSchema.Json.Decode

/-!
# Decoding fields

A field is a record of seven members, written as an object or as a list. Only its type is needed;
a type that is not known is unsupported and no error.
-/

namespace ToolSchema

namespace FieldKind

/-- Decodes a kind. Every name is the name of some kind. -/
def decode (m : Marked) : Decoded FieldKind := m.decodeVariant fun tag ↦ .ok (ofName tag)

end FieldKind

namespace Rules

def memberNames : List String :=
  ["required", "min", "max", "minLength", "maxLength", "regex", "custom", "default"]

def decodeMember (name : String) (m : Marked) (rules : Rules) : Decoded Rules :=
  match name with
  | "required" => (m.decodeOption Marked.decodeBool).map fun v ↦ { rules with required := v }
  | "min" => (m.decodeOption Marked.decodeDouble).map fun v ↦ { rules with min := v }
  | "max" => (m.decodeOption Marked.decodeDouble).map fun v ↦ { rules with max := v }
  | "minLength" => (m.decodeOption Marked.decodeLength).map fun v ↦ { rules with minLength := v }
  | "maxLength" => (m.decodeOption Marked.decodeLength).map fun v ↦ { rules with maxLength := v }
  | "regex" => (m.decodeOption Marked.decodeText).map fun v ↦ { rules with regex := v }
  | "custom" => (m.decodeOption Marked.decodeText).map fun v ↦ { rules with custom := v }
  | "default" => (m.decodeOption Marked.decodeAny).map fun v ↦ { rules with default := v }
  | _ => .ok rules

def decode (m : Marked) : Decoded Rules :=
  m.decodeRecord "struct Validations" memberNames decodeMember {}

end Rules

namespace Calculation

def memberNames : List String := ["dependencies", "formula"]

def decodeMember (name : String) (m : Marked) (calculation : Calculation) : Decoded Calculation :=
  match name with
  | "dependencies" => m.decodeTexts.map fun v ↦ { calculation with dependencies := v }
  | "formula" => m.decodeText.map fun v ↦ { calculation with formula := v }
  | _ => .ok calculation

def decode (m : Marked) : Decoded Calculation :=
  m.decodeRecord "struct CalculatedField" memberNames decodeMember {}

end Calculation

namespace Field

def memberNames : List String :=
  ["name", "type", "description", "validations", "enumValues", "children", "calculatedField"]

def recordName : String := "struct SchemaField"

/-- The field before any member was decoded. -/
def blank : Field := { kind := .unsupported }

mutual
def decode : Marked → Decoded Field
  | .object members ending span => do
    let (seen, field) ← decodeMembers [] blank members
    Marked.closeRecord memberNames seen ending
    if seen.contains "type" then .ok field else .error (Marked.absent "type" span)
  | .array items ending span => do
    let field ← decodePlaces 0 memberNames blank items
    if items.length < 2 then
      ending.close
      .error (Marked.shortRecord 1 memberNames.length recordName span)
    else
      Marked.closePlaces memberNames.length items ending span
      .ok field
  | .tooDeep _ start => .error (Marked.nestedTooDeep start)
  | m => .error (m.mismatch recordName)

def decodeMember (field : Field) : String → Marked → Decoded Field
  | "children", .null _ => .ok { field with children := none }
  | "children", .array items ending _ => do
    let children ← decodeChildren 0 items
    ending.close
    .ok { field with children := some children }
  | "children", .tooDeep .array start => .error (Marked.nestedTooDeep start)
  | "children", m => .error (m.mismatch "a sequence")
  | "name", m => m.decodeText.map fun v ↦ { field with name := v }
  | "type", m => (FieldKind.decode m).map fun v ↦ { field with kind := v }
  | "description", m =>
    (m.decodeOption Marked.decodeText).map fun v ↦ { field with description := v }
  | "validations", m => (m.decodeOption Rules.decode).map fun v ↦ { field with rules := v }
  | "enumValues", m => (m.decodeOption Marked.decodeTexts).map fun v ↦ { field with members := v }
  | "calculatedField", m =>
    (m.decodeOption Calculation.decode).map fun v ↦ { field with calculation := v }
  | _, _ => .ok field

/-- Decodes the members of a field that was written as an object. -/
def decodeMembers (seen : List String) (field : Field) :
    List (Key × Option Flaw × Marked) → Decoded (List String × Field)
  | [] => .ok (seen, field)
  | (key, flaw, value) :: rest =>
    if memberNames.contains key.text then do
      Marked.unrepeated seen key
      let field ← (decodeMember field key.text value).under (.key key.text)
      decodeMembers (key.text :: seen) field rest
    else do
      Marked.skip key flaw
      decodeMembers seen field rest

/-- Decodes the members of a field that was written as a list. -/
def decodePlaces (place : Nat) (names : List String) (field : Field) :
    List Marked → Decoded Field
  | [] => .ok field
  | item :: rest =>
    match names with
    | [] => .ok field
    | name :: names => do
      let field ← (decodeMember field name item).under (.index place)
      decodePlaces (place + 1) names field rest

def decodeChildren (place : Nat) : List Marked → Decoded (List Field)
  | [] => .ok []
  | item :: rest => do
    let first ← (decode item).under (.index place)
    let others ← decodeChildren (place + 1) rest
    .ok (first :: others)
end

end Field

end ToolSchema
