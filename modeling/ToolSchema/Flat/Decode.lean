import ToolSchema.Flat
import ToolSchema.Json.Decode

/-!
# Decoding flat parameter maps

A flat map, its parameters and their rules are records, written as objects or as lists. The type of
a map can only be `object`; the type of a parameter is any text and must be there.
-/

namespace ToolSchema

namespace FlatRules

def memberNames : List String := ["min", "max", "minLength", "maxLength", "pattern"]

def decodeMember (name : String) (m : Marked) (rules : FlatRules) : Decoded FlatRules :=
  match name with
  | "min" => (m.decodeOption Marked.decodeDouble).map fun v ↦ { rules with min := v }
  | "max" => (m.decodeOption Marked.decodeDouble).map fun v ↦ { rules with max := v }
  | "minLength" => (m.decodeOption Marked.decodeLength).map fun v ↦ { rules with minLength := v }
  | "maxLength" => (m.decodeOption Marked.decodeLength).map fun v ↦ { rules with maxLength := v }
  | "pattern" => (m.decodeOption Marked.decodeText).map fun v ↦ { rules with pattern := v }
  | _ => .ok rules

def decode (m : Marked) : Decoded FlatRules :=
  m.decodeRecord "struct ParameterValidation" memberNames decodeMember {}

end FlatRules

namespace FlatParameter

def memberNames : List String :=
  ["type", "description", "required", "enum", "properties", "items", "validation"]

def recordName : String := "struct ToolParameter"

def blank : FlatParameter := { type := "" }

/-- Decodes one member into the parameter. `properties` and `items` decode the member as such. -/
def decodeMember (parameter : FlatParameter) (name : String) (m : Marked)
    (properties : Unit → Decoded (List (String × FlatParameter)))
    (items : Unit → Decoded FlatParameter) : Decoded FlatParameter :=
  match name with
  | "type" => m.decodeText.map fun v ↦ { parameter with type := v }
  | "description" => m.decodeText.map fun v ↦ { parameter with description := v }
  | "required" => m.decodeBool.map fun v ↦ { parameter with required := v }
  | "enum" => (m.decodeOption Marked.decodeTexts).map fun v ↦ { parameter with members := v }
  | "properties" =>
    (m.decodeOption fun _ ↦ properties ()).map fun v ↦ { parameter with properties := v }
  | "items" => (m.decodeOption fun _ ↦ items ()).map fun v ↦ { parameter with items := v }
  | "validation" => (m.decodeOption FlatRules.decode).map fun v ↦ { parameter with rules := v }
  | _ => .ok parameter

mutual
def decode : Marked → Decoded FlatParameter
  | .object members ending span => do
    let (seen, parameter) ← decodeMembers [] blank members
    Marked.closeRecord memberNames seen ending
    if seen.contains "type" then .ok parameter else .error (Marked.absent "type" span)
  | .array items ending span => do
    let parameter ← decodePlaces 0 memberNames blank items
    if items.isEmpty then
      ending.close
      .error (Marked.shortRecord 0 memberNames.length recordName span)
    else
      Marked.closePlaces memberNames.length items ending span
      .ok parameter
  | .tooDeep _ start => .error (Marked.nestedTooDeep start)
  | m => .error (m.mismatch recordName)

/-- Decodes parameters by name. Of two under one name the last is kept, in the first one's place. -/
def decodeProperties : Marked → Decoded (List (String × FlatParameter))
  | .object members ending _ => do
    let pairs ← decodePairs members
    ending.close
    .ok (collect pairs)
  | .tooDeep .object start => .error (Marked.nestedTooDeep start)
  | m => .error (m.mismatch "a map")

def decodePairs : List (Key × Option Flaw × Marked) → Decoded (List (String × FlatParameter))
  | [] => .ok []
  | (key, _, value) :: rest => do
    let first ← (decode value).under (.key key.text)
    let others ← decodePairs rest
    .ok ((key.text, first) :: others)

def decodeMembers (seen : List String) (parameter : FlatParameter) :
    List (Key × Option Flaw × Marked) → Decoded (List String × FlatParameter)
  | [] => .ok (seen, parameter)
  | (key, flaw, value) :: rest =>
    if memberNames.contains key.text then do
      Marked.unrepeated seen key
      let parameter ← (decodeMember parameter key.text value (fun _ ↦ decodeProperties value)
        fun _ ↦ decode value).under (.key key.text)
      decodeMembers (key.text :: seen) parameter rest
    else do
      Marked.skip key flaw
      decodeMembers seen parameter rest

def decodePlaces (place : Nat) (names : List String) (parameter : FlatParameter) :
    List Marked → Decoded FlatParameter
  | [] => .ok parameter
  | item :: rest =>
    match names with
    | [] => .ok parameter
    | name :: names => do
      let parameter ← (decodeMember parameter name item (fun _ ↦ decodeProperties item)
        fun _ ↦ decode item).under (.index place)
      decodePlaces (place + 1) names parameter rest
end

end FlatParameter

namespace FlatParameters

def memberNames : List String := ["type", "properties"]

/-- The one type that a map can have. -/
def resolveType (name : String) : Except Misfit Unit :=
  if name = "object" then .ok () else .error (.unknownVariant name ["object"])

def decodeMember (name : String) (m : Marked) (parameters : FlatParameters) :
    Decoded FlatParameters :=
  match name with
  | "type" => (m.decodeVariant resolveType).map fun _ ↦ parameters
  | "properties" => (FlatParameter.decodeProperties m).map fun v ↦ ⟨v⟩
  | _ => .ok parameters

def decode (m : Marked) : Decoded FlatParameters :=
  m.decodeRecord "struct ToolParameters" memberNames decodeMember {}

end FlatParameters

end ToolSchema
