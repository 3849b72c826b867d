import ToolSchema.Tool
import ToolSchema.Moment.Printer

/-!
# Tool records

A record is a tool as it is stored. Before a tool is made of it, its name must be a word of letters,
digits, underscores and hyphens, and its description must not be blank.
-/

namespace ToolSchema

structure ToolRecord where
  id : Option String := none
  name : String
  description : String := ""
  parameters : ToolParams
  createdAt : Option Moment := none
  updatedAt : Option Moment := none

namespace Marked

def decodeMoment : Marked → Decoded Moment
  | string text s =>
    (Moment.readRelaxed text.toList).mapError fun fault ↦
      .here (.moment fault) (s.map Span.stop)
  | m => .error (m.mismatch "an RFC 3339 formatted date and time string")

end Marked

namespace ToolRecord

/-! ## Decoding -/

/-- A record of which some members have been decoded. -/
structure Draft where
  id : Option String := none
  name : Option String := none
  description : String := ""
  parameters : Option ToolParams := none
  createdAt : Option Moment := none
  updatedAt : Option Moment := none

def memberNames : List String :=
  ["id", "name", "description", "parameters", "createdAt", "updatedAt"]

def recordName : String := "struct ToolRecord"

/-- Decodes one member. `settle` gives the byte that failures inside of parameters are reported
at. -/
def decodeMember (settle : Marked → Option Nat) (name : String) (m : Marked) (draft : Draft) :
    Decoded Draft :=
  match name with
  | "id" => (m.decodeOption Marked.decodeText).map fun v ↦ { draft with id := v }
  | "name" => m.decodeText.map fun v ↦ { draft with name := some v }
  | "description" => m.decodeText.map fun v ↦ { draft with description := v }
  | "parameters" =>
    (ToolParams.decodeAt (settle m) m).map fun v ↦ { draft with parameters := some v }
  | "createdAt" => (m.decodeOption Marked.decodeMoment).map fun v ↦ { draft with createdAt := v }
  | "updatedAt" => (m.decodeOption Marked.decodeMoment).map fun v ↦ { draft with updatedAt := v }
  | _ => .ok draft

/-- The record of a draft, unless a member lacks. -/
def ofDraft (draft : Draft) (missing : String → DecodeError) : Decoded ToolRecord :=
  match draft.name, draft.parameters with
  | none, _ => .error (missing "name")
  | _, none => .error (missing "parameters")
  | some name, some parameters =>
    .ok ⟨draft.id, name, draft.description, parameters, draft.createdAt, draft.updatedAt⟩

/-- The place of a member in a record that was written as a list. -/
def placeOf (name : String) : Nat := memberNames.idxOf name

/-- The byte behind a member of an object: the next one that is not blank, or the one after it if it
closes the object. -/
def settleInObject (members : List (Key × Option Flaw × Marked)) (ending : Ending) (m : Marked) :
    Option Nat :=
  let last := (members.getLast?.bind fun member ↦ member.2.2.span).map Span.next
  m.span.map fun span ↦
    match ending with
    | .closed => if some span.next = last then span.next + 1 else span.next
    | _ => span.next

/-- The byte behind an item of a list: the first one of the next item, or the one after the bracket
that closes the list. -/
def settleInList (items : List Marked) (m : Marked) : Option Nat :=
  m.span.map fun span ↦
    let later := (items.filterMap span?).filter fun start ↦ span.stop ≤ start
    later.head?.getD (span.next + 1)
where
  /-- The first byte of an item. -/
  span? (m : Marked) : Option Nat := m.span.map Span.start

def decode : Marked → Decoded ToolRecord
  | .object members ending span => do
    let (seen, draft) ← Marked.decodeMembers memberNames
      (decodeMember (settleInObject members ending)) [] {} members
    Marked.closeRecord memberNames seen ending
    ofDraft draft fun name ↦ Marked.absent name span
  | .array items ending span => do
    let draft ← Marked.decodePlaces (decodeMember (settleInList items)) 0 memberNames {} items
    if items.length ≤ placeOf "parameters" then
      ending.close
      ofDraft draft fun name ↦
        Marked.shortRecord (placeOf name) memberNames.length recordName span
    else
      Marked.closePlaces memberNames.length items ending span
      ofDraft draft fun name ↦ Marked.absent name span
  | .tooDeep _ start => .error (Marked.nestedTooDeep start)
  | m => .error (m.mismatch recordName)

/-! ## Encoding -/

def toJson (record : ToolRecord) : Json :=
  .object <|
    Json.optional "id" Json.string record.id ++
    [("name", .string record.name), ("description", .string record.description),
     ("parameters", record.parameters.toJson)] ++
    Json.optional "createdAt" (fun m : Moment ↦ .string m.render) record.createdAt ++
    Json.optional "updatedAt" (fun m : Moment ↦ .string m.render) record.updatedAt

/-! ## Checks -/

def isNameChar (c : Char) : Bool := c.isAlphanum || c = '_' || c = '-'

def nameIssues (name : String) : List Issue :=
  if Text.isBlankText name then [⟨.key .root "name", .blankName⟩]
  else if name.toList.all isNameChar then []
  else [⟨.key .root "name", .malformedName⟩]

def descriptionIssues (description : String) : List Issue :=
  if Text.isBlankText description then [⟨.key .root "description", .blankDescription⟩] else []

/-- Checks a record before it is stored or made a tool. -/
def check (record : ToolRecord) : Except Rejection Unit :=
  match nameIssues record.name ++ descriptionIssues record.description with
  | [] => .ok ()
  | issues => .error ⟨issues⟩

/-- Makes a tool of a record that passes its checks. -/
def toCallableTool (compiler : Compiler) (record : ToolRecord) : Compiled CallableTool :=
  match record.check with
  | .error rejection => .fail (.invalidRecord record.name rejection)
  | .ok () => compiler.toCallableTool record.name record.description record.parameters

end ToolRecord

end ToolSchema
