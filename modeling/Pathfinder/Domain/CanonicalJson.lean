import Mathlib.Data.String.Basic
import Pathfinder.Domain.PythonText
import Pathfinder.Library.Dictionary
import Pathfinder.Library.Json

/-!
# Canonical JSON

`_validate_canonical_json`, `canonical_json_bytes` and the digests of `domain/actions.py`, and
`json.loads` of text whose numbers are integers. SHA-256 is a parameter.
-/
namespace Pathfinder
open JsonTexts Dictionaries

/-- A JSON value as `_validate_canonical_json` tells them apart. -/
inductive JsonValue where
  | null
  | bool (value : Bool)
  | str (value : String)
  | int (value : Int)
  | float (finite : Bool)
  | list (items : List JsonValue)
  | dict (fields : List (String × JsonValue))

mutual
/-- `_validate_canonical_json`. -/
def validateCanonicalJson : JsonValue → Except StoreError Unit
  | .null | .bool _ | .str _ => .ok ()
  | .int value =>
    if -maxCanonicalInteger ≤ value ∧ value ≤ maxCanonicalInteger then .ok ()
    else .error (.validation "canonical integer is out of bounds")
  | .float finite =>
    .error (.validation (if finite then "floats are not accepted in action canonicalization"
      else "NaN and Infinity are not canonical JSON"))
  | .list items => validateItems items
  | .dict fields => validateFields fields

def validateItems : List JsonValue → Except StoreError Unit
  | [] => .ok ()
  | item :: rest => do
    validateCanonicalJson item
    validateItems rest

def validateFields : List (String × JsonValue) → Except StoreError Unit
  | [] => .ok ()
  | (_, item) :: rest => do
    validateCanonicalJson item
    validateFields rest
end

/-- `model_dump(mode="json")` of validated arguments. -/
def ArgsSnapshot.dump (snapshot : ArgsSnapshot) : JsonValue :=
  .dict
    [("job_ref", .str snapshot.jobRef),
     ("resume_document_id", .str (String.ofList (uuidText snapshot.resumeDocumentId))),
     ("answers", .dict (snapshot.answers.map fun answer => (answer.1, .str answer.2))),
     ("cover_letter", .str snapshot.coverLetter)]

/-! ## Bytes -/

mutual

/-- A value as `json.dumps` writes it with `sort_keys`. A float is refused before. -/
def JsonValue.sorted : JsonValue → Json
  | .null => .null
  | .bool value => .bool value
  | .str value => .string value.toList
  | .int (.ofNat value) => .number value
  | .int (.negSucc below) => .negative below
  | .float _ => .null
  | .list items => .array (sortedItems items)
  | .dict fields => .object (sortKeys (sortedFields fields))

def sortedItems : List JsonValue → List Json
  | [] => []
  | item :: rest => item.sorted :: sortedItems rest

def sortedFields : List (String × JsonValue) → List (Text × Json)
  | [] => []
  | (key, item) :: rest => (key.toList, item.sorted) :: sortedFields rest

end

/-- `json.dumps` with compact separators, sorted keys and without ASCII escapes. -/
def dumps (value : JsonValue) : Text := write value.sorted

/-- `canonical_json_bytes`. -/
def canonicalJsonBytes : JsonValue → Except StoreError ByteArray
  | .dict fields => do
    validateCanonicalJson (.dict fields)
    return encodeUtf8 (dumps (.dict fields))
  | _ => .error (.validation "canonical action value must be a JSON object")

mutual

/-- The Python value of JSON; of equal keys of an object the last one stays. -/
def JsonValue.ofJson : Json → JsonValue
  | .null => .null
  | .bool value => .bool value
  | .number value => .int (.ofNat value)
  | .negative below => .int (.negSucc below)
  | .string text => .str (String.ofList text)
  | .array items => .list (ofItems items)
  | .object members => .dict (build (ofMembers members))

def ofItems : List Json → List JsonValue
  | [] => []
  | item :: rest => JsonValue.ofJson item :: ofItems rest

def ofMembers : List (Text × Json) → List (String × JsonValue)
  | [] => []
  | (key, item) :: rest => (String.ofList key, JsonValue.ofJson item) :: ofMembers rest

end

/-- `json.loads` of UTF-8 bytes; none where it raises and where a number is no integer. -/
def loads (content : ByteArray) : Option JsonValue :=
  (decodeUtf8 content).bind fun text => (read text).map JsonValue.ofJson

/-! ## Digests -/

/-- `_ARGS_DIGEST_PREFIX`. -/
def argsDigestPrefix : Text := "pathfinder-action-args-v1\x00".toList

/-- `_TARGET_DIGEST_PREFIX`. -/
def targetDigestPrefix : Text := "pathfinder-action-target-v1\x00".toList

/-- `_BINDING_DIGEST_PREFIX`. -/
def bindingDigestPrefix : Text := "pathfinder-approval-binding-v1\x00".toList

def ToolEffect.value : ToolEffect → String
  | readOnly => "read_only"
  | reversible => "reversible"
  | irreversible => "irreversible"

/-- `model_dump(mode="json")` of the target. -/
def TargetSnapshot.dump (snapshot : TargetSnapshot) : JsonValue :=
  .dict
    [("provider", .str snapshot.provider),
     ("target_type", .str snapshot.targetType),
     ("target_ref", .str snapshot.targetRef),
     ("resource_scope", .str snapshot.resourceScope)]

/-- `model_dump(mode="json")` of the binding. -/
def ApprovalBinding.dump (binding : ApprovalBinding) : JsonValue :=
  .dict
    [("schema_version", .int 1),
     ("workspace_id", .str (String.ofList (uuidText binding.workspaceId))),
     ("run_id", .str (String.ofList (uuidText binding.runId))),
     ("action_intent_id", .str (String.ofList (uuidText binding.actionIntentId))),
     ("action_key", .str binding.actionKey),
     ("action_revision", .int binding.actionRevision),
     ("tool_name", .str binding.toolName),
     ("effect", .str binding.effect.value),
     ("args_digest", .str binding.argsDigest),
     ("target_digest", .str binding.targetDigest),
     ("policy_version", .int binding.policyVersion)]

/-- What is hashed: the domain prefix and the canonical bytes. -/
def hashedBytes (domain : Text) (value : JsonValue) : ByteArray :=
  encodeUtf8 domain ++ encodeUtf8 (dumps value)

/-- `_digest`. -/
def digest (sha256 : ByteArray → Text) (domain : Text) (value : JsonValue) : String :=
  "sha256:" ++ String.ofList (sha256 (hashedBytes domain value))

/-- The digests of a system with this SHA-256; the one of a submission is computed elsewhere. -/
def canonicalDigests (sha256 : ByteArray → Text) (submission : MockSubmissionRequest → String) :
    Digests where
  args snapshot := digest sha256 argsDigestPrefix snapshot.dump
  target snapshot := digest sha256 targetDigestPrefix snapshot.dump
  binding binding := digest sha256 bindingDigestPrefix binding.dump
  submission := submission

end Pathfinder
