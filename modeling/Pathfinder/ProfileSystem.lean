import Pathfinder.ResumeSystem
import Pathfinder.Db.SessionPreferences

/-!
# The profile stores as one machine

The resume stores together with profiles, the review of their claims, and the
preferences of profiles and sessions. A request is one transaction; imports,
edits, reviews and feedback of any number of users interleave in any order.
-/
namespace Pathfinder
open KeyedTable Machines

variable {chars : CharacterTables}

inductive ProfileOp (chars : CharacterTables) where
  /-- The material store has come to these rows. -/
  | setMaterials (materials : MaterialDb)
  | resume (op : ResumeOp)
  | profile (tenant : TenantContext) (request : ResumeCommandRequest (ProfilePayload chars))
      (digest : String) (commandId : UUID) (facts : ProfileFacts)
  | createSession (tenant : TenantContext) (request : ResumeCommandRequest SessionCreateV1)
      (digest : String) (commandId : UUID) (facts : CommandFacts)
  | preference (tenant : TenantContext)
      (request : ResumeCommandRequest (PreferenceFeedbackV1 chars))
      (digest : String) (commandId : UUID) (facts : CommandFacts)
  | lock (tenant : TenantContext) (request : ResumeCommandRequest LockChangeV1)
      (digest : String) (commandId : UUID) (facts : CommandFacts)

/-- The tables, and the owner tokens `uuid4()` has returned so far. -/
structure ProfileWorld (chars : CharacterTables) where
  tables : ProfileDb chars
  issued : List UUID

/-- The requests that have a writer on profiles or preferences. -/
def ResumeOp.onPreferences : ResumeOp → Bool
  | .createSession .. => true
  | .feedback _ request _ _ _ =>
    match request.payload with
    | .preference _ | .lock => true
    | .content _ | .answer | .fact | .factReview => false
  | .store _ | .confirm .. | .publish .. => false

/-- A command's transaction. -/
def serveProfileCommand {π : Type} (world : ProfileWorld chars)
    (writer : ResumeCommandWriter (ProfileDb chars) π) (tenant : TenantContext)
    (request : ResumeCommandRequest π) (digest : String) (commandId : UUID) :
    ProfileWorld chars × Except StoreError ResumeReply :=
  match acceptCommand profileTables writer tenant request digest commandId world.tables with
  | .error reason => (world, .error reason)
  | .ok (tables, accepted) =>
    if tables.resume.db.checks then (⟨tables, world.issued⟩, .ok (.accepted accepted))
    else (world, .error (.integrity "check constraint"))

/-- One request. What has a writer on preferences is served by that writer only. -/
def serveProfile (cfg : ResumeConfig) (world : ProfileWorld chars) :
    ProfileOp chars → ProfileWorld chars × Except StoreError ResumeReply
  | .setMaterials materials =>
    (⟨{ world.tables with materials := materials }, world.issued⟩, .ok (.store .done))
  | .resume op =>
    if op.onPreferences then (world, .error .unavailable)
    else
      let (next, reply) := serveResume cfg ⟨world.tables.resume, world.issued⟩ op
      (⟨{ world.tables with resume := next.tables }, next.issued⟩, reply)
  | .profile tenant request digest commandId facts =>
    serveProfileCommand world (profileWriter facts) tenant request digest commandId
  | .createSession tenant request digest commandId facts =>
    serveProfileCommand world (createWriter facts) tenant request digest commandId
  | .preference tenant request digest commandId facts =>
    serveProfileCommand world (preferenceWriter facts) tenant request digest commandId
  | .lock tenant request digest commandId facts =>
    serveProfileCommand world (lockWriter facts) tenant request digest commandId

/-- The profile stores of a deployment. -/
def profileStores (chars : CharacterTables) (cfg : ResumeConfig) :
    Machine (ProfileWorld chars) (ProfileOp chars) (Except StoreError ResumeReply) where
  start := ⟨⟨⟨Db.empty, Table.empty, []⟩, ⟨[], [], [], []⟩, Table.empty, Table.empty⟩, []⟩
  step := serveProfile cfg

/-! ## A sample deployment

The member's profile has one project with two claims; two material projects have a
confirmed fact each. -/

namespace Sample

def profileConfig : ResumeConfig := ⟨config, fun _ => "published"⟩

def styled (text : String) : StyledText := ⟨text.toList, []⟩

def located : SourceLocationV1 := ⟨1, 1, 1, 2⟩

def profileContent : ResumeContentV1 where
  data :=
    { displayNameId := 30, displayName := "Lin".toList, displayNameReviewStatus := .pending,
      contact := [], education := [], skills := [],
      projects := [⟨31, styled "Search", styled "2024", ["Lean".toList], styled "Index",
        [⟨32, styled "Built it"⟩], located, .pending⟩] }
  valid := by decide

def preview : SourcePreview where
  content := profileContent
  claims := [⟨31, 32, .bullet, "Built it".toList, 0⟩, ⟨31, 31, .title, "Search".toList, 0⟩]

/-- Projects 61 and 62, with facts 67 and 68. -/
def materials : MaterialDb where
  projects := [⟨61, 1, 10⟩, ⟨62, 1, 10⟩]
  factSets := [⟨63, 1, 61⟩, ⟨64, 1, 62⟩]
  facts := [⟨65, 1, 63, 1⟩, ⟨66, 1, 64, 1⟩]
  factVersions :=
    [⟨67, 1, 65, 1, "Built it".toList, .implementation, ⟨none, none, none⟩, .confirmed⟩,
      ⟨68, 1, 66, 1, "Search".toList, .implementation, ⟨none, none, none⟩, .confirmed⟩]

def sessionFacts (resourceId runId : UUID) : CommandFacts :=
  { resourceId := resourceId, runId := runId, jobId := runId + 1, conversationId := 1,
    messageId := runId + 2, serverNow := 0, access := .ok (), others := .ok () }

/-- Profile 40 with claims 41 and 42 is imported, session 50 created on it, and its
first run cancelled. -/
def profileSession : List (ProfileOp asciiTables) :=
  [.resume (.store (.setMemberships memberships)), .setMaterials materials,
    .profile member ⟨1, "resume_profile_import", none, 1, .profileImport (some preview), none⟩
      "import" 301 ⟨40, [41, 42], 0⟩,
    .createSession member
      ⟨2, "resume_session_create", none, 1, ⟨⟨40, 1⟩, 1, [61], .unset⟩, none⟩
      "create" 302 (sessionFacts 50 70),
    .resume (.store (.cancelRun member 70 false 1))]

end Sample
end Pathfinder
